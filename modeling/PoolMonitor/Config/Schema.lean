import PoolMonitor.Link.Endpoint
import PoolMonitor.Link.Backoff
import PoolMonitor.Link.Correlator
import PoolMonitor.Discovery.Search
import PoolMonitor.Text.Blank
import PoolMonitor.Number.Binary64
/-!
# The monitor's configuration

The configuration has five parts: where the controller is, how it is searched for, how
connecting is retried, the timing of the monitor, and where logs go. Every field has a
default, so an empty configuration is a complete one.

`Config.problem?` checks what the types cannot: that a host, when given, is not empty; that
there is a host or a name to search for; that the timings that pace a loop are not zero; that
the backoff factor is a finite number of at least one; and that the first retry delay does not
exceed the last. The first failed check is reported.

The settings the other parts of the program run with are derived from the configuration:
seconds and milliseconds become durations.
-/

namespace PoolMonitor

open PoolMonitor.Discovery

/-- The port a controller listens on unless told otherwise. -/
def defaultPort : Nat := 6680

/-- Where the controller is. Without a host it is searched for by name. -/
structure ControllerSettings where
  host : Option String := none
  port : Nat := defaultPort
  transport : TransportKind := .websocket
  deriving Inhabited

/-- How the controller is searched for. -/
structure DiscoverySettings where
  hostname : String := "pentair.local"
  timeoutSecs : Nat := 60
  retryIntervalSecs : Nat := 2
  autoRediscovery : Bool := true
  /-- Consecutive failed polls before the controller is searched for again. -/
  failureThreshold : Nat := 3
  deriving Inhabited

/-- How connecting is retried. -/
structure RetrySettings where
  maxRetries : Nat := 5
  baseDelayMs : Nat := 1000
  maxDelayMs : Nat := 30000
  backoffFactor : Float := 2.0
  healthCheckIntervalSecs : Nat := 30
  deriving Inhabited

/-- The timing of the monitor. -/
structure MonitorSettings where
  pollIntervalSecs : Nat := 60
  reconnectDelaySecs : Nat := 5
  /-- Idle time on the push connection before its health is checked. -/
  listenTimeoutSecs : Nat := 120
  maxSkips : Nat := 10
  readDeadlineSecs : Nat := 10
  staleRequestSecs : Nat := 120
  deriving Inhabited

/-- Where logs go. -/
structure LoggingSettings where
  dir : String := "./logs"
  /-- The start of every log file's name. -/
  fileStem : String := "pool-minder"
  level : String := "info"
  deriving Inhabited

/-- The whole configuration. -/
structure Config where
  controller : ControllerSettings := {}
  discovery : DiscoverySettings := {}
  retry : RetrySettings := {}
  monitor : MonitorSettings := {}
  logging : LoggingSettings := {}
  deriving Inhabited

namespace Config

/-- The first check the configuration fails, if any. -/
def problem? (c : Config) : Option String :=
  if c.controller.host == some "" then some "controller.host is empty"
  else if c.controller.host.isNone ∧ (Text.trim c.discovery.hostname).isEmpty then
    some "no controller.host and no discovery.hostname"
  else if c.discovery.timeoutSecs = 0 ∨ c.discovery.retryIntervalSecs = 0 then
    some "discovery timeouts must be non-zero"
  else if c.discovery.failureThreshold = 0 then
    some "discovery.failure_threshold must be at least 1"
  else if !(c.retry.backoffFactor ≥ 1.0 && Binary64.isFinite c.retry.backoffFactor) then
    some "retry.backoff_factor must be >= 1"
  else if c.retry.baseDelayMs > c.retry.maxDelayMs then
    some "retry.base_delay_ms exceeds retry.max_delay_ms"
  else if c.monitor.pollIntervalSecs = 0 ∨ c.monitor.listenTimeoutSecs = 0 ∨
      c.monitor.readDeadlineSecs = 0 then
    some "monitor intervals must be non-zero"
  else none

/-- How connecting is retried. -/
def retryPolicy (c : Config) : RetryPolicy where
  maxRetries := c.retry.maxRetries
  baseDelay := Duration.ofMillis c.retry.baseDelayMs
  maxDelay := Duration.ofMillis c.retry.maxDelayMs
  backoffFactor := c.retry.backoffFactor
  healthCheckInterval := Duration.ofSecs c.retry.healthCheckIntervalSecs

/-- How the controller is searched for. -/
def searchPolicy (c : Config) : SearchPolicy where
  hostname := c.discovery.hostname
  timeout := Duration.ofSecs c.discovery.timeoutSecs
  retryInterval := Duration.ofSecs c.discovery.retryIntervalSecs

/-- How responses are waited for. -/
def correlatorPolicy (c : Config) : CorrelatorPolicy where
  maxSkips := c.monitor.maxSkips
  readDeadline := Duration.ofSecs c.monitor.readDeadlineSecs

/-- The controller's endpoint at `host`. -/
def endpoint (c : Config) (host : String) : Endpoint :=
  ⟨host, c.controller.port, c.controller.transport⟩

/-- The pause between two polls. -/
def pollInterval (c : Config) : Duration := Duration.ofSecs c.monitor.pollIntervalSecs

/-- The pause before connecting again. -/
def reconnectDelay (c : Config) : Duration := Duration.ofSecs c.monitor.reconnectDelaySecs

/-- Idle time on the push connection before its health is checked. -/
def listenTimeout (c : Config) : Duration := Duration.ofSecs c.monitor.listenTimeoutSecs

/-- The age at which an unanswered request is given up. -/
def staleRequestAge (c : Config) : Duration := Duration.ofSecs c.monitor.staleRequestSecs

end Config

end PoolMonitor
