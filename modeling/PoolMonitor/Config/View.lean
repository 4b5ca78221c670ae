import PoolMonitor.Config.Schema
import PoolMonitor.Json.Value
/-!
# The configuration as JSON

The configuration written as a JSON object with the same keys as the configuration file:
sections, then fields in snake case; an unset host is `null`.
-/

namespace PoolMonitor

open PoolMonitor.Json

/-- A JSON object with its members in key order. -/
def objectOf (members : List (String × Value)) : Value :=
  .object (members.foldl (fun acc (k, v) => Value.insertMember k v acc) [])

/-- A whole number as JSON. -/
def natValue (n : Nat) : Value := .number (.unsigned n)

/-- The configuration as JSON. -/
def Config.toValue (c : Config) : Value :=
  objectOf [
    ("controller", objectOf [
      ("host", match c.controller.host with
        | some h => .string h
        | none => .null),
      ("port", natValue c.controller.port),
      ("transport", .string c.controller.transport.name)]),
    ("discovery", objectOf [
      ("hostname", .string c.discovery.hostname),
      ("timeout_secs", natValue c.discovery.timeoutSecs),
      ("retry_interval_secs", natValue c.discovery.retryIntervalSecs),
      ("auto_rediscovery", .bool c.discovery.autoRediscovery),
      ("failure_threshold", natValue c.discovery.failureThreshold)]),
    ("retry", objectOf [
      ("max_retries", natValue c.retry.maxRetries),
      ("base_delay_ms", natValue c.retry.baseDelayMs),
      ("max_delay_ms", natValue c.retry.maxDelayMs),
      ("backoff_factor", .number (.float c.retry.backoffFactor)),
      ("health_check_interval_secs", natValue c.retry.healthCheckIntervalSecs)]),
    ("monitor", objectOf [
      ("poll_interval_secs", natValue c.monitor.pollIntervalSecs),
      ("reconnect_delay_secs", natValue c.monitor.reconnectDelaySecs),
      ("listen_timeout_secs", natValue c.monitor.listenTimeoutSecs),
      ("max_skips", natValue c.monitor.maxSkips),
      ("read_deadline_secs", natValue c.monitor.readDeadlineSecs),
      ("stale_request_secs", natValue c.monitor.staleRequestSecs)]),
    ("logging", objectOf [
      ("dir", .string c.logging.dir),
      ("prefix", .string c.logging.fileStem),
      ("level", .string c.logging.level)])]

end PoolMonitor
