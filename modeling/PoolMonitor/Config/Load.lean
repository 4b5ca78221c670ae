import PoolMonitor.Config.Schema
import PoolMonitor.Settings.Toml
import PoolMonitor.Settings.Environment
import PoolMonitor.Settings.Reader
/-!
# Loading the configuration

The configuration is read from three layers, each laid over the one before: the defaults,
then a TOML file, then environment variables named `POOLMIND_<SECTION>__<FIELD>`. The file is
`pool-minder.toml` unless `POOLMIND_CONFIG` names another one; a file that does not exist
counts as empty, and the variable `POOLMIND_CONFIG` itself is not a setting.

Reading the merged layers visits sections and fields in key order and stops at the first
value of the wrong kind or out of range; unknown keys are skipped. A configuration that reads
well is then checked (`Config.problem?`).
-/

namespace PoolMonitor

open PoolMonitor.Settings

/-- The prefix of the environment variables that set the configuration. -/
def envPrefix : String := "POOLMIND_"

/-- What separates the parts of a key in a variable name. -/
def envSeparator : String := "__"

/-- The variable that names the configuration file. -/
def configPathVariable : String := "POOLMIND_CONFIG"

/-- The configuration file read when no other is named. -/
def defaultConfigFile : String := "pool-minder.toml"

/-! ### The defaults as a layer -/

/-- A table of the defaults layer. -/
def defaultsTable (entries : List (String × Tree)) : Tree :=
  .table .defaults (Dict.ofList entries).toList

/-- A leaf of the defaults layer. -/
def defaultsLeaf (v : Scalar) : Tree := .leaf .defaults v

/-- A configuration as a tree of settings, as the defaults layer holds it. -/
def Config.toTree (c : Config) : Tree :=
  let n (k : String) (v : Nat) := (k, defaultsLeaf (.unsigned v))
  let s (k : String) (v : String) := (k, defaultsLeaf (.text v))
  defaultsTable [
    ("controller", defaultsTable [
      ("host", defaultsLeaf (match c.controller.host with
        | some h => .text h
        | none => .absent)),
      n "port" c.controller.port,
      s "transport" c.controller.transport.name]),
    ("discovery", defaultsTable [
      s "hostname" c.discovery.hostname,
      n "timeout_secs" c.discovery.timeoutSecs,
      n "retry_interval_secs" c.discovery.retryIntervalSecs,
      ("auto_rediscovery", defaultsLeaf (.flag c.discovery.autoRediscovery)),
      n "failure_threshold" c.discovery.failureThreshold]),
    ("retry", defaultsTable [
      n "max_retries" c.retry.maxRetries,
      n "base_delay_ms" c.retry.baseDelayMs,
      n "max_delay_ms" c.retry.maxDelayMs,
      ("backoff_factor", defaultsLeaf (.float c.retry.backoffFactor)),
      n "health_check_interval_secs" c.retry.healthCheckIntervalSecs]),
    ("monitor", defaultsTable [
      n "poll_interval_secs" c.monitor.pollIntervalSecs,
      n "reconnect_delay_secs" c.monitor.reconnectDelaySecs,
      n "listen_timeout_secs" c.monitor.listenTimeoutSecs,
      n "max_skips" c.monitor.maxSkips,
      n "read_deadline_secs" c.monitor.readDeadlineSecs,
      n "stale_request_secs" c.monitor.staleRequestSecs]),
    ("logging", defaultsTable [
      s "dir" c.logging.dir,
      s "prefix" c.logging.fileStem,
      s "level" c.logging.level])]

/-! ### Reading the sections -/

/-- Read a transport kind: by name, by index (`0` or `1`) when an unsigned number is given,
or from a table whose first key names it and whose value would have to be empty. -/
def readKind (t : Tree) : Read TransportKind :=
  match t with
  | .leaf _ (.text s) =>
    match TransportKind.ofName? s with
    | some k => .ok k
    | none => refuse t (.unknownVariant s TransportKind.names)
  | .leaf _ (.unsigned n) =>
    if n < Nat.pow 2 32 then
      match n with
      | 0 => .ok .websocket
      | 1 => .ok .tcp
      | _ => refuse t (.wrongValue (.unsigned n) "variant index 0 <= i < 2")
    else refuse t (.wrongType (.unsigned n) "enum TransportKind")
  | .table _ [] => refuse t (.wrongType .map "enum")
  | .table _ ((k, v) :: _) =>
    match TransportKind.ofName? k with
    | none => refuse t (.unknownVariant k TransportKind.names)
    | some _ => refuse v (.wrongType v.found "unit")
  | _ => refuse t (.wrongType t.found "enum TransportKind")

/-- An unsigned field of 16 bits. -/
def readU16 : Tree → Read Nat := readWhole "u16" 16

/-- An unsigned field of 32 bits. -/
def readU32 : Tree → Read Nat := readWhole "u32" 32

/-- An unsigned field of 64 bits. -/
def readU64 : Tree → Read Nat := readWhole "u64" 64

/-- A size field (64 bits). -/
def readUsize : Tree → Read Nat := readWhole "usize" 64

/-- The fields of the controller section, in declaration order. -/
def controllerFields : List (FieldReader ControllerSettings) :=
  [⟨"host", fun t c => do let v ← readOptional readText t; pure { c with host := v }⟩,
   ⟨"port", fun t c => do let v ← readU16 t; pure { c with port := v }⟩,
   ⟨"transport", fun t c => do let v ← readKind t; pure { c with transport := v }⟩]

/-- The fields of the discovery section. -/
def discoveryFields : List (FieldReader DiscoverySettings) :=
  [⟨"hostname", fun t c => do let v ← readText t; pure { c with hostname := v }⟩,
   ⟨"timeout_secs", fun t c => do let v ← readU64 t; pure { c with timeoutSecs := v }⟩,
   ⟨"retry_interval_secs", fun t c => do
      let v ← readU64 t; pure { c with retryIntervalSecs := v }⟩,
   ⟨"auto_rediscovery", fun t c => do let v ← readFlag t; pure { c with autoRediscovery := v }⟩,
   ⟨"failure_threshold", fun t c => do
      let v ← readU32 t; pure { c with failureThreshold := v }⟩]

/-- The fields of the retry section. -/
def retryFields : List (FieldReader RetrySettings) :=
  [⟨"max_retries", fun t c => do let v ← readU32 t; pure { c with maxRetries := v }⟩,
   ⟨"base_delay_ms", fun t c => do let v ← readU64 t; pure { c with baseDelayMs := v }⟩,
   ⟨"max_delay_ms", fun t c => do let v ← readU64 t; pure { c with maxDelayMs := v }⟩,
   ⟨"backoff_factor", fun t c => do let v ← readFloat t; pure { c with backoffFactor := v }⟩,
   ⟨"health_check_interval_secs", fun t c => do
      let v ← readU64 t; pure { c with healthCheckIntervalSecs := v }⟩]

/-- The fields of the monitor section. -/
def monitorFields : List (FieldReader MonitorSettings) :=
  [⟨"poll_interval_secs", fun t c => do let v ← readU64 t; pure { c with pollIntervalSecs := v }⟩,
   ⟨"reconnect_delay_secs", fun t c => do
      let v ← readU64 t; pure { c with reconnectDelaySecs := v }⟩,
   ⟨"listen_timeout_secs", fun t c => do
      let v ← readU64 t; pure { c with listenTimeoutSecs := v }⟩,
   ⟨"max_skips", fun t c => do let v ← readUsize t; pure { c with maxSkips := v }⟩,
   ⟨"read_deadline_secs", fun t c => do let v ← readU64 t; pure { c with readDeadlineSecs := v }⟩,
   ⟨"stale_request_secs", fun t c => do
      let v ← readU64 t; pure { c with staleRequestSecs := v }⟩]

/-- The fields of the logging section. -/
def loggingFields : List (FieldReader LoggingSettings) :=
  [⟨"dir", fun t c => do let v ← readText t; pure { c with dir := v }⟩,
   ⟨"prefix", fun t c => do let v ← readText t; pure { c with fileStem := v }⟩,
   ⟨"level", fun t c => do let v ← readText t; pure { c with level := v }⟩]

/-- The sections of the configuration. -/
def configFields : List (FieldReader Config) :=
  [⟨"controller", fun t c => do
      let v ← readRecord "ControllerConfig" controllerFields {} t; pure { c with controller := v }⟩,
   ⟨"discovery", fun t c => do
      let v ← readRecord "DiscoverySettings" discoveryFields {} t; pure { c with discovery := v }⟩,
   ⟨"retry", fun t c => do
      let v ← readRecord "RetrySettings" retryFields {} t; pure { c with retry := v }⟩,
   ⟨"monitor", fun t c => do
      let v ← readRecord "MonitorSettings" monitorFields {} t; pure { c with monitor := v }⟩,
   ⟨"logging", fun t c => do
      let v ← readRecord "LoggingSettings" loggingFields {} t; pure { c with logging := v }⟩]

/-! ### Loading -/

/-- Why no configuration was loaded: a setting that did not read, or a configuration that
failed its checks. -/
inductive LoadError where
  | settings (detail : String)
  | invalid (reason : String)

/-- The headline of a load error. -/
def LoadError.message : LoadError → String
  | .settings _ => "Figment Error"
  | .invalid reason => "Invalid configuration: " ++ reason

/-- How errors name the layer a value came from; `file` is how the file is shown. -/
def layerSource (file : String) : Layer → String
  | .file => file ++ " TOML file"
  | .environment => "`" ++ envPrefix ++ "` environment variable(s)"
  | .defaults => "default values"

/-- Load the configuration from the text of the file (`none` when there is no file), shown as
`file` in messages, and from the environment variables in order. -/
def loadConfig (file : String) (text : Option String) (vars : List (String × String)) :
    Except LoadError Config := do
  let fileLayer ← match text with
    | none => pure (Tree.emptyTable .file)
    | some text =>
      match Toml.readDocument text with
      | .ok t => pure t
      | .error e => throw (.settings (e ++ " in " ++ layerSource file .file))
  let envLayer := environmentLayer envPrefix envSeparator ["config"] vars
  let merged := ((({} : Config).toTree).overlay fileLayer).overlay envLayer
  let config ← (readRecord "Config" configFields {} merged).mapError
    fun e => LoadError.settings (e.describe (layerSource file))
  match config.problem? with
  | some reason => throw (.invalid reason)
  | none => pure config

end PoolMonitor
