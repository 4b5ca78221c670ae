import PoolMonitor.Time.Duration
/-!
# Search settings

How the controller is looked for on the local network: the host name asked for, the longest a
whole search may take, the pause between two queries and the wait for a single answer.
-/

namespace PoolMonitor.Discovery

/-- How a search for the controller runs. -/
structure SearchPolicy where
  hostname : String := "pentair.local"
  timeout : Duration := Duration.ofSecs 60
  retryInterval : Duration := Duration.ofSecs 2
  readTimeout : Duration := Duration.ofMillis 250
  deriving Inhabited

end PoolMonitor.Discovery
