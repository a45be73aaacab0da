import EngineClient.Pooling.Pool
import EngineClient.Text.Quoted
/-!
# Pools as text

The texts by which a pool, its counts and its lent connections are shown to a programmer.
-/

namespace EngineClient

/-- The text shown for a truth value. -/
def boolText (b : Bool) : String := if b then "true" else "false"

/-- The text shown for a timeout. -/
def timeoutText : Option Duration → String
  | some span => "Some(" ++ span.shown ++ ")"
  | none => "None"

/-- The text shown for the counts of a pool. -/
def PoolStats.debug (s : PoolStats) : String :=
  "PoolStats \x7b idle: " ++ toString s.idle ++ ", lent: " ++ toString s.lent ++ ", max_size: " ++
    toString s.maxSize ++ ", closed: " ++ boolText s.closed ++ " \x7d"

/-- The text shown for a pool. -/
def Pool.debug (pool : Pool) : String :=
  "UnixConnectionPool \x7b base_url: " ++ Text.quote pool.baseUrl ++ ", socket_path: " ++
    Text.quotePath pool.socketPath ++ ", timeout: " ++ timeoutText pool.timeout ++ ", max_size: " ++
    toString pool.maxSize ++ ", block: " ++ boolText pool.block ++ ", stats: " ++ pool.stats.debug ++
    " \x7d"

/-- The text shown for a lent connection of a pool. -/
def Guard.debug (guard : Guard) (pool : Pool) : String :=
  "PooledConnection \x7b socket_path: " ++ Text.quotePath pool.socketPath ++ ", ticket: " ++
    toString guard.ticket ++ ", broken: " ++ boolText guard.broken ++ " \x7d"

end EngineClient
