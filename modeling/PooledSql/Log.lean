import PooledSql.Context
import PooledSql.Pool

/-!
# Log events

What happens to connections and sessions is told as events. An event says what happened; its level,
the part of the program it comes from and its words are read off it.
-/

namespace PooledSql

/-- How weighty an event is, from the weightiest on. -/
inductive Level
  | error
  | warn
  | info
  | debug
  | trace
deriving DecidableEq, Repr

namespace Level

/-- The place in the order from weighty to fine, from one on. -/
def rank : Level → Nat
  | .error => 1
  | .warn => 2
  | .info => 3
  | .debug => 4
  | .trace => 5

/-- A level as log lines name it. -/
def label : Level → String
  | .error => "ERROR"
  | .warn => "WARN"
  | .info => "INFO"
  | .debug => "DEBUG"
  | .trace => "TRACE"

end Level

/-- Something that happened: the events of `session::pool`, `session::database`,
`session::context_cache`, `session::sqlite` and `main`. -/
inductive LogEvent
  | started (version : String)
  | openingDatabase (target : String)
  | openingConnection (target : String)
  | failedToOpen (reason : String)
  | opened (id epoch : Nat)
  | reused (id epoch : Nat)
  | returned (id epoch : Nat)
  | discarded (id checkout current : Nat)
  | reset (epoch closed : Nat)
  | discardingAll
  | pruned (expired next : Nat)
  | found (id : Nat) (context : ContextKey)
  | issued (id : Nat) (context : ContextKey)
  | connected (version : String) (id : Nat)
  | nested (shares : Bool)
  | counted (objects : Nat)
  | summary (stats : PoolStats)
deriving DecidableEq, Repr

namespace LogEvent

/-- The weight of an event. -/
def level : LogEvent → Level
  | .failedToOpen _ => .warn
  | .openingConnection _ => .debug
  | .reused _ _ => .debug
  | .returned _ _ => .debug
  | .discarded _ _ _ => .debug
  | .pruned _ _ => .debug
  | .found _ _ => .debug
  | .issued _ _ => .debug
  | _ => .info

/-- The part of the program that an event comes from. -/
def target : LogEvent → String
  | .openingDatabase _ => "sqlweave::session::database"
  | .discardingAll => "sqlweave::session::database"
  | .found _ _ => "sqlweave::session::database"
  | .issued _ _ => "sqlweave::session::database"
  | .openingConnection _ => "sqlweave::session::sqlite"
  | .pruned _ _ => "sqlweave::session::context_cache"
  | .failedToOpen _ => "sqlweave::session::pool"
  | .opened _ _ => "sqlweave::session::pool"
  | .reused _ _ => "sqlweave::session::pool"
  | .returned _ _ => "sqlweave::session::pool"
  | .discarded _ _ _ => "sqlweave::session::pool"
  | .reset _ _ => "sqlweave::session::pool"
  | _ => "sqlweave"

/-- The epoch of a connection, in brackets. -/
def atEpoch (epoch : Nat) : String := " (epoch " ++ toString epoch ++ ")"

/-- The words of an event, given what threads are called. -/
def message (threadName : Thread → String) : LogEvent → String
  | .started version => "sqlweave v" ++ version
  | .openingDatabase target => "Opening database " ++ target
  | .openingConnection target => "Opening SQLite connection to " ++ target
  | .failedToOpen reason => "Failed to open connection: " ++ reason
  | .opened id epoch => "Opened connection " ++ toString id ++ atEpoch epoch
  | .reused id epoch => "Reusing connection " ++ toString id ++ atEpoch epoch
  | .returned id epoch =>
    "Returning connection " ++ toString id ++ " to reserve" ++ atEpoch epoch
  | .discarded id checkout current =>
    "Discarding stale connection " ++ toString id ++ " (checked out at epoch " ++
      toString checkout ++ ", pool now at " ++ toString current ++ ")"
  | .reset epoch closed =>
    "Session pool reset to epoch " ++ toString epoch ++ " (" ++ toString closed ++
      " idle connections closed)"
  | .discardingAll => "Discarding all pooled connections"
  | .pruned expired next =>
    "Pruned " ++ toString expired ++ " expired session observations, next prune above " ++
      toString next
  | .found id context =>
    "Reusing session on connection " ++ toString id ++ " for " ++ context.display threadName
  | .issued id context =>
    "Issued session on connection " ++ toString id ++ " to " ++ context.display threadName
  | .connected version id =>
    "Connected to SQLite Some(Text(\"" ++ version ++ "\")) on connection " ++ toString id
  | .nested shares => "Nested request shares session: " ++ (if shares then "true" else "false")
  | .counted objects => toString objects ++ " schema objects belong to tables"
  | .summary stats =>
    "Pool: " ++ toString stats.idle ++ " idle, " ++ toString stats.opened ++ " opened, " ++
      toString stats.reused ++ " reused, epoch " ++ toString stats.epoch

end LogEvent

end PooledSql
