import PooledSql.Database
import PooledSql.Sqlite.Settings

/-!
# A database in use

A database whose connections are opened with some settings, through a library, in a world. A request
for a session may need a new connection, and what comes of that is the outcome of the request. The
connections that the pool closes are dropped.
-/

namespace PooledSql

open Sqlite (Settings)

/-- A database in use: `session::database::Database` with the factory of `session::sqlite`. -/
structure Service (ω κ : Type) where
  db : Database
  settings : Settings
  /-- The world as the library left it. -/
  world : ω
  /-- The connections that were opened, in order; their numbers count from one. -/
  links : List κ := []
  /-- How many of the connections that the pool closed are dropped. -/
  dropped : Nat := 0

namespace Service

variable {ω κ : Type}

/-- A service on a database with nothing open. -/
def new (settings : Settings) (pruneThreshold : Nat) (world : ω) : Service ω κ :=
  { db := Database.new .sqlite pruneThreshold, settings, world }

/-- Adds an event. -/
def note (s : Service ω κ) (e : LogEvent) : Service ω κ := { s with db.hub := s.db.hub.note e }

/-- A service as a configuration asks for it: `session::database::Database::open`. -/
def ofConfig (c : Config) (world : ω) : Except Error (Service ω κ) := do
  let settings ← Settings.ofConfig c
  return (new settings c.pruneThreshold.toNat world).note (.openingDatabase c.target)

/-- A connection by its number. -/
def link? (s : Service ω κ) (serial : Nat) : Option κ := s.links[serial - 1]?

section Library

variable (L : Library ω κ)

/-- A session for a context: `session::database::Database::get_session_for`, where a new connection
comes from `session::sqlite::SqliteConnectionFactory::connect`. -/
def get (s : Service ω κ) (context : ContextKey) : Except (Stop Error) SessionId × Service ω κ :=
  match s.db.request context with
  | (.session id, db) => (.ok id, { s with db })
  | (.vacant epoch, db) =>
    let s := { s with db }.note (.openingConnection s.settings.target)
    match (s.settings.connect L).runOn s.world with
    | (.ok link, world) =>
      let links := s.links ++ [link]
      let (id, db) := s.db.fulfil context epoch links.length
      (.ok id, { s with db, world, links })
    | (.error (.failed e), world) => (.error (.failed e), { s with db := s.db.fail e, world })
    | (.error .aborted, world) => (.error .aborted, { s with world })

/-- Drops the connections that the pool has closed. -/
def settle (s : Service ω κ) : Service ω κ :=
  let closed := s.db.hub.closed
  let links := (closed.drop s.dropped).filterMap s.link?
  { s with world := links.foldl (fun w k => L.close k w) s.world, dropped := closed.length }

/-- An owner of a session lets go: the drop of a `session::pool::Session`. -/
def release (s : Service ω κ) (id : SessionId) : Service ω κ :=
  { s with db.hub := s.db.hub.dropOwner id }.settle L

/-- Stops the reuse of every connection that is open now:
`session::database::Database::discard_connections`. -/
def discard (s : Service ω κ) : Service ω κ := { s with db := s.db.discardConnections }.settle L

end Library

end Service

end PooledSql
