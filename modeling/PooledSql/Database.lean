import PooledSql.Dialect
import PooledSql.Finder
import PooledSql.Sessions

/-!
# Databases

A database hands out sessions by context: as long as a session issued to a context has an owner,
that context gets it again, and so nested units of work see the same transaction. Otherwise the
pool is asked, and the session it gives becomes the context's.
-/

namespace PooledSql

/-- How many slots a finder may have before its first scan, where nothing else is asked for:
`session::database::DEFAULT_FINDER_PRUNE_THRESHOLD`. -/
def defaultPruneThreshold : Nat := 64

/-- A pool with the sessions of each context: `session::database::Database`. -/
structure Database where
  hub : Hub := {}
  finder : Finder
  dialect : Dialect
deriving Repr

namespace Database

/-- A database with nothing open: `session::database::Database::with_prune_threshold`. -/
def new (dialect : Dialect) (pruneThreshold : Nat) : Database :=
  { finder := Finder.new pruneThreshold, dialect }

/-- The context's session, if it has a live one. -/
def current? (db : Database) (context : ContextKey) : Option SessionId :=
  db.finder.current? db.hub.isLive context

/-- Makes a session that has just come from the pool the context's: the last part of
`session::database::Database::get_session_for`. -/
def assign (db : Database) (context : ContextKey) (s : SessionId) : Database :=
  let (finder, scan) := db.finder.observe db.hub.isLive context s
  let hub :=
    match scan with
    | some scan => db.hub.note (.pruned scan.cleared scan.bar)
    | none => db.hub
  let id := (hub.issued[s]?).elim 0 Session.id
  { db with finder, hub := hub.note (.issued id context) }

/-- The first step of asking for a context's session: it is the one in use, or one on an idle
connection, or the factory has to be asked (`session::database::Database::get_session_for`, up to
the call of the factory). -/
def request (db : Database) (context : ContextKey) : Checkout × Database :=
  match db.current? context with
  | some s =>
    let id := (db.hub.issued[s]?).elim 0 Session.id
    (.session s, { db with hub := (db.hub.cloneOwner s).note (.found id context) })
  | none =>
    match db.hub.beginGet with
    | (.session s, hub) => (.session s, { db with hub }.assign context s)
    | (.vacant epoch, hub) => (.vacant epoch, { db with hub })

/-- The second step, when the factory opened a connection:
`session::database::Database::get_session_for`, after that call. -/
def fulfil (db : Database) (context : ContextKey) (epoch serial : Nat) : SessionId × Database :=
  let (s, hub) := db.hub.finishGet epoch serial
  (s, { db with hub }.assign context s)

/-- The second step, when the factory refused: `session::database::Database::get_session_for`, where
that call fails. -/
def fail (db : Database) (e : Error) : Database := { db with hub := db.hub.failGet e }

/-- A context's session with an outcome of the factory that is known beforehand, the two steps in
one: `session::database::Database::get_session_for`. -/
def sessionFor (db : Database) (context : ContextKey) (outcome : Except Error Nat) :
    Except Error SessionId × Database :=
  match db.request context with
  | (.session s, db) => (.ok s, db)
  | (.vacant epoch, db) =>
    match outcome with
    | .ok serial => let (s, db) := db.fulfil context epoch serial; (.ok s, db)
    | .error e => (.error e, db.fail e)

/-- The session is the context's current one:
`session::database::Database::is_using_session_for`. -/
def isUsing (db : Database) (context : ContextKey) (s : SessionId) : Bool :=
  db.finder.isObserving db.hub.isLive context s

/-- Stops the reuse of every connection that is open now:
`session::database::Database::discard_connections`. -/
def discardConnections (db : Database) : Database :=
  { db with hub := (db.hub.note .discardingAll).reset }

/-- The longest name that a column may have, where there is a limit:
`session::database::Database::max_column_name_length`. -/
def maxColumnNameLength (db : Database) : Option Nat := db.dialect.maxIdentifierLength

end Database

end PooledSql
