import PooledSql.Service
import PooledSql.Sql.Encoding
import PooledSql.Sql.Statements
import PooledSql.Sqlite.Engine

/-!
# Statements on sessions

A service on the engine, and what is done with its sessions. A predicate is written as a condition of
the database's dialect before it is sent. A connection that goes back to the pool keeps its
transaction.
-/

namespace PooledSql.Service

open Sqlite (Settings Engine Link Statement Directories)

/-- A service on an engine in which nothing is open. -/
def onEngine (settings : Settings) (pruneThreshold : Nat) (directories : Directories) :
    Service Engine Link :=
  new settings pruneThreshold (Engine.new settings directories)

/-- A service on an engine in which nothing is open, as a configuration asks for it. -/
def onEngineOfConfig (c : Config) (directories : Directories) :
    Except Error (Service Engine Link) := do
  let settings ← Settings.ofConfig c
  ofConfig c (Engine.new settings directories)

variable (s : Service Engine Link)

/-- The engine's number of a session's connection. -/
def serial (id : SessionId) : Nat :=
  ((s.db.hub.connection? id).bind s.link?).elim 0 Link.serial

/-! ## Statements -/

/-- The condition that a filter is written as. -/
def condition (filter : Option Predicate) : Option Sql.Condition :=
  filter.map (Sql.condition s.db.dialect)

/-- The condition that a filter is written as, which must not be nested too deeply. -/
def checkedCondition (filter : Option Predicate) : Except Error (Option Sql.Condition) := do
  match s.condition filter with
  | none => return none
  | some c =>
    let _ ← (Sql.checkCondition c).mapError Error.parse
    return some c

/-- What a step of the engine gives on a statement, as an outcome of the service. -/
def afterStep {α : Type} (statement : Statement) (step : Engine.Step α) :
    Except Error α × Service Engine Link :=
  (step.1.mapError (Error.statement statement.text), { s with world := step.2 })

/-- Runs a statement that is to give no rows on a session: `session::sqlite`, `Session::execute`. -/
def execute (id : SessionId) (statement : Statement) : Except Error Nat × Service Engine Link :=
  s.afterStep statement (s.world.execute (s.serial id) statement)

/-- Runs a statement for its rows on a session: `session::sqlite`, `Session::query_rows`. -/
def query (id : SessionId) (statement : Statement) :
    Except Error (List (List Value)) × Service Engine Link :=
  s.afterStep statement (s.world.query (s.serial id) statement)

/-- Runs statements one after the other on a session, up to the first that fails: `session::sqlite`,
`Session::execute_batch`. -/
def runAll (s : Service Engine Link) (id : SessionId) :
    List Statement → Except Error Unit × Service Engine Link
  | [] => (.ok (), s)
  | statement :: rest =>
    match s.query id statement with
    | (.ok _, s) => s.runAll id rest
    | (.error e, s) => (.error e, s)

/-- The first value of each row: `session::sqlite`, `Session::query_column`. -/
def firstValues (rows : List (List Value)) : List Value := rows.filterMap List.head?

end PooledSql.Service
