import PooledSql.Log.Filter
import PooledSql.Sqlite.Session

/-!
# The program

The program opens the database that it is configured for, tells what it finds there, and shows on
the way that a nested request shares the session of the outer one. What it does is told in log
lines, of which a filter chooses some.

Results:
* `run_help`: help is all that is given to who asks for help alone.
-/

namespace PooledSql.Program

open Config (Setting)

/-- What a run of the program leaves behind: the exit code, the lines that it printed, and its
complaint if it had one. -/
structure Transcript where
  exit : Nat
  output : List String
  complaint : String
deriving DecidableEq, Repr

/-- The version of the program. -/
def version : String := "0.1.0"

/-- A service on an engine. -/
abbrev Local := Service Sqlite.Engine Sqlite.Link

/-- Work on a service, which may end early. -/
abbrev Task := Work Local Error

/-- Tells of something that happened. -/
def tell (e : LogEvent) : Task Unit := modify fun s => s.note e

/-- Everything is done for the first thread. -/
def context : ContextKey := .thread .main

/-- A session. -/
def session : Task SessionId := do
  match ← modifyGet fun s => s.get Sqlite.Engine.library context with
  | .ok id => return id
  | .error stop => throw stop

/-- A session is let go. -/
def release (id : SessionId) : Task Unit := modify fun s => s.release Sqlite.Engine.library id

/-- An outcome that ends the work if it is an error. -/
def orStop {α : Type} : Except Error α → Task α
  | .ok a => return a
  | .error e => throw (.failed e)

/-- The rows of a statement on a session. -/
def query (id : SessionId) (statement : Sqlite.Statement) : Task (List (List Value)) := do
  orStop (← modifyGet fun s => s.query id statement)

/-- The id of a session's connection. -/
def connectionId (s : Local) (id : SessionId) : Nat :=
  (s.db.hub.issued[id]?).elim 0 Session.id

/-- The schema's objects that belong to a table, as a statement. -/
def schemaObjects (s : Local) : Except Error Sqlite.Statement := do
  let orFault {α : Type} (r : Except ExpressionFault α) : Except Error α :=
    r.mapError Error.expression
  let name := Sqlite.catalogName
  let (objects, next) := Table.declare 1 name name ["name", "type", "tbl_name"]
  let objects ← orFault objects
  let tables ← orFault (Table.declare next name "t" ["name", "type"]).1
  let owner ← orFault (objects.column "tbl_name")
  let value ← orFault (tables.column "name")
  let filter := Predicate.inQuery (.column owner) (.select tables (.column value) none)
  return .select objects [← orFault (objects.column "name")]
    (← s.checkedCondition (some filter))

/-- What is done with a session: `main::main`, from the first session on. -/
def visit (id : SessionId) : Task Unit := do
  let found := (Service.firstValues (← query id .version)).head?
  tell (.connected ((found.map Value.display).getD "") (connectionId (← get) id))
  let nested ← session
  tell (.nested ((← get).db.isUsing context nested))
  release nested
  let objects ← query id (← orStop (schemaObjects (← get)))
  tell (.counted objects.length)

/-- The work of the program on its database: `main::main`, after the database is opened. -/
def work : Task Unit := do
  let id ← session
  try visit id
  catch stop =>
    release id
    throw stop
  release id
  tell (.summary (← get).db.hub.pool.stats)

/-- What the first thread is called. -/
def threadName : Thread → String
  | .main => "ThreadId(1)"
  | .worker n => "ThreadId(" ++ toString n ++ ")"

/-- The log line of an event. -/
def logLine (e : LogEvent) : String :=
  e.level.label ++ " " ++ e.target ++ ": " ++ Text.visible (e.message threadName)

/-- The lines that are printed of some events, for a filter. -/
def logLines (filter : List Directive) (events : List LogEvent) : List String :=
  (events.filter (admits filter)).flatMap fun e =>
    (Text.lines (logLine e ++ "\n").toList).map String.ofList

/-- The complaint about an error. -/
def complain (e : Error) : String := "Error: " ++ e.message

/-- Some lines as one text. -/
def asLines (lines : List String) : String := "\n".intercalate lines

/-- The exit code of a run that was aborted. -/
def abortCode : Nat := 101

section Runs

variable (machine : Sqlite.Directories)

/-- A run of the program as a configuration asks for it: `main::main`. -/
def runConfigured (c : Config) : Transcript :=
  match Service.onEngineOfConfig c machine, readFilter c.logLevel with
  | .error e, _ => ⟨1, [], complain e⟩
  | .ok _, (none, complaints) => ⟨abortCode, [], asLines complaints⟩
  | .ok service, (some filter, complaints) =>
    let (outcome, after) := work.runOn service
    let output := logLines filter (.started version :: after.db.hub.log)
    match outcome with
    | .ok () => ⟨0, output, asLines complaints⟩
    | .error (.failed e) => ⟨1, output, asLines (complaints ++ [complain e])⟩
    | .error .aborted => ⟨abortCode, output, asLines complaints⟩

/-- A run of the program with some arguments, in an environment. -/
def run (arguments : List String) (environment : Setting → Option String) : Transcript :=
  match Config.read arguments environment with
  | .ok c => runConfigured machine c
  | .error .help => ⟨0, Config.helpLines environment, ""⟩
  | .error fault => ⟨fault.exitCode, [], fault.printed⟩

theorem run_help (environment : Setting → Option String) :
    run machine ["--help"] environment = ⟨0, Config.helpLines environment, ""⟩ := by
  simp only [run, Config.read, Config.read_help]
  rfl

end Runs

end PooledSql.Program
