import PooledSql.Config.Arguments
import PooledSql.Error
import PooledSql.Text.Blank
import PooledSql.Text.Upper

/-!
# Configuration

The settings of the program, with their defaults filled in, and what is checked about them beyond
the form of each: that the modes are ones that exist, that the prune threshold is not zero, and
that there is a path where one is needed. The first that fails is reported.

Results:
* `validate_eq_none_iff`: what an accepted configuration satisfies.
-/

namespace PooledSql

/-- The settings: `config::Config`. -/
structure Config where
  database : String
  inMemory : Bool
  logLevel : String
  pruneThreshold : UInt64
  busyTimeout : UInt64
  journalMode : String
  synchronous : String
  cacheSize : Int32
deriving DecidableEq, Repr

namespace Config

/-- The journal modes: `config::JOURNAL_MODES`. -/
def journalModes : List String := ["DELETE", "TRUNCATE", "PERSIST", "MEMORY", "WAL", "OFF"]

/-- The synchronous modes: `config::SYNCHRONOUS_MODES`. -/
def synchronousModes : List String := ["OFF", "NORMAL", "FULL", "EXTRA"]

/-- A setting that is given, and else its default. -/
def setting (given : List (Setting × Given)) (s : Setting) : Option Given :=
  match given.lookup s with
  | some value => some value
  | none =>
    match s.default? with
    | some value => (s.read value).toOption
    | none => none

/-- The configuration of the settings that are given. -/
def ofGiven (given : List (Setting × Given)) : Config :=
  let text (s : Setting) : String :=
    match setting given s with
    | some (.text value) => value
    | _ => ""
  let natural (s : Setting) : UInt64 :=
    match setting given s with
    | some (.natural n) => UInt64.ofNat n
    | _ => 0
  { database := text .database
    inMemory :=
      match setting given .inMemory with
      | some (.switch b) => b
      | _ => false
    logLevel := text .logLevel
    pruneThreshold := natural .pruneThreshold
    busyTimeout := natural .busyTimeout
    journalMode := text .journalMode
    synchronous := text .synchronous
    cacheSize :=
      match setting given .cacheSize with
      | some (.integer n) => Int32.ofInt n
      | _ => 0 }

/-- The configuration of some arguments and an environment: `config::Config::load`. -/
def read (arguments : List String) (environment : Setting → Option String) :
    Except ArgumentFault Config :=
  (readArguments arguments environment).map ofGiven

/-- What is wrong with a configuration, if anything is: `config::Config::validate`. -/
def validate (c : Config) : Option ConfigFault :=
  if !journalModes.contains (Text.upper c.journalMode) then
    some (.unknownJournalMode c.journalMode)
  else if !synchronousModes.contains (Text.upper c.synchronous) then
    some (.unknownSynchronousMode c.synchronous)
  else if c.pruneThreshold = 0 then some .zeroPruneThreshold
  else if !c.inMemory && Text.isBlank c.database then some .emptyDatabasePath
  else none

/-- The path of the database, or the name of a database in memory:
`config::Config::database_target`. -/
def target (c : Config) : String := if c.inMemory then ":memory:" else c.database

/-- The whole seconds of the busy timeout, and the milliseconds beyond them:
`config::Config::busy_timeout_duration`. -/
def busySeconds (c : Config) : Nat × Nat :=
  (c.busyTimeout.toNat / 1000, c.busyTimeout.toNat % 1000)

/-- What `validate` accepts: modes that are known once raised to capitals, a threshold other than
zero, and a path unless the database is in memory. -/
theorem validate_eq_none_iff (c : Config) :
    c.validate = none ↔
      Text.upper c.journalMode ∈ journalModes ∧ Text.upper c.synchronous ∈ synchronousModes ∧
        c.pruneThreshold ≠ 0 ∧ (c.inMemory = true ∨ Text.isBlank c.database = false) := by
  simp only [validate]
  cases c.inMemory <;> repeat' split
  all_goals simp_all

end Config

end PooledSql
