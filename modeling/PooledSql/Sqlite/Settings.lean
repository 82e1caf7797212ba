import PooledSql.Config.Basic
import PooledSql.Library

/-!
# Opening connections

How connections are opened: where, how long they wait for a lock, and the statements that set each
of them up. All of it goes through a library, call by call, up to the first that does not succeed.
-/

namespace PooledSql.Sqlite

/-- The modes that a connection is set up with. -/
structure Modes where
  journal : String
  synchronous : String
  cacheSize : Int32
deriving DecidableEq, Repr

/-- How connections are opened: `session::sqlite::SqliteConnectionFactory`. -/
structure Settings where
  target : String
  /-- In milliseconds. -/
  busyTimeout : Nat
  modes : Option Modes
deriving DecidableEq, Repr

namespace Settings

/-- Connections with a target and nothing else asked for:
`session::sqlite::SqliteConnectionFactory::new`. -/
def ofTarget (target : String) : Settings := ⟨target, 5000, none⟩

/-- Connections to databases in memory: `session::sqlite::SqliteConnectionFactory::in_memory`. -/
def inMemory : Settings := ofTarget memoryPath

/-- Connections as a configuration asks for them, if it is accepted:
`session::sqlite::SqliteConnectionFactory::from_config`. -/
def ofConfig (c : Config) : Except Error Settings :=
  match c.validate with
  | some fault => .error (.config fault)
  | none => .ok ⟨c.target, c.busyTimeout.toNat, some ⟨c.journalMode, c.synchronous, c.cacheSize⟩⟩

/-- The statements that set up each connection: those of the modes, if there are any, a line each,
and one that keeps temporary tables in memory (the `pragma_sql` of
`session::sqlite::SqliteConnectionFactory`). -/
def setup (s : Settings) : String :=
  let temporary := "PRAGMA temp_store = MEMORY;"
  match s.modes with
  | none => temporary
  | some m =>
    ";\n             ".intercalate
      ["PRAGMA journal_mode = " ++ m.journal, "PRAGMA synchronous = " ++ m.synchronous,
        "PRAGMA cache_size = " ++ toString m.cacheSize.toInt, temporary]

/-- Sets a new connection up. -/
def prepare {ω κ : Type} (s : Settings) (L : Library ω κ) (k : κ) : Work ω Cause Unit := do
  L.setBusyTimeout k s.busyTimeout
  L.runBatch k s.setup

/-- Opens a connection through a library and sets it up:
`session::sqlite::SqliteConnectionFactory::open`. One that cannot be set up is dropped. -/
def reach {ω κ : Type} (s : Settings) (L : Library ω κ) : Work ω Cause κ := do
  let k ← L.opening s.target
  (s.prepare L k).tidied (L.close k)
  return k

/-- Opens a connection through a library; whatever fails is a failure of the connection:
`session::sqlite::SqliteConnectionFactory::connect`. -/
def connect {ω κ : Type} (s : Settings) (L : Library ω κ) : Work ω Error κ :=
  (s.reach L).inWords (Error.connection s.target)

/-! ## Modes as a database understands them -/

/-- The journal modes that are understood, in any letter case of ASCII, in lower case. -/
def journalNames : List String := ["delete", "truncate", "persist", "memory", "wal", "off"]

/-- The journal mode of a name in any letter case of ASCII. -/
def journalOf (name : String) : Option String :=
  journalNames.find? fun mode => mode == name.map Char.toLower

/-- The journal mode that was asked for, in lower case, if there is one of that name. -/
def journal? (s : Settings) : Option String := s.modes.bind fun m => journalOf m.journal

/-- The rank of the synchronous mode of a name in any letter case of ASCII, and that of `NORMAL` if
there is none. -/
def levelOf (name : String) : Nat :=
  ([("off", 0), ("normal", 1), ("full", 2), ("extra", 3)].lookup (name.map Char.toLower)).getD 1

/-- The synchronous mode as a number: that of its name, and of `FULL` where none was asked for. -/
def synchronousLevel (s : Settings) : Nat := s.modes.elim 2 fun m => levelOf m.synchronous

/-- The usual size of a cache, in kibibytes as it is negative. -/
def usualCacheSize : Int := -2000

/-- The size of the cache, in kibibytes if it is negative and else in pages. -/
def cacheSize (s : Settings) : Int := (s.modes.map fun m => m.cacheSize.toInt).getD usualCacheSize

end Settings

end PooledSql.Sqlite
