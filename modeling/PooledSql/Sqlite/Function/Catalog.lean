import PooledSql.Sqlite.Function.Dates
import PooledSql.Sqlite.Function.Documents
import PooledSql.Sqlite.Function.Numbers
import PooledSql.Sqlite.Function.Texts

/-!
# The catalog of functions

All functions by name, in any letter case of ASCII. Some work on many rows, which no formula on one
row can use, and some depend on more than their arguments.
-/

namespace PooledSql.Sqlite

/-- The version of SQLite. -/
def sqliteVersion : String := "3.49.2"

/-- What the version was made from. -/
def sqliteSource : String :=
  "2025-05-07 10:39:52 17144570b0d96ae63cd6f3edca39e27ebd74925252bbaf6723bcb2f6b4861fb1"

namespace Routine

/-- Functions that work on many rows. -/
def forRows : List Routine :=
  [ofRows "count" 0 1 false, ofRows "sum" 1 1 false, ofRows "total" 1 1 false,
    ofRows "avg" 1 1 false, ofRows "group_concat" 1 2 false, ofRows "string_agg" 2 2 false,
    ofRows "min" 1 1 false, ofRows "max" 1 1 false, ofRows "json_group_array" 1 1 false,
    ofRows "json_group_object" 2 2 false, ofRows "jsonb_group_array" 1 1 false,
    ofRows "jsonb_group_object" 2 2 false, ofRows "row_number" 0 0 true, ofRows "rank" 0 0 true,
    ofRows "dense_rank" 0 0 true, ofRows "percent_rank" 0 0 true, ofRows "cume_dist" 0 0 true,
    ofRows "ntile" 1 1 true, ofRows "first_value" 1 1 true, ofRows "last_value" 1 1 true,
    ofRows "nth_value" 2 2 true, ofRows "lead" 1 3 true, ofRows "lag" 1 3 true]

/-- Functions whose values depend on the connection. -/
def forConnections : List Routine :=
  [volatile "random" 0 (some 0) fun _ => .ok (.integer 0),
    volatile "randomblob" 1 (some 1) fun c => Texts.zeros (c.argument 0),
    volatile "changes" 0 (some 0) fun _ => .ok (.integer 0),
    volatile "total_changes" 0 (some 0) fun _ => .ok (.integer 0),
    volatile "last_insert_rowid" 0 (some 0) fun _ => .ok (.integer 0),
    volatile "sqlite_version" 0 (some 0) fun _ => .ok (.ofText sqliteVersion),
    volatile "sqlite_source_id" 0 (some 0) fun _ => .ok (.ofText sqliteSource),
    volatile "sqlite_compileoption_used" 1 (some 1) fun _ => .ok (.integer 0),
    volatile "sqlite_compileoption_get" 1 (some 1) fun _ => .ok .null]

/-- A function that works only where there are texts to search. -/
def searching (name : String) (fewest : Nat) (most : Option Nat) : Routine :=
  volatile name fewest most fun _ => .error (.unusable name)

/-- Functions that cannot be used in formulas. -/
def forOthers : List Routine :=
  [searching "match" 2 (some 2), searching "snippet" 0 none, searching "highlight" 0 none,
    searching "bm25" 0 none, searching "matchinfo" 1 (some 2), searching "offsets" 1 (some 1),
    searching "optimize" 1 (some 1),
    { volatile "load_extension" 1 (some 2) (fun _ => .ok .null) with isUnsafe := true },
    { volatile "sqlite_log" 2 (some 2) (fun _ => .ok .null) with isUnsafe := true }]

/-- All functions. -/
def all : List Routine :=
  forRows ++ Numbers.routines ++ Texts.routines ++ Formatted.routines ++ Dates.routines ++
    Documents.routines ++ forConnections ++ forOthers

/-- The functions of a name. -/
def named (name : String) : List Routine :=
  let lower := name.map Char.toLower
  all.filter fun f => f.name == lower

/-- The function of a name that takes so many arguments. -/
def find? (name : String) (count : Nat) : Option Routine :=
  (named name).find? fun f => f.takes count

/-- Some function has the name. -/
def isName (name : String) : Bool := !(named name).isEmpty

/-- All functions of the name work on many rows. -/
def isNameOfRows (name : String) : Bool := (named name).all isOfRows

/-- The function that is told how likely a condition is. -/
def probabilityName : String := "likelihood"

end Routine

end PooledSql.Sqlite
