import PooledSql.Error
import PooledSql.Sqlite.Calculation
import PooledSql.Sqlite.Characters

/-!
# Functions

A function has a name, takes some numbers of arguments and makes a value of them, or fails. Most
take all arguments at once; a few look at one after the other, and at no more of them than they
need. A value that a function gives may be marked as the text of a JSON value, which counts only for
the function that takes it next.
-/

namespace PooledSql.Sqlite

/-- What a formula is for. -/
inductive Place
  | check
  | generator
  | index
deriving DecidableEq, Repr

/-- A value, which may be marked as the text of a JSON value. -/
structure Tagged where
  value : Datum
  isJson : Bool := false
deriving DecidableEq, Repr

/-- A value that may not have come about. -/
abbrev Calculated (α : Type) := Except CalculationFault α

/-- The call of a function: what it is for, the collation that goes along with the arguments, and
the arguments. -/
structure Call where
  place : Option Place
  collation : Collation
  arguments : List Tagged

namespace Call

/-- The argument at a place, if there is one. -/
def argument? (c : Call) (i : Nat) : Option Datum := c.arguments[i]?.map Tagged.value

/-- The argument at a place; a missing one is absent. -/
def argument (c : Call) (i : Nat) : Datum := (c.argument? i).getD .null

/-- All arguments. -/
def values (c : Call) : List Datum := c.arguments.map Tagged.value

/-- How many arguments there are. -/
def count (c : Call) : Nat := c.arguments.length

end Call

/-- How a function comes to its value. -/
inductive Body
  /-- It takes all arguments at once. -/
  | strict (run : Call → Calculated Tagged)
  /-- It gives the first argument that is not absent. -/
  | firstPresent
  /-- It gives the argument that follows the first condition that holds, or the last one. -/
  | cases
  /-- It gives its first argument. -/
  | first
  /-- It works on many rows, and maybe only on those in a window. -/
  | ofRows (isWindow : Bool)

/-- A function. -/
structure Routine where
  name : String
  fewest : Nat
  most : Option Nat
  body : Body
  /-- It always makes the same of the same arguments. -/
  isSteady : Bool := true
  /-- It must not be called from what a table says about its rows. -/
  isUnsafe : Bool := false

namespace Routine

/-- A function takes so many arguments. -/
def takes (f : Routine) (count : Nat) : Bool :=
  f.fewest ≤ count && (f.most.map fun n => decide (count ≤ n)).getD true

/-- It works on many rows. -/
def isOfRows (f : Routine) : Bool :=
  match f.body with
  | .ofRows _ => true
  | _ => false

/-- It works on the rows in a window only. -/
def isOfWindow (f : Routine) : Bool :=
  match f.body with
  | .ofRows isWindow => isWindow
  | _ => false

/-- A function that cannot fail. -/
def total (name : String) (fewest : Nat) (most : Option Nat) (run : Call → Datum) : Routine :=
  ⟨name, fewest, most, .strict fun c => .ok ⟨run c, false⟩, true, false⟩

/-- A function of one argument that cannot fail. -/
def unary (name : String) (run : Datum → Datum) : Routine :=
  total name 1 (some 1) fun c => run (c.argument 0)

/-- A function that may fail. -/
def failing (name : String) (fewest : Nat) (most : Option Nat)
    (run : Call → Calculated Datum) : Routine :=
  ⟨name, fewest, most, .strict fun c => (run c).map fun v => ⟨v, false⟩, true, false⟩

/-- A function whose value depends on more than its arguments. -/
def volatile (name : String) (fewest : Nat) (most : Option Nat)
    (run : Call → Calculated Datum) : Routine :=
  { failing name fewest most run with isSteady := false }

/-- A function that works on many rows. -/
def ofRows (name : String) (fewest most : Nat) (isWindow : Bool) : Routine :=
  ⟨name, fewest, some most, .ofRows isWindow, false, false⟩

end Routine

end PooledSql.Sqlite
