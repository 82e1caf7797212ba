import PooledSql.Sqlite.Readiness
import PooledSql.Sqlite.References
import PooledSql.Sqlite.TableLock

/-!
# What can be told beforehand about changes

Before rows of a table are put in, changed or taken out, everything is made ready that this has to
do with: the formulas of the table, its references and those to it, and what follows for the rows
that refer to it, which is made ready in the same way. What is wrong with any of that is reported
before anything is done. Where tables are locked, all those that may be looked at or changed are
locked before that as well.
-/

namespace PooledSql.Sqlite

/-- What is going to be done to rows of a table. -/
inductive Alteration
  /-- So many rows are put in. -/
  | insertion (count : Nat)
  | removal
  /-- The values in the columns at some places change, and maybe the numbers. -/
  | revision (places : List Nat) (isNumberNew : Bool)
deriving DecidableEq, Repr

/-- Rows are put in. -/
def Alteration.isInsertion : Alteration → Bool
  | .insertion _ => true
  | _ => false

/-- What an alteration has to do with references. -/
structure Concern where
  /-- Rows change that are there already. -/
  isOfOld : Bool := true
  /-- The references of the table that matter. -/
  own : Reference → Bool := fun _ => true
  /-- The references to the table that matter. -/
  toIt : Reference → Bool := fun _ => true
  /-- What follows for the rows that refer to it. -/
  action : Reference → Action := fun _ => .nothing
  /-- Rows go. -/
  isRemoval : Bool := false

namespace StoredTable

/-- Rows may have to make room for those that have other values at some places, or other numbers. -/
def mayRemove (t : StoredTable) (places : List Nat) (isNumberNew : Bool) : Bool :=
  t.makesRoom isNumberNew fun i => isNumberNew || i.isTouched places

/-- What is found in the formulas of a table. -/
def formulaFaults (t : StoredTable) : Alteration → List UseFault
  | .insertion _ => t.insertFaults
  | .removal => []
  | .revision places isNumberNew => t.updateFaults places isNumberNew

end StoredTable

namespace Store

/-- What is wrong with a reference of a table, if it pairs no columns with a table that is there. -/
def referenceFault? (s : Store) (p : StoredTable × Reference) : Option Refusal :=
  match s.table? p.2.table with
  | none => some ⟨.noSuchTable ("main." ++ p.2.table), none⟩
  | some target =>
    if (p.2.pairings? target).isNone then some ⟨.mismatchedReference p.1.name p.2.table, none⟩
    else none

/-- A change of the values in the columns at some places has to do with references. -/
def concernsReferences (s : Store) (t : StoredTable) (places : List Nat) : Bool :=
  (t.references.any fun r => r.columns.any places.contains) ||
    (s.referencesTo t).any fun p => places.any fun i => refersTo t i p.2

/-- What an alteration of a table has to do with references. One row alone that is put in cannot
make up for a missing one. -/
def concerns (s : Store) (t : StoredTable) (a : Alteration) : List Concern :=
  let removal : Concern := { action := Reference.onDelete, isRemoval := true }
  match a with
  | .insertion count =>
    let isFree (r : Reference) : Bool := r.isDeferred || 1 < count || t.makesRoomForNew
    (if t.makesRoomForNew then [removal] else []) ++ [{ isOfOld := false, toIt := isFree }]
  | .removal => [removal]
  | .revision places isNumberNew =>
    let revision : Concern :=
      { own := fun r => r.columns.any places.contains || sameName r.table t.name
        toIt := fun r => places.any fun i => refersTo t i r
        action := Reference.onUpdate }
    (if t.mayRemove places isNumberNew then [removal] else []) ++
      if s.concernsReferences t places then [revision] else []

/-- What follows for the rows of a table from the loss of a reference of theirs. -/
def follower? (t : StoredTable) (r : Reference) (c : Concern) : Option Alteration :=
  let places := r.columns.flatMap t.dependents
  let revision : Alteration := .revision places (t.key.any places.contains)
  match c.action r with
  | .nothing => none
  | .restrict => none
  | .cascade => some (if c.isRemoval then .removal else revision)
  | _ => some revision

/-- What is wrong with an alteration that follows for the rows of a table from a reference: columns
that are calculated cannot be given values. -/
def followerFault? (t : StoredTable) (r : Reference) (next : Alteration) : Option Refusal :=
  let calculated := (r.columns.filterMap (t.columns[·]?)).find? fun c => c.generator.isSome
  match next with
  | .revision _ _ => calculated.map fun c => ⟨.generatedTarget c.name, none⟩
  | _ => none

/-- What is found while an alteration of a table is made ready, in the order in which it is found,
if what follows from the references in `busy` is being made ready already. -/
def faultsWithin (s : Store) :
    Nat → List (String × Reference × Bool) → StoredTable → Alteration → List UseFault
  | 0, _, _, _ => []
  | n + 1, busy, t, a =>
    t.formulaFaults a ++ (s.concerns t a).flatMap fun c =>
      let toIt := s.referencesTo t
      let concerned := toIt.filter fun p => c.toIt p.2
      let first := ((t.references.filter c.own).map (t, ·) ++ concerned).findSome? s.referenceFault?
      let others (p : StoredTable × Reference) : List UseFault :=
        let mark := (p.1.name, p.2, c.isRemoval)
        match s.referenceFault? p, follower? p.1 p.2 c with
        | some refusal, _ => if c.action p.2 = .nothing then [] else [{ refusal }]
        | none, none => []
        | none, some next =>
          if busy.contains mark then []
          else
            let found := UseFault.last? none (faultsWithin s n (mark :: busy) (strict p.1) next)
            (followerFault? p.1 p.2 next <|> found).toList.map fun refusal => { refusal, yields := true }
      let before := (if c.isOfOld then toIt.filterMap s.referenceFault? else []) ++ first.toList
      (before.map fun refusal => { refusal }) ++ concerned.flatMap others

/-- How many references there can be from one to the next. -/
def referenceSteps (s : Store) : Nat :=
  2 * s.tables.foldl (fun n t => n + t.references.length) 0 + 1

/-- What is found while an alteration of a table is made ready. -/
def faults (s : Store) (t : StoredTable) (a : Alteration) : List UseFault :=
  s.faultsWithin s.referenceSteps [] t a

/-- Nothing is wrong with an alteration of a table, besides what was found before. The last that is
found is reported. -/
def checkAlteration (s : Store) (t : StoredTable) (a : Alteration) : Except Refusal Unit :=
  match UseFault.last? none (s.faults t a) with
  | some refusal => .error refusal
  | none => .ok ()

/-- The locks that an alteration of a table takes, if those for what follows from the references in
`busy` are taken already. -/
def locksWithin (s : Store) :
    Nat → List (String × Reference × Bool) → StoredTable → Alteration → List TableLock
  | 0, _, _, _ => []
  | n + 1, busy, t, a =>
    ⟨t.name, true⟩ :: (s.concerns t a).flatMap fun c =>
      let targets := (t.references.filter c.own).filterMap fun r => s.table? r.table
      let concerned := (s.referencesTo t).filter fun p => c.toIt p.2
      let others (p : StoredTable × Reference) : List TableLock :=
        let mark := (p.1.name, p.2, c.isRemoval)
        match follower? p.1 p.2 c with
        | none => []
        | some next => if busy.contains mark then [] else locksWithin s n (mark :: busy) p.1 next
      targets.map (⟨StoredTable.name ·, false⟩) ++ concerned.map (⟨·.1.name, false⟩) ++
        concerned.flatMap others

/-- The locks that an alteration of a table takes, which also reads the tables of some names. -/
def locks (s : Store) (t : StoredTable) (a : Alteration) (read : List String) : List TableLock :=
  TableLock.gather
    (⟨t.name, true⟩ :: s.readLocks read ++ s.locksWithin s.referenceSteps [] t a ++
      if a.isInsertion && t.counter.isSome then [⟨sequenceName, true⟩] else [])

end Store

end PooledSql.Sqlite
