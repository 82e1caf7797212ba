/-!
# The pages of a database

The contents of a database are cut into pages, which are numbered from one on. Pages that are not
in use any more are listed by some of themselves, each of which lists as many as there is room for
on it. They are used again before there are new ones.
-/

namespace PooledSql.Sqlite.Pages

/-- A free page that lists others. -/
structure Trunk where
  page : Nat
  listed : List Nat := []
deriving DecidableEq, Repr

/-- How many pages there are, and those of them that are free. -/
structure Space where
  count : Nat := 1
  trunks : List Trunk := []
deriving DecidableEq, Repr

namespace Space

/-- How many pages a free page lists at most. -/
def mostListed : Nat := 1016

/-- Gives a page back. It is listed by the first page that lists others, if there is room on it. -/
def give (page : Nat) (s : Space) : Space :=
  match s.trunks with
  | [] => { s with trunks := [⟨page, []⟩] }
  | t :: rest =>
    if t.listed.length < mostListed then
      { s with trunks := ⟨t.page, t.listed ++ [page]⟩ :: rest }
    else { s with trunks := ⟨page, []⟩ :: t :: rest }

/-- How far two pages are from each other. -/
def distance (a b : Nat) : Nat := (a - b) + (b - a)

/-- The first of some pages that are the nearest to one; without that, the first of all. -/
def nearest (near : Option Nat) (first : Nat) (rest : List Nat) : Nat :=
  match near with
  | none => first
  | some near =>
    rest.foldl (fun best p => if distance p near < distance best near then p else best) first

/-- Takes one of the pages that a free page lists: the last one goes into its place. -/
def unlist (t : Trunk) (page : Nat) : Trunk :=
  let last := t.listed.getLast?.getD page
  { t with listed := t.listed.dropLast.map fun p => if p = page then last else p }

/-- Takes a page, one near to another if possible. A page that lists others is taken only when it
lists none any more. -/
def take (near : Option Nat) (s : Space) : Nat × Space :=
  match s.trunks with
  | [] => (s.count + 1, { s with count := s.count + 1 })
  | t :: rest =>
    match t.listed with
    | [] => (t.page, { s with trunks := rest })
    | first :: others =>
      let page := nearest near first others
      (page, { s with trunks := unlist t page :: rest })

end Space

/-- Work that takes pages and gives some back. -/
abbrev Allocation := StateM Space

/-- Takes a page, one near to another if possible. -/
def takePage (near : Option Nat) : Allocation Nat := fun s => s.take near

/-- Gives pages back. -/
def givePages (pages : List Nat) : Allocation Unit :=
  modify fun s => pages.foldl (fun s page => s.give page) s

/-- Takes a number of pages one after the other, each near to the one before it if possible. -/
def takePages (near : Option Nat) : Nat → Allocation (List Nat)
  | 0 => pure []
  | n + 1 => do
    let page ← takePage near
    return page :: (← takePages (some page) n)

end PooledSql.Sqlite.Pages
