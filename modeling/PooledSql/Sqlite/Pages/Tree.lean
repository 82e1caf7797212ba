import PooledSql.Sqlite.Pages.Entry
import PooledSql.Sqlite.Pages.Space

/-!
# Trees of pages

The entries of a table or an index are in order in the pages of a tree. A page that is not at the
bottom has a page below it before each of its entries, and one after the last. The rows of a table
are at the bottom; what is above only tells them apart.

A page on which there is not enough room any more, or on which too little is left, shares its
entries with its neighbours: as many pages as are necessary are filled from the left, and what is on
them is evened out from the right. The page above gets the entries that come to stand between them,
so that the same may happen there. Only the page at the top always stays where it is.
-/

namespace PooledSql.Sqlite.Pages

/-- A page with its entries, and the pages below it. -/
structure Tree where
  page : Nat
  entries : List Entry
  children : List Tree
deriving Repr

namespace Tree

/-- An empty page. -/
def empty (page : Nat) : Tree := ⟨page, [], []⟩

instance : Inhabited Tree := ⟨empty 0⟩

/-- There are no pages below it. -/
def isLeaf (t : Tree) : Bool := t.children.isEmpty

/-- How many bytes there are for entries on a page. -/
def capacity (isLeaf : Bool) : Nat := if isLeaf then 4088 else 4084

/-- How many bytes of a page an entry takes, with its place in the list of entries, and the number
of the page before it. -/
def weight (isLeaf : Bool) (e : Entry) : Nat := e.size + if isLeaf then 2 else 6

/-- The first page begins with a heading. -/
def heading (page : Nat) : Nat := if page = 1 then 100 else 0

/-- How much room is left on a page. There is less than none if it has too many entries. -/
def room (t : Tree) : Int :=
  capacity t.isLeaf - heading t.page - t.entries.foldl (fun n e => n + weight t.isLeaf e) 0

/-- There are too many entries on a page. -/
def isOverfull (t : Tree) : Bool := decide (t.room < 0)

/-- More than two thirds of a page are not used. -/
def isSparse (t : Tree) : Bool := decide (8192 < 3 * t.room)

/-- There is neither too much nor too little on a page. -/
def isSteady (t : Tree) : Bool := !t.isOverfull && !t.isSparse

end Tree

/-! ## Ways into a tree -/

/-- A page on the way from the top to a page at the bottom, and which of the pages below it is the
next one. -/
structure Step where
  page : Nat
  entries : List Entry
  children : List Tree
  place : Nat

namespace Step

/-- The page, with another one below it at the next place. -/
def fill (s : Step) (t : Tree) : Tree := ⟨s.page, s.entries, s.children.set s.place t⟩

/-- The entry after the next page. -/
def entry? (s : Step) : Option Entry := s.entries[s.place]?

end Step

/-- The tree to which the ways lead that end in a page; the last step comes first. -/
def plug (path : List Step) (t : Tree) : Tree := path.foldl (fun t s => s.fill t) t

/-- The place of the first entry that does not come before a key. -/
def placeOf (k : Kind) (key : Key) (entries : List Entry) : Nat :=
  entries.findIdx fun e => k.order e.key key != .lt

mutual

/-- The way to the page at the bottom where a key belongs. -/
def descend (k : Kind) (key : Key) : Tree → List Step → List Step × Tree
  | ⟨page, entries, children⟩, path =>
    if children.isEmpty then (path, ⟨page, entries, []⟩)
    else
      let place := placeOf k key entries
      descendAt k key place children (⟨page, entries, children, place⟩ :: path)

/-- The way on from one of some pages. -/
def descendAt (k : Kind) (key : Key) : Nat → List Tree → List Step → List Step × Tree
  | _, [], path => (path, default)
  | 0, t :: _, path => descend k key t path
  | n + 1, _ :: rest, path => descendAt k key n rest path

end

/-! ## Sharing entries -/

/-- A list of entries is to be divided among pages: what each of them weighs, up to any place, how
much a page can hold, and whether an entry is left over between two pages. -/
structure Load where
  sums : Array Nat
  capacity : Nat
  gap : Nat

namespace Load

/-- The load of entries of some weights. -/
def ofWeights (weights : List Nat) (capacity gap : Nat) : Load :=
  ⟨weights.foldl (fun sums w => sums.push (sums.back?.getD 0 + w)) #[0], capacity, gap⟩

/-- What the entries between two places weigh. -/
def between (l : Load) (first last : Nat) : Nat := l.sums.getD last 0 - l.sums.getD first 0

/-- The places where pages end that are filled from the left, given the weights from a place on and
what is on the page before it already. -/
def fill (capacity gap : Nat) : List Nat → Nat → Nat → List Nat
  | [], place, _ => [place]
  | w :: rest, place, used =>
    if used + w ≤ capacity then fill capacity gap rest (place + 1) (used + w)
    else place :: fill capacity gap rest (place + 1) (if gap = 0 then w else 0)

/-- Where the left one of two pages ends after entries were moved to the right one, as long as that
is not the fuller one then. It must not stay empty. `slack` is what the left one may weigh less. -/
def lower (l : Load) (first last slack : Nat) : Nat → Nat
  | 0 => 0
  | place + 1 =>
    let right (place : Nat) : Nat := l.between (place + l.gap) last
    if right (place + 1) = 0 ∨ right place ≤ l.between first place + slack then
      lower l first last slack place
    else place + 1

/-- Evens out the pages before one that ends at a place, from the right, given the ends of those
before it, the last one first. -/
def even (l : Load) (slack last : Nat) : List Nat → List Nat
  | [] => [last]
  | place :: rest =>
    let first := (rest.head?.map (· + l.gap)).getD 0
    last :: even l 0 (l.lower first last slack place) rest

/-- The places where the pages end. -/
def ends (weights : List Nat) (capacity gap : Nat) : List Nat :=
  let l := ofWeights weights capacity gap
  match (fill capacity gap weights 0 0).reverse with
  | [] => []
  | last :: rest => (l.even 2 last rest).reverse

end Load

/-- Entries with others between them. -/
def interleave : List (List Entry) → List Entry → List Entry
  | [], _ => []
  | entries :: rest, between => entries ++ between.take 1 ++ interleave rest (between.drop 1)

/-- The pages for entries that end at some places, the first of them from a place on, and the
entries that come to stand between them. A page of a table at the bottom keeps all of its entries.
-/
def deal (gap : Nat) (entries : List Entry) (children : List Tree) :
    Nat → List (Nat × Nat) → List Tree × List Entry
  | _, [] => ([], [])
  | first, (last, page) :: rest =>
    let t : Tree :=
      { page
        entries := (entries.drop first).take (last - first)
        children := (children.drop first).take (last + 1 - first) }
    let (trees, dividers) := deal gap entries children (last + gap) rest
    let divider : Option Entry :=
      if rest.isEmpty then none
      else if gap = 0 then t.entries.getLast?.map fun e => .divider e.key
      else entries[last]?
    (t :: trees, divider.toList ++ dividers)

/-- The pages for a number of neighbours, in place of some that were there. -/
def pagesFor (old : List Nat) (count : Nat) : Allocation (List Nat) := do
  let fresh ← takePages old.head? (count - old.length)
  return (old.take count ++ fresh).mergeSort fun a b => decide (a ≤ b)

/-- A page at the top with nothing but one page below it takes that one's place, if there is room.
-/
def collapse (t : Tree) : Allocation Tree :=
  match t.children with
  | [child] =>
    if (Tree.heading t.page : Int) ≤ child.room then do
      givePages [child.page]
      return { child with page := t.page }
    else return t
  | _ => return t

/-- Lets a page share its entries with up to two neighbours. -/
def share (k : Kind) (top : Nat) (s : Step) (t : Tree) : Allocation Tree := do
  let children := s.children.set s.place t
  let count := s.entries.length
  let first :=
    if count < 2 || s.place == 0 then 0 else if s.place == count then count - 2 else s.place - 1
  let old := (children.drop first).take 3
  let between := (s.entries.drop first).take (old.length - 1)
  let gap := if k.isTable && t.isLeaf then 0 else 1
  let entries := interleave (old.map Tree.entries) (if gap = 0 then [] else between)
  let ends := Load.ends (entries.map (Tree.weight t.isLeaf)) (Tree.capacity t.isLeaf) gap
  let pages ← pagesFor (old.map Tree.page) ends.length
  let (trees, dividers) := deal gap entries (old.flatMap Tree.children) 0 (ends.zip pages)
  let above : Tree :=
    { page := s.page
      entries := s.entries.take first ++ dividers ++ s.entries.drop (first + between.length)
      children := children.take first ++ trees ++ children.drop (first + old.length) }
  let above ← if s.page = top then collapse above else pure above
  givePages ((old.drop ends.length).map Tree.page)
  return above

/-- Puts the last entry of a page onto a new one after it. -/
def spread (s : Step) (t : Tree) : Allocation Tree := do
  let page ← takePage none
  let kept := t.entries.dropLast
  let divider := kept.getLast?.map fun e => Entry.divider e.key
  let fresh : Tree := ⟨page, t.entries.drop kept.length, []⟩
  return {
    page := s.page
    entries := s.entries ++ divider.toList
    children := s.children.set s.place { t with entries := kept } ++ [fresh] }

/-- Makes room on a page, or puts more onto it. If there is too much on the last page of a table
only since the last entry came, that one gets a page of its own. -/
def mend (k : Kind) (top : Nat) (isLast : Bool) (s : Step) (t : Tree) : Allocation Tree :=
  if isLast && k.isTable && s.page != 1 && s.place == s.entries.length then spread s t
  else share k top s t

/-- Mends pages from the bottom upwards, up to the first that is as it should be. It is told whether
that is not the case for the last one. -/
def climb (k : Kind) (top : Nat) (isLast : Bool) : List Step → Tree → Allocation (Tree × Bool)
  | [], t => pure (t, true)
  | s :: rest, t =>
    if t.isSteady then pure (plug (s :: rest) t, false)
    else do climb k top false rest (← mend k top isLast s t)

namespace Tree

/-- Gives a tree one page more above the others, if there is too much on that at the top. -/
def grow (k : Kind) (isLast : Bool) (t : Tree) : Allocation Tree := do
  if t.isOverfull then
    let child := { t with page := ← takePage (some t.page) }
    mend k t.page isLast ⟨t.page, [], [child], 0⟩ child
  else return t

/-! ## Changes -/

/-- Puts an entry in its place among others, or in that of the one that has its key. -/
def put (k : Kind) (entry : Entry) (entries : List Entry) : List Entry :=
  let place := placeOf k entry.key entries
  let isSame (e : Entry) : Bool := k.order e.key entry.key == .eq
  entries.take place ++ entry :: (entries.drop place).dropWhile isSame

/-- The entry of a key among others. -/
def entry? (k : Kind) (key : Key) (entries : List Entry) : Option Entry :=
  entries[placeOf k key entries]?.filter fun e => k.order e.key key == .eq

/-- Writes a record of some length under a key. One that is as long as that which was there takes
its place. -/
def write (t : Tree) (k : Kind) (key : Key) (payload : Nat) : Allocation Tree := do
  let (path, leaf) := descend k key t []
  let old := entry? k key leaf.entries
  if old.any fun e => e.payload == payload then return t
  else
    let spill ← takePages none (k.spillCount payload)
    givePages (old.elim [] Entry.spill)
    let fresh := { Entry.ofRecord k key payload with spill }
    let leaf := { leaf with entries := put k fresh leaf.entries }
    if leaf.isOverfull then
      let isLast := leaf.entries.getLast?.any fun e => e.key == key
      let (t, _) ← climb k t.page isLast path leaf
      t.grow k (isLast && path.isEmpty)
    else return plug path leaf

/-- Takes the entry of a key out of an index that is not at the bottom: the one before it comes into
its place. -/
def eraseAbove (k : Kind) (top : Nat) (inner : List Step) (s : Step) (outer : List Step)
    (leaf : Tree) : Allocation Tree := do
  givePages (s.entry?.elim [] Entry.spill)
  let last := leaf.entries.getLast?
  let entries := s.entries.take s.place ++ last.toList ++ s.entries.drop (s.place + 1)
  let s := { s with entries }
  let (below, isOpen) ← climb k top false inner { leaf with entries := leaf.entries.dropLast }
  let t ← if isOpen && !below.isSteady then mend k top false s below else pure (s.fill below)
  let (t, _) ← climb k top false outer t
  return t

/-- Takes the entry of a key out. -/
def erase (t : Tree) (k : Kind) (key : Key) : Allocation Tree := do
  let (path, leaf) := descend k key t []
  match entry? k key leaf.entries with
  | some entry =>
    givePages entry.spill
    let leaf := { leaf with entries := leaf.entries.eraseIdx (placeOf k key leaf.entries) }
    let (t, _) ← climb k t.page false path leaf
    t.grow k false
  | none =>
    let isOther (s : Step) : Bool := !s.entry?.any fun e => k.order e.key key == .eq
    match k.isTable, path.dropWhile isOther with
    | false, s :: outer =>
      let inner := path.takeWhile isOther
      (← eraseAbove k t.page inner s outer leaf).grow k false
    | _, _ => return t

mutual

/-- The pages of a tree, in the order in which they are given back. -/
def release : Tree → List Nat
  | ⟨page, entries, children⟩ => releaseAll children (entries.map Entry.spill) ++ [page]

/-- The pages of trees with entries between them. -/
def releaseAll : List Tree → List (List Nat) → List Nat
  | [], spills => spills.flatten
  | t :: rest, spills => release t ++ spills.head?.getD [] ++ releaseAll rest (spills.drop 1)

end

/-- Empties a tree at once; the page at the top stays. -/
def clear (t : Tree) : Allocation Tree := do
  givePages (release t).dropLast
  return empty t.page

end Tree

end PooledSql.Sqlite.Pages
