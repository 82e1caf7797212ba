/-!
# Column identities

Every column of every occurrence of a table has an identity of its own, a number that is handed out
once. Sets of them are kept as ascending lists without repetition.

Results:
* `mem_union`, `mem_without`, `mem_ofList`: membership in the sets that are built.
* `insert_ascending`: inserting keeps a list ascending, and so does whatever is built from that.
* `ofList_eq_self`: an ascending list is the set of its members.
-/

namespace PooledSql

/-- The identity of a column: `exprn::column::ColumnId`. -/
structure ColumnId where
  number : Nat
deriving DecidableEq, Repr

/-- A set of columns, in ascending order: `exprn::column::ColumnIdSet`. -/
abbrev ColumnSet := List ColumnId

namespace ColumnSet

/-- The set with one column more. -/
def insert (c : ColumnId) : ColumnSet → ColumnSet
  | [] => [c]
  | d :: s =>
    if c.number < d.number then c :: d :: s
    else if c = d then d :: s
    else d :: insert c s

/-- The set of the columns of a list. -/
def ofList (columns : List ColumnId) : ColumnSet := columns.foldr insert []

/-- The set with some columns more. -/
def extend (s : ColumnSet) (columns : List ColumnId) : ColumnSet := columns.foldr insert s

/-- The columns of either set: `exprn::column::set_union`. Those of the smaller one are added to the
greater one. -/
def union (a b : ColumnSet) : ColumnSet := if a.length < b.length then b.extend a else a.extend b

/-- The columns of the first set that are not in the second. -/
def without (a b : ColumnSet) : ColumnSet := a.filter fun c => !b.contains c

@[simp]
theorem mem_insert {c d : ColumnId} {s : ColumnSet} : d ∈ insert c s ↔ d = c ∨ d ∈ s := by
  induction s with
  | nil => simp [insert]
  | cons e s ih =>
    simp only [insert]
    split
    · simp
    · split
      · rename_i h
        subst h
        simp
      · simp only [List.mem_cons, ih]
        grind

theorem mem_extend {d : ColumnId} {s : ColumnSet} {columns : List ColumnId} :
    d ∈ s.extend columns ↔ d ∈ columns ∨ d ∈ s := by
  induction columns with
  | nil => simp [extend]
  | cons c r ih =>
    simp only [extend, List.foldr_cons, mem_insert, List.mem_cons, or_assoc] at ih ⊢
    rw [ih]

@[simp]
theorem mem_ofList {d : ColumnId} {columns : List ColumnId} : d ∈ ofList columns ↔ d ∈ columns :=
  (mem_extend (s := [])).trans (or_iff_left List.not_mem_nil)

/-- The union holds what either set holds, whichever of the two is the larger. -/
@[simp]
theorem mem_union {d : ColumnId} {a b : ColumnSet} : d ∈ union a b ↔ d ∈ a ∨ d ∈ b := by
  unfold union
  split
  · exact mem_extend
  · rw [mem_extend, or_comm]

@[simp]
theorem mem_without {d : ColumnId} {a b : ColumnSet} : d ∈ without a b ↔ d ∈ a ∧ d ∉ b := by
  simp [without]

/-- Ascending numbers, each greater than the ones before it. -/
def Ascending (s : ColumnSet) : Prop := s.Pairwise fun a b => a.number < b.number

theorem Ascending.nodup {s : ColumnSet} (h : Ascending s) : s.Nodup :=
  h.imp fun less same => Nat.ne_of_lt less (congrArg ColumnId.number same)

/-- Inserting keeps the columns in the order of their ids, so a set is always one list. -/
theorem insert_ascending {c : ColumnId} {s : ColumnSet} (h : Ascending s) :
    Ascending (insert c s) := by
  induction s with
  | nil => simp [insert, Ascending]
  | cons d s ih =>
    have hd := List.pairwise_cons.1 h
    simp only [insert]
    split
    · rename_i hlt
      refine List.pairwise_cons.2 ⟨fun x hx => ?_, h⟩
      rcases List.mem_cons.1 hx with rfl | hx
      · exact hlt
      · exact Nat.lt_trans hlt (hd.1 x hx)
    · split
      · exact h
      · rename_i hge hne
        refine List.pairwise_cons.2 ⟨fun x hx => ?_, ih hd.2⟩
        rcases mem_insert.1 hx with rfl | hx
        · have : x.number ≠ d.number := fun he => hne (by cases x; cases d; simp_all)
          omega
        · exact hd.1 x hx

theorem extend_ascending {s : ColumnSet} (h : Ascending s) (columns : List ColumnId) :
    Ascending (s.extend columns) := by
  induction columns with
  | nil => exact h
  | cons c r ih => exact insert_ascending ih

theorem ofList_ascending (columns : List ColumnId) : Ascending (ofList columns) :=
  extend_ascending .nil columns

/-- The union of two sets is a set again. -/
theorem union_ascending {a b : ColumnSet} (ha : Ascending a) (hb : Ascending b) :
    Ascending (union a b) := by
  unfold union
  split
  · exact extend_ascending hb a
  · exact extend_ascending ha b

theorem without_ascending {a : ColumnSet} (h : Ascending a) (b : ColumnSet) :
    Ascending (without a b) := h.filter _

theorem insert_eq_cons {c : ColumnId} {s : ColumnSet} (h : ∀ d ∈ s, c.number < d.number) :
    insert c s = c :: s := by
  cases s with
  | nil => rfl
  | cons d s => rw [insert, if_pos (h d List.mem_cons_self)]

/-- An ascending list is the set of its members. -/
theorem ofList_eq_self {s : ColumnSet} (h : Ascending s) : ofList s = s := by
  induction s with
  | nil => rfl
  | cons c s ih =>
    obtain ⟨least, rest⟩ := List.pairwise_cons.1 h
    have tail : s.foldr insert [] = s := ih rest
    rw [ofList, List.foldr_cons, tail, insert_eq_cons least]

end ColumnSet

end PooledSql
