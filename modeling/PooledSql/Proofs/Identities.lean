import Mathlib.Algebra.Group.Nat.Defs
import Mathlib.Data.List.Nodup
import PooledSql.Table

/-!
# Identities tell columns apart

A program declares tables, and copies the ones it has. All declarations draw on one count, also those
that fail: the identities that were handed out before the fault are gone, and no later table gets them.

So the identities of all tables that a program ever holds go up in the order in which they are handed
out, two tables share one only if they are copies of one declaration, and a column is known by its
identity alone. That is what allows sets of columns to be sets of identities.

Results:
* `declareColumns_ids`: a construction takes consecutive identities and gives its columns those.
* `orderly_run`: what holds of the tables and the count after any run.
* `ids_tell_apart`: identities go up, are not shared, and say which column it is.
-/

namespace PooledSql

/-! ## Identities from a count -/

namespace ColumnId

/-- The identities that are handed out while the count goes from `first` to `past`. -/
def between (first past : Nat) : List ColumnId := (List.range' first (past - first)).map ColumnId.mk

/-- The identity as a word of 64 bits. -/
def word (c : ColumnId) : UInt64 := .ofNat c.number

@[simp]
theorem between_self (n : Nat) : between n n = [] := by simp [between]

theorem mem_between {c : ColumnId} {first past : Nat} :
    c ∈ between first past ↔ first ≤ c.number ∧ c.number < past := by
  cases c with
  | mk number =>
    simp only [between, List.mem_map, List.mem_range'_1, mk.injEq, exists_eq_right]
    omega

theorem between_ascending (first past : Nat) : ColumnSet.Ascending (between first past) :=
  List.Pairwise.map _ (fun _ _ less => less) List.pairwise_lt_range'

theorem between_append {first middle past : Nat} (le : first ≤ middle) (le' : middle ≤ past) :
    between first middle ++ between middle past = between first past := by
  have ends : middle = first + 1 * (middle - first) := by omega
  have parts : past - first = middle - first + (past - middle) := by omega
  rw [between, between, between, ← List.map_append, parts, ← List.range'_append, ← ends]

theorem between_succ (n : Nat) : between n (n + 1) = [⟨n⟩] := by simp [between]

theorem toNat_word {c : ColumnId} (fits : c.number < 2 ^ 64) : c.word.toNat = c.number :=
  UInt64.toNat_ofNat_of_lt fits

end ColumnId

namespace Table

/-- A construction takes consecutive identities, and if it succeeds its columns have just these. -/
theorem declareColumns_ids (name label : String) (next : Nat) (accepted : List Column)
    (names : List String) :
    next ≤ (declareColumns name label next accepted names).2 ∧
      ∀ columns, (declareColumns name label next accepted names).1 = .ok columns →
        columns.map Column.id = accepted.map Column.id ++
          ColumnId.between next (declareColumns name label next accepted names).2 := by
  fun_induction declareColumns name label next accepted names with
  | case1 next accepted => simp
  | case2 => simp
  | case3 => simp
  | case4 next accepted first rest notBlank notTaken ih =>
    obtain ⟨later, ids⟩ := ih
    refine ⟨by omega, fun columns made => ?_⟩
    rw [ids columns made, ← ColumnId.between_append (Nat.le_succ next) later,
      ColumnId.between_succ]
    simp

/-- A declaration gives no id back, and if it succeeds those it took are its columns'. -/
theorem declare_ids (next : Nat) (name label : String) (names : List String) :
    next ≤ (declare next name label names).2 ∧
      ∀ t, (declare next name label names).1 = .ok t →
        t.columns.map Column.id = ColumnId.between next (declare next name label names).2 := by
  unfold declare
  split
  · simp
  · split
    · simp
    · obtain ⟨later, ids⟩ := declareColumns_ids name label next [] names
      split
      · rename_i columns after made
        rw [made] at later ids
        refine ⟨later, fun t same => ?_⟩
        cases same
        simpa using ids columns rfl
      · rename_i made
        rw [made] at later
        exact ⟨later, by simp⟩

end Table

/-! ## Programs that make tables -/

/-- Something that a program does about tables. -/
inductive Making
  | declare (name label : String) (columns : List String)
  /-- The table at a place among those that it holds is copied. -/
  | copy (place : Nat)

/-- A table that a program holds, with the number of the declaration that it comes from. -/
structure Holding where
  origin : Nat
  table : Table
deriving DecidableEq, Repr

/-- The tables that a program holds, and the identities that were handed out so far, in order. -/
structure Workshop where
  next : Nat := 1
  handedOut : List ColumnId := []
  declarations : Nat := 0
  held : List Holding := []
deriving DecidableEq, Repr

namespace Workshop

/-- A table is declared, which may fail. -/
def declare (w : Workshop) (name label : String) (columns : List String) : Workshop :=
  let (made, after) := Table.declare w.next name label columns
  { next := after
    handedOut := w.handedOut ++ ColumnId.between w.next after
    declarations := w.declarations + 1
    held := match made with
      | .ok t => w.held ++ [⟨w.declarations, t⟩]
      | .error _ => w.held }

/-- A table is copied, if there is one. -/
def copy (w : Workshop) (place : Nat) : Workshop :=
  { w with held := w.held ++ w.held[place]?.toList }

/-- What is done. -/
def step (w : Workshop) : Making → Workshop
  | .declare name label columns => w.declare name label columns
  | .copy place => w.copy place

/-- The workshop after everything that is done. -/
def run (makings : List Making) : Workshop := makings.foldl step {}

/-- What holds of the tables and the count. -/
structure Orderly (w : Workshop) : Prop where
  start : 1 ≤ w.next
  handedOut : w.handedOut = ColumnId.between 1 w.next
  /-- Nothing is held of a declaration that is still to come. -/
  origins : ∀ h ∈ w.held, h.origin < w.declarations
  ascending : ∀ h ∈ w.held, ColumnSet.Ascending (h.table.columns.map Column.id)
  known : ∀ h ∈ w.held, ∀ c ∈ h.table.columns, c.id ∈ w.handedOut
  /-- What comes from one declaration is one table. -/
  together : ∀ h ∈ w.held, ∀ h' ∈ w.held, h.origin = h'.origin → h.table = h'.table
  /-- What comes from a later one has greater identities. -/
  increasing : ∀ h ∈ w.held, ∀ h' ∈ w.held, h.origin < h'.origin →
    ∀ c ∈ h.table.columns, ∀ c' ∈ h'.table.columns, c.id.number < c'.id.number

theorem orderly_start : Orderly {} where
  start := Nat.le_refl 1
  handedOut := rfl
  origins := by simp
  ascending := by simp
  known := by simp
  together := by simp
  increasing := by simp

/-- Whoever holds no table that was not held before is in order, whatever the count has come to. -/
theorem Orderly.of_held {w w' : Workshop} (h : w.Orderly) (later : w.next ≤ w'.next)
    (handedOut : w'.handedOut = w.handedOut ++ ColumnId.between w.next w'.next)
    (declarations : w.declarations ≤ w'.declarations) (held : ∀ x ∈ w'.held, x ∈ w.held) :
    w'.Orderly where
  start := Nat.le_trans h.start later
  handedOut := by rw [handedOut, h.handedOut, ColumnId.between_append h.start later]
  origins x hx := Nat.lt_of_lt_of_le (h.origins x (held x hx)) declarations
  ascending x hx := h.ascending x (held x hx)
  known x hx c hc := by
    rw [handedOut]
    exact List.mem_append_left _ (h.known x (held x hx) c hc)
  together x hx x' hx' := h.together x (held x hx) x' (held x' hx')
  increasing x hx x' hx' := h.increasing x (held x hx) x' (held x' hx')

theorem orderly_copy {w : Workshop} (h : w.Orderly) (place : Nat) : (w.copy place).Orderly := by
  refine h.of_held (Nat.le_refl _) (by simp [copy]) (Nat.le_refl _) fun x hx => ?_
  rcases List.mem_append.1 hx with held | copied
  · exact held
  · exact List.mem_of_getElem? (Option.mem_toList.1 copied)

/-- A table with the identities that were handed out last is new. -/
theorem Orderly.add {w : Workshop} (h : w.Orderly) {after : Nat} (later : w.next ≤ after) {t : Table}
    (ids : t.columns.map Column.id = ColumnId.between w.next after) :
    Orderly
      { next := after
        handedOut := w.handedOut ++ ColumnId.between w.next after
        declarations := w.declarations + 1
        held := w.held ++ [⟨w.declarations, t⟩] } := by
  have new : ∀ c ∈ t.columns, c.id ∈ ColumnId.between w.next after := fun c hc =>
    ids ▸ List.mem_map_of_mem hc
  have greater : ∀ x ∈ w.held, ∀ c ∈ x.table.columns, ∀ c' ∈ t.columns,
      c.id.number < c'.id.number := by
    intro x hx c hc c' hc'
    have before := h.known x hx c hc
    rw [h.handedOut, ColumnId.mem_between] at before
    have after := (ColumnId.mem_between.1 (new c' hc')).1
    omega
  have old : Orderly
      { w with
        next := after
        handedOut := w.handedOut ++ ColumnId.between w.next after
        declarations := w.declarations + 1 } :=
    h.of_held later rfl (Nat.le_succ _) fun _ hx => hx
  refine ⟨old.start, old.handedOut, ?_, ?_, ?_, ?_, ?_⟩
  · exact List.forall_mem_append.2 ⟨old.origins, by simp⟩
  · refine List.forall_mem_append.2 ⟨old.ascending, List.forall_mem_singleton.2 ?_⟩
    rw [ids]
    exact ColumnId.between_ascending _ _
  · refine List.forall_mem_append.2 ⟨old.known, List.forall_mem_singleton.2 fun c hc => ?_⟩
    exact List.mem_append_right _ (new c hc)
  · intro x hx x' hx' same
    rcases List.mem_append.1 hx with hx | hx <;> rcases List.mem_append.1 hx' with hx' | hx'
    · exact h.together x hx x' hx' same
    · have := h.origins x hx
      rw [same, List.mem_singleton.1 hx'] at this
      exact absurd this (Nat.lt_irrefl _)
    · have := h.origins x' hx'
      rw [← same, List.mem_singleton.1 hx] at this
      exact absurd this (Nat.lt_irrefl _)
    · rw [List.mem_singleton.1 hx, List.mem_singleton.1 hx']
  · intro x hx x' hx' earlier c hc c' hc'
    rcases List.mem_append.1 hx with hx | hx <;> rcases List.mem_append.1 hx' with hx' | hx'
    · exact h.increasing x hx x' hx' earlier c hc c' hc'
    · rw [List.mem_singleton.1 hx'] at hc'
      exact greater x hx c hc c' hc'
    · have := h.origins x' hx'
      rw [List.mem_singleton.1 hx] at earlier
      exact absurd (Nat.lt_trans earlier this) (Nat.lt_irrefl _)
    · rw [List.mem_singleton.1 hx, List.mem_singleton.1 hx'] at earlier
      exact absurd earlier (Nat.lt_irrefl _)

theorem orderly_declare {w : Workshop} (h : w.Orderly) (name label : String)
    (columns : List String) : (w.declare name label columns).Orderly := by
  obtain ⟨later, ids⟩ := Table.declare_ids w.next name label columns
  unfold declare
  cases made : (Table.declare w.next name label columns).1 with
  | ok t =>
    simp only [made]
    exact h.add later (ids t made)
  | error fault =>
    -- the count goes on although there is no table
    simp only [made]
    exact h.of_held later rfl (Nat.le_succ _) fun _ hx => hx

/-- Whatever is made, the ids stay in order. -/
theorem orderly_step {w : Workshop} (h : w.Orderly) (m : Making) : (w.step m).Orderly := by
  cases m with
  | declare name label columns => exact orderly_declare h name label columns
  | copy place => exact orderly_copy h place

/-- What holds of the tables and the count after any run. -/
theorem orderly_run (makings : List Making) : (run makings).Orderly := by
  have from' {w : Workshop} (h : w.Orderly) : (makings.foldl step w).Orderly := by
    induction makings generalizing w with
    | nil => exact h
    | cons m rest ih => exact ih (orderly_step h m)
  exact from' orderly_start

namespace Orderly

variable {w : Workshop}

/-- A table provides one identity per column, in their order. -/
theorem exports_eq (h : w.Orderly) {x : Holding} (hx : x ∈ w.held) :
    x.table.exports = x.table.columns.map Column.id :=
  ColumnSet.ofList_eq_self (h.ascending x hx)

/-- What comes from different declarations shares no identity. -/
theorem apart (h : w.Orderly) {x x' : Holding} (hx : x ∈ w.held) (hx' : x' ∈ w.held)
    (other : x.origin ≠ x'.origin) {c c' : Column} (hc : c ∈ x.table.columns)
    (hc' : c' ∈ x'.table.columns) : c.id ≠ c'.id := by
  intro same
  rcases Nat.lt_or_gt_of_ne other with earlier | later
  · exact Nat.ne_of_lt (h.increasing x hx x' hx' earlier c hc c' hc') (by rw [same])
  · exact Nat.ne_of_lt (h.increasing x' hx' x hx later c' hc' c hc) (by rw [same])

/-- A column is known by its identity. -/
theorem column_eq (h : w.Orderly) {x x' : Holding} (hx : x ∈ w.held) (hx' : x' ∈ w.held)
    {c c' : Column} (hc : c ∈ x.table.columns) (hc' : c' ∈ x'.table.columns) (same : c.id = c'.id) :
    c = c' := by
  by_cases origin : x.origin = x'.origin
  · rw [← h.together x hx x' hx' origin] at hc'
    exact List.inj_on_of_nodup_map (h.ascending x hx).nodup hc hc' same
  · exact absurd same (h.apart hx hx' origin hc hc')

/-- As long as the count fits in a word, so do the identities. -/
theorem toNat_word (h : w.Orderly) (fits : w.next ≤ 2 ^ 64) {c : ColumnId} (hc : c ∈ w.handedOut) :
    c.word.toNat = c.number := by
  rw [h.handedOut, ColumnId.mem_between] at hc
  exact ColumnId.toNat_word (by omega)

end Orderly

/-- Whatever tables a program declares and copies, also where declarations fail: the identities that
are handed out go up; a table provides one for each of its columns, in their order; tables of one
declaration provide the same, those of a later one greater identities, and those of different ones
nothing in common; and columns are equal exactly if their identities are. As words of 64 bits the
identities go up and tell the columns apart as well, as long as the count fits in a word. -/
theorem ids_tell_apart (makings : List Making) :
    let w := run makings
    ColumnSet.Ascending w.handedOut ∧
      (∀ x ∈ w.held, x.table.exports = x.table.columns.map Column.id ∧
        ColumnSet.Ascending x.table.exports ∧ x.table.exports ⊆ w.handedOut) ∧
      (∀ x ∈ w.held, ∀ x' ∈ w.held,
        (x.origin = x'.origin → x.table.exports = x'.table.exports) ∧
          (x.origin < x'.origin →
            ∀ a ∈ x.table.exports, ∀ b ∈ x'.table.exports, a.number < b.number) ∧
          (x.origin ≠ x'.origin → x.table.exports.Disjoint x'.table.exports)) ∧
      (∀ x ∈ w.held, ∀ x' ∈ w.held, ∀ c ∈ x.table.columns, ∀ c' ∈ x'.table.columns,
        (c = c' ↔ c.id = c'.id)) ∧
      (w.next ≤ 2 ^ 64 →
        w.handedOut.Pairwise (fun a b => a.word < b.word) ∧
          ∀ x ∈ w.held, ∀ x' ∈ w.held, ∀ c ∈ x.table.columns, ∀ c' ∈ x'.table.columns,
            (c = c' ↔ c.id.word = c'.id.word)) := by
  intro w
  have h : w.Orderly := orderly_run makings
  have ascending : ColumnSet.Ascending w.handedOut := h.handedOut ▸ ColumnId.between_ascending 1 _
  have exported {x : Holding} (hx : x ∈ w.held) {a : ColumnId} (ha : a ∈ x.table.exports) :
      ∃ c ∈ x.table.columns, c.id = a :=
    List.mem_map.1 (h.exports_eq hx ▸ ha)
  refine ⟨ascending, fun x hx => ⟨h.exports_eq hx, ?_, ?_⟩, fun x hx x' hx' => ⟨?_, ?_, ?_⟩, ?_, ?_⟩
  · rw [h.exports_eq hx]
    exact h.ascending x hx
  · intro a ha
    obtain ⟨c, hc, rfl⟩ := exported hx ha
    exact h.known x hx c hc
  · intro origin
    rw [h.together x hx x' hx' origin]
  · intro earlier a ha b hb
    obtain ⟨c, hc, rfl⟩ := exported hx ha
    obtain ⟨c', hc', rfl⟩ := exported hx' hb
    exact h.increasing x hx x' hx' earlier c hc c' hc'
  · intro other a ha ha'
    obtain ⟨c, hc, rfl⟩ := exported hx ha
    obtain ⟨c', hc', same⟩ := exported hx' ha'
    exact h.apart hx hx' other hc hc' same.symm
  · exact fun x hx x' hx' c hc c' hc' =>
      ⟨fun same => same ▸ rfl, h.column_eq hx hx' hc hc'⟩
  · intro fits
    refine ⟨ascending.imp_of_mem fun ha hb less => ?_, fun x hx x' hx' c hc c' hc' =>
      ⟨fun same => same ▸ rfl, fun same => h.column_eq hx hx' hc hc' ?_⟩⟩
    · rwa [UInt64.lt_iff_toNat_lt, h.toNat_word fits ha, h.toNat_word fits hb]
    · have numbers : c.id.number = c'.id.number := by
        rw [← h.toNat_word fits (h.known x hx c hc), same, h.toNat_word fits (h.known x' hx' c' hc')]
      cases idOf : c.id
      cases idOf' : c'.id
      simp_all

/-- Orders are declared, declared again with one name for two columns, copied, and declared under
another name. The identity that the fault left behind is nobody's. -/
theorem ids_tell_apart_orders :
    let w := run [.declare "orders" "orders" ["id", "total"], .declare "orders" "o2" ["id", "id"],
      .copy 0, .declare "orders" "o2" ["id"]]
    w.next = 5 ∧ w.handedOut = [⟨1⟩, ⟨2⟩, ⟨3⟩, ⟨4⟩] ∧
      w.held.map (fun x => x.table.exports) = [[⟨1⟩, ⟨2⟩], [⟨1⟩, ⟨2⟩], [⟨4⟩]] ∧
      w.handedOut.Pairwise (fun a b => a.word < b.word) := by
  intro w
  have next : w.next = 5 := by decide
  obtain ⟨-, -, -, -, words⟩ := ids_tell_apart [.declare "orders" "orders" ["id", "total"],
    .declare "orders" "o2" ["id", "id"], .copy 0, .declare "orders" "o2" ["id"]]
  have fits : w.next ≤ 2 ^ 64 := by omega
  exact ⟨next, by decide, by decide, (words fits).1⟩

end Workshop

end PooledSql
