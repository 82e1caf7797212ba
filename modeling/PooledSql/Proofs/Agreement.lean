import PooledSql.Proofs.Meaning
import PooledSql.Proofs.Rendering.Denotations

/-!
# Both dialects mean the same

The text that a dialect has for a predicate is split into tokens, these are read as symbols, grouped by
the precedence of SQL, and taken with three truth values. Only what the names denote is not read from the
text but noted beside it: which column a reference is to, and which columns a table provides. What comes
out is true where the predicate holds and nowhere else, in either dialect, although the dialects write
comparisons with a sub-query in different ways.

Results:
* `reads_condition`: the text of a predicate is read as the condition that it was written for, with the
  values that its literals state.
* `dialects_agree`: the texts are true alike, and exactly where the predicate holds.
-/

namespace PooledSql

theorem Contents.literal_stated {V : Type} (w : Contents V) (v : Value) :
    w.literal v.stated = w.literal v := by
  cases v with
  | real x => cases finite : x.isFinite <;> simp [Value.stated, literal, Value.isAbsent, finite]
  | null | boolean | integer | text | blob => rfl

namespace Sql

/-- Read in the dialect, the text of the predicate is the condition. Its tokens, which are those that
the tree prescribes, are read as symbols from what they say, literals included, with a note for what each
reference and each table denotes; and the symbols are grouped by precedence. -/
def ReadsAs (d : Dialect) (p : Predicate) (c : Condition) : Prop :=
  ∃ s units, tokens d (toSql d p) = .ok s ∧ s = tokensOfSymbols d (symbols d p) ∧
    readUnits s.length (denotations d p) s = some units ∧ read units = some c

/-- The text of a predicate is read as the condition that it was written for. -/
theorem reads_condition {p : Predicate} (d : Dialect) (own : p.isOwn = true) :
    ReadsAs d p (condition d p).stated.normal := by
  have readable : (condition d p).isReadable = true := readable_encode d own
  refine ⟨_, (condition d p).stated.symbols, tokens_toSql own, rfl, ?_, ?_⟩
  · rw [denotations, ← symbols_encode d own]
    exact readUnits_condition d readable (Nat.le_refl _)
  · exact read_symbols ((isReadable_stated _).trans readable)

theorem keepsStated_reading {V : Type} (w : Contents V) : w.reading.KeepsStated where
  literal := w.literal_stated
  rows _ _ _ _ _ _ := rfl

/-- The condition that a predicate is written as, in its normal form, holds when the predicate does.
-/
theorem isYes_normal {V : Type} (w : Contents V) (d : Dialect) (p : Predicate)
    (s : Surroundings V) :
    ((condition d p).stated.normal.truth w.reading s).isYes = p.holds w s.columns := by
  rw [truth_normal (fun _ _ _ _ _ => rfl), truth_stated (keepsStated_reading w)]
  exact means_predicate w d p 0 s

/-- Whatever a database holds, the texts of the dialects are true alike, and exactly where the
predicate holds. -/
theorem dialects_agree {p : Predicate} (own : p.isOwn = true) :
    ∃ lite native : Condition, ReadsAs .sqlite p lite ∧ ReadsAs .postgres p native ∧
      ∀ {V : Type} (w : Contents V) (s : Surroundings V),
        (lite.truth w.reading s = .yes ↔ native.truth w.reading s = .yes) ∧
          (lite.truth w.reading s = .yes ↔ p.holds w s.columns = true) := by
  refine ⟨_, _, reads_condition .sqlite own, reads_condition .postgres own, fun w s => ?_⟩
  rw [← Truth.isYes_iff, ← Truth.isYes_iff, isYes_normal, isYes_normal]
  exact ⟨Iff.rfl, Iff.rfl⟩

/-- An order whose total is greater than each of its payments in a state below some of those given;
neither every payment nor every state is known. -/
def exceedsPayments : Predicate :=
  .collective .greater (.column ⟨⟨1⟩, "orders", "total"⟩)
    (.query .all
      (.select ⟨"payments", "p", [⟨⟨2⟩, "p", "amount"⟩, ⟨⟨3⟩, "p", "state"⟩]⟩
        (.column ⟨⟨2⟩, "p", "amount"⟩)
        (some (.collective .less (.column ⟨⟨3⟩, "p", "state"⟩)
          (.values .some [.integer 3, .null])))))

/-- Integers, and in every table a payment of 5 in state 1 and an unknown one in state 4. -/
def payments : Contents Int where
  rows _ := [fun c => some (if c.number = 2 then 5 else 1),
    fun c => if c.number = 2 then none else some 4]
  constant v := match v with
    | .integer n => n.toInt
    | _ => 0
  related relation a b := relation.holds (Ord.compare a b)
  single _ := none
  related_notEqual _ _ := rfl
  related_integers m n := by
    rw [Relation.holds, Bool.eq_iff_iff, decide_eq_true_iff, beq_iff_eq, Int.compare_eq_eq,
      Int64.toInt_inj]

/-- An order of 7 exceeds the one payment that counts, in both dialects. -/
theorem dialects_agree_payments : exceedsPayments.isOwn = true ∧
    ∃ lite native : Condition,
      ReadsAs .sqlite exceedsPayments lite ∧ ReadsAs .postgres exceedsPayments native ∧
        lite.truth payments.reading ⟨fun _ => some 7, fun _ => none⟩ = .yes ∧
          native.truth payments.reading ⟨fun _ => some 7, fun _ => none⟩ = .yes := by
  have own : exceedsPayments.isOwn = true := rfl
  have holds : exceedsPayments.holds payments (fun _ => some 7) = true := by decide
  obtain ⟨lite, native, readsLite, readsNative, agree⟩ := dialects_agree own
  have both := agree payments ⟨fun _ => some 7, fun _ => none⟩
  exact ⟨own, lite, native, readsLite, readsNative, both.2.2 holds, both.1.1 (both.2.2 holds)⟩

end Sql

end PooledSql
