import Mathlib.Data.List.Induction
import Mathlib.Data.List.Nodup
import PooledSql.Proofs.Identities

/-!
# Tables that can be declared

The columns of a table are looked at one after the other: each must not be blank and must not have the
name of one before it. Each that is in order gets the next identity, and those are not given back if a
later one is not. So what is reported is the first fault, and the count has gone on by as many columns as
there are in front of it; and a table comes about exactly if there is no fault, with columns that are
found by their names.

Results:
* `numbered_ascending`: consecutive identities go up, and stay apart as words.
* `declareColumns_append`: columns that are in order are accepted, whatever follows them.
* `areNames_or_firstFault`: names are those of a table, or there is a first fault.
* `declare_of_reported`: what is reported of each kind of fault.
* `declares_iff`: which tables there are, what they are like, and what is reported else.
-/

namespace PooledSql.Table

/-! ## Names of columns -/

/-- The columns of one table can have these names: none is blank, and none is there twice. -/
structure AreNames (names : List String) : Prop where
  notBlank : ∀ n ∈ names, Text.isBlank n = false
  distinct : names.Nodup

/-- A column is the first that a table cannot have: those before it are in order, and it is blank or has
the name of one of them. -/
structure FirstFault (names before : List String) (column : String) : Prop where
  isPart : before ++ [column] <+: names
  inOrder : AreNames before
  fault : Text.isBlank column = true ∨ column ∈ before

theorem areNames_nil : AreNames [] := ⟨by simp, List.nodup_nil⟩

theorem areNames_concat {names : List String} {n : String} :
    AreNames (names ++ [n]) ↔ AreNames names ∧ Text.isBlank n = false ∧ n ∉ names := by
  constructor
  · intro h
    have distinct := List.nodup_append.1 h.distinct
    refine ⟨⟨fun m hm => h.notBlank m (List.mem_append_left _ hm), distinct.1⟩,
      h.notBlank n (by simp), fun hn => ?_⟩
    exact distinct.2.2 n hn n (by simp) rfl
  · rintro ⟨h, notBlank, new⟩
    refine ⟨List.forall_mem_append.2 ⟨h.notBlank, by simpa using notBlank⟩, ?_⟩
    exact List.concat_eq_append ▸ h.distinct.concat new

/-- Names are those of a table, or there is a first fault. -/
theorem areNames_or_firstFault (names : List String) :
    AreNames names ∨ ∃ before column, FirstFault names before column := by
  induction names using List.reverseRecOn with
  | nil => exact .inl areNames_nil
  | append_singleton names n ih =>
    rcases ih with inOrder | ⟨before, column, first⟩
    · by_cases fault : Text.isBlank n = true ∨ n ∈ names
      · exact .inr ⟨names, n, List.prefix_refl _, inOrder, fault⟩
      · rw [not_or, Bool.not_eq_true] at fault
        exact .inl (areNames_concat.2 ⟨inOrder, fault⟩)
    · have longer := first.isPart.trans (List.prefix_append names [n])
      exact .inr ⟨before, column, longer, first.inOrder, first.fault⟩

/-! ## Columns in order -/

/-- Columns of the given names with consecutive identities from `next` on. -/
def numbered (label : String) (next : Nat) : List String → List Column
  | [] => []
  | name :: rest => ⟨⟨next⟩, label, name⟩ :: numbered label (next + 1) rest

@[simp]
theorem map_name_numbered (label : String) (next : Nat) (names : List String) :
    (numbered label next names).map Column.name = names := by
  induction names generalizing next with
  | nil => rfl
  | cons name rest ih => rw [numbered, List.map_cons, ih]

theorem table_of_mem_numbered {label : String} {next : Nat} {names : List String} {c : Column}
    (hc : c ∈ numbered label next names) : c.table = label := by
  induction names generalizing next with
  | nil => cases hc
  | cons name rest ih =>
    rcases List.mem_cons.1 hc with rfl | later
    · rfl
    · exact ih later

theorem map_id_numbered (label : String) (next : Nat) (names : List String) :
    (numbered label next names).map Column.id = ColumnId.between next (next + names.length) := by
  induction names generalizing next with
  | nil => exact (ColumnId.between_self next).symm
  | cons name rest ih =>
    have past : next + (name :: rest).length = next + 1 + rest.length := by
      rw [List.length_cons]
      omega
    have parts := ColumnId.between_append (Nat.le_succ next) (Nat.le_add_right (next + 1) rest.length)
    rw [numbered, List.map_cons, ih, past, ← parts, ColumnId.between_succ]
    rfl

theorem numbered_ascending (label : String) (next : Nat) (names : List String) :
    (numbered label next names).Pairwise fun a b => a.id.number < b.id.number := by
  have ascending := ColumnId.between_ascending next (next + names.length)
  rwa [← map_id_numbered label, ColumnSet.Ascending, List.pairwise_map] at ascending

theorem numbered_words_ascending {label : String} {next : Nat} {names : List String}
    (fits : next + names.length ≤ 2 ^ 64) :
    (numbered label next names).Pairwise fun a b => a.id.word < b.id.word := by
  have bounded : ∀ c ∈ numbered label next names, c.id.number < 2 ^ 64 := by
    intro c hc
    have known := List.mem_map_of_mem (f := Column.id) hc
    rw [map_id_numbered] at known
    exact Nat.lt_of_lt_of_le (ColumnId.mem_between.1 known).2 fits
  refine (numbered_ascending label next names).imp_of_mem fun ha hb less => ?_
  rwa [UInt64.lt_iff_toNat_lt, ColumnId.toNat_word (bounded _ ha),
    ColumnId.toNat_word (bounded _ hb)]

/-- Columns that are in order are accepted, whatever follows them. -/
theorem declareColumns_append (name label : String) (next : Nat) (accepted : List Column)
    {names rest : List String} (inOrder : AreNames (accepted.map Column.name ++ names)) :
    declareColumns name label next accepted (names ++ rest) =
      declareColumns name label (next + names.length) (accepted ++ numbered label next names)
        rest := by
  induction names generalizing next accepted with
  | nil => simp [numbered]
  | cons n names ih =>
    have notBlank : Text.isBlank n = false := inOrder.notBlank n (by simp)
    have new : (accepted.any fun c => c.name == n) = false := by
      rw [List.any_eq_false]
      intro c hc same
      have apart := (List.nodup_append.1 inOrder.distinct).2.2
      exact apart c.name (List.mem_map_of_mem hc) n List.mem_cons_self (by simpa using same)
    have onward := ih (next + 1) (accepted ++ [⟨⟨next⟩, label, n⟩]) (by simpa using inOrder)
    rw [List.cons_append, declareColumns, notBlank, new, onward, List.length_cons, numbered,
      List.append_assoc, List.singleton_append, Nat.add_assoc, Nat.add_comm 1]
    simp

section

variable {name label : String} {names : List String} (next : Nat)

/-- Names in order are all declared, with ids in a row. -/
theorem declareColumns_of_areNames (inOrder : AreNames names) :
    declareColumns name label next [] names =
      (.ok (numbered label next names), next + names.length) := by
  have accepted : declareColumns name label next [] (names ++ []) = _ :=
    declareColumns_append name label next [] (by simpa using inOrder)
  rwa [List.append_nil] at accepted

/-- At the first fault, the ids of the names before it are used up. -/
theorem declareColumns_of_firstFault {before : List String} {column : String}
    (first : FirstFault names before column) :
    declareColumns name label next [] names =
      (.error (if Text.isBlank column then .blankColumn name else .duplicateColumn column name),
        next + before.length) := by
  obtain ⟨rest, rfl⟩ := first.isPart
  have taken : ((numbered label next before).any fun c => c.name == column) = true ↔
      column ∈ before := by
    simp only [List.any_eq_true, beq_iff_eq]
    rw [← List.mem_map, map_name_numbered]
  rw [List.append_assoc, declareColumns_append name label next [] (by simpa using first.inOrder),
    List.singleton_append, declareColumns, List.nil_append]
  by_cases blank : Text.isBlank column = true
  · rw [if_pos blank, if_pos blank]
  · rw [if_neg blank, if_neg blank, if_pos (taken.2 (first.fault.resolve_left blank))]

/-! ## Tables -/

theorem declare_of_named (named : Text.isBlank name = false) (labelled : Text.isBlank label = false)
    (some : names ≠ []) :
    declare next name label names =
      match declareColumns name label next [] names with
      | (.ok columns, after) => (.ok ⟨name, label, columns⟩, after)
      | (.error fault, after) => (.error fault, after) := by
  have notEmpty : names.isEmpty = false := by simpa using some
  rw [declare, named, labelled, notEmpty]
  rfl

theorem declare_of_areNames (named : Text.isBlank name = false)
    (labelled : Text.isBlank label = false) (some : names ≠ []) (inOrder : AreNames names) :
    declare next name label names =
      (.ok ⟨name, label, numbered label next names⟩, next + names.length) := by
  rw [declare_of_named next named labelled some, declareColumns_of_areNames next inOrder]

end

/-- What is reported of a table that cannot be, and how many identities are gone by then. -/
inductive Reported (name label : String) (names : List String) : ExpressionFault → Nat → Prop
  | blankTableName (blank : Text.isBlank name = true ∨ Text.isBlank label = true) :
    Reported name label names .blankTableName 0
  | noColumns (named : Text.isBlank name = false) (labelled : Text.isBlank label = false)
      (none : names = []) : Reported name label names (.noColumns name) 0
  | blankColumn (named : Text.isBlank name = false) (labelled : Text.isBlank label = false)
      {before : List String} {column : String} (first : FirstFault names before column)
      (blank : Text.isBlank column = true) :
    Reported name label names (.blankColumn name) before.length
  | duplicateColumn (named : Text.isBlank name = false) (labelled : Text.isBlank label = false)
      {before : List String} {column : String} (first : FirstFault names before column)
      (notBlank : Text.isBlank column = false) :
    Reported name label names (.duplicateColumn column name) before.length

section

variable {name label : String} {names : List String}

theorem FirstFault.names_ne_nil {before : List String} {column : String}
    (first : FirstFault names before column) : names ≠ [] := by
  rintro rfl
  simpa using first.isPart

/-- What is reported of each kind of fault. -/
theorem declare_of_reported {fault : ExpressionFault} {gone : Nat} (next : Nat)
    (reported : Reported name label names fault gone) :
    declare next name label names = (.error fault, next + gone) := by
  cases reported with
  | blankTableName blank =>
    have blank : (Text.isBlank name || Text.isBlank label) = true := by simpa using blank
    rw [declare, if_pos blank]
    rfl
  | noColumns named labelled none =>
    rw [declare, named, labelled, none]
    rfl
  | blankColumn named labelled first blank =>
    rw [declare_of_named next named labelled first.names_ne_nil,
      declareColumns_of_firstFault next first, if_pos blank]
  | duplicateColumn named labelled first notBlank =>
    rw [declare_of_named next named labelled first.names_ne_nil,
      declareColumns_of_firstFault next first, notBlank]
    rfl

/-- The names make a table, or something is reported. -/
theorem named_or_reported (name label : String) (names : List String) :
    (Text.isBlank name = false ∧ Text.isBlank label = false ∧ names ≠ [] ∧ AreNames names) ∨
      ∃ fault gone, Reported name label names fault gone := by
  cases named : Text.isBlank name with
  | true => exact .inr ⟨_, _, .blankTableName (.inl named)⟩
  | false =>
    cases labelled : Text.isBlank label with
    | true => exact .inr ⟨_, _, .blankTableName (.inr labelled)⟩
    | false =>
      by_cases none : names = []
      · exact .inr ⟨_, _, .noColumns named labelled none⟩
      rcases areNames_or_firstFault names with inOrder | ⟨before, column, first⟩
      · exact .inl ⟨rfl, rfl, none, inOrder⟩
      · cases blank : Text.isBlank column with
        | true => exact .inr ⟨_, _, .blankColumn named labelled first blank⟩
        | false => exact .inr ⟨_, _, .duplicateColumn named labelled first blank⟩

/-! ## Finding columns -/

/-- If no two columns have the same name, a column is found exactly by its name. -/
theorem column_eq_ok_iff {t : Table} (distinct : (t.columns.map Column.name).Nodup) {n : String}
    {c : Column} : t.column n = .ok c ↔ c ∈ t.columns ∧ c.name = n := by
  refine ⟨column_mem, fun ⟨hc, named⟩ => ?_⟩
  unfold column
  split
  · rename_i found
    have named' := List.find?_some found
    have same := List.inj_on_of_nodup_map distinct (List.mem_of_find?_eq_some found) hc
      ((by simpa using named' : _ = n).trans named.symm)
    rw [same]
  · rename_i missing
    exact absurd (by simpa using named) (List.find?_eq_none.1 missing c hc)

/-- A name finds the column at its own place. -/
theorem column_of_getElem? {t : Table} (distinct : (t.columns.map Column.name).Nodup) {i : Nat}
    {n : String} (found : (t.columns.map Column.name)[i]? = some n) :
    ∃ c, t.columns[i]? = some c ∧ t.column n = .ok c := by
  rw [List.getElem?_map] at found
  obtain ⟨c, there, named⟩ := Option.map_eq_some_iff.1 found
  exact ⟨c, there, (column_eq_ok_iff distinct).2 ⟨List.mem_of_getElem? there, named⟩⟩

theorem column_eq_error {t : Table} {n : String} (missing : n ∉ t.columns.map Column.name) :
    t.column n = .error (.unknownColumn n t.label) := by
  unfold column
  split
  · rename_i found
    have named := List.find?_some found
    exact absurd (List.mem_map.2 ⟨_, List.mem_of_find?_eq_some found, by simpa using named⟩) missing
  · rfl

end

/-- A table can be declared exactly if its name and the name that it goes by are not blank, it has
columns, none of them is blank, and no two of them have the same name. Then its columns have the given
names, in their order, with identities that go up, as words of 64 bits too as long as the count fits in
one; and each is found by its name, and by no other name anything. Else the first fault is reported, and
the count has gone on by as many columns as there are in front of it. -/
theorem declares_iff (next : Nat) (name label : String) (names : List String) :
    let made := declare next name label names
    ((∃ t, made.1 = .ok t) ↔
        Text.isBlank name = false ∧ Text.isBlank label = false ∧ names ≠ [] ∧ AreNames names) ∧
      (∀ t, made.1 = .ok t →
        t.name = name ∧ t.label = label ∧ made.2 = next + names.length ∧
          t.columns.map Column.name = names ∧ (∀ c ∈ t.columns, c.table = label) ∧
          t.columns.Pairwise (fun a b => a.id.number < b.id.number) ∧
          (made.2 ≤ 2 ^ 64 → t.columns.Pairwise fun a b => a.id.word < b.id.word) ∧
          (∀ (i : Nat) n, names[i]? = some n → ∃ c, t.columns[i]? = some c ∧ t.column n = .ok c) ∧
          ∀ n, n ∉ names → t.column n = .error (.unknownColumn n label)) ∧
      ∀ fault after, made = (.error fault, after) ↔
        ∃ gone, Reported name label names fault gone ∧ after = next + gone := by
  intro made
  rcases named_or_reported name label names with ⟨named, labelled, some, inOrder⟩ |
      ⟨fault, gone, reported⟩
  · have declared : made = _ := declare_of_areNames next named labelled some inOrder
    refine ⟨⟨fun _ => ⟨named, labelled, some, inOrder⟩, fun _ => ⟨_, by rw [declared]⟩⟩,
      fun t isMade => ?_, fun fault after => ⟨fun failed => ?_, ?_⟩⟩
    · rw [declared] at isMade ⊢
      cases isMade
      have names' := map_name_numbered label next names
      have distinct : ((numbered label next names).map Column.name).Nodup :=
        names'.symm ▸ inOrder.distinct
      refine ⟨rfl, rfl, rfl, names', fun c => table_of_mem_numbered, numbered_ascending _ _ _,
        numbered_words_ascending, fun i n found => ?_, fun n missing => ?_⟩
      · exact column_of_getElem? (t := ⟨name, label, _⟩) distinct (names'.symm ▸ found)
      · exact column_eq_error (t := ⟨name, label, _⟩) (names'.symm ▸ missing)
    · rw [declared] at failed
      cases failed
    · rintro ⟨gone, reported, rfl⟩
      have failed := declare_of_reported next reported
      rw [show declare next name label names = made from rfl, declared] at failed
      cases failed
  · have failed : made = _ := declare_of_reported next reported
    refine ⟨⟨?_, ?_⟩, fun t isMade => ?_, fun fault' after => ⟨fun failed' => ?_, ?_⟩⟩
    · rintro ⟨t, isMade⟩
      rw [failed] at isMade
      cases isMade
    · rintro ⟨named, labelled, given, inOrder⟩
      have declared := declare_of_areNames next named labelled given inOrder
      rw [show declare next name label names = made from rfl, failed] at declared
      cases declared
    · rw [failed] at isMade
      cases isMade
    · rw [failed] at failed'
      cases failed'
      exact ⟨gone, reported, rfl⟩
    · rintro ⟨gone', reported', rfl⟩
      exact declare_of_reported next reported'

/-- A table of two columns, and one that would have a name twice and a blank one after that. -/
theorem declares_iff_orders :
    (∃ t, (declare 1 "orders" "o" ["id", "total"]).1 = .ok t ∧
      t.column "total" = .ok ⟨⟨2⟩, "o", "total"⟩) ∧
      declare 3 "orders" "o" ["id", "total", "id", ""] =
        (.error (.duplicateColumn "id" "orders"), 3 + 2) := by
  have inOrder : AreNames ["id", "total"] := ⟨by decide, by decide⟩
  obtain ⟨accepts, described, -⟩ := declares_iff 1 "orders" "o" ["id", "total"]
  obtain ⟨t, made⟩ := accepts.2 ⟨by decide, by decide, by simp, inOrder⟩
  obtain ⟨-, -, -, -, -, -, -, found, -⟩ := described t made
  have first : FirstFault ["id", "total", "id", ""] ["id", "total"] "id" :=
    ⟨⟨[""], rfl⟩, inOrder, .inr (by simp)⟩
  refine ⟨⟨t, made, ?_⟩, ((declares_iff 3 "orders" "o" _).2.2 _ _).2
    ⟨2, .duplicateColumn (by decide) (by decide) first (by decide), rfl⟩⟩
  obtain ⟨c, there, known⟩ := found 1 "total" rfl
  have columns : t.columns = numbered "o" 1 ["id", "total"] := by
    rw [declare_of_areNames 1 rfl rfl (by simp) inOrder] at made
    cases made
    rfl
  rw [columns] at there
  cases there
  exact known

end PooledSql.Table
