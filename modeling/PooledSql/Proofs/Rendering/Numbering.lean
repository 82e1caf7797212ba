import Mathlib.Data.List.Perm.Basic
import PooledSql.Proofs.Rendering.Drafts
import PooledSql.Sql.Buffer

/-!
# The numbering of names

The names that conditions on existence take are `q1`, `q2` and so on, over everything that is written
to a buffer. That they come out in the order in which the conditions begin, that each is given once
and that it is used where it can be understood, is seen on drafts, which have numbers in place of the
names: by induction on how a draft is put together, of which there are three ways. What else a buffer
holds plays no part, nor does it matter how many names are taken before, other than that all numbers
are greater by that many.

Results:
* `entered_marks`, `given_marks`: the numbers, in the order in which the conditions begin, and as
  names are given.
* `follow_marks`, `used_within`: names are given and used within their own conditions.
* `marks_add`: with more names taken before, all numbers are greater by as many.
* `demand_writing`: a dialect that has the comparisons takes no names.
* `names_numbered`: all of that for some writings to a buffer.
-/

namespace PooledSql.Sql

namespace Mark

/-- The number of the condition that begins here. -/
def entered? : Mark → Option Nat
  | .enter _ number => some number
  | .piece _ | .given _ | .used _ | .leave _ => none

/-- The number of the name that is given here. -/
def given? : Mark → Option Nat
  | .given number => some number
  | .piece _ | .enter _ _ | .used _ | .leave _ => none

/-- The mark with a greater number. -/
def shift (more : Nat) : Mark → Mark
  | .piece p => .piece p
  | .enter negated number => .enter negated (more + number)
  | .given number => .given (more + number)
  | .used number => .used (more + number)
  | .leave number => .leave (more + number)

end Mark

/-- A condition on existence that has begun and not ended. -/
structure Scope where
  number : Nat
  /-- Its name was given. -/
  isNamed : Bool
deriving DecidableEq, Repr

/-- The conditions that are open behind a mark, inner ones first, given those that are open in front
of it. A name is given once, and only to the innermost one; and only the innermost one may end, and
its name be used, once that was given. -/
def Mark.follow? (scopes : List Scope) : Mark → Option (List Scope)
  | .piece _ => some scopes
  | .enter _ number => some (⟨number, false⟩ :: scopes)
  | .given number =>
    if scopes.head? = some ⟨number, false⟩ then some (⟨number, true⟩ :: scopes.tail) else none
  | .used number => if scopes.head? = some ⟨number, true⟩ then some scopes else none
  | .leave number => if scopes.head? = some ⟨number, true⟩ then some scopes.tail else none

/-- The conditions that are open behind some marks, if each mark may stand where it does. -/
def follow (scopes : List Scope) (marks : List Mark) : Option (List Scope) :=
  marks.foldlM Mark.follow? scopes

section Plain

variable {pieces : List Piece}

@[simp]
theorem entered_plainMarks : (plainMarks pieces).filterMap Mark.entered? = [] := by
  simp [plainMarks, Mark.entered?]

@[simp]
theorem given_plainMarks : (plainMarks pieces).filterMap Mark.given? = [] := by
  simp [plainMarks, Mark.given?]

@[simp]
theorem shift_plainMarks (more : Nat) :
    (plainMarks pieces).map (Mark.shift more) = plainMarks pieces := by
  simp [plainMarks, Mark.shift]

theorem follow_append (scopes : List Scope) (a b : List Mark) :
    follow scopes (a ++ b) = (follow scopes a).bind (follow · b) :=
  List.foldlM_append

@[simp]
theorem follow_plainMarks (scopes : List Scope) :
    follow scopes (plainMarks pieces) = some scopes := by
  induction pieces with
  | nil => rfl
  | cons p rest ih => exact ih

end Plain

namespace Draft

/-! ## What holds of every draft -/

/-- The numbers of a condition on existence: its own, then those of its sub-query and those of its
left operand. -/
theorem range'_emulated (taken members lhs : Nat) :
    List.range' (taken + 1) (members + lhs + 1) =
      (taken + 1) :: (List.range' (taken + 1 + 1) members ++
        List.range' (taken + 1 + members + 1) lhs) := by
  rw [List.range'_succ, Nat.add_right_comm (taken + 1) members 1, List.range'_append_1]

/-- The conditions get the numbers that follow those that are taken, in the order in which they
begin. -/
theorem entered_marks (x : Draft) (taken : Nat) :
    (x.marks taken).filterMap Mark.entered? = List.range' (taken + 1) x.demand := by
  induction x generalizing taken with
  | plain pieces => exact entered_plainMarks
  | append first second ih ih' =>
    rw [marks, List.filterMap_append, ih, ih', demand, Nat.add_right_comm]
    exact List.range'_append_1
  | emulated relation quantifier lhs members ihl ihm =>
    rw [demand, range'_emulated]
    simp only [marks, List.filterMap_append, entered_plainMarks, ihl, ihm]
    simp [List.filterMap_cons, Mark.entered?]

/-- Each of the names is given once. -/
theorem given_marks (x : Draft) (taken : Nat) :
    ((x.marks taken).filterMap Mark.given?).Perm (List.range' (taken + 1) x.demand) := by
  induction x generalizing taken with
  | plain pieces => rw [marks, given_plainMarks, demand, List.range'_zero]
  | append first second ih ih' =>
    rw [marks, List.filterMap_append, demand, ← List.range'_append_1, Nat.add_right_comm]
    exact (ih taken).append (ih' _)
  | emulated relation quantifier lhs members ihl ihm =>
    have order : ((emulated relation quantifier lhs members).marks taken).filterMap Mark.given? =
        (members.marks (taken + 1)).filterMap Mark.given? ++ (taken + 1) ::
          (lhs.marks (taken + 1 + members.demand)).filterMap Mark.given? := by
      simp only [marks, List.filterMap_append, given_plainMarks]
      simp [List.filterMap_cons, Mark.given?]
    -- the name is given behind the sub-query, which gives its own names first
    rw [order, demand, range'_emulated]
    exact List.perm_middle.trans (((ihm _).append (ihl _)).cons _)

/-- Every name is given, and used, while its own condition is the innermost one. -/
theorem follow_marks (x : Draft) (taken : Nat) (scopes : List Scope) :
    follow scopes (x.marks taken) = some scopes := by
  induction x generalizing taken scopes with
  | plain pieces => exact follow_plainMarks scopes
  | append first second ih ih' =>
    rw [marks, follow_append, ih]
    exact ih' _ scopes
  | emulated relation quantifier lhs members ihl ihm =>
    -- the sub-query and the left operand leave the open conditions as they find them, so at each of
    -- its own marks this condition is the innermost one
    simp only [marks, follow_append, follow_plainMarks, ihl, ihm]
    simp [follow, Mark.follow?]

/-- A name is used where its own condition is the innermost one that is open, and was given before. -/
theorem used_within {x : Draft} {taken number : Nat} {before after : List Mark}
    (split : x.marks taken = before ++ .used number :: after) :
    ∃ outer, follow [] before = some (⟨number, true⟩ :: outer) := by
  have all := x.follow_marks taken []
  rw [split, follow_append] at all
  obtain ⟨scopes, reached, rest⟩ := Option.bind_eq_some_iff.1 all
  have here : (Mark.follow? scopes (.used number)).isSome = true := by
    rw [follow, List.foldlM_cons] at rest
    obtain ⟨scopes', here, -⟩ := Option.bind_eq_some_iff.1 rest
    rw [here, Option.isSome_some]
  cases scopes with
  | nil => cases here
  | cons inner outer =>
    have same : inner = ⟨number, true⟩ := by
      by_contra other
      simp [Mark.follow?, other] at here
    exact ⟨outer, by rw [reached, same]⟩

/-- With more names taken before, the marks are the same, with greater numbers. -/
theorem marks_add (x : Draft) (more taken : Nat) :
    x.marks (more + taken) = (x.marks taken).map (Mark.shift more) := by
  induction x generalizing taken with
  | plain pieces => exact (shift_plainMarks more).symm
  | append first second ih ih' =>
    rw [marks, marks, List.map_append, ih, Nat.add_assoc, ih']
  | emulated relation quantifier lhs members ihl ihm =>
    simp only [marks, List.map_append, shift_plainMarks, Nat.add_assoc, ihl, ihm, List.map_cons,
      List.map_nil, Mark.shift]

/-- What takes no names is the same whatever names are taken. -/
theorem marks_of_demand_eq_zero {x : Draft} (none : x.demand = 0) :
    ∃ pieces, ∀ taken, x.marks taken = plainMarks pieces := by
  induction x with
  | plain pieces => exact ⟨pieces, fun _ => rfl⟩
  | append first second ih ih' =>
    rw [demand, Nat.add_eq_zero_iff] at none
    obtain ⟨before, first⟩ := ih none.1
    obtain ⟨after, second⟩ := ih' none.2
    refine ⟨before ++ after, fun taken => ?_⟩
    rw [marks, first, second, plainMarks, plainMarks, plainMarks, List.map_append]
  | emulated => cases none

end Draft

/-! ## Dialects that have the comparisons -/

section Native

open Draft

theorem demand_valuesDraft {d : Dialect} {relation : Relation} {quantifier : Quantifier}
    {lhs : Draft} {members : List Value} (none : lhs.demand = 0) :
    (valuesDraft d relation quantifier lhs members).demand = 0 := by
  unfold valuesDraft
  split
  · rfl
  · split
    · rw [demand_around, none]
    · simp [demand_joined, listDemand, Function.comp_def, none]

theorem demand_queryDraft {d : Dialect} {relation : Relation} {quantifier : Quantifier}
    {lhs members : Draft} (native : d.hasQuantifiedSubquery = true) (left : lhs.demand = 0)
    (right : members.demand = 0) : (queryDraft d relation quantifier lhs members).demand = 0 := by
  unfold queryDraft
  split
  · rw [demand_pair, left, right]
  · rw [if_pos native, demand_pair, left, right]

variable {d : Dialect}

mutual

theorem demand_scalar (native : d.hasQuantifiedSubquery = true) : (x : Scalar) →
    (Scalar.draft d x).demand = 0
  | .column _ => by rw [Scalar.draft, demand_plain]
  | .literal _ => by rw [Scalar.draft, demand_plain]
  | .subquery q => by rw [Scalar.draft, demand_around, demand_query native scalarAlias q]
  | .verbatim _ _ => by rw [Scalar.draft, demand_plain]

theorem demand_query (native : d.hasQuantifiedSubquery = true) (label : String) : (q : Query) →
    (Query.draft d label q).demand = 0
  | .select _ value filter => by
    rw [Query.draft, demand_pair, demand_scalar native value, demand_option native filter]
  | .verbatim _ _ => by rw [Query.draft, demand_plain]

/-- In a dialect that quantifies sub-queries no predicate takes a name. -/
theorem demand_predicate (native : d.hasQuantifiedSubquery = true) : (p : Predicate) →
    (Predicate.draft d p).demand = 0
  | .compare _ lhs rhs => by
    rw [Predicate.draft, demand_pair, demand_scalar native lhs, demand_scalar native rhs]
  | .collective relation lhs (.values quantifier members) => by
    rw [Predicate.draft, Collective.draft, demand_valuesDraft (demand_scalar native lhs)]
  | .collective relation lhs (.query quantifier members) => by
    rw [Predicate.draft, Collective.draft,
      demand_queryDraft native (demand_scalar native lhs) (demand_query native valueAlias members)]
  | .all parts => by rw [Predicate.draft, demand_around, demand_joined, demand_list native parts]
  | .verbatim _ _ => by rw [Predicate.draft, demand_plain]

theorem demand_option (native : d.hasQuantifiedSubquery = true) : (filter : Option Predicate) →
    (Predicate.optionDraft d filter).demand = 0
  | none => by rw [Predicate.optionDraft, demand_plain]
  | some p => by rw [Predicate.optionDraft, demand_around, demand_predicate native p]

theorem demand_list (native : d.hasQuantifiedSubquery = true) : (parts : List Predicate) →
    listDemand (Predicate.listDraft d parts) = 0
  | [] => by rw [Predicate.listDraft, listDemand, List.map_nil, List.sum_nil]
  | p :: rest => by
    rw [Predicate.listDraft, listDemand, List.map_cons, List.sum_cons, demand_predicate native p,
      ← listDemand, demand_list native rest]

end

end Native

/-! ## Writings -/

/-- The draft of a writing. -/
def Writing.draft (d : Dialect) : Writing → Draft
  | .text s => .plain [.verbatim s]
  | .column c => .plain ((Operand.column c).pieces d)
  | .value v => .plain (Piece.literal d v)
  | .table t => .plain (sourcePieces t)
  | .predicate p => Predicate.draft d p
  | .comparison relation lhs rhs => Predicate.draft d (.compare relation lhs rhs)
  | .collective relation lhs rhs => Predicate.draft d (.collective relation lhs rhs)
  | .select v label source filter => Query.draft d label (.select source v filter)
  | .query q label => Query.draft d label q

theorem realizes_writing (d : Dialect) (w : Writing) : Realizes id (w.pieces d) (w.draft d) := by
  cases w with
  | text | column | value | table => exact fun taken => ⟨(Draft.pieces_plain _).symm, rfl⟩
  | predicate p => exact realizes_predicate d p
  | comparison relation lhs rhs => exact realizes_predicate d (.compare relation lhs rhs)
  | collective relation lhs rhs => exact realizes_predicate d (.collective relation lhs rhs)
  | select v label source filter => exact realizes_query d label (.select source v filter)
  | query q label => exact realizes_query d label q

theorem demand_writing {d : Dialect} (native : d.hasQuantifiedSubquery = true) (w : Writing) :
    (w.draft d).demand = 0 := by
  cases w with
  | text | column | value | table => rfl
  | predicate p => exact demand_predicate native p
  | comparison relation lhs rhs => exact demand_predicate native (.compare relation lhs rhs)
  | collective relation lhs rhs => exact demand_predicate native (.collective relation lhs rhs)
  | select v label source filter => exact demand_query native label (.select source v filter)
  | query q label => exact demand_query native label q

/-- The draft of some writings, one after the other. -/
def draftOf (d : Dialect) (writings : List Writing) : Draft :=
  writings.foldr (fun w x => w.draft d ++ x) (.plain [])

theorem demand_draftOf {d : Dialect} (native : d.hasQuantifiedSubquery = true)
    (writings : List Writing) : (draftOf d writings).demand = 0 := by
  induction writings with
  | nil => rfl
  | cons w rest ih =>
    rw [draftOf, List.foldr_cons, ← draftOf, Draft.demand_append, demand_writing native w, ih]

/-- Writes one after the other. -/
def Buffer.writeAll (b : Buffer) (writings : List Writing) : Buffer :=
  writings.foldl (fun b w => (b.write w).2) b

/-- One writing moves the counter by its demand and adds the spelling of its draft. -/
theorem write_eq (b : Buffer) (w : Writing) :
    (b.write w).2 = ⟨b.dialect, b.taken + (w.draft b.dialect).demand,
      b.text ++ String.ofList (spell ((w.draft b.dialect).pieces b.taken))⟩ := by
  obtain ⟨written, next⟩ := realizes_writing b.dialect w b.taken
  rw [← written, ← next]
  rfl

/-- Writings in a row move the counter by all their demands and add all their spellings. -/
theorem writeAll_eq (b : Buffer) (writings : List Writing) :
    b.writeAll writings = ⟨b.dialect, b.taken + (draftOf b.dialect writings).demand,
      b.text ++ String.ofList (spell ((draftOf b.dialect writings).pieces b.taken))⟩ := by
  induction writings generalizing b with
  | nil => simp [Buffer.writeAll, draftOf, spell]
  | cons w rest ih =>
    have later := ih (b.write w).2
    rw [write_eq] at later
    have both : draftOf b.dialect (w :: rest) = w.draft b.dialect ++ draftOf b.dialect rest := rfl
    rw [Buffer.writeAll, List.foldl_cons, ← Buffer.writeAll, write_eq, later, both,
      Draft.demand_append, Draft.pieces_append, spell_append, String.ofList_append,
      String.append_assoc, Nat.add_assoc]

/-- Whatever is written to a buffer, whatever it held and however many names were taken, the draft of
the writings tells what is added, and takes as many names as there are in it. The conditions on
existence have the names that follow those taken before, in the order in which they begin; each name
is given once; and it is given and used where its own condition is the innermost one. The marks are
those for no names taken before, with every number greater by as many as were. In a dialect that has
the comparisons there are no names, and what is added is always the same. -/
theorem names_numbered (b : Buffer) (writings : List Writing) :
    let x := draftOf b.dialect writings
    b.writeAll writings = ⟨b.dialect, b.taken + x.demand,
        b.text ++ String.ofList (spell ((x.marks b.taken).flatMap Mark.pieces))⟩ ∧
      (x.marks b.taken).filterMap Mark.entered? = List.range' (b.taken + 1) x.demand ∧
      ((x.marks b.taken).filterMap Mark.given?).Perm (List.range' (b.taken + 1) x.demand) ∧
      follow [] (x.marks b.taken) = some [] ∧
      (∀ before number after, x.marks b.taken = before ++ .used number :: after →
        ∃ outer, follow [] before = some (⟨number, true⟩ :: outer)) ∧
      x.marks b.taken = (x.marks 0).map (Mark.shift b.taken) ∧
      (b.dialect.hasQuantifiedSubquery = true → x.demand = 0 ∧
        ∃ pieces, ∀ taken, x.marks taken = plainMarks pieces) := by
  intro x
  refine ⟨writeAll_eq b writings, x.entered_marks _, x.given_marks _, x.follow_marks _ [],
    fun _ _ _ => Draft.used_within, x.marks_add b.taken 0, fun native => ?_⟩
  have none : x.demand = 0 := demand_draftOf native writings
  exact ⟨none, Draft.marks_of_demand_eq_zero none⟩

/-- A left operand that takes a name takes another one for each member that it is compared with, if
the dialect lacks the comparison. -/
theorem names_numbered_repeated :
    let t : Table := ⟨"t", "t", [⟨⟨1⟩, "t", "x"⟩]⟩
    let least : Predicate :=
      .collective .lessOrEqual (.column ⟨⟨1⟩, "t", "x"⟩) (.query .all (.verbatim "SELECT 2" []))
    let lhs : Scalar := .subquery (.select t (.literal (.integer 1)) (some least))
    let w : Writing := .collective .less lhs (.values .some [.integer 3, .integer 4])
    ((Buffer.mk .sqlite 5 "").writeAll [w, w]).taken = 9 ∧
      (((draftOf .sqlite [w, w]).marks 5).filterMap Mark.given?).Perm [6, 7, 8, 9] ∧
      Dialect.postgres.hasQuantifiedSubquery = true ∧ (draftOf .postgres [w, w]).demand = 0 := by
  intro t least lhs w
  have native : Dialect.postgres.hasQuantifiedSubquery = true := rfl
  obtain ⟨written, -, given, -⟩ := names_numbered ⟨.sqlite, 5, ""⟩ [w, w]
  obtain ⟨-, -, -, -, -, -, plain⟩ := names_numbered ⟨.postgres, 5, ""⟩ [w, w]
  exact ⟨by rw [written]; decide, given, native, (plain native).1⟩

end PooledSql.Sql
