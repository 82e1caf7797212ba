import Mathlib.Data.List.Infix
import Mathlib.Data.List.Perm.Basic
import PooledSql.Sessions

/-!
# Where connections are

A connection that was opened is in reserve, or held by a session, or closed. Every operation moves
connections between these places, and none of them loses one or makes one.

Results:
* `release_cases`, `dropOwner_cases`: where a connection goes when its session is over, and when it
  is over.
* `places_issue`, `places_dropOwner`, `places_reset`, `places_dropPool`: what each operation does to
  the connections in all places together.
-/

namespace PooledSql

namespace Hub

/-- The connections that sessions hold, by their numbers with the factory. -/
def held (h : Hub) : List Nat := h.issued.filterMap Session.cell

/-- The connections in all places, by their numbers with the factory. -/
def places (h : Hub) : List Nat := h.pool.reserve.map Connection.serial ++ h.held ++ h.closed

/-! ## Cases -/

/-- The session is over: it has neither an owner nor a connection. -/
def vacate (h : Hub) (s : SessionId) : Hub :=
  { h with issued := h.issued.modify s fun x => { x with owners := 0, cell := none } }

/-- The session has one owner less. -/
def leave (h : Hub) (s : SessionId) : Hub :=
  { h with issued := h.issued.modify s fun x => { x with owners := x.owners - 1 } }

/-- The session has one owner more. -/
def join (h : Hub) (s : SessionId) : Hub :=
  { h with issued := h.issued.modify s fun x => { x with owners := x.owners + 1 } }

/-- A released connection goes to the front of the reserve if the pool is there and at the epoch of
the session, and is closed otherwise. -/
theorem release_cases (h : Hub) (c : Connection) (epoch : Nat) :
    (h.alive = true ∧ h.pool.epoch = epoch ∧
      h.release c epoch = { h with pool := { h.pool with reserve := c :: h.pool.reserve } }.note
        (.returned c.id epoch)) ∨
    (h.alive = true ∧ h.pool.epoch ≠ epoch ∧
      h.release c epoch =
        { h with
          pool := { h.pool with discarded := h.pool.discarded + 1 }
          closed := h.closed ++ [c.serial] }.note (.discarded c.id epoch h.pool.epoch)) ∨
    (h.alive = false ∧ h.release c epoch = { h with closed := h.closed ++ [c.serial] }) := by
  cases alive : h.alive with
  | false =>
    refine .inr (.inr ⟨rfl, ?_⟩)
    simp [release, alive]
  | true =>
    by_cases same : h.pool.epoch = epoch
    · refine .inl ⟨rfl, same, ?_⟩
      simp only [release, alive, if_true, Pool.giveBack, same]
    · refine .inr (.inl ⟨rfl, same, ?_⟩)
      simp only [release, alive, if_true, Pool.giveBack, if_neg same]

theorem cloneOwner_of_live {h : Hub} {s : SessionId} (live : h.isLive s = true) :
    h.cloneOwner s = h.join s := by
  rw [cloneOwner, if_pos live]
  rfl

/-- What becomes of a session that loses an owner. -/
theorem dropOwner_cases (h : Hub) (s : SessionId) :
    (h.owners s = 0 ∧ h.dropOwner s = h) ∨
    (∃ x, h.issued[s]? = some x ∧ 1 < x.owners ∧ h.dropOwner s = h.leave s) ∨
    (∃ x, h.issued[s]? = some x ∧ x.owners = 1 ∧ x.cell = none ∧ h.dropOwner s = h.vacate s) ∨
    ∃ x serial, h.issued[s]? = some x ∧ x.owners = 1 ∧ x.cell = some serial ∧
      h.dropOwner s = (h.vacate s).release ⟨x.id, serial⟩ x.epoch := by
  cases found : h.issued[s]? with
  | none =>
    refine .inl ⟨?_, ?_⟩
    · simp [owners, found]
    · simp only [dropOwner, found]
  | some x =>
    by_cases zero : x.owners = 0
    · refine .inl ⟨?_, ?_⟩
      · simp [owners, found, zero]
      · simp only [dropOwner, found, if_pos zero]
    · by_cases one : x.owners = 1
      · refine .inr (.inr ?_)
        simp only [dropOwner, found, if_neg zero, if_pos one]
        cases holds : x.cell with
        | none => exact .inl ⟨x, rfl, one, holds, rfl⟩
        | some serial => exact .inr ⟨x, serial, rfl, one, holds, rfl⟩
      · refine .inr (.inl ⟨x, rfl, by omega, ?_⟩)
        simp only [dropOwner, found, if_neg zero, if_neg one]
        rfl

@[simp]
theorem issued_release (h : Hub) (c : Connection) (epoch : Nat) :
    (h.release c epoch).issued = h.issued := by
  rcases release_cases h c epoch with ⟨-, -, e⟩ | ⟨-, -, e⟩ | ⟨-, e⟩ <;> rw [e] <;> rfl

/-! ## What sessions hold -/

theorem connection?_eq_some {h : Hub} {s : SessionId} {n : Nat} :
    h.connection? s = some n ↔ ∃ x, h.issued[s]? = some x ∧ x.cell = some n :=
  Option.bind_eq_some_iff

/-- A connection is held exactly if it is some session's. -/
theorem mem_held_iff {h : Hub} {n : Nat} : n ∈ h.held ↔ ∃ s, h.connection? s = some n := by
  rw [held, List.mem_filterMap]
  constructor
  · rintro ⟨x, there, holds⟩
    obtain ⟨s, found⟩ := List.mem_iff_getElem?.1 there
    exact ⟨s, connection?_eq_some.2 ⟨x, found, holds⟩⟩
  · rintro ⟨s, here⟩
    obtain ⟨x, found, holds⟩ := connection?_eq_some.1 here
    exact ⟨x, List.mem_of_getElem? found, holds⟩

theorem filterMap_modify_eq {α β : Type} {f : α → α} {g : α → Option β}
    (same : ∀ a, g (f a) = g a) (l : List α) (i : Nat) :
    (l.modify i f).filterMap g = l.filterMap g := by
  induction l generalizing i with
  | nil => simp
  | cons a rest ih =>
    cases i with
    | zero => simp [List.filterMap_cons, same]
    | succ i => simp [List.filterMap_cons, ih]

theorem filterMap_modify_none {α β : Type} {f : α → α} {g : α → Option β} {l : List α} {i : Nat}
    {a : α} (found : l[i]? = some a) (none' : ∀ a, g (f a) = none) :
    (l.filterMap g).Perm ((g a).toList ++ (l.modify i f).filterMap g) := by
  induction l generalizing i with
  | nil => simp at found
  | cons b rest ih =>
    cases i with
    | zero =>
      obtain rfl : b = a := by simpa using found
      simp only [List.modify_zero_cons, List.filterMap_cons, none']
      cases g b <;> exact List.Perm.refl _
    | succ i =>
      have onward := ih (i := i) (by simpa using found)
      simp only [List.modify_succ_cons, List.filterMap_cons]
      cases g b with
      | none => exact onward
      | some c => exact (onward.cons c).trans (List.perm_middle.symm)

theorem held_leave (h : Hub) (s : SessionId) : (h.leave s).held = h.held :=
  filterMap_modify_eq (f := fun x : Session => { x with owners := x.owners - 1 })
    (g := Session.cell) (fun _ => rfl) h.issued s

theorem held_join (h : Hub) (s : SessionId) : (h.join s).held = h.held :=
  filterMap_modify_eq (f := fun x : Session => { x with owners := x.owners + 1 })
    (g := Session.cell) (fun _ => rfl) h.issued s

theorem held_vacate {h : Hub} {s : SessionId} {x : Session} (found : h.issued[s]? = some x) :
    h.held.Perm (x.cell.toList ++ (h.vacate s).held) :=
  filterMap_modify_none found fun _ => rfl

theorem held_issue (h : Hub) (c : Connection) (epoch : Nat) :
    (h.issue c epoch).2.held = h.held ++ [c.serial] := by
  simp [held, issue]

/-! ## All places together -/

theorem count_places (h : Hub) (a : Nat) :
    h.places.count a = (h.pool.reserve.map Connection.serial).count a + h.held.count a +
      h.closed.count a := by
  rw [places, List.count_append, List.count_append]

theorem places_cloneOwner (h : Hub) (s : SessionId) : (h.cloneOwner s).places = h.places := by
  by_cases live : h.isLive s = true
  · rw [cloneOwner_of_live live, places, held_join]
    rfl
  · rw [cloneOwner, if_neg live]

/-- The connection of a new session is one place more. -/
theorem places_issue (h : Hub) (c : Connection) (epoch : Nat) :
    (h.issue c epoch).2.places.Perm (c.serial :: h.places) := by
  refine List.perm_iff_count.2 fun a => ?_
  rw [count_places, held_issue, List.count_append, List.count_singleton, List.count_cons,
    count_places]
  simp only [issue]
  omega

/-- A connection that is released goes to the reserve or is closed, so it is in one place more. -/
theorem places_release (h : Hub) (c : Connection) (epoch : Nat) :
    (h.release c epoch).places.Perm (c.serial :: h.places) := by
  have closed : (h.pool.reserve.map Connection.serial ++ h.held ++ (h.closed ++ [c.serial])).Perm
      (c.serial :: h.places) := by
    rw [← List.append_assoc]
    exact List.perm_append_singleton _ _
  rcases release_cases h c epoch with ⟨-, -, e⟩ | ⟨-, -, e⟩ | ⟨-, e⟩
  · rw [e]
    exact List.Perm.refl _
  · rw [e]
    exact closed
  · rw [e]
    exact closed

theorem places_vacate {h : Hub} {s : SessionId} {x : Session} (found : h.issued[s]? = some x) :
    h.places.Perm (x.cell.toList ++ (h.vacate s).places) := by
  refine List.perm_iff_count.2 fun a => ?_
  have moved := (held_vacate found).count_eq a
  rw [List.count_append] at moved
  rw [List.count_append, count_places, count_places, moved]
  simp only [vacate]
  omega

/-- Losing an owner neither loses a connection nor makes one. -/
theorem places_dropOwner (h : Hub) (s : SessionId) : (h.dropOwner s).places.Perm h.places := by
  rcases dropOwner_cases h s with ⟨-, e⟩ | ⟨x, -, -, e⟩ | ⟨x, found, -, holds, e⟩ |
      ⟨x, serial, found, -, holds, e⟩
  · rw [e]
  · rw [e, places, held_leave]
    exact List.Perm.refl _
  · have moved := places_vacate found
    rw [holds] at moved
    rw [e]
    exact moved.symm
  · have moved := places_vacate found
    rw [holds] at moved
    rw [e]
    exact (places_release _ _ _).trans moved.symm

theorem places_close (h : Hub) :
    (h.held ++ (h.closed ++ h.pool.reserve.map Connection.serial)).Perm h.places := by
  refine List.perm_iff_count.2 fun a => ?_
  rw [List.count_append, List.count_append, count_places]
  omega

/-- A reset moves the idle connections to the closed ones and loses none. -/
theorem places_reset (h : Hub) : h.reset.places.Perm h.places := places_close h

theorem places_dropPool (h : Hub) : h.dropPool.places.Perm h.places := by
  unfold dropPool
  split
  · exact places_close h
  · exact List.Perm.refl _

/-! ## Sessions by their names -/

/-- The id and the epoch of every session ever issued. -/
def issues (h : Hub) : List (Nat × Nat) := h.issued.map fun x => (x.id, x.epoch)

theorem length_issued {h h' : Hub} (same : h'.issues = h.issues) :
    h'.issued.length = h.issued.length := by
  have lengths := congrArg List.length same
  rwa [issues, issues, List.length_map, List.length_map] at lengths

theorem issues_of_issued {h : Hub} {s : SessionId} {x : Session} (found : h.issued[s]? = some x) :
    h.issues[s]? = some (x.id, x.epoch) := by
  rw [issues, List.getElem?_map, found]
  rfl

theorem issues_issue (h : Hub) (c : Connection) (epoch : Nat) :
    (h.issue c epoch).2.issues = h.issues ++ [(c.id, epoch)] := by
  simp [issues, issue]

theorem map_modify_eq {α β : Type} {f : α → α} {g : α → β} (same : ∀ a, g (f a) = g a)
    (l : List α) (i : Nat) : (l.modify i f).map g = l.map g := by
  have same' (a : α) : (some ∘ g) (f a) = (some ∘ g) a := congrArg some (same a)
  rw [← List.filterMap_eq_map]
  exact filterMap_modify_eq same' l i

theorem issues_cloneOwner (h : Hub) (s : SessionId) : (h.cloneOwner s).issues = h.issues := by
  by_cases live : h.isLive s = true
  · rw [cloneOwner_of_live live]
    exact map_modify_eq (f := fun x : Session => { x with owners := x.owners + 1 })
      (fun _ => rfl) h.issued s
  · rw [cloneOwner, if_neg live]

theorem issues_dropOwner (h : Hub) (s : SessionId) : (h.dropOwner s).issues = h.issues := by
  have vacated : (h.vacate s).issues = h.issues :=
    map_modify_eq (f := fun x : Session => { x with owners := 0, cell := none })
      (fun _ => rfl) h.issued s
  rcases dropOwner_cases h s with ⟨-, e⟩ | ⟨x, -, -, e⟩ | ⟨x, -, -, -, e⟩ | ⟨x, serial, -, -, -, e⟩
  · rw [e]
  · rw [e]
    exact map_modify_eq (f := fun x : Session => { x with owners := x.owners - 1 })
      (fun _ => rfl) h.issued s
  · rw [e, vacated]
  · rw [e, issues, issued_release]
    exact vacated

theorem issues_dropPool (h : Hub) : h.dropPool.issues = h.issues := by
  unfold dropPool
  split <;> rfl

/-! ## Sessions that have ended -/

theorem owners_issue (h : Hub) (c : Connection) (epoch : Nat) (s : SessionId) :
    (h.issue c epoch).2.owners s = if s = h.issued.length then 1 else h.owners s := by
  simp only [Hub.owners, Hub.issue]
  rcases Nat.lt_trichotomy s h.issued.length with short | rfl | long
  · rw [if_neg (Nat.ne_of_lt short), List.getElem?_append_left short]
  · simp
  · have beyond : (h.issued ++ [(⟨c.id, epoch, 1, some c.serial⟩ : Session)]).length ≤ s := by
      rw [List.length_append]
      exact long
    rw [if_neg (Nat.ne_of_gt long), List.getElem?_eq_none beyond,
      List.getElem?_eq_none (Nat.le_of_lt long)]

theorem lt_of_isLive {h : Hub} {s : SessionId} (live : h.isLive s = true) :
    s < h.issued.length := by
  refine Nat.lt_of_not_le fun beyond => ?_
  simp [isLive, owners, List.getElem?_eq_none beyond] at live

/-- There may be more sessions, but none that has ended comes back. -/
structure Fades (h h' : Hub) : Prop where
  more : h.issued.length ≤ h'.issued.length
  live : ∀ s < h.issued.length, h'.isLive s = true → h.isLive s = true

theorem Fades.trans {a b c : Hub} (h : a.Fades b) (h' : b.Fades c) : a.Fades c where
  more := Nat.le_trans h.more h'.more
  live s old alive := h.live s old (h'.live s (Nat.lt_of_lt_of_le old h.more) alive)

theorem fades_of_issued {h h' : Hub} (same : h'.issued = h.issued) : h.Fades h' where
  more := Nat.le_of_eq (congrArg List.length same.symm)
  live s _ alive := by
    rw [isLive, owners, same] at alive
    exact alive

theorem fades_issue {h h' : Hub} (same : h'.issued = h.issued) (c : Connection) (epoch : Nat) :
    h.Fades (h'.issue c epoch).2 := by
  refine (fades_of_issued same).trans ⟨(List.prefix_append _ _).length_le, fun s old alive => ?_⟩
  rw [isLive, owners_issue, if_neg (Nat.ne_of_lt old)] at alive
  exact alive

theorem fades_cloneOwner (h : Hub) (s : SessionId) : h.Fades (h.cloneOwner s) where
  more := Nat.le_of_eq (length_issued (issues_cloneOwner h s)).symm
  live t _ alive := by
    rw [isLive, owners_cloneOwner] at alive
    split at alive
    · rename_i both
      exact both.1 ▸ both.2
    · exact alive

/-- A session that is over does not come back when an owner leaves. -/
theorem fades_dropOwner (h : Hub) (s : SessionId) : h.Fades (h.dropOwner s) where
  more := Nat.le_of_eq (length_issued (issues_dropOwner h s)).symm
  live t _ alive := by
    rw [isLive, owners_dropOwner, bne_iff_ne] at alive
    rw [isLive, bne_iff_ne]
    split at alive <;> omega

/-! ## What gaining an owner leaves alone -/

theorem pool_cloneOwner (h : Hub) (s : SessionId) :
    (h.cloneOwner s).alive = h.alive ∧ (h.cloneOwner s).pool = h.pool := by
  unfold cloneOwner
  split <;> exact ⟨rfl, rfl⟩

theorem closed_cloneOwner (h : Hub) (s : SessionId) : (h.cloneOwner s).closed = h.closed := by
  unfold cloneOwner
  split <;> rfl

/-! ## What losing an owner leaves alone -/

theorem forall_mem_modify {α : Type} {P : α → Prop} {f : α → α} {l : List α} {i : Nat}
    (h : ∀ a ∈ l, P a) (changed : ∀ a, l[i]? = some a → P (f a)) : ∀ a ∈ l.modify i f, P a := by
  intro a ha
  obtain ⟨j, hj⟩ := List.mem_iff_getElem?.1 ha
  rw [List.getElem?_modify] at hj
  obtain ⟨b, hb, rfl⟩ := Option.map_eq_some_iff.1 hj
  by_cases e : i = j
  · subst e
    simpa using changed b hb
  · simpa [e] using h b (List.mem_of_getElem? hb)

/-- A property of sessions is kept if it is by losing one owner of many and by losing the last. -/
theorem forall_issued_dropOwner {P : Session → Prop} {h : Hub} {s : SessionId}
    (all : ∀ x ∈ h.issued, P x)
    (one : ∀ x, h.issued[s]? = some x → 1 < x.owners → P { x with owners := x.owners - 1 })
    (last : ∀ x, h.issued[s]? = some x → x.owners = 1 → P { x with owners := 0, cell := none }) :
    ∀ x ∈ (h.dropOwner s).issued, P x := by
  rcases dropOwner_cases h s with ⟨-, e⟩ | ⟨x, found, many, e⟩ | ⟨x, found, single, -, e⟩ |
      ⟨x, serial, found, single, -, e⟩
  · rwa [e]
  · rw [e]
    refine forall_mem_modify all fun y hy => one y hy ?_
    rw [found] at hy
    cases hy
    exact many
  · rw [e]
    refine forall_mem_modify all fun y hy => last y hy ?_
    rw [found] at hy
    cases hy
    exact single
  · rw [e, issued_release]
    refine forall_mem_modify all fun y hy => last y hy ?_
    rw [found] at hy
    cases hy
    exact single

/-- A property of idle connections is kept if the one that comes back to a pool at its session's
epoch has it. -/
theorem forall_reserve_dropOwner {P : Connection → Prop} {h : Hub} {s : SessionId}
    (all : ∀ c ∈ h.pool.reserve, P c)
    (back : ∀ x serial, h.issued[s]? = some x → x.cell = some serial → h.pool.epoch = x.epoch →
      P ⟨x.id, serial⟩) :
    ∀ c ∈ (h.dropOwner s).pool.reserve, P c := by
  rcases dropOwner_cases h s with ⟨-, e⟩ | ⟨x, -, -, e⟩ | ⟨x, -, -, -, e⟩ |
      ⟨x, serial, found, -, holds, e⟩
  · rwa [e]
  · rwa [e]
  · rwa [e]
  · rw [e]
    rcases release_cases (h.vacate s) ⟨x.id, serial⟩ x.epoch with ⟨-, same, r⟩ | ⟨-, -, r⟩ | ⟨-, r⟩
    · rw [r]
      intro c hc
      rcases List.mem_cons.1 hc with rfl | old
      · exact back x serial found holds same
      · exact all c old
    · rwa [r]
    · rwa [r]

theorem pool_dropOwner (h : Hub) (s : SessionId) :
    (h.dropOwner s).alive = h.alive ∧ (h.dropOwner s).pool.opened = h.pool.opened ∧
      (h.dropOwner s).pool.epoch = h.pool.epoch := by
  rcases dropOwner_cases h s with ⟨-, e⟩ | ⟨x, -, -, e⟩ | ⟨x, -, -, -, e⟩ | ⟨x, serial, -, -, -, e⟩
  · rw [e]
    exact ⟨rfl, rfl, rfl⟩
  · rw [e]
    exact ⟨rfl, rfl, rfl⟩
  · rw [e]
    exact ⟨rfl, rfl, rfl⟩
  · rw [e]
    rcases release_cases (h.vacate s) ⟨x.id, serial⟩ x.epoch with ⟨-, -, r⟩ | ⟨-, -, r⟩ | ⟨-, r⟩ <;>
      rw [r] <;> exact ⟨rfl, rfl, rfl⟩

theorem closed_dropOwner (h : Hub) (s : SessionId) : h.closed <+: (h.dropOwner s).closed := by
  rcases dropOwner_cases h s with ⟨-, e⟩ | ⟨x, -, -, e⟩ | ⟨x, -, -, -, e⟩ | ⟨x, serial, -, -, -, e⟩
  · rw [e]
  · rw [e]
    exact List.prefix_rfl
  · rw [e]
    exact List.prefix_rfl
  · rw [e]
    rcases release_cases (h.vacate s) ⟨x.id, serial⟩ x.epoch with ⟨-, -, r⟩ | ⟨-, -, r⟩ | ⟨-, r⟩
    · rw [r]
      exact List.prefix_rfl
    · rw [r]
      exact List.prefix_append _ _
    · rw [r]
      exact List.prefix_append _ _

theorem closed_dropPool (h : Hub) : h.closed <+: h.dropPool.closed := by
  unfold dropPool
  split
  · exact List.prefix_append _ _
  · exact List.prefix_rfl

end Hub

end PooledSql
