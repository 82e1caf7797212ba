import PooledSql.Proofs.Pool.Places
import PooledSql.Proofs.Pool.Run

/-!
# No connection is lost, shared or duplicated

At every moment of every run each connection that the factory returned is in exactly one place: in
reserve, or held by one live session, or closed. The pool numbers connections from one in the order
in which they come, and the number stays with the connection.

The invariant ties all places together: what is in them is what was returned, a session has a
connection as long as it has a handle, and the connection of a session and of the reserve is the one
that its number stands for.

Results:
* `sound_effect`: every effect of a move preserves the invariant.
* `connections_kept`: what that means for the connections, at every moment and from then on.
-/

namespace PooledSql

namespace World

/-- A session has a connection while it has an owner, and no other one than its id stands for. -/
structure Fits (returned : List Nat) (x : Session) : Prop where
  owned : x.cell = none ↔ x.owners = 0
  attached : ∃ n, atId returned x.id = some n ∧ ∀ m, x.cell = some m → m = n

/-- What every run preserves. -/
structure Sound (w : World) : Prop where
  places : w.hub.places.Perm w.returned
  distinct : w.returned.Nodup
  opened : w.hub.pool.opened = w.returned.length
  owners : ∀ s, w.hub.owners s = w.strong.count s
  sessions : ∀ x ∈ w.hub.issued, Fits w.returned x
  stored : ∀ c ∈ w.hub.pool.reserve, atId w.returned c.id = some c.serial

/-! ## Numbers stay attached -/

theorem Fits.mono {before after : List Nat} (h : before <+: after) {x : Session}
    (fits : Fits before x) : Fits after x := by
  obtain ⟨n, known, same⟩ := fits.attached
  exact ⟨fits.owned, n, atId_mono h known, same⟩

/-! ## Every effect preserves the invariant -/

theorem Sound.isLive_iff {w : World} (h : w.Sound) {s : SessionId} :
    w.hub.isLive s = true ↔ s ∈ w.strong := by
  rw [Hub.isLive, h.owners, bne_iff_ne, ne_eq, List.count_eq_zero, Decidable.not_not]

/-- The next session has no handle yet. -/
theorem Sound.count_next {w : World} (h : w.Sound) : w.strong.count w.hub.issued.length = 0 := by
  rw [← h.owners, Hub.owners, List.getElem?_eq_none (Nat.le_refl _)]
  rfl

theorem Sound.count_issue {w : World} (h : w.Sound) (s : SessionId) :
    (w.hub.issued.length :: w.strong).count s =
      if s = w.hub.issued.length then 1 else w.strong.count s := by
  rw [List.count_cons]
  by_cases e : s = w.hub.issued.length
  · subst e
    rw [h.count_next, if_pos rfl, beq_self_eq_true, if_pos rfl]
  · have ne : (w.hub.issued.length == s) = false := beq_eq_false_iff_ne.2 (Ne.symm e)
    rw [if_neg e, ne, if_neg Bool.false_ne_true, Nat.add_zero]

theorem sound_reuse {w : World} (h : w.Sound) {c : Connection} {rest : List Connection}
    (idle : w.hub.pool.reserve = c :: rest) : (w.reuse c rest).Sound where
  places := by
    have before := h.places
    rw [Hub.places, idle] at before
    exact (Hub.places_issue _ _ _).trans before
  distinct := h.distinct
  opened := h.opened
  owners s := by
    rw [reuse, Hub.owners_issue, h.count_issue, ← h.owners]
    rfl
  sessions x hx := by
    have known := h.stored c (by rw [idle]; exact List.mem_cons_self)
    rcases List.mem_append.1 hx with old | new
    · exact h.sessions x old
    · rw [List.mem_singleton.1 new]
      exact ⟨by simp, c.serial, known, by simp⟩
  stored c' hc := h.stored c' (by rw [idle]; exact List.mem_cons_of_mem c hc)

theorem sound_enter {w : World} (h : w.Sound) {p : Pending} {serial : Nat}
    (fresh : serial ∉ w.returned) : (w.enter p serial).Sound where
  places := (Hub.places_issue _ _ _).trans
    ((h.places.cons serial).trans (List.perm_append_singleton _ _).symm)
  distinct := by
    have extended : (serial :: w.returned).Nodup := List.nodup_cons.2 ⟨fresh, h.distinct⟩
    exact (List.perm_append_singleton _ _).nodup_iff.2 extended
  opened := by
    rw [show (w.enter p serial).returned = w.returned ++ [serial] from rfl, List.length_append,
      ← h.opened]
    rfl
  owners s := by
    rw [show (w.enter p serial).hub = (w.hub.finishGet p.epoch serial).2 from rfl,
      Hub.finishGet, Hub.owners_issue]
    exact (if_congr Iff.rfl rfl (h.owners s)).trans (h.count_issue s).symm
  sessions x hx := by
    rcases List.mem_append.1 hx with old | new
    · exact (h.sessions x old).mono (List.prefix_append _ _)
    · have known := atId_next w.returned serial
      rw [← h.opened] at known
      rw [List.mem_singleton.1 new]
      exact ⟨by simp, serial, known, by simp⟩
  stored c hc := atId_mono (List.prefix_append _ _) (h.stored c hc)

theorem sound_share {w : World} (h : w.Sound) {s : SessionId}
    (may : s ∈ w.strong ∨ w.hub.isLive s = true) : (w.share s).Sound := by
  have live : w.hub.isLive s = true := may.elim h.isLive_iff.2 id
  have joined : (w.share s).hub = w.hub.join s := Hub.cloneOwner_of_live live
  constructor
  case places =>
    rw [show (w.share s).hub = w.hub.cloneOwner s from rfl, Hub.places_cloneOwner]
    exact h.places
  case distinct => exact h.distinct
  case opened =>
    rw [joined]
    exact h.opened
  case owners =>
    intro t
    rw [show (w.share s).hub = w.hub.cloneOwner s from rfl, Hub.owners_cloneOwner, h.owners,
      show (w.share s).strong = s :: w.strong from rfl, List.count_cons]
    by_cases e : s = t
    · rw [if_pos ⟨e, live⟩, e, beq_self_eq_true, if_pos rfl]
    · rw [if_neg fun both => e both.1, beq_eq_false_iff_ne.2 e, if_neg Bool.false_ne_true,
        Nat.add_zero]
  case sessions =>
    rw [joined]
    refine Hub.forall_mem_modify h.sessions fun x found => ?_
    have fits := h.sessions x (List.mem_of_getElem? found)
    have owned : x.owners ≠ 0 := by
      simpa [Hub.isLive, Hub.owners, found] using live
    refine ⟨?_, fits.attached⟩
    rw [fits.owned]
    simp [owned]
  case stored =>
    rw [joined]
    exact h.stored

theorem sound_letGo {w : World} (h : w.Sound) {s : SessionId} : (w.letGo s).Sound := by
  constructor
  case places => exact (Hub.places_dropOwner _ _).trans h.places
  case distinct => exact h.distinct
  case opened => exact (Hub.pool_dropOwner _ _).2.1.trans h.opened
  case owners =>
    intro t
    rw [show (w.letGo s).hub = w.hub.dropOwner s from rfl, Hub.owners_dropOwner,
      show (w.letGo s).strong = w.strong.erase s from rfl, List.count_erase, h.owners]
    by_cases e : s = t
    · rw [if_pos e, e, beq_self_eq_true, if_pos rfl]
    · rw [if_neg e, beq_eq_false_iff_ne.2 e, if_neg Bool.false_ne_true, Nat.sub_zero]
  case sessions =>
    refine Hub.forall_issued_dropOwner h.sessions (fun x found many => ?_) fun x found _ => ?_
    · have fits := h.sessions x (List.mem_of_getElem? found)
      refine ⟨?_, fits.attached⟩
      rw [fits.owned]
      dsimp only
      omega
    · obtain ⟨n, known, -⟩ := (h.sessions x (List.mem_of_getElem? found)).attached
      exact ⟨by simp, n, known, by simp⟩
  case stored =>
    refine Hub.forall_reserve_dropOwner h.stored fun x serial found holds _ => ?_
    obtain ⟨n, known, same⟩ := (h.sessions x (List.mem_of_getElem? found)).attached
    rw [same serial holds]
    exact known

theorem sound_reset {w : World} (h : w.Sound) : Sound { w with hub := w.hub.reset } where
  places := (Hub.places_reset _).trans h.places
  distinct := h.distinct
  opened := h.opened
  owners := h.owners
  sessions := h.sessions
  stored c hc := by cases hc

theorem sound_dropPool {w : World} (h : w.Sound) : Sound { w with hub := w.hub.dropPool } := by
  have places := (Hub.places_dropPool w.hub).trans h.places
  unfold Hub.dropPool at places ⊢
  split at places
  · rename_i alive
    rw [if_pos alive]
    exact ⟨places, h.distinct, h.opened, h.owners, h.sessions, fun c hc => by cases hc⟩
  · rename_i gone
    rw [if_neg gone]
    exact h

/-- Every effect of a move preserves the invariant. -/
theorem sound_effect {w w' : World} (h : w.Sound) (effect : Effect w w') : w'.Sound := by
  cases effect with
  | nothing => exact h
  | observe weak | wait alive vacant | refuse e waits =>
    exact ⟨h.places, h.distinct, h.opened, h.owners, h.sessions, h.stored⟩
  | reuse alive idle => exact sound_reuse h idle
  | enter waits fresh => exact sound_enter h fresh
  | share may => exact sound_share h may
  | letGo has => exact sound_letGo h
  | reset alive => exact sound_reset h
  | dropPool => exact sound_dropPool h

/-- Every run is sound. -/
theorem sound_run (moves : List Move) : (run moves).Sound := by
  refine run_induction ?_ (fun w w' h effect => sound_effect h effect) moves
  exact ⟨List.Perm.refl _, List.nodup_nil, rfl, fun s => by simp [Hub.owners],
    fun x hx => absurd hx List.not_mem_nil, fun c hc => absurd hc List.not_mem_nil⟩

/-! ## Sessions that are over -/

/-- Whatever a move does, no session that has ended comes back. -/
theorem fades_effect {w w' : World} (effect : Effect w w') : w.hub.Fades w'.hub := by
  cases effect with
  | nothing | observe weak | wait alive vacant | refuse e waits | reset alive =>
    exact Hub.fades_of_issued rfl
  | reuse alive idle | enter waits fresh =>
    refine Hub.fades_issue ?_ _ _
    rfl
  | share may => exact Hub.fades_cloneOwner _ _
  | letGo had => exact Hub.fades_dropOwner _ _
  | dropPool =>
    refine Hub.fades_of_issued ?_
    unfold Hub.dropPool
    split <;> rfl

/-- A handle that is let go leaves others to its session, or it was the last one, and then the
session's connection is taken out and released. -/
theorem Sound.letGo_cases {w : World} (h : w.Sound) {s : SessionId} (has : s ∈ w.strong) :
    (1 < w.strong.count s ∧ (w.letGo s).hub = w.hub.leave s) ∨
    (w.strong.count s = 1 ∧ ∃ x serial, w.hub.issued[s]? = some x ∧ x.owners = 1 ∧
      x.cell = some serial ∧
        (w.letGo s).hub = (w.hub.vacate s).release ⟨x.id, serial⟩ x.epoch) := by
  have owners (x : Session) (found : w.hub.issued[s]? = some x) : x.owners = w.strong.count s := by
    rw [← h.owners, Hub.owners, found]
    rfl
  rcases Hub.dropOwner_cases w.hub s with ⟨none', -⟩ | ⟨x, found, many, e⟩ |
      ⟨x, found, one, holds, -⟩ | ⟨x, serial, found, one, holds, e⟩
  · rw [h.owners] at none'
    exact absurd has (List.count_eq_zero.1 none')
  · exact .inl ⟨owners x found ▸ many, e⟩
  · have none' := (h.sessions x (List.mem_of_getElem? found)).owned.1 holds
    rw [one] at none'
    cases none'
  · exact .inr ⟨owners x found ▸ one, x, serial, found, one, holds, e⟩

/-! ## What is never undone -/

/-- What is remembered is only added to. -/
structure Before (w w' : World) : Prop where
  closed : w.hub.closed <+: w'.hub.closed
  returned : w.returned <+: w'.returned
  issues : w.hub.issues <+: w'.hub.issues
  noted : w.noted <+: w'.noted
  openers : w.openers <+: w'.openers
  getters : w.getters <+: w'.getters

theorem Before.refl (w : World) : w.Before w :=
  ⟨List.prefix_rfl, List.prefix_rfl, List.prefix_rfl, List.prefix_rfl, List.prefix_rfl,
    List.prefix_rfl⟩

theorem Before.trans {a b c : World} (h : a.Before b) (h' : b.Before c) : a.Before c :=
  ⟨h.closed.trans h'.closed, h.returned.trans h'.returned, h.issues.trans h'.issues,
    h.noted.trans h'.noted, h.openers.trans h'.openers, h.getters.trans h'.getters⟩

/-- No effect takes back what was returned, noted or issued. -/
theorem before_effect {w w' : World} (effect : Effect w w') : w.Before w' := by
  have same := Before.refl w
  cases effect with
  | nothing | observe weak | refuse e waits => exact { same with }
  | wait alive vacant => exact { same with noted := List.prefix_append _ _ }
  | reuse alive idle =>
    refine { same with
      issues := ?_, noted := List.prefix_append _ _, getters := List.prefix_append _ _ }
    rw [reuse, Hub.issues_issue]
    exact List.prefix_append _ _
  | enter waits fresh =>
    refine { same with
      returned := List.prefix_append _ _, issues := ?_, openers := List.prefix_append _ _,
      getters := List.prefix_append _ _ }
    rw [enter, Hub.finishGet, Hub.issues_issue]
    exact List.prefix_append _ _
  | share may =>
    refine { same with closed := ?_, issues := ?_ }
    · rw [share, Hub.closed_cloneOwner]
    · rw [share, Hub.issues_cloneOwner]
  | letGo has =>
    refine { same with closed := Hub.closed_dropOwner _ _, issues := ?_ }
    rw [letGo, Hub.issues_dropOwner]
  | reset alive => exact { same with closed := List.prefix_append _ _ }
  | dropPool =>
    refine { same with closed := Hub.closed_dropPool _, issues := ?_ }
    rw [Hub.issues_dropPool]

theorem before_steps (w : World) (moves : List Move) : w.Before (w.steps moves) :=
  steps_induction (fun _ _ h effect => h.trans (before_effect effect)) (.refl w) moves

/-! ## What it means for the connections -/

/-- Where connections are at a moment, and whom they belong to. -/
structure Custody (w : World) : Prop where
  /-- A connection that was returned is in exactly one place and once there, and no other is in
  any. -/
  place : ∀ n, (w.hub.pool.reserve.map Connection.serial).count n + w.hub.held.count n +
    w.hub.closed.count n = if n ∈ w.returned then 1 else 0
  /-- Work on a session gets a connection exactly if there is a handle to the session. -/
  reach : ∀ s, (w.hub.connection? s).isSome = true ↔ s ∈ w.strong
  /-- No two sessions have one connection. -/
  alone : ∀ s t n, w.hub.connection? s = some n → w.hub.connection? t = some n → s = t
  /-- The ids count the connections that were opened from one on. -/
  ids : ∀ id, (atId w.returned id).isSome = true ↔ 1 ≤ id ∧ id ≤ w.hub.pool.opened
  /-- No two ids stand for one connection. -/
  injective : ∀ id id' n, atId w.returned id = some n → atId w.returned id' = some n →
    id = id'
  /-- The connection of a session is the one that the session's id stands for. -/
  own : ∀ s x, w.hub.issued[s]? = some x →
    ∃ n, atId w.returned x.id = some n ∧ ∀ m, w.hub.connection? s = some m → m = n
  /-- So is an idle one. -/
  stored : ∀ c ∈ w.hub.pool.reserve, atId w.returned c.id = some c.serial

theorem eq_of_nodup_filterMap {α β : Type} {g : α → Option β} {l : List α}
    (distinct : (l.filterMap g).Nodup) {i j : Nat} {n : β} (hi : l[i]?.bind g = some n)
    (hj : l[j]?.bind g = some n) : i = j := by
  obtain ⟨a, ha, ga⟩ := Option.bind_eq_some_iff.1 hi
  obtain ⟨b, hb, gb⟩ := Option.bind_eq_some_iff.1 hj
  obtain ⟨shortA, rfl⟩ := List.getElem?_eq_some_iff.1 ha
  obtain ⟨shortB, rfl⟩ := List.getElem?_eq_some_iff.1 hb
  have apart := List.pairwise_iff_getElem.1 (List.pairwise_filterMap.1 distinct)
  rcases Nat.lt_trichotomy i j with lt | e | gt
  · exact absurd rfl (apart i j shortA shortB lt n ga n gb)
  · exact e
  · exact absurd rfl (apart j i shortB shortA gt n gb n ga)

/-- Each connection that was returned is in one place, and no other is anywhere. -/
theorem Sound.count_places {w : World} (h : w.Sound) (n : Nat) :
    w.hub.places.count n = if n ∈ w.returned then 1 else 0 := by
  rw [h.places.count_eq]
  split
  · rename_i known
    have := List.nodup_iff_count.1 h.distinct n
    have := List.count_pos_iff.2 known
    omega
  · rename_i unknown
    exact List.count_eq_zero.2 unknown

/-- What is sound has every connection in custody. -/
theorem Sound.custody {w : World} (h : w.Sound) : w.Custody where
  place n := by rw [← Hub.count_places, h.count_places]
  reach s := by
    rw [← h.isLive_iff, Hub.connection?, Hub.isLive, Hub.owners]
    cases found : w.hub.issued[s]? with
    | none => simp
    | some x =>
      have owned := (h.sessions x (List.mem_of_getElem? found)).owned
      simp [Option.isSome_iff_ne_none, owned]
  alone s t n hs ht := by
    refine eq_of_nodup_filterMap (List.nodup_iff_count.2 fun a => ?_) hs ht
    have once := h.count_places a
    rw [Hub.count_places] at once
    simp only [Hub.held] at once
    split at once <;> omega
  ids id := by
    by_cases zero : id = 0
    · simp [atId, zero]
    · rw [h.opened, atId, if_neg zero, Option.isSome_iff_ne_none, ne_eq,
        List.getElem?_eq_none_iff]
      omega
  injective id id' n known known' := by
    rw [atId_eq_some] at known known'
    have e := (List.getElem?_inj (List.getElem?_eq_some_iff.1 known.2).1 h.distinct).1
      (known.2.trans known'.2.symm)
    omega
  own s x found := by
    obtain ⟨n, known, same⟩ := (h.sessions x (List.mem_of_getElem? found)).attached
    refine ⟨n, known, fun m hm => same m ?_⟩
    rwa [Hub.connection?, found] at hm
  stored := h.stored

/-- At every moment each connection is where it should be and belongs to whom it should. From then
on those that were closed stay closed, are nowhere else and are not closed again, ids stay with
their connections, and sessions keep their ids. -/
theorem connections_kept (moves more : List Move) :
    (run moves).Custody ∧
      (∀ n ∈ (run moves).hub.closed,
        (run (moves ++ more)).hub.closed.count n = 1 ∧
          n ∉ (run (moves ++ more)).hub.pool.reserve.map Connection.serial ∧
          n ∉ (run (moves ++ more)).hub.held) ∧
      (∀ id n, atId (run moves).returned id = some n →
        atId (run (moves ++ more)).returned id = some n) ∧
      ∀ (s : SessionId) (x : Session), (run moves).hub.issued[s]? = some x →
        ∃ y : Session, (run (moves ++ more)).hub.issued[s]? = some y ∧ y.id = x.id := by
  have before : (run moves).Before (run (moves ++ more)) := by
    rw [run_append]
    exact before_steps _ more
  refine ⟨(sound_run moves).custody, fun n gone => ?_, fun id n => atId_mono before.returned,
    fun s x found => ?_⟩
  · have still : 0 < (run (moves ++ more)).hub.closed.count n :=
      List.count_pos_iff.2 (before.closed.subset gone)
    have once := (sound_run (moves ++ more)).custody.place n
    rw [← List.count_eq_zero, ← List.count_eq_zero]
    split at once <;> omega
  · obtain ⟨rest, e⟩ := before.issues
    have named := Hub.issues_of_issued found
    have later : (run (moves ++ more)).hub.issues[s]? = some (x.id, x.epoch) := by
      rw [← e, List.getElem?_append_left (List.getElem?_eq_some_iff.1 named).1, named]
    rw [Hub.issues, List.getElem?_map] at later
    obtain ⟨y, found', same⟩ := Option.map_eq_some_iff.1 later
    exact ⟨y, found', congrArg Prod.fst same⟩

end World

end PooledSql
