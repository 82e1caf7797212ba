import PooledSql.Proofs.Contexts.Run

/-!
# Each context keeps its session

As long as a session that a context got has an owner, the context gets that session and no other one,
whatever happens to the pool, to other contexts and to the slots of the finder. No two contexts share
a session or a connection, and the database can tell whose session one is.

The invariant ties the slots to what contexts were given. A slot holds only what its context was
given, so a stale slot is never mistaken for another session; and what a context was given is in its
slot while it has an owner, so clearing out slots loses nothing.

Results:
* `bound_effect`: every effect of a use preserves the invariant.
* `contexts_keep_sessions`: what that means for contexts and sessions, at every moment.
-/

namespace PooledSql

/-! ## Slots -/

theorem lookup_cons_eq {α : Type} (l : List (ContextKey × α)) (context c : ContextKey) (a : α) :
    ((context, a) :: l).lookup c = if c = context then some a else l.lookup c := by
  rw [List.lookup_cons]
  by_cases same : c = context
  · rw [if_pos same, beq_iff_eq.2 same]
  · rw [if_neg same, beq_eq_false_iff_ne.2 same]

namespace Finder

/-- A scan empties exactly the slots of sessions that are over. -/
theorem slot?_scan {f : Finder} (single : f.Single) (live : Nat → Bool) (c : ContextKey) :
    (f.scan live).slot? c = (f.slot? c).filter live :=
  lookup_filter_live f.slots live c single

/-- After observing, a slot holds the session that was observed or what it held before; it may be
gone, but only if its session is not live. -/
theorem slot?_observe {f : Finder} (single : f.Single) (live : Nat → Bool) (context c : ContextKey)
    (s t : Nat) :
    ((f.observe live context s).1.slot? c = some t →
        (if c = context then some s else f.slot? c) = some t) ∧
      ((if c = context then some s else f.slot? c) = some t → live t = true →
        (f.observe live context s).1.slot? c = some t) := by
  rw [← slot?_put]
  simp only [observe]
  split
  · simp only [slot?_scan (f.single_put context s single), Option.filter_eq_some_iff]
    exact ⟨And.left, And.intro⟩
  · exact ⟨id, fun held _ => held⟩

theorem current?_eq_some_iff {f : Finder} {live : Nat → Bool} {c : ContextKey} {s : Nat} :
    f.current? live c = some s ↔ f.slot? c = some s ∧ live s = true :=
  Option.filter_eq_some_iff

/-- A finder recalls which session is the latest of each context: its slots hold no others, and they
hold those that are live. -/
structure Recalls (f : Finder) (live : Nat → Bool) (latest : ContextKey → Option Nat) : Prop where
  single : f.Single
  held : ∀ c s, f.slot? c = some s → latest c = some s
  kept : ∀ c s, latest c = some s → live s = true → f.slot? c = some s

theorem recalls_new (threshold : Nat) (live : Nat → Bool) :
    (new threshold).Recalls live fun _ => none where
  single := List.nodup_nil
  held c s held := by simp [slot?, new] at held
  kept c s given := by cases given

section Recalls

variable {f : Finder} {live : Nat → Bool} {latest : ContextKey → Option Nat}

/-- A finder that recalls what was last said finds that for each context, unless it is over. -/
theorem Recalls.current? (h : f.Recalls live latest) (c : ContextKey) :
    f.current? live c = (latest c).filter live := by
  refine Option.ext fun s => ?_
  rw [current?_eq_some_iff, Option.filter_eq_some_iff]
  constructor
  · rintro ⟨held, alive⟩
    exact ⟨h.held c s held, alive⟩
  · rintro ⟨given, alive⟩
    exact ⟨h.kept c s given alive, alive⟩

/-- What is observed is what is recalled of its context from then on, scan or no scan. -/
theorem Recalls.observe (h : f.Recalls live latest) (context : ContextKey) (s : Nat) :
    (f.observe live context s).1.Recalls live
      fun c => if c = context then some s else latest c where
  single := f.single_observe live context s h.single
  held c t held := by
    have before := (f.slot?_observe h.single live context c s t).1 held
    split at before
    · rename_i same
      rw [if_pos same, before]
    · rename_i other
      rw [if_neg other]
      exact h.held c t before
  kept c t given alive := by
    refine (f.slot?_observe h.single live context c s t).2 ?_ alive
    split at given
    · rename_i same
      rw [if_pos same, given]
    · rename_i other
      rw [if_neg other]
      exact h.kept c t given alive

theorem Recalls.forget (h : f.Recalls live latest) (context : ContextKey) :
    (f.forget context).Recalls live fun c => if c = context then none else latest c := by
  have slot (c : ContextKey) :
      (f.forget context).slot? c = if c = context then none else f.slot? c :=
    lookup_filter_ne f.slots context c
  constructor
  case single => exact h.single.sublist (List.filter_sublist.map Prod.fst)
  case held =>
    intro c s held
    rw [slot] at held
    split at held
    · cases held
    · rename_i other
      rw [if_neg other]
      exact h.held c s held
  case kept =>
    intro c s given alive
    rw [slot]
    split at given
    · cases given
    · rename_i other
      rw [if_neg other]
      exact h.kept c s given alive

/-- Sessions may end. -/
theorem Recalls.fewer (h : f.Recalls live latest) {live' : Nat → Bool}
    (fewer : ∀ c s, latest c = some s → live' s = true → live s = true) :
    f.Recalls live' latest where
  single := h.single
  held := h.held
  kept c s given alive := h.kept c s given (fewer c s given alive)

end Recalls

end Finder

theorem World.Sound.alike {w : World} (h : w.Sound) {hub : Hub} (same : w.hub.Alike hub) :
    World.Sound { hub, strong := w.strong, returned := w.returned } where
  places := by
    rw [Hub.places, Hub.held, same.pool, same.issued, same.closed]
    exact h.places
  distinct := h.distinct
  opened := by
    rw [same.pool]
    exact h.opened
  owners s := by
    rw [Hub.owners, same.issued]
    exact h.owners s
  sessions := by
    rw [same.issued]
    exact h.sessions
  stored := by
    rw [same.pool]
    exact h.stored

namespace Usage

/-- What every run preserves. -/
structure Bound (u : Usage) : Prop where
  sound : ∃ returned, World.Sound { hub := u.db.hub, strong := u.strong, returned }
  single : u.db.finder.Single
  /-- A slot holds what its context was given. -/
  slots : ∀ c s, u.db.finder.slot? c = some s → (c, s) ∈ u.answers
  /-- What a context was given is in its slot while it has an owner. -/
  kept : ∀ c s, (c, s) ∈ u.answers → s ∈ u.strong → u.db.finder.slot? c = some s
  last : ∀ c s, (c, s) ∈ u.answers → s ∈ u.strong → u.answers.lookup c = some s
  owner : ∀ c c' s, (c, s) ∈ u.answers → (c', s) ∈ u.answers → c = c'
  answered : ∀ c s, (c, s) ∈ u.answers → s < u.db.hub.issued.length
  pooled : ∀ s ∈ u.pooled, s < u.db.hub.issued.length
  apart : ∀ c s, (c, s) ∈ u.answers → s ∉ u.pooled

section Meaning

variable {u : Usage}

/-- A session of the database is alive exactly while somebody in the traffic owns it. -/
theorem Bound.isLive_iff (h : u.Bound) {s : SessionId} :
    u.db.hub.isLive s = true ↔ s ∈ u.strong := by
  obtain ⟨returned, sound⟩ := h.sound
  exact sound.isLive_iff

/-- A context's session is the one that it was given and that has an owner. -/
theorem Bound.current?_iff (h : u.Bound) {c : ContextKey} {s : SessionId} :
    u.db.current? c = some s ↔ (c, s) ∈ u.answers ∧ s ∈ u.strong := by
  rw [Database.current?, Finder.current?_eq_some_iff, h.isLive_iff]
  constructor
  · rintro ⟨held, owned⟩
    exact ⟨h.slots c s held, owned⟩
  · rintro ⟨given, owned⟩
    exact ⟨h.kept c s given owned, owned⟩

/-- Nothing that a context without a live session was given has an owner. -/
theorem Bound.not_mem_strong (h : u.Bound) {c : ContextKey} {s : SessionId}
    (vacant : u.db.current? c = none) (given : (c, s) ∈ u.answers) : s ∉ u.strong := by
  intro owned
  rw [h.current?_iff.2 ⟨given, owned⟩] at vacant
  cases vacant

/-- What is issued next, no context has got. -/
theorem Bound.free (h : u.Bound) (c : ContextKey) : (c, u.db.hub.issued.length) ∉ u.answers :=
  fun given => Nat.lt_irrefl _ (h.answered c _ given)

end Meaning

/-! ## Every effect preserves the invariant -/

section Effects

variable {u : Usage}

/-- One more session is there, with one handle to it, and the connections and the owners are in
order. -/
structure Gains (u : Usage) (hub : Hub) : Prop where
  sound : ∃ returned, World.Sound { hub, strong := u.db.hub.issued.length :: u.strong, returned }
  more : u.db.hub.issued.length < hub.issued.length

theorem Bound.gains (h : u.Bound) {hub : Hub} (issues : u.db.hub.Issues hub) : u.Gains hub where
  sound := by
    obtain ⟨returned, sound⟩ := h.sound
    cases issues with
    | reuse idle same => exact ⟨returned, (World.sound_reuse sound idle).alike same⟩
    | @enter serial vacant fresh same =>
      have new : serial ∉ returned := fun known => fresh (sound.places.mem_iff.2 known)
      exact ⟨_, (World.sound_enter (p := ⟨0, u.db.hub.pool.epoch⟩) sound new).alike same⟩
  more := issues.more

/-- One more session that nobody got yet. -/
theorem bound_arrives (h : u.Bound) {hub : Hub} (gains : u.Gains hub) :
    Bound { u with db.hub := hub, strong := u.db.hub.issued.length :: u.strong } := by
  have owned {c : ContextKey} {s : SessionId} (given : (c, s) ∈ u.answers)
      (has : s ∈ u.db.hub.issued.length :: u.strong) : s ∈ u.strong :=
    (List.mem_cons.1 has).resolve_left (Nat.ne_of_lt (h.answered c s given))
  constructor
  case sound => exact gains.sound
  case single => exact h.single
  case slots => exact h.slots
  case kept => exact fun c s given has => h.kept c s given (owned given has)
  case last => exact fun c s given has => h.last c s given (owned given has)
  case owner => exact h.owner
  case answered => exact fun c s given => Nat.lt_trans (h.answered c s given) gains.more
  case pooled => exact fun s from' => Nat.lt_trans (h.pooled s from') gains.more
  case apart => exact h.apart

/-- A session that no context got may count as one from the pool. -/
theorem bound_fromPool (h : u.Bound) {s : SessionId} (issued : s < u.db.hub.issued.length)
    (free : ∀ c, (c, s) ∉ u.answers) : Bound { u with pooled := s :: u.pooled } where
  sound := h.sound
  single := h.single
  slots := h.slots
  kept := h.kept
  last := h.last
  owner := h.owner
  answered := h.answered
  pooled t from' := by
    rcases List.mem_cons.1 from' with rfl | from'
    · exact issued
    · exact h.pooled t from'
  apart c t given from' := by
    rcases List.mem_cons.1 from' with rfl | from'
    · exact free c given
    · exact h.apart c t given from'

/-- A context without a live session may be given one that nobody else got. -/
theorem bound_assign (h : u.Bound) {context : ContextKey} {s : SessionId}
    (vacant : u.db.current? context = none) (issued : s < u.db.hub.issued.length)
    (free : ∀ c, (c, s) ∉ u.answers) (foreign : s ∉ u.pooled) :
    Bound { u with
      db := { u.db with finder := (u.db.finder.observe u.db.hub.isLive context s).1 }
      answers := (context, s) :: u.answers } := by
  have slot := u.db.finder.slot?_observe h.single u.db.hub.isLive
  have other {c : ContextKey} {t : SessionId} (given : (c, t) ∈ u.answers)
      (owned : t ∈ u.strong) : c ≠ context := by
    rintro rfl
    exact h.not_mem_strong vacant given owned
  constructor
  case sound => exact h.sound
  case single => exact u.db.finder.single_observe _ _ _ h.single
  case slots =>
    intro c t held
    have before := (slot context c s t).1 held
    split at before
    · rename_i same
      cases before
      rw [same]
      exact List.mem_cons_self
    · exact List.mem_cons_of_mem _ (h.slots c t before)
  case kept =>
    intro c t given owned
    refine (slot context c s t).2 ?_ (h.isLive_iff.2 owned)
    rcases List.mem_cons.1 given with new | given
    · cases new
      rw [if_pos rfl]
    · rw [if_neg (other given owned)]
      exact h.kept c t given owned
  case last =>
    intro c t given owned
    rcases List.mem_cons.1 given with new | given
    · cases new
      exact List.lookup_cons_self
    · rw [lookup_cons_eq, if_neg (other given owned)]
      exact h.last c t given owned
  case owner =>
    intro c c' t given given'
    rcases List.mem_cons.1 given with new | given <;> rcases List.mem_cons.1 given' with new' | given'
    · cases new
      cases new'
      rfl
    · cases new
      exact absurd given' (free c')
    · cases new'
      exact absurd given (free c)
    · exact h.owner c c' t given given'
  case answered =>
    intro c t given
    rcases List.mem_cons.1 given with new | given
    · cases new
      exact issued
    · exact h.answered c t given
  case pooled => exact h.pooled
  case apart =>
    intro c t given
    rcases List.mem_cons.1 given with new | given
    · cases new
      exact foreign
    · exact h.apart c t given

theorem bound_issue (h : u.Bound) {context : ContextKey} {hub : Hub}
    (vacant : u.db.current? context = none) (gains : u.Gains hub) :
    Bound { u with
      db := { u.db with
        hub
        finder := (u.db.finder.observe hub.isLive context u.db.hub.issued.length).1 }
      strong := u.db.hub.issued.length :: u.strong
      answers := (context, u.db.hub.issued.length) :: u.answers } := by
  have arrived := bound_arrives h gains
  refine bound_assign arrived ?_ gains.more h.free
    fun from' => Nat.lt_irrefl _ (h.pooled _ from')
  refine Option.eq_none_iff_forall_ne_some.2 fun s current => ?_
  obtain ⟨given, has⟩ := arrived.current?_iff.1 current
  exact h.not_mem_strong vacant given
    ((List.mem_cons.1 has).resolve_left (Nat.ne_of_lt (h.answered context s given)))

theorem bound_pooled (h : u.Bound) {hub : Hub} (gains : u.Gains hub) :
    Bound { u with
      db.hub := hub
      strong := u.db.hub.issued.length :: u.strong
      pooled := u.db.hub.issued.length :: u.pooled } :=
  bound_fromPool (bound_arrives h gains) gains.more h.free

/-- Handles may come and go as long as no session gets one that had none. -/
theorem Bound.owners (h : u.Bound) {hub : Hub} {strong : List SessionId}
    (sound : ∃ returned, World.Sound { hub, strong, returned })
    (issued : hub.issued.length = u.db.hub.issued.length) (fewer : ∀ s ∈ strong, s ∈ u.strong) :
    Bound { u with db.hub := hub, strong } where
  sound := sound
  single := h.single
  slots := h.slots
  kept c s given has := h.kept c s given (fewer s has)
  last c s given has := h.last c s given (fewer s has)
  owner := h.owner
  answered c s given := issued ▸ h.answered c s given
  pooled s from' := issued ▸ h.pooled s from'
  apart := h.apart

theorem bound_share (h : u.Bound) {s : SessionId} (has : s ∈ u.strong) : (u.share s).Bound := by
  obtain ⟨returned, sound⟩ := h.sound
  refine h.owners ⟨returned, (World.sound_share sound (.inl has)).alike (.refl _)⟩ ?_ ?_
  · exact Hub.length_issued (Hub.issues_cloneOwner u.db.hub s)
  · intro t ht
    rcases List.mem_cons.1 ht with rfl | ht
    · exact has
    · exact ht

theorem bound_letGo (h : u.Bound) {s : SessionId} : (u.letGo s).Bound := by
  obtain ⟨returned, sound⟩ := h.sound
  refine h.owners ⟨returned, (World.sound_letGo (s := s) sound).alike (.refl _)⟩ ?_ ?_
  · exact Hub.length_issued (Hub.issues_dropOwner u.db.hub s)
  · exact fun t ht => List.mem_of_mem_erase ht

/-- Giving a context its session once more is one more handle to it. -/
theorem bound_again (h : u.Bound) {context : ContextKey} {s : SessionId}
    (current : u.db.current? context = some s) :
    Bound { u with answers := (context, s) :: u.answers } := by
  obtain ⟨given', owned'⟩ := h.current?_iff.1 current
  have known {c : ContextKey} {t : SessionId} (given : (c, t) ∈ (context, s) :: u.answers) :
      (c, t) ∈ u.answers := by
    rcases List.mem_cons.1 given with new | given
    · cases new
      exact given'
    · exact given
  constructor
  case sound => exact h.sound
  case single => exact h.single
  case slots => exact fun c t held => List.mem_cons_of_mem _ (h.slots c t held)
  case kept => exact fun c t given => h.kept c t (known given)
  case last =>
    intro c t given owned
    by_cases same : c = context
    · subst same
      -- a slot has one session
      have held := h.kept c t (known given) owned
      rw [h.kept c s given' owned'] at held
      cases held
      exact List.lookup_cons_self
    · rw [lookup_cons_eq, if_neg same]
      exact h.last c t (known given) owned
  case owner => exact fun c c' t given given'' => h.owner c c' t (known given) (known given'')
  case answered => exact fun c t given => h.answered c t (known given)
  case pooled => exact h.pooled
  case apart => exact fun c t given => h.apart c t (known given)

theorem Bound.alike (h : u.Bound) {hub : Hub} (same : u.db.hub.Alike hub) :
    Bound { u with db.hub := hub } := by
  obtain ⟨returned, sound⟩ := h.sound
  exact h.owners ⟨returned, sound.alike same⟩ (congrArg List.length same.issued) fun _ has => has

theorem bound_discard (h : u.Bound) : Bound { u with db := u.db.discardConnections } := by
  obtain ⟨returned, sound⟩ := h.sound
  have noted := sound.alike (Hub.alike_note _ .discardingAll)
  exact h.owners ⟨returned, (World.sound_reset noted).alike (.refl _)⟩ rfl fun _ has => has

/-- Every effect of a use preserves the invariant. -/
theorem bound_effect {u' : Usage} (h : u.Bound) (effect : Effect u u') : u'.Bound := by
  cases effect with
  | nothing => exact h
  | observe weak => exact { h with }
  | refuse same => exact h.alike same
  | @found context s hub current same =>
    have shared := bound_share h (h.current?_iff.1 current).2
    have again := shared.alike same
    refine bound_again again ?_
    have owned : s ∈ s :: u.strong := List.mem_cons_self
    exact again.current?_iff.2 ⟨(h.current?_iff.1 current).1, owned⟩
  | issue vacant issues => exact bound_issue h vacant (h.gains issues)
  | pooled issues => exact bound_pooled h (h.gains issues)
  | share may => exact bound_share h (may.elim id h.isLive_iff.1)
  | letGo has => exact bound_letGo h
  | discard => exact bound_discard h

end Effects

/-- The bounds hold after every run of uses. -/
theorem bound_run (dialect : Dialect) (threshold : Nat) (uses : List Use) :
    (run dialect threshold uses).Bound := by
  refine run_induction ?_ (fun u u' h effect => bound_effect h effect) uses
  have vacant (c : ContextKey) : (Database.new dialect threshold).finder.slot? c = none := rfl
  constructor
  case sound => exact ⟨[], World.sound_run []⟩
  case single => exact List.nodup_nil
  case slots =>
    intro c s held
    rw [vacant] at held
    cases held
  case pooled => exact fun s from' => absurd from' List.not_mem_nil
  all_goals exact fun c s => by simp

/-! ## What is never undone -/

theorem answers_effect {u u' : Usage} (effect : Effect u u') : ∀ p ∈ u.answers, p ∈ u'.answers := by
  cases effect with
  | found current same | issue vacant issues => exact fun p given => List.mem_cons_of_mem _ given
  | nothing | observe weak | refuse same | pooled issues | share may | letGo has | discard =>
    exact fun p given => given

theorem answers_steps (u : Usage) (uses : List Use) : ∀ p ∈ u.answers, p ∈ (u.steps uses).answers :=
  steps_induction (P := fun u' => ∀ p ∈ u.answers, p ∈ u'.answers)
    (fun _ _ h effect p given => answers_effect effect p (h p given)) (fun _ given => given) uses

/-! ## What it means for contexts and sessions -/

/-- What contexts get at a moment, and whose the sessions are. -/
structure Affinity (u : Usage) : Prop where
  /-- If the session that a context got last has an owner, the context gets that one, with one owner
  more, and the pool is as before. -/
  same : ∀ c s, u.answers.lookup c = some s → s ∈ u.strong → ∀ outcome, ∃ db,
    u.db.sessionFor c outcome = (.ok s, db) ∧ db.hub.owners s = u.db.hub.owners s + 1 ∧
      (∀ t, t ≠ s → db.hub.owners t = u.db.hub.owners t) ∧ db.hub.pool = u.db.hub.pool
  /-- Otherwise it gets a session that nobody ever got, unless the factory has to be asked and
  refuses. -/
  other : ∀ c, (∀ s, u.answers.lookup c = some s → s ∉ u.strong) → ∀ outcome,
    u.db.hub.admits outcome = true →
      (∃ s db, u.db.sessionFor c outcome = (.ok s, db) ∧ db.hub.owners s = 1 ∧
        (∀ c', (c', s) ∉ u.answers) ∧ s ∉ u.pooled ∧ u.db.hub.issued[s]? = none) ∨
      ∃ e db, u.db.sessionFor c outcome = (.error e, db) ∧ outcome = .error e ∧
        u.db.hub.pool.reserve = []
  /-- A session that a context got is the context's as long as it has an owner, and the only one. -/
  current : ∀ c s, (c, s) ∈ u.answers → s ∈ u.strong → u.db.current? c = some s ∧
    ∀ t, (c, t) ∈ u.answers → t ∈ u.strong → t = s
  /-- Contexts do not share a session. -/
  unshared : ∀ c c' s, u.db.current? c = some s → u.db.current? c' = some s → c = c'
  /-- The live sessions of different contexts have different connections, with different ids. -/
  isolated : ∀ c c' s t, c ≠ c' → (c, s) ∈ u.answers → (c', t) ∈ u.answers → s ∈ u.strong →
    t ∈ u.strong → ∃ x y : Session, u.db.hub.issued[s]? = some x ∧ u.db.hub.issued[t]? = some y ∧
      x.id ≠ y.id ∧ ∃ m n, x.cell = some m ∧ y.cell = some n ∧ m ≠ n
  /-- The database tells of every session with an owner whether it is the context's. -/
  told : ∀ c s, s ∈ u.strong → (u.db.isUsing c s = true ↔ (c, s) ∈ u.answers)
  /-- A session that came from the pool is no context's. -/
  foreign : ∀ c, ∀ s ∈ u.pooled, u.db.isUsing c s = false

section Affinity

variable {u : Usage}

theorem isUsing_iff (db : Database) (c : ContextKey) (s : SessionId) :
    db.isUsing c s = true ↔ db.current? c = some s := beq_iff_eq

theorem lookup_mem {l : List (ContextKey × SessionId)} {c : ContextKey} {s : SessionId}
    (found : l.lookup c = some s) : (c, s) ∈ l := by
  obtain ⟨before, after, rfl, -⟩ := List.lookup_eq_some_iff.1 found
  exact List.mem_append_right _ List.mem_cons_self

/-- As long as the last session of a context is owned, a request is answered with it again. -/
theorem Bound.same (h : u.Bound) {c : ContextKey} {s : SessionId}
    (last : u.answers.lookup c = some s) (owned : s ∈ u.strong) (outcome : Except Error Nat) :
    ∃ db, u.db.sessionFor c outcome = (.ok s, db) ∧
      db.hub.owners s = u.db.hub.owners s + 1 ∧
        (∀ t, t ≠ s → db.hub.owners t = u.db.hub.owners t) ∧ db.hub.pool = u.db.hub.pool := by
  have current := h.current?_iff.2 ⟨lookup_mem last, owned⟩
  obtain ⟨hub, same, answered⟩ := Database.sessionFor_found current outcome
  have owners (t : SessionId) : hub.owners t = (u.db.hub.cloneOwner s).owners t := by
    rw [Hub.owners, Hub.owners, same.issued]
  refine ⟨_, answered, ?_, fun t other => ?_, ?_⟩
  · rw [owners, Hub.owners_cloneOwner, if_pos ⟨rfl, h.isLive_iff.2 owned⟩]
  · rw [owners, Hub.owners_cloneOwner, if_neg fun both => other both.1.symm]
  · exact same.pool.trans (Hub.pool_cloneOwner _ _).2

/-- A context whose last session has ended has no current session. -/
theorem Bound.vacant (h : u.Bound) {c : ContextKey}
    (ended : ∀ s, u.answers.lookup c = some s → s ∉ u.strong) : u.db.current? c = none := by
  refine Option.eq_none_iff_forall_ne_some.2 fun s current => ?_
  obtain ⟨given, owned⟩ := h.current?_iff.1 current
  exact ended s (h.last c s given owned) owned

/-- A request after the end of a context's session is answered with one that nobody had before. -/
theorem Bound.other (h : u.Bound) {c : ContextKey}
    (ended : ∀ s, u.answers.lookup c = some s → s ∉ u.strong) {outcome : Except Error Nat}
    (may : u.db.hub.admits outcome = true) :
    (∃ s db, u.db.sessionFor c outcome = (.ok s, db) ∧ db.hub.owners s = 1 ∧
        (∀ c', (c', s) ∉ u.answers) ∧ s ∉ u.pooled ∧ u.db.hub.issued[s]? = none) ∨
      ∃ e db, u.db.sessionFor c outcome = (.error e, db) ∧ outcome = .error e ∧
        u.db.hub.pool.reserve = [] := by
  rcases u.db.sessionFor_cases c may with ⟨s, hub, current, -, -⟩ |
      ⟨-, hub, issues, answered⟩ | ⟨-, e, idle, refused, answered⟩
  · rw [h.vacant ended] at current
    cases current
  · obtain ⟨x, one, issued⟩ := issues.issued
    refine .inl ⟨_, _, answered, ?_, h.free, fun from' => ?_, by simp⟩
    · simp only [Hub.owners, issued, List.getElem?_concat_length, Option.elim_some, one]
    · exact Nat.lt_irrefl _ (h.pooled _ from')
  · exact .inr ⟨e, _, answered, refused, idle⟩

/-- Two sessions that are owned have connections of their own. -/
theorem Bound.isolated (h : u.Bound) {s t : SessionId} (ne : s ≠ t) (hs : s ∈ u.strong)
    (ht : t ∈ u.strong) :
    ∃ x y : Session, u.db.hub.issued[s]? = some x ∧ u.db.hub.issued[t]? = some y ∧
      x.id ≠ y.id ∧ ∃ m n, x.cell = some m ∧ y.cell = some n ∧ m ≠ n := by
  obtain ⟨returned, sound⟩ := h.sound
  have custody := sound.custody
  obtain ⟨m, hm⟩ := Option.isSome_iff_exists.1 ((custody.reach s).2 hs)
  obtain ⟨n, hn⟩ := Option.isSome_iff_exists.1 ((custody.reach t).2 ht)
  have apart : m ≠ n := by
    rintro rfl
    exact ne (custody.alone s t m hm hn)
  obtain ⟨x, foundX, cellX⟩ := Hub.connection?_eq_some.1 hm
  obtain ⟨y, foundY, cellY⟩ := Hub.connection?_eq_some.1 hn
  refine ⟨x, y, foundX, foundY, fun same => apart ?_, m, n, cellX, cellY, apart⟩
  -- the id of a session stands for its connection
  obtain ⟨a, known, own⟩ := custody.own s x foundX
  obtain ⟨b, known', own'⟩ := custody.own t y foundY
  rw [same, known'] at known
  cases known
  rw [own m hm, own' n hn]

/-- Bounds give the four parts of affinity. -/
theorem Bound.affinity (h : u.Bound) : u.Affinity where
  same _ _ last owned outcome := h.same last owned outcome
  other _ ended _ may := h.other ended may
  current c s given owned := by
    refine ⟨h.current?_iff.2 ⟨given, owned⟩, fun t given' owned' => ?_⟩
    have held := h.kept c s given owned
    rw [h.kept c t given' owned'] at held
    cases held
    rfl
  unshared c c' s current current' :=
    h.owner c c' s (h.current?_iff.1 current).1 (h.current?_iff.1 current').1
  isolated c c' s t ne given given' hs ht := by
    refine h.isolated ?_ hs ht
    rintro rfl
    exact ne (h.owner c c' s given given')
  told c s owned := by
    rw [isUsing_iff, h.current?_iff]
    exact and_iff_left owned
  foreign c s from' := by
    rw [Bool.eq_false_iff, ne_eq, isUsing_iff, h.current?_iff]
    exact fun current => h.apart c s current.1 from'

end Affinity

/-- After any uses of a database, whatever its threshold for pruning, contexts get the sessions that
are theirs. From then on, whatever else happens, a context's session stays the context's as long as
it has an owner. -/
theorem contexts_keep_sessions (dialect : Dialect) (threshold : Nat) (uses more : List Use) :
    (run dialect threshold uses).Affinity ∧
      ∀ c s, (c, s) ∈ (run dialect threshold uses).answers →
        s ∈ (run dialect threshold (uses ++ more)).strong →
          (run dialect threshold (uses ++ more)).db.current? c = some s ∧
            (run dialect threshold (uses ++ more)).answers.lookup c = some s := by
  refine ⟨(bound_run dialect threshold uses).affinity, fun c s given owned => ?_⟩
  have later := bound_run dialect threshold (uses ++ more)
  have still : (c, s) ∈ (run dialect threshold (uses ++ more)).answers := by
    rw [run_append]
    exact answers_steps _ more _ given
  exact ⟨later.current?_iff.2 ⟨still, owned⟩, later.last c s still owned⟩

/-- A reset, and a scan that another context's request brings about, leave a context its session. -/
example : (run .sqlite 0 [.session (.scope 1) (.ok 10), .discard, .session (.scope 2) (.ok 11),
    .session (.scope 1) (.ok 12)]).strong = [0, 1, 0] := by
  decide

end Usage

end PooledSql
