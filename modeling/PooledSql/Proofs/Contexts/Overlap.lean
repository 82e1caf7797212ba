import PooledSql.Proofs.Contexts.Affinity

/-!
# Requests that overlap

A request for a context's session looks for a live one first. If there is none and no connection is
idle, the request waits for the factory, and only when a connection arrives does the session on it
become the context's. Meanwhile anything may happen, also another request for the same context. So a
connection may arrive for a request after the context got a session in some other way; the context
then has two, and the database tells of the first one that it is not the context's.

This is the only way in which a context comes to have two live sessions. Whatever happens, the one
that the context got last is in its slot.

Results:
* `step_effect`: what a turn can do, whatever the turn.
* `kept_effect`: what every turn preserves, unless a connection arrives for an overtaken request.
* `recent_effect`: what every turn preserves.
* `exclusive_iff`: when contexts have no more than one live session each.
-/

namespace PooledSql

/-- A request for a context's session that waits for the factory. -/
structure Traffic.Request where
  context : ContextKey
  /-- The epoch that it noted. -/
  epoch : Nat
  /-- How many sessions had been issued when it began to wait. -/
  before : Nat
deriving DecidableEq

/-- A database in use with the requests that are under way. -/
structure Traffic where
  usage : Usage
  waiting : List Traffic.Request := []

/-- Something that happens to a database. -/
inductive Turn
  /-- A use that is over before anything else happens. -/
  | use (use : Use)
  /-- A request begins; it is over at once unless the factory has to be asked. -/
  | request (context : ContextKey)
  /-- The factory returns a connection for a request. -/
  | arrive (r : Traffic.Request) (serial : Nat)
  /-- The factory refuses. -/
  | refuse (r : Traffic.Request) (e : Error)

/-- A context gets a session. -/
def Usage.answer (u : Usage) (context : ContextKey) (s : SessionId) (db : Database) : Usage :=
  { u with db, strong := s :: u.strong, answers := (context, s) :: u.answers }

namespace Traffic

/-- The first step of a request. -/
def request (t : Traffic) (context : ContextKey) : Traffic :=
  match t.usage.db.request context with
  | (.session s, db) => { t with usage := t.usage.answer context s db }
  | (.vacant epoch, db) =>
    { usage := { t.usage with db }
      waiting := ⟨context, epoch, t.usage.db.hub.issued.length⟩ :: t.waiting }

/-- The second step, when the factory opened a connection. -/
def arrive (t : Traffic) (r : Request) (serial : Nat) : Traffic :=
  let (s, db) := t.usage.db.fulfil r.context r.epoch serial
  { usage := t.usage.answer r.context s db, waiting := t.waiting.erase r }

/-- A request is over, and its context gets the session that came about with it. -/
def grant (t : Traffic) (r : Request) (hub : Hub) : Traffic where
  usage := t.usage.answer r.context t.usage.db.hub.issued.length
    { t.usage.db with
      hub
      finder := (t.usage.db.finder.observe hub.isLive r.context
        t.usage.db.hub.issued.length).1 }
  waiting := t.waiting.erase r

/-- The second step, when the factory refused. -/
def refuse (t : Traffic) (r : Request) (e : Error) : Traffic :=
  { usage := { t.usage with db := t.usage.db.fail e }, waiting := t.waiting.erase r }

/-- What a turn does. -/
def step (t : Traffic) : Turn → Traffic
  | .use use => { t with usage := t.usage.step use }
  | .request context => t.request context
  | .arrive r serial =>
    if r ∈ t.waiting ∧ t.usage.db.hub.admits (.ok serial) = true then t.arrive r serial else t
  | .refuse r e => if r ∈ t.waiting then t.refuse r e else t

/-- The database after some turns from the start, with any threshold for pruning. -/
def run (dialect : Dialect) (threshold : Nat) (turns : List Turn) : Traffic :=
  turns.foldl step { usage := { db := Database.new dialect threshold } }

theorem run_snoc (dialect : Dialect) (threshold : Nat) (turns : List Turn) (turn : Turn) :
    run dialect threshold (turns ++ [turn]) = (run dialect threshold turns).step turn :=
  List.foldl_append

end Traffic

/-! ## The two steps of a request -/

namespace Database

/-- The ways in which the first step ends: with the context's live session and one owner more, with
one more session that becomes the context's, or with nothing but the epoch. -/
theorem request_cases (db : Database) (context : ContextKey) :
    (∃ s hub, db.current? context = some s ∧ (db.hub.cloneOwner s).Alike hub ∧
      db.request context = (.session s, { db with hub })) ∨
    (db.current? context = none ∧ ∃ hub, db.hub.Issues hub ∧
      db.request context = (.session db.hub.issued.length,
        { db with
          hub
          finder := (db.finder.observe hub.isLive context db.hub.issued.length).1 })) ∨
    (db.current? context = none ∧ db.request context = (.vacant db.hub.pool.epoch, db)) := by
  cases current : db.current? context with
  | some s =>
    let e := LogEvent.found ((db.hub.issued[s]?).elim 0 Session.id) context
    refine .inl ⟨s, (db.hub.cloneOwner s).note e, rfl, Hub.alike_note _ e, ?_⟩
    simp only [request, current]
    rfl
  | none =>
    cases idle : db.hub.pool.reserve with
    | cons c rest =>
      have same := alike_assign { db with hub := (({ hub := db.hub } : World).reuse c rest).hub }
        context db.hub.issued.length
      refine .inr (.inl ⟨rfl, _, .reuse idle same, ?_⟩)
      rw [same.isLive]
      simp only [request, current, Hub.beginGet, Pool.take, idle]
      rfl
    | nil =>
      refine .inr (.inr ⟨rfl, ?_⟩)
      simp only [request, current, Hub.beginGet, Pool.take, idle]

theorem fulfil_eq (db : Database) (context : ContextKey) (epoch serial : Nat) :
    ∃ hub, (db.hub.finishGet epoch serial).2.Alike hub ∧
      db.fulfil context epoch serial = (db.hub.issued.length,
        { db with
          hub
          finder := (db.finder.observe hub.isLive context db.hub.issued.length).1 }) := by
  have same := alike_assign { db with hub := (db.hub.finishGet epoch serial).2 } context
    db.hub.issued.length
  refine ⟨_, same, ?_⟩
  rw [same.isLive]
  rfl

end Database

/-! ## What a turn can do -/

namespace Traffic

/-- What a turn can do to a database and the requests that are under way. -/
inductive Effect (t : Traffic) : Turn → Traffic → Prop
  /-- What a use can do. -/
  | use {turn : Turn} {usage : Usage} (effect : t.usage.Effect usage) :
      Effect t turn { t with usage }
  /-- A request for a context without a live session waits. -/
  | wait {turn : Turn} {context : ContextKey} {epoch : Nat}
      (vacant : t.usage.db.current? context = none) :
      Effect t turn { t with
        waiting := ⟨context, epoch, t.usage.db.hub.issued.length⟩ :: t.waiting }
  /-- A connection arrives, and the context of the request gets one more session. -/
  | arrive {r : Request} {serial : Nat} {hub : Hub} (waits : r ∈ t.waiting)
      (may : t.usage.db.hub.admits (.ok serial) = true)
      (same : (t.usage.db.hub.finishGet r.epoch serial).2.Alike hub) :
      Effect t (.arrive r serial) (t.grant r hub)
  /-- A request is over, and only that is noted. -/
  | refuse {turn : Turn} {r : Request} {hub : Hub} (same : t.usage.db.hub.Alike hub) :
      Effect t turn { usage := { t.usage with db.hub := hub }, waiting := t.waiting.erase r }

theorem request_effect (t : Traffic) (turn : Turn) (context : ContextKey) :
    t.Effect turn (t.request context) := by
  unfold request
  rcases t.usage.db.request_cases context with ⟨s, hub, current, same, found⟩ |
      ⟨vacant, hub, issues, found⟩ | ⟨vacant, found⟩
  · rw [found]
    exact .use (.found current same)
  · rw [found]
    exact .use (.issue vacant issues)
  · rw [found]
    exact .wait vacant

theorem arrive_eq (t : Traffic) (r : Request) (serial : Nat) :
    ∃ hub, (t.usage.db.hub.finishGet r.epoch serial).2.Alike hub ∧
      t.arrive r serial = t.grant r hub := by
  obtain ⟨hub, same, e⟩ := t.usage.db.fulfil_eq r.context r.epoch serial
  refine ⟨hub, same, ?_⟩
  rw [arrive, e, grant]

/-- Whatever a turn does is one of the effects. -/
theorem step_effect (t : Traffic) (turn : Turn) : t.Effect turn (t.step turn) := by
  cases turn with
  | use use => exact .use (t.usage.step_effect use)
  | request context => exact t.request_effect _ context
  | arrive r serial =>
    simp only [step]
    split
    · rename_i can
      obtain ⟨hub, same, e⟩ := t.arrive_eq r serial
      rw [e]
      exact .arrive can.1 can.2 same
    · exact .use .nothing
  | refuse r e =>
    simp only [step]
    split
    · exact .refuse (Hub.alike_note _ _)
    · exact .use .nothing

end Traffic

/-! ## No session comes back -/

namespace Hub

theorem Alike.fades {h h' h'' : Hub} (same : h'.Alike h'') (fades : h.Fades h') : h.Fades h'' :=
  fades.trans (fades_of_issued same.issued)

theorem Issues.fades {h h' : Hub} (issues : h.Issues h') : h.Fades h' := by
  cases issues with
  | reuse idle same =>
    refine same.fades (fades_issue ?_ _ _)
    rfl
  | enter vacant fresh same =>
    refine same.fades (fades_issue ?_ _ _)
    rfl

theorem fades_finishGet (h : Hub) (epoch serial : Nat) : h.Fades (h.finishGet epoch serial).2 := by
  refine fades_issue ?_ _ _
  rfl

theorem lt_of_finishGet {h h' : Hub} {epoch serial : Nat}
    (same : (h.finishGet epoch serial).2.Alike h') : h.issued.length < h'.issued.length := by
  have more : (h.finishGet epoch serial).2.issued.length = h.issued.length + 1 :=
    List.length_append
  rw [same.issued, more]
  exact Nat.lt_succ_self _

theorem isLive_finishGet {h : Hub} {s : SessionId} (epoch serial : Nat)
    (may : s = h.issued.length ∨ h.isLive s = true) :
    (h.finishGet epoch serial).2.isLive s = true := by
  rw [isLive, finishGet, owners_issue, bne_iff_ne]
  split
  · exact Nat.one_ne_zero
  · rename_i old
    exact bne_iff_ne.1 (may.resolve_left old)

end Hub

namespace Usage

/-- Whatever the effect, a session that is over stays over. -/
theorem fades_effect {u u' : Usage} (effect : Effect u u') : u.db.hub.Fades u'.db.hub := by
  cases effect with
  | nothing | observe weak | discard => exact Hub.fades_of_issued rfl
  | refuse same => exact Hub.fades_of_issued same.issued
  | found current same => exact same.fades (Hub.fades_cloneOwner _ _)
  | issue vacant issues | pooled issues => exact issues.fades
  | share may => exact Hub.fades_cloneOwner _ _
  | letGo has => exact Hub.fades_dropOwner _ _

/-! ## The session that a context got last -/

/-- The slots hold the session that each context got last, as long as it is live. -/
structure Recent (db : Database) (answers : List (ContextKey × SessionId)) : Prop where
  issued : ∀ c s, answers.lookup c = some s → s < db.hub.issued.length
  recalls : db.finder.Recalls db.hub.isLive fun c => answers.lookup c

section Recent

variable {db : Database} {answers : List (ContextKey × SessionId)} {hub : Hub}

theorem Recent.fades (h : Recent db answers) (fades : db.hub.Fades hub) :
    Recent { db with hub } answers where
  issued c s last := Nat.lt_of_lt_of_le (h.issued c s last) fades.more
  recalls := h.recalls.fewer fun c s last => fades.live s (h.issued c s last)

/-- A context gets the session that is issued next. -/
theorem Recent.next (h : Recent db answers) (fades : db.hub.Fades hub)
    (more : db.hub.issued.length < hub.issued.length) (context : ContextKey) :
    Recent { db with
        hub, finder := (db.finder.observe hub.isLive context db.hub.issued.length).1 }
      ((context, db.hub.issued.length) :: answers) where
  issued c s last := by
    rw [lookup_cons_eq] at last
    split at last
    · cases last
      exact more
    · exact (h.fades fades).issued c s last
  recalls := by
    simp only [lookup_cons_eq]
    exact (h.fades fades).recalls.observe context _

/-- A context gets its current session once more. -/
theorem Recent.again (h : Recent db answers) {context : ContextKey} {s : SessionId}
    (current : db.current? context = some s) : Recent db ((context, s) :: answers) := by
  have last : answers.lookup context = some s :=
    h.recalls.held context s (Finder.current?_eq_some_iff.1 current).1
  have same (c : ContextKey) : ((context, s) :: answers).lookup c = answers.lookup c := by
    rw [lookup_cons_eq]
    split
    · rename_i e
      rw [e, last]
    · rfl
  constructor
  case issued => exact fun c t found => h.issued c t (same c ▸ found)
  case recalls =>
    simp only [same]
    exact h.recalls

theorem Recent.isUsing_iff (h : Recent db answers) (c : ContextKey) (s : SessionId) :
    db.isUsing c s = true ↔ answers.lookup c = some s ∧ db.hub.isLive s = true := by
  rw [Usage.isUsing_iff, Database.current?, h.recalls.current?, Option.filter_eq_some_iff]

end Recent

theorem recent_effect {u u' : Usage} (h : Recent u.db u.answers) (effect : Effect u u') :
    Recent u'.db u'.answers := by
  have fades := fades_effect effect
  cases effect with
  | nothing | observe weak => exact h
  | found current same => exact (h.again current).fades fades
  | issue vacant issues => exact h.next fades issues.more _
  | refuse same | pooled issues | share may | letGo has | discard => exact h.fades fades

/-! ## What contexts got -/

theorem answers_next (answers : List (ContextKey × SessionId)) (context : ContextKey) (n : Nat) :
    ∀ p ∈ (context, n) :: answers, p ∈ answers ∨ n ≤ p.2 := by
  intro p given
  rcases List.mem_cons.1 given with rfl | given
  · exact .inr (Nat.le_refl _)
  · exact .inl given

/-- What a context gets it had before, or it is a session that is just being issued. -/
theorem answers_new {u u' : Usage} (h : u.Bound) (effect : Effect u u') :
    ∀ p ∈ u'.answers, p ∈ u.answers ∨ u.db.hub.issued.length ≤ p.2 := by
  cases effect with
  | found current same =>
    intro p given
    rcases List.mem_cons.1 given with rfl | given
    · exact .inl (h.current?_iff.1 current).1
    · exact .inl given
  | issue vacant issues => exact answers_next _ _ _
  | nothing | observe weak | refuse same | pooled issues | share may | letGo has | discard =>
    exact fun p given => .inl given

/-- Each context has no more than one live session, and the database tells that it is the
context's. -/
structure Exclusive (u : Usage) : Prop where
  alone : ∀ c s t, (c, s) ∈ u.answers → (c, t) ∈ u.answers → u.db.hub.isLive s = true →
    u.db.hub.isLive t = true → s = t
  told : ∀ c s, (c, s) ∈ u.answers → u.db.hub.isLive s = true → u.db.isUsing c s = true

/-- Where contexts are bound, no context has two sessions that are alive. -/
theorem Bound.exclusive {u : Usage} (h : u.Bound) : u.Exclusive where
  alone c s t given given' live live' := by
    have last := h.last c s given (h.isLive_iff.1 live)
    rw [h.last c t given' (h.isLive_iff.1 live')] at last
    cases last
    rfl
  told c s given live := by
    rw [isUsing_iff, h.current?_iff]
    exact ⟨given, h.isLive_iff.1 live⟩

end Usage

namespace Traffic

/-! ## Requests that are overtaken -/

/-- Since a request began to wait, its context got a session, and that is live. -/
def Overtaken (t : Traffic) (r : Request) : Prop :=
  ∃ s, (r.context, s) ∈ t.usage.answers ∧ t.usage.db.hub.isLive s = true ∧ r.before ≤ s

/-- A connection arrives for a request that was overtaken. -/
def Clashes (t : Traffic) : Turn → Prop
  | .arrive r serial =>
    r ∈ t.waiting ∧ t.usage.db.hub.admits (.ok serial) = true ∧ t.Overtaken r
  | _ => False

/-- What every run without a clash preserves. -/
structure Kept (t : Traffic) : Prop where
  bound : t.usage.Bound
  begun : ∀ r ∈ t.waiting, r.before ≤ t.usage.db.hub.issued.length
  /-- Its context had no live session when a request began to wait. -/
  since : ∀ r ∈ t.waiting, ∀ s, (r.context, s) ∈ t.usage.answers →
    t.usage.db.hub.isLive s = true → r.before ≤ s

section Kept

variable {t : Traffic}

/-- Requests that wait go on waiting, and what contexts get meanwhile is new. -/
theorem Kept.later (h : t.Kept) {u : Usage} (bound : u.Bound)
    (fades : t.usage.db.hub.Fades u.db.hub)
    (given : ∀ p ∈ u.answers, p ∈ t.usage.answers ∨ t.usage.db.hub.issued.length ≤ p.2)
    {waiting : List Request} (fewer : ∀ r ∈ waiting, r ∈ t.waiting) :
    Kept { usage := u, waiting } where
  bound := bound
  begun r waits := Nat.le_trans (h.begun r (fewer r waits)) fades.more
  since r waits s got live := by
    rcases given _ got with old | new
    · exact h.since r (fewer r waits) s old (fades.live s (h.bound.answered _ s old) live)
    · exact Nat.le_trans (h.begun r (fewer r waits)) new

theorem kept_wait (h : t.Kept) {context : ContextKey} {epoch : Nat}
    (vacant : t.usage.db.current? context = none) :
    Kept { t with waiting := ⟨context, epoch, t.usage.db.hub.issued.length⟩ :: t.waiting } where
  bound := h.bound
  begun r waits := by
    rcases List.mem_cons.1 waits with rfl | waits
    · exact Nat.le_refl _
    · exact h.begun r waits
  since r waits s given live := by
    rcases List.mem_cons.1 waits with rfl | waits
    · -- nothing that its context was given before is live
      exact absurd (h.bound.isLive_iff.1 live) (h.bound.not_mem_strong vacant given)
    · exact h.since r waits s given live

/-- A request that was not overtaken is for a context without a live session still. -/
theorem Kept.vacant (h : t.Kept) {r : Request} (waits : r ∈ t.waiting) (calm : ¬ t.Overtaken r) :
    t.usage.db.current? r.context = none := by
  refine Option.eq_none_iff_forall_ne_some.2 fun s current => calm ?_
  obtain ⟨given, has⟩ := h.bound.current?_iff.1 current
  have live := h.bound.isLive_iff.2 has
  exact ⟨s, given, live, h.since r waits s given live⟩

theorem kept_arrive (h : t.Kept) {r : Request} {serial : Nat} {hub : Hub} (waits : r ∈ t.waiting)
    (may : t.usage.db.hub.admits (.ok serial) = true)
    (same : (t.usage.db.hub.finishGet r.epoch serial).2.Alike hub) (calm : ¬ t.Overtaken r) :
    (t.grant r hub).Kept := by
  have gains : t.usage.Gains hub := by
    obtain ⟨returned, sound⟩ := h.bound.sound
    have new : serial ∉ returned := fun known => by
      have present := sound.places.mem_iff.2 known
      simp [Hub.admits, present] at may
    exact ⟨⟨_, (World.sound_enter (p := ⟨0, r.epoch⟩) sound new).alike same⟩,
      Hub.lt_of_finishGet same⟩
  refine h.later (Usage.bound_issue h.bound (h.vacant waits calm) gains)
    (same.fades (Hub.fades_finishGet _ _ _)) ?_ fun _ => List.mem_of_mem_erase
  exact Usage.answers_next _ _ _

/-- Every effect of a turn preserves the invariant, unless the turn is a clash. -/
theorem kept_effect (h : t.Kept) {turn : Turn} {t' : Traffic} (effect : t.Effect turn t')
    (calm : ¬ t.Clashes turn) : t'.Kept := by
  cases effect with
  | use effect =>
    exact h.later (Usage.bound_effect h.bound effect) (Usage.fades_effect effect)
      (Usage.answers_new h.bound effect) fun _ waits => waits
  | wait vacant => exact kept_wait h vacant
  | arrive waits may same =>
    exact kept_arrive h waits may same fun overtaken => calm ⟨waits, may, overtaken⟩
  | refuse same =>
    exact h.later (h.bound.alike same) (Hub.fades_of_issued same.issued)
      (fun p given => .inl given) fun _ => List.mem_of_mem_erase

/-- A clash leaves a context with two live sessions. -/
theorem not_exclusive_of_clashes {turn : Turn} (clash : t.Clashes turn) :
    ¬ (t.step turn).usage.Exclusive := by
  cases turn with
  | use | request | refuse => exact clash.elim
  | arrive r serial =>
    obtain ⟨waits, may, s, given, live, -⟩ := clash
    obtain ⟨hub, same, e⟩ := t.arrive_eq r serial
    have still : hub.isLive s = true := by
      rw [same.isLive]
      exact Hub.isLive_finishGet _ _ (.inr live)
    have new : hub.isLive t.usage.db.hub.issued.length = true := by
      rw [same.isLive]
      exact Hub.isLive_finishGet _ _ (.inl rfl)
    rw [step, if_pos ⟨waits, may⟩, e]
    intro exclusive
    -- the session that was there is not the one that came about
    have one := exclusive.alone r.context s _ (List.mem_cons_of_mem _ given) List.mem_cons_self
      still new
    exact Nat.ne_of_lt (Hub.lt_of_isLive live) one

end Kept

/-! ## What runs preserve -/

theorem recent_effect {t t' : Traffic} (h : Usage.Recent t.usage.db t.usage.answers) {turn : Turn}
    (effect : t.Effect turn t') : Usage.Recent t'.usage.db t'.usage.answers := by
  cases effect with
  | use effect => exact Usage.recent_effect h effect
  | wait vacant => exact h
  | arrive waits may same =>
    exact h.next (same.fades (Hub.fades_finishGet _ _ _)) (Hub.lt_of_finishGet same) _
  | refuse same => exact h.fades (Hub.fades_of_issued same.issued)

/-- The last answers are the ones that are recalled, after every run of turns. -/
theorem recent_run (dialect : Dialect) (threshold : Nat) (turns : List Turn) :
    Usage.Recent (run dialect threshold turns).usage.db
      (run dialect threshold turns).usage.answers := by
  induction turns using List.reverseRecOn with
  | nil =>
    refine ⟨fun c s last => ?_, Finder.recalls_new threshold _⟩
    cases last
  | append_singleton turns turn ih =>
    rw [run_snoc]
    exact recent_effect ih (step_effect _ turn)

/-- A run in which no turn clashes with a request that waits keeps the invariant. -/
theorem kept_run (dialect : Dialect) (threshold : Nat) (turns : List Turn)
    (calm : ∀ past turn, past ++ [turn] <+: turns → ¬ (run dialect threshold past).Clashes turn) :
    (run dialect threshold turns).Kept := by
  induction turns using List.reverseRecOn with
  | nil => exact ⟨Usage.bound_run dialect threshold [], by simp [run], by simp [run]⟩
  | append_singleton turns turn ih =>
    rw [run_snoc]
    have before := ih fun past next early => calm past next (early.trans (List.prefix_append _ _))
    exact kept_effect before (step_effect _ turn) (calm turns turn List.prefix_rfl)

/-! ## What it means for contexts -/

/-- Contexts have no more than one live session each, at every moment of a run, exactly if no
connection arrives for a request that was overtaken. Whether one does or not, the database tells of
a session that it is a context's exactly if it is the one that the context got last and it is
live. -/
theorem exclusive_iff (dialect : Dialect) (threshold : Nat) (turns : List Turn) :
    ((∀ past, past <+: turns → (run dialect threshold past).usage.Exclusive) ↔
      ∀ past turn, past ++ [turn] <+: turns → ¬ (run dialect threshold past).Clashes turn) ∧
    ∀ c s, (run dialect threshold turns).usage.db.isUsing c s = true ↔
      (run dialect threshold turns).usage.answers.lookup c = some s ∧
        (run dialect threshold turns).usage.db.hub.isLive s = true := by
  refine ⟨⟨fun exclusive past turn early clash => ?_, fun calm past early => ?_⟩,
    (recent_run dialect threshold turns).isUsing_iff⟩
  · have after := exclusive (past ++ [turn]) early
    rw [run_snoc] at after
    exact not_exclusive_of_clashes clash after
  · have kept := kept_run dialect threshold past fun before turn earlier =>
      calm before turn (earlier.trans early)
    exact kept.bound.exclusive

/-- Two requests of a context wait at once, and both are answered. Both sessions are live then, and
the database tells of the first one that it is not the context's. -/
theorem overlapping_requests_twoSessions :
    let u := (run .sqlite 64 [.request (.scope 1), .request (.scope 1),
      .arrive ⟨.scope 1, 0, 0⟩ 10, .arrive ⟨.scope 1, 0, 0⟩ 11]).usage
    ¬ u.Exclusive ∧ u.answers = [(.scope 1, 1), (.scope 1, 0)] ∧ u.db.hub.isLive 0 = true ∧
      u.db.hub.isLive 1 = true ∧ u.db.isUsing (.scope 1) 0 = false := by
  refine ⟨fun exclusive => ?_, by decide, by decide, by decide, by decide⟩
  have one := exclusive.alone (.scope 1) 0 1 (by decide) (by decide) (by decide) (by decide)
  exact Nat.zero_ne_one one

end Traffic

end PooledSql
