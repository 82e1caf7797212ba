import PooledSql.Proofs.Pool.Ownership

/-!
# No connection survives a reset

A get notes the pool's epoch when it starts. The invariant says of every connection which epoch it
belongs to: the one that its opening get noted. A session has that epoch too, whichever get it was
issued to; a get that waits will open its connection under the epoch that it noted; and what is in
reserve belongs to the pool's epoch. A reset moves the pool on to an epoch that no get noted before,
and so parts the connections before it from the gets after it.

Results:
* `dated_effect`: every effect of a move preserves the invariant.
* `since_effect`: after a reset, gets note epochs greater than those before.
* `no_connection_survives`: a get that starts after a reset has no connection whose opening get
  started before.
-/

namespace PooledSql

namespace World

/-- A get noted an epoch, given the epochs that gets noted. -/
def Notes (noted : List Nat) (get : Option Nat) (epoch : Nat) : Prop :=
  ∃ g, get = some g ∧ noted[g]? = some epoch

/-- What every run preserves. -/
structure Dated (w : World) : Prop where
  opened : w.hub.pool.opened = w.openers.length
  issued : w.hub.issues.length = w.getters.length
  current : ∀ e ∈ w.noted, e ≤ w.hub.pool.epoch
  waiting : ∀ p ∈ w.waiting, w.noted[p.get]? = some p.epoch
  getters : ∀ (s : SessionId) id e, w.hub.issues[s]? = some (id, e) → Notes w.noted w.getters[s]? e
  openers : ∀ (s : SessionId) id e, w.hub.issues[s]? = some (id, e) → Notes w.noted (atId w.openers id) e
  stored : ∀ c ∈ w.hub.pool.reserve, Notes w.noted (atId w.openers c.id) w.hub.pool.epoch

/-! ## What was noted stays noted -/

theorem getElem?_mono {α : Type} {before after : List α} (h : before <+: after) {i : Nat} {a : α}
    (known : before[i]? = some a) : after[i]? = some a := by
  obtain ⟨more, rfl⟩ := h
  rw [List.getElem?_append_left (List.getElem?_eq_some_iff.1 known).1, known]

theorem Notes.mono {before after : List Nat} (h : before <+: after) {get get' : Option Nat}
    {epoch : Nat} (same : ∀ g, get = some g → get' = some g) (notes : Notes before get epoch) :
    Notes after get' epoch := by
  obtain ⟨g, e, known⟩ := notes
  exact ⟨g, same g e, getElem?_mono h known⟩

theorem getElem?_snoc {α : Type} {l : List α} {a b : α} {i : Nat}
    (h : (l ++ [a])[i]? = some b) : l[i]? = some b ∨ (i = l.length ∧ b = a) := by
  rcases Nat.lt_trichotomy i l.length with short | rfl | long
  · rw [List.getElem?_append_left short] at h
    exact .inl h
  · refine .inr ⟨rfl, ?_⟩
    simpa [eq_comm] using h
  · have beyond : (l ++ [a]).length ≤ i := by
      rw [List.length_append]
      exact long
    rw [List.getElem?_eq_none beyond] at h
    cases h

/-- What is so for every session is so for one more, if it is for that one. -/
theorem forall_snoc {P : SessionId → Nat → Nat → Prop} {issues : List (Nat × Nat)} {id e : Nat}
    (old : ∀ s i n, issues[s]? = some (i, n) → P s i n) (new : P issues.length id e) :
    ∀ s i n, (issues ++ [(id, e)])[s]? = some (i, n) → P s i n := by
  intro s i n found
  rcases getElem?_snoc found with before | ⟨rfl, last⟩
  · exact old s i n before
  · cases last
    exact new

/-! ## Every effect preserves the invariant -/

theorem dated_wait {w : World} (h : w.Dated) :
    Dated { w.note with waiting := w.waiting ++ [⟨w.nextGet, w.hub.pool.epoch⟩] } where
  opened := h.opened
  issued := h.issued
  current e he := by
    rcases List.mem_append.1 he with old | new
    · exact h.current e old
    · exact Nat.le_of_eq (List.mem_singleton.1 new)
  waiting p hp := by
    rcases List.mem_append.1 hp with old | new
    · exact getElem?_mono (List.prefix_append _ _) (h.waiting p old)
    · rw [List.mem_singleton.1 new]
      simp [note, nextGet]
  getters s id e hs := (h.getters s id e hs).mono (List.prefix_append _ _) fun _ known => known
  openers s id e hs := (h.openers s id e hs).mono (List.prefix_append _ _) fun _ known => known
  stored c hc := (h.stored c hc).mono (List.prefix_append _ _) fun _ known => known

theorem dated_reuse {w : World} (h : w.Dated) {c : Connection} {rest : List Connection}
    (idle : w.hub.pool.reserve = c :: rest) : (w.reuse c rest).Dated := by
  have grows : w.noted <+: (w.reuse c rest).noted := List.prefix_append _ _
  have issues : (w.reuse c rest).hub.issues = w.hub.issues ++ [(c.id, w.hub.pool.epoch)] :=
    Hub.issues_issue _ _ _
  have known := h.stored c (by rw [idle]; exact List.mem_cons_self)
  constructor
  case opened => exact h.opened
  case issued =>
    rw [issues, show (w.reuse c rest).getters = w.getters ++ [w.nextGet] from rfl,
      List.length_append, List.length_append, h.issued]
    rfl
  case current => exact (dated_wait h).current
  case waiting => exact fun p hp => getElem?_mono grows (h.waiting p hp)
  case getters =>
    rw [issues]
    refine forall_snoc (fun s id e old => (h.getters s id e old).mono grows fun _ hg =>
      getElem?_mono (List.prefix_append _ _) hg) ⟨w.nextGet, ?_, ?_⟩
    · rw [h.issued]
      simp [reuse]
    · simp [reuse, note, nextGet]
  case openers =>
    rw [issues]
    exact forall_snoc (fun s id e old => (h.openers s id e old).mono grows fun _ hg => hg)
      (known.mono grows fun _ hg => hg)
  case stored =>
    intro c' hc
    exact (h.stored c' (by rw [idle]; exact List.mem_cons_of_mem c hc)).mono grows fun _ hg => hg

theorem dated_enter {w : World} (h : w.Dated) {p : Pending} {serial : Nat}
    (waits : p ∈ w.waiting) : (w.enter p serial).Dated := by
  have issues : (w.enter p serial).hub.issues =
      w.hub.issues ++ [(w.hub.pool.opened + 1, p.epoch)] := Hub.issues_issue _ _ _
  have opener : Notes w.noted (atId (w.openers ++ [p.get]) (w.hub.pool.opened + 1)) p.epoch := by
    rw [h.opened, atId_next]
    exact ⟨p.get, rfl, h.waiting p waits⟩
  constructor
  case opened =>
    rw [show (w.enter p serial).openers = w.openers ++ [p.get] from rfl, List.length_append,
      ← h.opened]
    rfl
  case issued =>
    rw [issues, show (w.enter p serial).getters = w.getters ++ [p.get] from rfl,
      List.length_append, List.length_append, h.issued]
    rfl
  case current => exact h.current
  case waiting => exact fun q hq => h.waiting q (List.mem_of_mem_erase hq)
  case getters =>
    rw [issues]
    refine forall_snoc (fun s id e old => (h.getters s id e old).mono List.prefix_rfl fun _ hg =>
      getElem?_mono (List.prefix_append _ _) hg) ⟨p.get, ?_, h.waiting p waits⟩
    rw [h.issued]
    simp [enter]
  case openers =>
    rw [issues]
    exact forall_snoc (fun s id e old => (h.openers s id e old).mono List.prefix_rfl fun _ hg =>
      atId_mono (List.prefix_append _ _) hg) opener
  case stored =>
    exact fun c hc => (h.stored c hc).mono List.prefix_rfl fun _ hg =>
      atId_mono (List.prefix_append _ _) hg

theorem dated_share {w : World} (h : w.Dated) (s : SessionId) : (w.share s).Dated := by
  have issues : (w.share s).hub.issues = w.hub.issues := Hub.issues_cloneOwner w.hub s
  have pool : (w.share s).hub.pool = w.hub.pool := (Hub.pool_cloneOwner w.hub s).2
  exact ⟨pool ▸ h.opened, issues ▸ h.issued, pool ▸ h.current, h.waiting, issues ▸ h.getters,
    issues ▸ h.openers, pool ▸ h.stored⟩

theorem dated_letGo {w : World} (h : w.Dated) (s : SessionId) : (w.letGo s).Dated := by
  have issues : (w.letGo s).hub.issues = w.hub.issues := Hub.issues_dropOwner w.hub s
  obtain ⟨-, opened, epoch⟩ := Hub.pool_dropOwner w.hub s
  constructor
  case opened => exact opened.trans h.opened
  case issued => exact (congrArg List.length issues).trans h.issued
  case current => exact fun e he => Nat.le_trans (h.current e he) (Nat.le_of_eq epoch.symm)
  case waiting => exact h.waiting
  case getters => exact fun t id e ht => h.getters t id e (issues ▸ ht)
  case openers => exact fun t id e ht => h.openers t id e (issues ▸ ht)
  case stored =>
    rw [show (w.letGo s).hub = w.hub.dropOwner s from rfl, epoch]
    -- what comes back has the epoch of its session, and that is the pool's
    refine Hub.forall_reserve_dropOwner h.stored fun x serial found _ same => ?_
    rw [same]
    exact h.openers s x.id x.epoch (Hub.issues_of_issued found)

theorem dated_reset {w : World} (h : w.Dated) : Dated { w with hub := w.hub.reset } where
  opened := h.opened
  issued := h.issued
  current e he := Nat.le_succ_of_le (h.current e he)
  waiting := h.waiting
  getters := h.getters
  openers := h.openers
  stored _ hc := absurd hc List.not_mem_nil

theorem dated_dropPool {w : World} (h : w.Dated) : Dated { w with hub := w.hub.dropPool } := by
  unfold Hub.dropPool
  split
  · exact { h with stored := fun c hc => absurd hc List.not_mem_nil }
  · exact h

/-- Every effect of a move preserves the invariant. -/
theorem dated_effect {w w' : World} (h : w.Dated) (effect : Effect w w') : w'.Dated := by
  cases effect with
  | nothing => exact h
  | observe weak => exact { h with }
  | refuse e waits =>
    exact { h with waiting := fun q hq => h.waiting q (List.mem_of_mem_erase hq) }
  | wait alive vacant => exact dated_wait h
  | reuse alive idle => exact dated_reuse h idle
  | enter waits fresh => exact dated_enter h waits
  | share may => exact dated_share h _
  | letGo has => exact dated_letGo h _
  | reset alive => exact dated_reset h
  | dropPool => exact dated_dropPool h

/-- Every get, connection and session is dated after every run. -/
theorem dated_run (moves : List Move) : (run moves).Dated := by
  refine run_induction ?_ (fun w w' h effect => dated_effect h effect) moves
  constructor <;> simp [Hub.issues]

/-! ## What a reset parts -/

/-- From a number on gets noted epochs greater than a given one, and will while the pool is there. -/
structure Since (start epoch : Nat) (w : World) : Prop where
  noted : ∀ (g : Nat) e, start ≤ g → w.noted[g]? = some e → epoch < e
  pool : w.hub.alive = true → epoch < w.hub.pool.epoch

theorem since_reset (w : World) :
    Since w.nextGet w.hub.pool.epoch (w.step .reset) where
  noted g e late known := by
    have kept : (w.step .reset).noted = w.noted := by
      simp only [step]
      split <;> rfl
    rw [kept, List.getElem?_eq_none late] at known
    cases known
  pool alive := by
    simp only [step] at alive ⊢
    split
    · exact Nat.lt_succ_self _
    · rename_i gone
      rw [if_neg gone] at alive
      exact absurd alive gone

theorem Since.note {start epoch : Nat} {w : World} (h : Since start epoch w)
    (alive : w.hub.alive = true) : Since start epoch w.note where
  noted g e late known := by
    rcases getElem?_snoc known with old | ⟨-, rfl⟩
    · exact h.noted g e late old
    · exact h.pool alive
  pool := h.pool

/-- Every effect of a move preserves that gets note greater epochs. -/
theorem since_effect {start epoch : Nat} {w w' : World} (h : Since start epoch w)
    (effect : Effect w w') : Since start epoch w' := by
  cases effect with
  | nothing | observe weak | refuse e waits | enter waits fresh => exact ⟨h.noted, h.pool⟩
  | wait alive vacant | reuse alive idle =>
    have noted := h.note alive
    exact ⟨noted.noted, noted.pool⟩
  | @share s may =>
    obtain ⟨alive, same⟩ := Hub.pool_cloneOwner w.hub s
    refine ⟨h.noted, fun still => ?_⟩
    rw [show (w.share s).hub = w.hub.cloneOwner s from rfl] at still ⊢
    rw [same]
    exact h.pool (alive ▸ still)
  | @letGo s has =>
    obtain ⟨alive, -, same⟩ := Hub.pool_dropOwner w.hub s
    refine ⟨h.noted, fun still => ?_⟩
    rw [show (w.letGo s).hub = w.hub.dropOwner s from rfl] at still ⊢
    rw [same]
    exact h.pool (alive ▸ still)
  | reset alive => exact ⟨h.noted, fun _ => Nat.lt_succ_of_lt (h.pool alive)⟩
  | dropPool =>
    refine ⟨h.noted, ?_⟩
    unfold Hub.dropPool
    split
    · exact fun still => Bool.noConfusion still
    · exact h.pool

theorem since_run (moves after : List Move) :
    Since (run moves).nextGet (run moves).hub.pool.epoch (run (moves ++ .reset :: after)) := by
  rw [run_append]
  exact steps_induction (fun _ _ h effect => since_effect h effect) (since_reset _) after

/-! ## What it means for the connections -/

/-- Sessions of one connection are of one epoch. -/
theorem Dated.epoch_eq {w : World} (h : w.Dated) {x y : Session} (hx : x ∈ w.hub.issued)
    (hy : y ∈ w.hub.issued) (same : x.id = y.id) : x.epoch = y.epoch := by
  have named {z : Session} (hz : z ∈ w.hub.issued) :
      Notes w.noted (atId w.openers z.id) z.epoch := by
    obtain ⟨s, found⟩ := List.mem_iff_getElem?.1 hz
    exact h.openers s z.id z.epoch (by rw [Hub.issues, List.getElem?_map, found]; rfl)
  obtain ⟨g, opener, noted⟩ := named hx
  obtain ⟨g', opener', noted'⟩ := named hy
  rw [← same, opener] at opener'
  cases opener'
  rw [noted] at noted'
  exact Option.some.inj noted'

theorem noted_before_reset {moves after : List Move} {g e : Nat}
    (early : g < (run moves).nextGet)
    (known : (run (moves ++ .reset :: after)).noted[g]? = some e) :
    e ≤ (run moves).hub.pool.epoch := by
  have before := (before_steps (run moves) (.reset :: after)).noted
  rw [← run_append] at before
  obtain ⟨later, grown⟩ := before
  rw [← grown, List.getElem?_append_left early] at known
  exact (dated_run moves).current e (List.mem_of_getElem? known)

/-- Sessions of one connection have one epoch, what is in reserve was opened under the pool's epoch,
and whatever happens before and after a reset, a get that starts after it has a connection whose
opening get started after it too. -/
theorem no_connection_survives (moves after : List Move) :
    (∀ x ∈ (run moves).hub.issued, ∀ y ∈ (run moves).hub.issued,
        x.id = y.id → x.epoch = y.epoch) ∧
      (∀ c ∈ (run moves).hub.pool.reserve, ∃ opener, atId (run moves).openers c.id = some opener ∧
        (run moves).noted[opener]? = some (run moves).hub.pool.epoch) ∧
      ∀ (s : SessionId) (x : Session),
        (run (moves ++ .reset :: after)).hub.issued[s]? = some x →
          ∃ getter opener, (run (moves ++ .reset :: after)).getters[s]? = some getter ∧
            atId (run (moves ++ .reset :: after)).openers x.id = some opener ∧
            ((run moves).nextGet ≤ getter → (run moves).nextGet ≤ opener) := by
  refine ⟨fun x hx y hy => (dated_run moves).epoch_eq hx hy, (dated_run moves).stored,
    fun s x found => ?_⟩
  have dated := dated_run (moves ++ .reset :: after)
  have named := Hub.issues_of_issued found
  obtain ⟨getter, issuedTo, noted⟩ := dated.getters s x.id x.epoch named
  obtain ⟨opener, openedBy, noted'⟩ := dated.openers s x.id x.epoch named
  refine ⟨getter, opener, issuedTo, openedBy, fun late => ?_⟩
  -- the two gets noted one epoch, which is past the reset's for the one and not for an earlier one
  by_contra early
  have greater := (since_run moves after).noted getter x.epoch late noted
  have atMost := noted_before_reset (Nat.lt_of_not_le early) noted'
  exact Nat.lt_irrefl _ (Nat.lt_of_lt_of_le greater atMost)

/-- A connection that was being opened when the pool was reset is closed when it is let go, and the
next get waits for another one. -/
example :
    let w := run [.start, .reset, .arrive ⟨0, 0⟩ 7, .drop 0, .start]
    w.hub.closed = [7] ∧ w.waiting = [⟨1, 1⟩] := by decide

end World

end PooledSql
