import Mathlib.Order.Bounds.Basic
import PooledSql.Proofs.Pool.Ledger

/-!
# A pool opens no more than the peak demand

If every get is over before anything else happens, then a pool opens a connection only when all that
it opened under its epoch are in use. So for every epoch it opened as many as sessions of that epoch
were ever in use at once, and no more.

What is idle, what is in use and what was opened are level: under the pool's epoch the first two
make up the third. A get that finds something idle stays below what was opened, and one that finds
nothing idle takes both the opened connections and the demand to a height that was never reached
before. An earlier epoch gets no sessions any more, and a later one has none yet.

Results:
* `level_step`: every move that may be made keeps the level, and the pace of what is opened.
* `opens_for_peak_demand`: what was opened under an epoch is the greatest demand there was.
-/

namespace PooledSql

namespace World

/-- How many sessions of an epoch are in use. -/
def demand (w : World) (epoch : Nat) : Nat := w.hub.inUse (· == epoch)

/-- How many connections were opened by gets that noted an epoch. -/
def openedAt (w : World) (epoch : Nat) : Nat := w.openers.countP fun g => w.noted[g]? == some epoch

/-- How many sessions of an epoch were in use at the moments of a run. -/
def demands (epoch : Nat) (moves : List Move) : Set Nat :=
  {n | ∃ past, past <+: moves ∧ (run past).demand epoch = n}

/-- The factory answers a get that waits. -/
def isAnswer (w : World) : Move → Bool
  | .arrive p serial => p ∈ w.waiting ∧ serial ∉ w.returned
  | .refuse p _ => p ∈ w.waiting
  | _ => false

/-- Each operation is over before the next one starts: while a get waits, nothing happens but that
the factory answers it. -/
def oneByOne (w : World) : List Move → Bool
  | [] => true
  | m :: rest => (w.waiting.isEmpty || w.isAnswer m) && (w.step m).oneByOne rest

theorem oneByOne_append (w : World) (a b : List Move) :
    w.oneByOne (a ++ b) = (w.oneByOne a && (w.steps a).oneByOne b) := by
  induction a generalizing w with
  | nil => rfl
  | cons m rest ih =>
    rw [List.cons_append, oneByOne, oneByOne, ih, Bool.and_assoc]
    rfl

/-! ## Level -/

/-- What every run preserves in which each operation is over before the next one starts. -/
structure Level (w : World) : Prop where
  openers : ∀ g ∈ w.openers, g < w.noted.length
  waiting : ∀ p ∈ w.waiting, p.get < w.noted.length
  vacant : ∀ p ∈ w.waiting, w.hub.alive = true ∧ p.epoch = w.hub.pool.epoch ∧
    w.hub.pool.reserve = []
  level : w.hub.alive = true →
    w.hub.pool.reserve.length + w.demand w.hub.pool.epoch = w.openedAt w.hub.pool.epoch

/-- The demand stays below what was opened, or more is opened as the demand has reached that. -/
def Paced (w w' : World) (epoch : Nat) : Prop :=
  (w'.openedAt epoch = w.openedAt epoch ∧ w'.demand epoch ≤ w.openedAt epoch) ∨
    (w.openedAt epoch ≤ w'.openedAt epoch ∧ w'.demand epoch = w'.openedAt epoch)

section Level

variable {w w' : World}

theorem demand_issue (h : Hub) (c : Connection) (epoch e : Nat) :
    (h.issue c epoch).2.inUse (· == e) = h.inUse (· == e) + if epoch = e then 1 else 0 := by
  rw [Hub.inUse_issue]
  simp only [beq_iff_eq]

/-- What a later get notes does not count for the connections that are open. -/
theorem Level.openedAt_note (h : w.Level) (noted : List Nat) (e : Nat) :
    (w.openers.countP fun g => (w.noted ++ noted)[g]? == some e) = w.openedAt e := by
  refine List.countP_congr fun g opened => ?_
  rw [List.getElem?_append_left (h.openers g opened)]

theorem Dated.le_epoch (h : w.Dated) {g e : Nat} (known : w.noted[g]? = some e) :
    e ≤ w.hub.pool.epoch :=
  h.current e (List.mem_of_getElem? known)

theorem Dated.demand_later (h : w.Dated) {e : Nat} (later : w.hub.pool.epoch < e) :
    w.demand e = 0 := by
  refine List.countP_eq_zero.2 fun x issued => ?_
  obtain ⟨s, found⟩ := List.mem_iff_getElem?.1 issued
  obtain ⟨g, -, known⟩ := h.openers s x.id x.epoch (Hub.issues_of_issued found)
  have early := h.le_epoch known
  have differs : x.epoch ≠ e := by omega
  simp [differs]

theorem Dated.openedAt_later (h : w.Dated) {e : Nat} (later : w.hub.pool.epoch < e) :
    w.openedAt e = 0 := by
  refine List.countP_eq_zero.2 fun g opened => ?_
  rw [beq_iff_eq]
  intro known
  exact Nat.not_lt.2 (h.le_epoch known) later

theorem level_quiet (h : w.Level) (bounded : ∀ e, w.demand e ≤ w.openedAt e)
    (quiet : w.Quiet w') : w'.Level ∧ ∀ e, Paced w w' e := by
  have opened (e : Nat) : w'.openedAt e = w.openedAt e := by
    rw [openedAt, quiet.openers, quiet.noted]
    rfl
  have demand (e : Nat) : w'.demand e = w.demand e := quiet.inUse _
  refine ⟨⟨?_, ?_, ?_, ?_⟩, fun e => .inl ⟨opened e, ?_⟩⟩
  · rw [quiet.openers, quiet.noted]
    exact h.openers
  · rw [quiet.noted]
    exact fun p waits => h.waiting p (quiet.waiting.subset waits)
  · rw [quiet.alive, quiet.pool]
    exact fun p waits => h.vacant p (quiet.waiting.subset waits)
  · rw [quiet.alive, quiet.pool, demand, opened]
    exact h.level
  · rw [demand]
    exact bounded e

/-- A get that finds something idle stays below what was opened. -/
theorem level_reuse (h : w.Level) (bounded : ∀ e, w.demand e ≤ w.openedAt e) {c : Connection}
    {rest : List Connection} (alive : w.hub.alive = true) (idle : w.hub.pool.reserve = c :: rest) :
    (w.reuse c rest).Level ∧ ∀ e, Paced w (w.reuse c rest) e := by
  have level := h.level alive
  rw [idle, List.length_cons] at level
  have opened (e : Nat) : (w.reuse c rest).openedAt e = w.openedAt e := h.openedAt_note _ e
  have demand (e : Nat) : (w.reuse c rest).demand e =
      w.demand e + if w.hub.pool.epoch = e then 1 else 0 := demand_issue _ _ _ _
  have grown : w.noted.length ≤ (w.reuse c rest).noted.length :=
    (List.prefix_append w.noted _).length_le
  refine ⟨⟨?_, ?_, ?_, fun _ => ?_⟩, fun e => .inl ⟨opened e, ?_⟩⟩
  · exact fun g opened => Nat.lt_of_lt_of_le (h.openers g opened) grown
  · exact fun p waits => Nat.lt_of_lt_of_le (h.waiting p waits) grown
  · intro p waits
    have vacant := (h.vacant p waits).2.2
    rw [idle] at vacant
    cases vacant
  · rw [opened, demand]
    change rest.length + (w.demand w.hub.pool.epoch + if w.hub.pool.epoch = w.hub.pool.epoch
      then 1 else 0) = w.openedAt w.hub.pool.epoch
    rw [if_pos rfl]
    omega
  · rw [demand]
    split
    · rename_i same
      subst same
      omega
    · exact bounded e

theorem level_call (h : w.Level) (bounded : ∀ e, w.demand e ≤ w.openedAt e)
    (alive : w.hub.alive = true) (vacant : w.hub.pool.reserve = []) :
    Level { w.note with waiting := w.waiting ++ [⟨w.nextGet, w.hub.pool.epoch⟩] } ∧
      ∀ e, Paced w { w.note with waiting := w.waiting ++ [⟨w.nextGet, w.hub.pool.epoch⟩] } e := by
  have grown : w.note.noted.length = w.noted.length + 1 := List.length_append
  refine ⟨⟨?_, ?_, ?_, ?_⟩, fun e => .inl ⟨h.openedAt_note _ e, bounded e⟩⟩
  · exact fun g opened => grown ▸ Nat.lt_succ_of_lt (h.openers g opened)
  · intro p waits
    change p.get < w.note.noted.length
    rw [grown]
    rcases List.mem_append.1 waits with before | now
    · exact Nat.lt_succ_of_lt (h.waiting p before)
    · rw [List.mem_singleton.1 now]
      exact Nat.lt_succ_self _
  · intro p waits
    rcases List.mem_append.1 waits with before | now
    · exact h.vacant p before
    · rw [List.mem_singleton.1 now]
      exact ⟨alive, rfl, vacant⟩
  · intro alive
    exact (h.level alive).trans (h.openedAt_note _ _).symm

/-- A get that finds nothing idle opens one more for a demand that has reached what was opened. -/
theorem level_enter (h : w.Level) (bounded : ∀ e, w.demand e ≤ w.openedAt e) (dated : w.Dated)
    {p : Pending} (serial : Nat) (waits : p ∈ w.waiting) :
    (w.enter p serial).Level ∧ ∀ e, Paced w (w.enter p serial) e := by
  obtain ⟨alive, current, vacant⟩ := h.vacant p waits
  have level := h.level alive
  rw [vacant, List.length_nil] at level
  have opened (e : Nat) : (w.enter p serial).openedAt e =
      w.openedAt e + if p.epoch = e then 1 else 0 := by
    rw [openedAt, show (w.enter p serial).openers = w.openers ++ [p.get] from rfl,
      List.countP_append, List.countP_singleton]
    congr 1
    rw [show (w.enter p serial).noted = w.noted from rfl, dated.waiting p waits]
    simp
  have demand (e : Nat) : (w.enter p serial).demand e =
      w.demand e + if p.epoch = e then 1 else 0 := demand_issue _ _ _ _
  refine ⟨⟨?_, ?_, ?_, fun _ => ?_⟩, fun e => ?_⟩
  · intro g opened
    rcases List.mem_append.1 opened with before | now
    · exact h.openers g before
    · rw [List.mem_singleton.1 now]
      exact h.waiting p waits
  · exact fun q waits' => h.waiting q (List.mem_of_mem_erase waits')
  · exact fun q waits' => h.vacant q (List.mem_of_mem_erase waits')
  · rw [opened, demand]
    change w.hub.pool.reserve.length + (w.demand w.hub.pool.epoch + _) =
      w.openedAt w.hub.pool.epoch + _
    rw [vacant, List.length_nil]
    omega
  · rw [Paced, opened, demand]
    split
    · rename_i same
      rw [current] at same
      subst same
      exact .inr ⟨Nat.le_succ _, by omega⟩
    · exact .inl ⟨rfl, bounded e⟩

theorem forall_waiting_of_calm (calm : w.waiting = []) {P : Pending → Prop} :
    ∀ p ∈ w.waiting, P p := by
  rw [calm]
  exact List.forall_mem_nil P

/-- A session that ends gives back what it had, or its epoch is past. -/
theorem level_ended (h : w.Level) (bounded : ∀ e, w.demand e ≤ w.openedAt e)
    (calm : w.waiting = []) {s : SessionId} {x : Session} {serial : Nat}
    (found : w.hub.issued[s]? = some x) (one : x.owners = 1)
    (released : (w.letGo s).hub = (w.hub.vacate s).release ⟨x.id, serial⟩ x.epoch) :
    (w.letGo s).Level ∧ ∀ e, Paced w (w.letGo s) e := by
  have demand (e : Nat) : (w.letGo s).demand e + (if x.epoch = e then 1 else 0) = w.demand e := by
    have fewer := Hub.inUse_vacate found one (· == e)
    simp only [beq_iff_eq] at fewer
    rw [World.demand, released, Hub.inUse_release]
    exact fewer
  have opened (e : Nat) : (w.letGo s).openedAt e = w.openedAt e := rfl
  obtain ⟨there, -, epoch⟩ := Hub.pool_dropOwner w.hub s
  have epoch : (w.letGo s).hub.pool.epoch = w.hub.pool.epoch := epoch
  refine ⟨⟨h.openers, h.waiting, ?_, fun alive => ?_⟩, fun e => .inl ⟨rfl, ?_⟩⟩
  · exact forall_waiting_of_calm calm
  · have alive : w.hub.alive = true := there ▸ alive
    have level := h.level alive
    have fewer := demand w.hub.pool.epoch
    rw [epoch, opened]
    rcases Hub.release_cases (w.hub.vacate s) ⟨x.id, serial⟩ x.epoch with ⟨-, same, back⟩ |
        ⟨-, differs, away⟩ | ⟨dead, -⟩
    · have same : x.epoch = w.hub.pool.epoch := same.symm
      rw [if_pos same] at fewer
      rw [released, back]
      change (w.hub.pool.reserve.length + 1) + _ = _
      omega
    · have differs : x.epoch ≠ w.hub.pool.epoch := fun same => differs same.symm
      rw [if_neg differs] at fewer
      rw [released, away]
      change w.hub.pool.reserve.length + _ = _
      omega
    · rw [show (w.hub.vacate s).alive = w.hub.alive from rfl, alive] at dead
      cases dead
  · have fewer := demand e
    have bounded := bounded e
    omega

theorem level_reset (h : w.Level) (bounded : ∀ e, w.demand e ≤ w.openedAt e) (dated : w.Dated)
    (calm : w.waiting = []) :
    Level { w with hub := w.hub.reset } ∧ ∀ e, Paced w { w with hub := w.hub.reset } e := by
  refine ⟨⟨h.openers, h.waiting, ?_, fun _ => ?_⟩, fun e => .inl ⟨rfl, bounded e⟩⟩
  · exact forall_waiting_of_calm calm
  · have later : w.hub.pool.epoch < w.hub.pool.epoch + 1 := Nat.lt_succ_self _
    change 0 + w.demand (w.hub.pool.epoch + 1) = w.openedAt (w.hub.pool.epoch + 1)
    rw [dated.demand_later later, dated.openedAt_later later]

theorem level_gone (h : w.Level) (bounded : ∀ e, w.demand e ≤ w.openedAt e)
    (calm : w.waiting = []) (alive : w.hub.alive = true) :
    Level { w with hub := w.hub.dropPool } ∧ ∀ e, Paced w { w with hub := w.hub.dropPool } e := by
  have issued : w.hub.dropPool.issued = w.hub.issued := by
    unfold Hub.dropPool
    split <;> rfl
  refine ⟨⟨h.openers, h.waiting, ?_, fun still => ?_⟩, fun e => .inl ⟨rfl, ?_⟩⟩
  · exact forall_waiting_of_calm calm
  · rw [Hub.dropPool, if_pos alive] at still
    cases still
  · rw [demand, Hub.inUse, issued]
    exact bounded e

/-- Every move that may be made keeps the level, and the pace of what is opened. -/
theorem level_step (h : w.Level) (bounded : ∀ e, w.demand e ≤ w.openedAt e) (sound : w.Sound)
    (dated : w.Dated) {m : Move} (may : (w.waiting.isEmpty || w.isAnswer m) = true) :
    (w.step m).Level ∧ ∀ e, Paced w (w.step m) e := by
  have booked := booked_step sound m
  by_cases calm : w.waiting = []
  · generalize w.entry m = entry, w.step m = w' at booked
    cases booked with
    | quiet quiet => exact level_quiet h bounded quiet
    | reuse alive idle => exact level_reuse h bounded alive idle
    | call alive vacant => exact level_call h bounded alive vacant
    | enter waits fresh => exact level_enter h bounded dated _ waits
    | ended last found one released => exact level_ended h bounded calm found one released
    | reset alive => exact level_reset h bounded dated calm
    | gone alive => exact level_gone h bounded calm alive
  · rw [List.isEmpty_eq_false_iff.2 calm, Bool.false_or] at may
    cases m with
    | arrive p serial =>
      have may : p ∈ w.waiting ∧ serial ∉ w.returned := by simpa [isAnswer] using may
      rw [step, if_pos may]
      exact level_enter h bounded dated serial may.1
    | refuse p e =>
      have waits : p ∈ w.waiting := by simpa [isAnswer] using may
      rw [step, if_pos waits]
      exact level_quiet h bounded { Quiet.refl w with waiting := List.erase_sublist }
    | start | clone s | drop s | downgrade s | cloneWeak s | dropWeak s | upgrade s | reset
    | dropPool => cases may

end Level

/-! ## The peak of the demand -/

theorem demand_mem (epoch : Nat) (moves : List Move) :
    (run moves).demand epoch ∈ demands epoch moves :=
  ⟨moves, List.prefix_rfl, rfl⟩

/-- What was opened is the greatest demand, also after a move that keeps the pace. -/
theorem isGreatest_snoc {epoch : Nat} {moves : List Move} {m : Move}
    (h : IsGreatest (demands epoch moves) ((run moves).openedAt epoch))
    (paced : Paced (run moves) (run (moves ++ [m])) epoch) :
    IsGreatest (demands epoch (moves ++ [m])) ((run (moves ++ [m])).openedAt epoch) := by
  have kept {n : Nat} (before : n ∈ demands epoch moves) : n ∈ demands epoch (moves ++ [m]) := by
    obtain ⟨past, early, e⟩ := before
    exact ⟨past, early.trans (List.prefix_append _ _), e⟩
  have either {n : Nat} (some' : n ∈ demands epoch (moves ++ [m])) :
      n ∈ demands epoch moves ∨ n = (run (moves ++ [m])).demand epoch := by
    obtain ⟨past, early, rfl⟩ := some'
    rcases List.prefix_concat_iff.1 early with rfl | early
    · exact .inr rfl
    · exact .inl ⟨past, early, rfl⟩
  rcases paced with ⟨same, below⟩ | ⟨more, reached⟩
  · rw [same]
    refine ⟨kept h.1, fun n some' => ?_⟩
    rcases either some' with before | rfl
    · exact h.2 before
    · exact below
  · refine ⟨reached ▸ demand_mem epoch (moves ++ [m]), fun n some' => ?_⟩
    rcases either some' with before | rfl
    · exact Nat.le_trans (h.2 before) more
    · exact Nat.le_of_eq reached

/-- One caller at a time: after every run the openings of an epoch are its greatest demand. -/
theorem level_run (moves : List Move) (allowed : ({} : World).oneByOne moves = true) :
    (run moves).Level ∧
      ∀ epoch, IsGreatest (demands epoch moves) ((run moves).openedAt epoch) := by
  induction moves using List.reverseRecOn with
  | nil =>
    refine ⟨by constructor <;> simp [run, steps, demand, openedAt, Hub.inUse], fun epoch => ?_⟩
    refine ⟨demand_mem epoch [], ?_⟩
    rintro n ⟨past, early, rfl⟩
    rw [List.prefix_nil.1 early]
    exact Nat.le_refl _
  | append_singleton moves m ih =>
    rw [oneByOne_append, Bool.and_eq_true] at allowed
    obtain ⟨level, greatest⟩ := ih allowed.1
    have may : ((run moves).waiting.isEmpty || (run moves).isAnswer m) = true :=
      (Bool.and_eq_true_iff.1 allowed.2).1
    have bounded (e : Nat) : (run moves).demand e ≤ (run moves).openedAt e :=
      (greatest e).2 (demand_mem e moves)
    obtain ⟨level', paced⟩ := level_step level bounded (sound_run moves) (dated_run moves) may
    rw [← run_snoc] at level' paced
    exact ⟨level', fun e => isGreatest_snoc (greatest e) (paced e)⟩

/-- If every get is over before anything else happens, then for every epoch as many connections were
opened by gets that noted it as sessions of it were ever in use at once. So while the pool is there,
as many are idle as are missing to the peak of its epoch, and a get calls the factory exactly if the
demand is about to exceed whatever it was before under that epoch. -/
theorem opens_for_peak_demand (moves : List Move) (allowed : ({} : World).oneByOne moves = true) :
    (∀ epoch, IsGreatest (demands epoch moves) ((run moves).openedAt epoch)) ∧
      ((run moves).hub.alive = true →
        ∀ peak, IsGreatest (demands (run moves).hub.pool.epoch moves) peak →
          (run moves).hub.pool.reserve.length =
            peak - (run moves).demand (run moves).hub.pool.epoch) ∧
      ∀ past, past ++ [.start] <+: moves → (run past).hub.alive = true →
        ((run (past ++ [.start])).waiting ≠ [] ↔
          ∀ n ∈ demands (run past).hub.pool.epoch past,
            n < (run past).demand (run past).hub.pool.epoch + 1) := by
  obtain ⟨level, greatest⟩ := level_run moves allowed
  refine ⟨greatest, fun alive peak peaks => ?_, fun past early alive => ?_⟩
  · have made := level.level alive
    rw [← peaks.unique (greatest _)] at made
    omega
  · obtain ⟨rest, rfl⟩ := early
    rw [oneByOne_append, oneByOne_append, Bool.and_eq_true, Bool.and_eq_true] at allowed
    obtain ⟨level, greatest⟩ := level_run past allowed.1.1
    -- a start answers no get, so none waits
    have calm : (run past).waiting = [] := by
      have may : ((run past).waiting.isEmpty || (run past).isAnswer .start) = true :=
        (Bool.and_eq_true_iff.1 allowed.1.2).1
      simpa [isAnswer] using may
    have made := level.level alive
    rw [run_snoc, step, if_pos alive]
    cases idle : (run past).hub.pool.reserve with
    | nil =>
      rw [idle, List.length_nil] at made
      rw [startGet_of_vacant idle]
      refine iff_of_true (by simp) fun n before => ?_
      have most := (greatest _).2 before
      omega
    | cons c rest =>
      rw [idle, List.length_cons] at made
      rw [startGet_of_idle idle]
      refine iff_of_false (fun waits => waits calm) fun all => ?_
      have most := all _ (greatest _).1
      omega

/-- Three gets find nothing idle, of which the factory refuses one, and one more comes after a
reset, while a session from before it is still in use. -/
theorem opens_for_peak_demand_twoEpochs :
    let moves : List Move := [.start, .arrive ⟨0, 0⟩ 7, .clone 0, .start,
      .refuse ⟨1, 0⟩ (.connection "mock" (.stated "refused")), .start, .arrive ⟨2, 0⟩ 8, .drop 1,
      .start, .drop 2, .reset, .start, .arrive ⟨4, 1⟩ 9]
    ({} : World).oneByOne moves = true ∧ (run moves).openedAt 0 = 2 ∧
      IsGreatest (demands 0 moves) 2 ∧ IsGreatest (demands 1 moves) 1 := by
  intro moves
  have allowed : ({} : World).oneByOne moves = true := by decide
  have peaks := (opens_for_peak_demand moves allowed).1
  exact ⟨allowed, by decide, peaks 0, peaks 1⟩

end World

end PooledSql
