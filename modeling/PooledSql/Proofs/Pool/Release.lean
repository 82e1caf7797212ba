import PooledSql.Proofs.Pool.Ownership

/-!
# A session is released once

A session keeps its connection as long as there is a handle to it, whichever of the handles that may
be. The move that takes the last one away takes the connection out of the session and sends it where
the pool of that moment wants it: to the front of the reserve, or away. That happens to a session
once.

From then on the session is over. Whoever gets the connection next gets it in another session, and
to observe the old one leads nowhere, for ever.

Results:
* `kept_or_released`: what a move does to the connection of a session.
* `exists_leavesAfter`, `leavesAfter_unique`: the connection of a session without a handle left it
  once.
* `released_once`: all of it, at every moment of every run.
-/

namespace PooledSql

namespace Hub

/-- A session is over: whoever observes it is not led to it, nor to any other one. -/
structure Over (h : Hub) (s : SessionId) : Prop where
  expired : h.isExpired s = true
  upgrade : h.upgrade s = (none, h)
  refersTo : ∀ t, h.refersTo s t = false

theorem over_of_not_isLive {h : Hub} {s : SessionId} (ended : h.isLive s ≠ true) : h.Over s := by
  have expired : h.isExpired s = true := by simpa [isExpired] using ended
  refine ⟨expired, ?_, fun t => ?_⟩
  · rw [upgrade, if_pos expired]
  · rw [refersTo, expired, Bool.not_true, Bool.and_false]

end Hub

namespace World

/-- The last handle to a session is let go, and with it the session's connection. -/
structure Released (w w' : World) (s : SessionId) (x : Session) (serial : Nat) : Prop where
  /-- The session has neither an owner nor a connection any more. -/
  ended : w'.hub.issued[s]? = some { x with owners := 0, cell := none }
  /-- If the pool is there at the session's epoch, the connection is the first in reserve. -/
  back : w.hub.alive = true → w.hub.pool.epoch = x.epoch →
    w'.hub.pool = { w.hub.pool with reserve := ⟨x.id, serial⟩ :: w.hub.pool.reserve } ∧
      w'.hub.closed = w.hub.closed
  /-- If the pool is there at another epoch, the connection is closed and counted as discarded. -/
  discarded : w.hub.alive = true → w.hub.pool.epoch ≠ x.epoch →
    w'.hub.pool = { w.hub.pool with discarded := w.hub.pool.discarded + 1 } ∧
      w'.hub.closed = w.hub.closed ++ [serial]
  /-- If the pool is gone, the connection is closed, and that is neither counted nor noted. -/
  closed : w.hub.alive = false →
    w'.hub.pool = w.hub.pool ∧ w'.hub.closed = w.hub.closed ++ [serial] ∧
      w'.hub.log = w.hub.log
  alive : w'.hub.alive = w.hub.alive
  others : ∀ t, t ≠ s → w'.hub.issued[t]? = w.hub.issued[t]?
  /-- Apart from that, one handle is gone. -/
  users : w' = { w with hub := w'.hub, strong := w.strong.erase s }

/-- Of some moves, the one after the first few takes the connection out of a session. -/
def LeavesAfter (past moves : List Move) (s : SessionId) : Prop :=
  ∃ m, past ++ [m] <+: moves ∧ ((run past).hub.connection? s).isSome = true ∧
    (run (past ++ [m])).hub.connection? s = none

/-! ## What a move does to a connection -/

theorem connection?_of_issued {h : Hub} {s : SessionId} {x : Session}
    (found : h.issued[s]? = some x) : h.connection? s = x.cell := by
  rw [Hub.connection?, found]
  rfl

/-- The connection of a session is the same if only the session's owners differ. -/
theorem connection?_modify {h : Hub} {s t : SessionId} {f : Session → Session}
    (same : ∀ x, (f x).cell = x.cell) :
    Hub.connection? { h with issued := h.issued.modify t f } s = h.connection? s := by
  simp only [Hub.connection?, List.getElem?_modify]
  cases h.issued[s]? with
  | none => rfl
  | some x =>
    by_cases e : t = s
    · simp [e, same]
    · simp [e]

theorem connection?_issue {h h' : Hub} (same : h'.issued = h.issued) (c : Connection) (epoch : Nat)
    {s : SessionId} {serial : Nat} (holds : h.connection? s = some serial) :
    (h'.issue c epoch).2.connection? s = some serial := by
  obtain ⟨x, found, cell⟩ := Hub.connection?_eq_some.1 holds
  have short := (List.getElem?_eq_some_iff.1 found).1
  rw [Hub.connection?, Hub.issue]
  dsimp only
  rw [same, List.getElem?_append_left short, found]
  exact cell

/-- Letting the last handle to a session go releases the session's connection. -/
theorem released_letGo {w : World} {s : SessionId} {x : Session} {serial : Nat}
    (found : w.hub.issued[s]? = some x)
    (released : (w.letGo s).hub = (w.hub.vacate s).release ⟨x.id, serial⟩ x.epoch) :
    Released w (w.letGo s) s x serial := by
  have issued : (w.letGo s).hub.issued =
      w.hub.issued.modify s fun x => { x with owners := 0, cell := none } := by
    rw [released, Hub.issued_release]
    rfl
  have cases' := Hub.release_cases (w.hub.vacate s) ⟨x.id, serial⟩ x.epoch
  rw [← released] at cases'
  constructor
  case ended =>
    rw [issued, List.getElem?_modify_eq, found]
    rfl
  case back =>
    intro alive same
    rcases cases' with ⟨-, -, e⟩ | ⟨-, differs, -⟩ | ⟨gone, -⟩
    · rw [e]
      exact ⟨rfl, rfl⟩
    · exact absurd same differs
    · exact absurd alive (by simpa [Hub.vacate] using gone)
  case discarded =>
    intro alive differs
    rcases cases' with ⟨-, same, -⟩ | ⟨-, -, e⟩ | ⟨gone, -⟩
    · exact absurd same differs
    · rw [e]
      exact ⟨rfl, rfl⟩
    · exact absurd alive (by simpa [Hub.vacate] using gone)
  case closed =>
    intro gone
    rcases cases' with ⟨alive, -, -⟩ | ⟨alive, -, -⟩ | ⟨-, e⟩
    · exact absurd alive (by simpa [Hub.vacate] using gone)
    · exact absurd alive (by simpa [Hub.vacate] using gone)
    · rw [e]
      exact ⟨rfl, rfl, rfl⟩
  case alive => exact (Hub.pool_dropOwner w.hub s).1
  case others =>
    intro t other
    rw [issued, List.getElem?_modify_ne _ _ (Ne.symm other)]
  case users => rfl

section Effects

variable {w w' : World}

/-- A session that has a connection keeps it and has a handle, or its last handle is let go. -/
theorem kept_or_released (h : w.Sound) (effect : Effect w w') {s : SessionId} {x : Session}
    {serial : Nat} (found : w.hub.issued[s]? = some x) (holds : x.cell = some serial) :
    (s ∈ w'.strong ∧ w'.hub.connection? s = some serial) ∨
      (w.strong.count s = 1 ∧ Released w w' s x serial) := by
  have here : w.hub.connection? s = some serial := (connection?_of_issued found).trans holds
  have has : s ∈ w.strong := (h.custody.reach s).1 (by rw [here]; rfl)
  cases effect with
  | nothing | observe weak | wait alive vacant | refuse e waits | reset alive =>
    exact .inl ⟨has, here⟩
  | reuse alive idle | enter waits fresh =>
    exact .inl ⟨List.mem_cons_of_mem _ has, connection?_issue (h := w.hub) rfl _ _ here⟩
  | @share t may =>
    have live : w.hub.isLive t = true := may.elim h.isLive_iff.2 id
    refine .inl ⟨List.mem_cons_of_mem _ has, ?_⟩
    rw [share, Hub.cloneOwner_of_live live]
    exact (connection?_modify (f := fun x => { x with owners := x.owners + 1 })
      fun _ => rfl).trans here
  | @letGo t had =>
    rcases h.letGo_cases had with ⟨many, left⟩ | ⟨last, y, n, found', -, holds', released⟩
    · refine .inl ⟨?_, ?_⟩
      · rw [letGo, ← List.count_pos_iff, List.count_erase]
        have := List.count_pos_iff.2 has
        split
        · rename_i same
          rw [beq_iff_eq] at same
          subst same
          omega
        · omega
      · rw [left]
        exact (connection?_modify (f := fun x => { x with owners := x.owners - 1 })
          fun _ => rfl).trans here
    · by_cases same : t = s
      · subst same
        rw [found] at found'
        cases found'
        rw [holds] at holds'
        cases holds'
        exact .inr ⟨last, released_letGo found released⟩
      · -- the last handle is another session's, and only that session is touched
        have others := (released_letGo found' released).others s (Ne.symm same)
        refine .inl ⟨(List.mem_erase_of_ne (Ne.symm same)).2 has, ?_⟩
        rw [Hub.connection?, others]
        exact here
  | dropPool =>
    refine .inl ⟨has, ?_⟩
    rw [Hub.connection?, show w.hub.dropPool.issued = w.hub.issued by
      unfold Hub.dropPool; split <;> rfl]
    exact here

/-- A session that was not there before has a handle. -/
theorem mem_strong_of_new (effect : Effect w w') {s : SessionId}
    (issued : s < w'.hub.issued.length) : s < w.hub.issued.length ∨ s ∈ w'.strong := by
  cases effect with
  | nothing | observe weak | wait alive vacant | refuse e waits | reset alive => exact .inl issued
  | reuse alive idle | enter waits fresh =>
    have bound : s < (w.hub.issued ++ [_]).length := issued
    rw [List.length_append, List.length_singleton] at bound
    rcases Nat.lt_succ_iff_lt_or_eq.1 bound with old | rfl
    · exact .inl old
    · exact .inr List.mem_cons_self
  | @share t may =>
    have same := Hub.length_issued (Hub.issues_cloneOwner w.hub t)
    exact .inl (Nat.lt_of_lt_of_eq issued same)
  | @letGo t has =>
    have same := Hub.length_issued (Hub.issues_dropOwner w.hub t)
    exact .inl (Nat.lt_of_lt_of_eq issued same)
  | dropPool =>
    have same := Hub.length_issued (Hub.issues_dropPool w.hub)
    exact .inl (Nat.lt_of_lt_of_eq issued same)

end Effects

/-- Whatever moves do, no session that has ended comes back. -/
theorem fades_steps (w : World) (moves : List Move) : w.hub.Fades (w.steps moves).hub :=
  steps_induction (P := fun w' => w.hub.Fades w'.hub)
    (fun _ _ h effect => h.trans (fades_effect effect)) (Hub.fades_of_issued rfl) moves

/-! ## Along a run -/

section Run

variable {moves : List Move} {s : SessionId}

/-- A session that was issued and has no handle has none later. -/
theorem not_isLive_later (issued : s < (run moves).hub.issued.length)
    (ended : s ∉ (run moves).strong) (more : List Move) :
    (run (moves ++ more)).hub.isLive s ≠ true := by
  intro live
  rw [run_append] at live
  exact ended ((sound_run moves).isLive_iff.1 ((fades_steps _ more).live s issued live))

theorem lt_of_connection? {h : Hub} (has : (h.connection? s).isSome = true) :
    s < h.issued.length := by
  obtain ⟨n, holds⟩ := Option.isSome_iff_exists.1 has
  obtain ⟨x, found, -⟩ := Hub.connection?_eq_some.1 holds
  exact (List.getElem?_eq_some_iff.1 found).1

/-- A session whose connection has left it has no handle from then on. -/
theorem ended_of_left {past : List Move} {m : Move}
    (has : ((run past).hub.connection? s).isSome = true)
    (gone : (run (past ++ [m])).hub.connection? s = none) (more : List Move) :
    s ∉ (run (past ++ [m] ++ more)).strong := by
  have ended : s ∉ (run (past ++ [m])).strong := by
    rw [← (sound_run (past ++ [m])).custody.reach, gone]
    exact Bool.false_ne_true
  have issued : s < (run (past ++ [m])).hub.issued.length := by
    rw [run_append]
    exact Nat.lt_of_lt_of_le (lt_of_connection? has) (fades_steps _ [m]).more
  rw [← (sound_run _).isLive_iff]
  exact not_isLive_later issued ended more

/-- A connection that has left its session is not there later to leave it again. -/
theorem not_leavesAfter_later {past later : List Move} (left : LeavesAfter past moves s)
    (longer : past.length < later.length) : ¬LeavesAfter later moves s := by
  obtain ⟨m, early, has, gone⟩ := left
  rintro ⟨m', early', has', -⟩
  have before : past ++ [m] <+: later := by
    refine List.prefix_of_prefix_length_le early ((List.prefix_append _ _).trans early') ?_
    rw [List.length_append]
    exact longer
  obtain ⟨more, rfl⟩ := before
  exact ended_of_left has gone more (((sound_run _).custody.reach s).1 has')

theorem leavesAfter_unique {past later : List Move} (left : LeavesAfter past moves s)
    (left' : LeavesAfter later moves s) : past = later := by
  rcases Nat.lt_trichotomy past.length later.length with before | same | after
  · exact absurd left' (not_leavesAfter_later left before)
  · obtain ⟨m, early, -⟩ := left
    obtain ⟨m', early', -⟩ := left'
    have here : past <+: moves := (List.prefix_append _ _).trans early
    have there : later <+: moves := (List.prefix_append _ _).trans early'
    exact (List.prefix_of_prefix_length_le here there (Nat.le_of_eq same)).eq_of_length same
  · exact absurd left (not_leavesAfter_later left' after)

/-- A connection has left each session that was issued and has no handle. -/
theorem exists_leavesAfter (issued : s < (run moves).hub.issued.length)
    (ended : s ∉ (run moves).strong) : ∃ past, LeavesAfter past moves s := by
  induction moves using List.reverseRecOn with
  | nil => exact absurd issued (Nat.not_lt_zero s)
  | append_singleton moves m ih =>
    have effect := step_effect (run moves) m
    rw [← run_snoc] at effect
    have old := (mem_strong_of_new effect issued).resolve_right ended
    -- the last move took the last handle, or there was none before it either
    by_cases has : s ∈ (run moves).strong
    · refine ⟨moves, m, List.prefix_rfl, ((sound_run moves).custody.reach s).2 has, ?_⟩
      rw [← Option.not_isSome_iff_eq_none, (sound_run (moves ++ [m])).custody.reach]
      exact ended
    · obtain ⟨past, m', early, left⟩ := ih old has
      exact ⟨past, m', early.trans (List.prefix_append _ _), left⟩

end Run

/-! ## A session is released once -/

/-- What happens to sessions and their connections up to a moment of a run, at the next move, and
from then on. -/
structure ReleasedOnce (moves : List Move) : Prop where
  /-- The owners of a session are the handles to it. -/
  owners : ∀ s, (run moves).hub.owners s = (run moves).strong.count s
  /-- A session has its connection exactly if there is a handle to it. -/
  reach : ∀ s, ((run moves).hub.connection? s).isSome = true ↔ s ∈ (run moves).strong
  /-- A session with a handle can be observed, and an observation leads to it and no other. -/
  observed : ∀ s ∈ (run moves).strong, (run moves).hub.isExpired s = false ∧
    ((run moves).hub.upgrade s).1 = some s ∧ ∀ t, (run moves).hub.refersTo s t = (s == t)
  /-- A move that leaves a session a handle leaves it its connection. -/
  keeps : ∀ (m : Move) (s : SessionId) serial, (run moves).hub.connection? s = some serial →
    s ∈ (run (moves ++ [m])).strong → (run (moves ++ [m])).hub.connection? s = some serial
  /-- A move that takes the last handle away releases the connection. -/
  releases : ∀ (m : Move) (s : SessionId) (x : Session) serial,
    (run moves).hub.issued[s]? = some x → x.cell = some serial →
      s ∉ (run (moves ++ [m])).strong → Released (run moves) (run (moves ++ [m])) s x serial
  /-- The connection of a session without a handle has left it, once. -/
  once : ∀ s < (run moves).hub.issued.length, s ∉ (run moves).strong →
    ∃! past, LeavesAfter past moves s
  /-- The connection of a session with a handle never left it. -/
  never : ∀ s ∈ (run moves).strong, ∀ past, ¬LeavesAfter past moves s
  /-- A session without a handle is over for ever. -/
  ends : ∀ s < (run moves).hub.issued.length, s ∉ (run moves).strong →
    ∀ more, (run (moves ++ more)).hub.Over s

/-- At every moment of every run each session with a handle has its connection, which leaves the
session with the last handle, once, and after that the session is over. -/
theorem released_once (moves : List Move) : ReleasedOnce moves := by
  have sound := sound_run moves
  have effect (m : Move) : Effect (run moves) (run (moves ++ [m])) := by
    rw [run_snoc]
    exact step_effect _ m
  constructor
  case owners => exact sound.owners
  case reach => exact sound.custody.reach
  case observed =>
    intro s has
    have live := sound.isLive_iff.2 has
    have expired : (run moves).hub.isExpired s = false := by rw [Hub.isExpired, live, Bool.not_true]
    refine ⟨expired, ?_, fun t => ?_⟩
    · rw [Hub.upgrade, expired, if_neg Bool.false_ne_true]
    · rw [Hub.refersTo, expired, Bool.not_false, Bool.and_true]
  case keeps =>
    intro m s serial here has
    obtain ⟨x, found, holds⟩ := Hub.connection?_eq_some.1 here
    rcases kept_or_released sound (effect m) found holds with ⟨-, kept⟩ | ⟨last, released⟩
    · exact kept
    · rw [released.users] at has
      have := List.count_pos_iff.2 has
      rw [List.count_erase_self, last] at this
      exact absurd this (Nat.lt_irrefl 0)
  case releases =>
    intro m s x serial found holds none'
    rcases kept_or_released sound (effect m) found holds with ⟨has, -⟩ | ⟨-, released⟩
    · exact absurd has none'
    · exact released
  case once =>
    intro s issued ended
    obtain ⟨past, left⟩ := exists_leavesAfter issued ended
    exact ⟨past, left, fun later left' => leavesAfter_unique left' left⟩
  case never =>
    rintro s has past ⟨m, ⟨more, rfl⟩, here, gone⟩
    exact ended_of_left here gone more has
  case ends =>
    exact fun s issued ended more => Hub.over_of_not_isLive (not_isLive_later issued ended more)

/-- A session is observed, ends, and another one has its connection: the observation has expired and
leads to neither. -/
example :
    let h := (run [.start, .arrive ⟨0, 0⟩ 7, .downgrade 0, .drop 0, .start]).hub
    h.connection? 1 = some 7 ∧ (h.upgrade 0).1 = none ∧ h.refersTo 0 1 = false := by decide

end World

end PooledSql
