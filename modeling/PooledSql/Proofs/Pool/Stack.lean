import Mathlib.Order.Bounds.Basic
import PooledSql.Proofs.Pool.Release

/-!
# The reserve is a stack

Sessions end in an order that has nothing to do with the one in which they began, and a connection
may come and go many times. Still the reserve lists the idle connections by the moments at which they
were last let go, the latest first: what comes goes to the front, and what goes leaves from there.

The moments are those of the run, and so every move changes what they are said about. The invariant
carries over because an idle connection belongs to no session that could let it go.

Results:
* `reserve_effect`: a move takes some connections off the front, or puts one there that it releases.
* `inOrder_run`: the order of the reserve after every run.
* `reserve_is_stack`: what that means for gets, for resets and for the end of the pool.
-/

namespace PooledSql

/-- A get starts, or the factory answers one. -/
def Move.isGetting : Move → Bool
  | .start | .arrive _ _ | .refuse _ _ => true
  | _ => false

def Move.isStart : Move → Bool
  | .start => true
  | _ => false

namespace World

/-- The moments of a run at which a connection leaves a session, as how many moves there were before. -/
def releaseTimes (serial : Nat) (moves : List Move) : Set Nat :=
  {n | ∃ s past, LeavesAfter past moves s ∧ (run past).hub.connection? s = some serial ∧
    past.length = n}

/-- Connections are listed by the moments at which they were last let go, the latest first. -/
structure InOrder (moves : List Move) (connections : List Connection) : Prop where
  released : ∀ c ∈ connections, ∃ n, IsGreatest (releaseTimes c.serial moves) n
  latestFirst : connections.Pairwise fun c d => ∀ n n',
    IsGreatest (releaseTimes c.serial moves) n → IsGreatest (releaseTimes d.serial moves) n' →
      n' < n

/-- How a get is served: at once with an idle connection, or, if there is none for it, by the factory,
for which it waits. -/
def Served (w w' : World) : Option Connection → Prop
  | some c => w'.hub.issued = w.hub.issued ++ [⟨c.id, w.hub.pool.epoch, 1, some c.serial⟩] ∧
      w'.waiting = w.waiting
  | none => w'.hub.issued = w.hub.issued ∧
      w'.waiting = w.waiting ++ [⟨w.nextGet, w.hub.pool.epoch⟩]

/-- The idle connections are closed from the front on, and no other. -/
structure Cleared (w w' : World) : Prop where
  reserve : w'.hub.pool.reserve = []
  closed : w'.hub.closed = w.hub.closed ++ w.hub.pool.reserve.map Connection.serial
  issued : w'.hub.issued = w.hub.issued
  held : ∀ n ∈ w.hub.held, n ∉ w'.hub.closed

/-! ## What a move does to the reserve -/

/-- The reserve loses connections at its front, or gets back there the one of a session that ends.
-/
theorem reserve_effect {w w' : World} (h : w.Sound) (effect : Effect w w') :
    (∃ k, w'.hub.pool.reserve = w.hub.pool.reserve.drop k) ∨
      ∃ s c, w.hub.connection? s = some c.serial ∧ w'.hub.connection? s = none ∧
        w'.hub.pool.reserve = c :: w.hub.pool.reserve := by
  cases effect with
  | nothing | observe weak | wait alive vacant | refuse e waits | enter waits fresh =>
    exact .inl ⟨0, rfl⟩
  | @reuse c rest alive idle =>
    refine .inl ⟨1, ?_⟩
    rw [idle]
    rfl
  | @share s may =>
    refine .inl ⟨0, ?_⟩
    rw [share, (Hub.pool_cloneOwner w.hub s).2]
    rfl
  | @letGo s has =>
    rcases h.letGo_cases has with ⟨-, left⟩ | ⟨-, x, serial, found, -, holds, e⟩
    · refine .inl ⟨0, ?_⟩
      rw [left]
      rfl
    · -- the connection comes to the front if the pool takes it back, and else not at all
      have released := released_letGo found e
      have gone := connection?_of_issued released.ended
      have had := (connection?_of_issued found).trans holds
      cases alive : w.hub.alive with
      | false => exact .inl ⟨0, congrArg Pool.reserve (released.closed alive).1⟩
      | true =>
        by_cases same : w.hub.pool.epoch = x.epoch
        · exact .inr ⟨s, ⟨x.id, serial⟩, had, gone,
            congrArg Pool.reserve (released.back alive same).1⟩
        · refine .inl ⟨0, ?_⟩
          rw [(released.discarded alive same).1]
          rfl
  | reset alive =>
    refine .inl ⟨w.hub.pool.reserve.length, ?_⟩
    rw [List.drop_length]
    rfl
  | dropPool =>
    cases alive : w.hub.alive with
    | false =>
      refine .inl ⟨0, ?_⟩
      rw [Hub.dropPool, alive, if_neg Bool.false_ne_true]
      rfl
    | true =>
      refine .inl ⟨w.hub.pool.reserve.length, ?_⟩
      rw [List.drop_length, Hub.dropPool, alive, if_pos rfl]

/-! ## Moments -/

section Moments

variable {serial n : Nat} {moves : List Move} {m : Move}

theorem mem_releaseTimes_snoc :
    n ∈ releaseTimes serial (moves ++ [m]) ↔ n ∈ releaseTimes serial moves ∨
      (n = moves.length ∧ ∃ s, (run moves).hub.connection? s = some serial ∧
        (run (moves ++ [m])).hub.connection? s = none) := by
  constructor
  · rintro ⟨s, past, ⟨m', early, has, gone⟩, here, rfl⟩
    rcases List.prefix_concat_iff.1 early with e | before
    · obtain ⟨rfl, e'⟩ := List.append_inj' e rfl
      cases e'
      exact .inr ⟨rfl, s, here, gone⟩
    · exact .inl ⟨s, past, ⟨m', before, has, gone⟩, here, rfl⟩
  · rintro (⟨s, past, ⟨m', early, has, gone⟩, here, rfl⟩ | ⟨rfl, s, here, gone⟩)
    · exact ⟨s, past, ⟨m', early.trans (List.prefix_append _ _), has, gone⟩, here, rfl⟩
    · exact ⟨s, moves, ⟨m, List.prefix_rfl, by rw [here]; rfl, gone⟩, here, rfl⟩

theorem lt_of_mem_releaseTimes (some' : n ∈ releaseTimes serial moves) : n < moves.length := by
  obtain ⟨s, past, ⟨m, early, -, -⟩, -, rfl⟩ := some'
  have short := early.length_le
  rw [List.length_append] at short
  exact short

/-- An idle connection leaves no session. -/
theorem releaseTimes_of_idle
    (idle : serial ∈ (run moves).hub.pool.reserve.map Connection.serial) (m : Move) :
    releaseTimes serial (moves ++ [m]) = releaseTimes serial moves := by
  have free : ∀ s, (run moves).hub.connection? s ≠ some serial := by
    intro s here
    have := (sound_run moves).custody.place serial
    have := List.count_pos_iff.2 idle
    have := List.count_pos_iff.2 (Hub.mem_held_iff.2 ⟨s, here⟩)
    split at * <;> omega
  ext n
  rw [mem_releaseTimes_snoc]
  refine or_iff_left ?_
  rintro ⟨-, s, here, -⟩
  exact free s here

/-- After a move, connections that were idle are in the order that they were in. -/
theorem InOrder.later (order : InOrder moves (run moves).hub.pool.reserve) (m : Move) :
    InOrder (moves ++ [m]) (run moves).hub.pool.reserve := by
  have same {c : Connection} (idle : c ∈ (run moves).hub.pool.reserve) :
      releaseTimes c.serial (moves ++ [m]) = releaseTimes c.serial moves :=
    releaseTimes_of_idle (List.mem_map_of_mem idle) m
  refine ⟨fun c hc => ?_, order.latestFirst.imp_of_mem fun {c d} hc hd before => ?_⟩
  · rw [same hc]
    exact order.released c hc
  · rw [same hc, same hd]
    exact before

/-- Taking connections off the front leaves the order as it is. -/
theorem InOrder.drop {connections : List Connection} (order : InOrder moves connections) (k : Nat) :
    InOrder moves (connections.drop k) where
  released c hc := order.released c (List.mem_of_mem_drop hc)
  latestFirst := order.latestFirst.sublist (List.drop_sublist k connections)

/-- A connection that is let go comes before those that are idle. -/
theorem InOrder.cons (order : InOrder moves (run moves).hub.pool.reserve) {c : Connection}
    {s : SessionId} (here : (run moves).hub.connection? s = some c.serial)
    (gone : (run (moves ++ [m])).hub.connection? s = none) :
    InOrder (moves ++ [m]) (c :: (run moves).hub.pool.reserve) := by
  have now : IsGreatest (releaseTimes c.serial (moves ++ [m])) moves.length := by
    refine ⟨mem_releaseTimes_snoc.2 (.inr ⟨rfl, s, here, gone⟩), fun n some' => ?_⟩
    rcases mem_releaseTimes_snoc.1 some' with before | ⟨rfl, -⟩
    · exact Nat.le_of_lt (lt_of_mem_releaseTimes before)
    · exact Nat.le_refl _
  have before := order.later m
  refine ⟨List.forall_mem_cons.2 ⟨⟨_, now⟩, before.released⟩,
    List.pairwise_cons.2 ⟨fun d hd n n' last last' => ?_, before.latestFirst⟩⟩
  rw [releaseTimes_of_idle (List.mem_map_of_mem hd)] at last'
  rw [last.unique now]
  exact lt_of_mem_releaseTimes last'.1

/-- After every run the reserve is in the order of the last releases, latest first. -/
theorem inOrder_run (moves : List Move) : InOrder moves (run moves).hub.pool.reserve := by
  induction moves using List.reverseRecOn with
  | nil => exact ⟨fun c hc => absurd hc List.not_mem_nil, List.Pairwise.nil⟩
  | append_singleton moves m ih =>
    have effect := step_effect (run moves) m
    rw [← run_snoc] at effect
    rcases reserve_effect (sound_run moves) effect with ⟨k, fewer⟩ | ⟨s, c, here, gone, more⟩
    · rw [fewer]
      exact (ih.later m).drop k
    · rw [more]
      exact ih.cons here gone

end Moments

/-! ## Gets -/

/-- What gets do while the pool is there: each one that starts takes the connection in front. -/
theorem getting_step {w : World} {m : Move} (alive : w.hub.alive = true)
    (getting : m.isGetting = true) :
    (w.step m).hub.alive = true ∧ (w.step m).hub.pool.epoch = w.hub.pool.epoch ∧
      (w.step m).hub.pool.reserve = w.hub.pool.reserve.drop (if m.isStart then 1 else 0) := by
  cases m with
  | start =>
    rw [step, if_pos alive]
    cases idle : w.hub.pool.reserve with
    | nil =>
      rw [startGet_of_vacant idle]
      exact ⟨alive, rfl, idle⟩
    | cons c rest =>
      rw [startGet_of_idle idle]
      exact ⟨alive, rfl, rfl⟩
  | arrive p serial =>
    simp only [step]
    split <;> exact ⟨alive, rfl, rfl⟩
  | refuse p e =>
    simp only [step]
    split <;> exact ⟨alive, rfl, rfl⟩
  | clone s | drop s | downgrade s | cloneWeak s | dropWeak s | upgrade s | reset | dropPool =>
    cases getting

/-- Gets in a row take from the front of the reserve as many connections as they start. -/
theorem getting_steps {w : World} {gets : List Move} (alive : w.hub.alive = true)
    (getting : gets.all Move.isGetting = true) :
    (w.steps gets).hub.alive = true ∧ (w.steps gets).hub.pool.epoch = w.hub.pool.epoch ∧
      (w.steps gets).hub.pool.reserve = w.hub.pool.reserve.drop (gets.countP Move.isStart) := by
  induction gets generalizing w with
  | nil => exact ⟨alive, rfl, rfl⟩
  | cons m rest ih =>
    rw [List.all_cons, Bool.and_eq_true] at getting
    obtain ⟨alive', epoch, reserve⟩ := getting_step alive getting.1
    obtain ⟨alive'', epoch', reserve'⟩ := ih alive' getting.2
    refine ⟨alive'', epoch'.trans epoch, reserve'.trans ?_⟩
    rw [reserve, List.drop_drop, List.countP_cons, Nat.add_comm]

theorem served_start {w : World} (alive : w.hub.alive = true) :
    Served w (w.step .start) w.hub.pool.reserve.head? := by
  rw [step, if_pos alive]
  cases idle : w.hub.pool.reserve with
  | nil =>
    rw [startGet_of_vacant idle]
    exact ⟨rfl, rfl⟩
  | cons c rest =>
    rw [startGet_of_idle idle]
    exact ⟨rfl, rfl⟩

/-! ## The end of idle connections -/

/-- A reset and the end of the pool close what is in reserve, in its order, and nothing that is
held. -/
theorem cleared_step {w : World} (h : w.Sound) (alive : w.hub.alive = true) {m : Move}
    (clears : m = .reset ∨ m = .dropPool) : Cleared w (w.step m) := by
  have hub : (w.step m).hub.pool.reserve = [] ∧
      (w.step m).hub.closed = w.hub.closed ++ w.hub.pool.reserve.map Connection.serial ∧
        (w.step m).hub.issued = w.hub.issued := by
    rcases clears with rfl | rfl
    · rw [step, if_pos alive]
      exact ⟨rfl, rfl, rfl⟩
    · rw [step, Hub.dropPool, if_pos alive]
      exact ⟨rfl, rfl, rfl⟩
  obtain ⟨reserve, closed, issued⟩ := hub
  refine ⟨reserve, closed, issued, fun n holds => ?_⟩
  have place := h.custody.place n
  have := List.count_pos_iff.2 holds
  rw [closed, ← List.count_eq_zero, List.count_append]
  split at place <;> omega

/-! ## The reserve is a stack -/

/-- What the reserve is at a moment of a run, and how it is used from then on. -/
structure Stack (moves : List Move) : Prop where
  /-- Every connection that was opened and is neither held nor closed is in reserve, once. -/
  idle : ∀ n, ((run moves).hub.pool.reserve.map Connection.serial).count n =
    if n ∈ (run moves).returned ∧ n ∉ (run moves).hub.held ∧ n ∉ (run moves).hub.closed
    then 1 else 0
  /-- The one that was let go last is in front. -/
  order : InOrder moves (run moves).hub.pool.reserve
  /-- If gets follow, whatever the factory answers, as many connections are gone from the front as
  gets have started. -/
  gets : (run moves).hub.alive = true → ∀ gets : List Move, gets.all Move.isGetting = true →
    (run (moves ++ gets)).hub.pool.reserve =
      (run moves).hub.pool.reserve.drop (gets.countP Move.isStart)
  /-- So the first gets have the connections that were in reserve, in their order, and those beyond
  call the factory. -/
  served : (run moves).hub.alive = true → ∀ gets : List Move, gets.all Move.isGetting = true →
    Served (run (moves ++ gets)) (run (moves ++ gets ++ [.start]))
      (run moves).hub.pool.reserve[gets.countP Move.isStart]?
  /-- A reset, and the end of the pool, closes what is in reserve, in order, and leaves sessions as
  they are; what is closed later comes after that. -/
  cleared : (run moves).hub.alive = true → ∀ m, m = .reset ∨ m = .dropPool →
    Cleared (run moves) (run (moves ++ [m])) ∧
      ∀ more, (run (moves ++ [m])).hub.closed <+: (run (moves ++ [m] ++ more)).hub.closed

/-- At every moment of every run the reserve is a stack. -/
theorem reserve_is_stack (moves : List Move) : Stack moves := by
  have sound := sound_run moves
  constructor
  case idle =>
    intro n
    have place := sound.custody.place n
    by_cases known : n ∈ (run moves).returned
    · simp only [known, true_and, ← List.count_eq_zero]
      rw [if_pos known] at place
      split <;> omega
    · rw [if_neg known] at place
      rw [if_neg fun idle => known idle.1]
      omega
  case order => exact inOrder_run moves
  case gets =>
    intro alive gets getting
    rw [run_append]
    exact (getting_steps alive getting).2.2
  case served =>
    intro alive gets getting
    obtain ⟨alive', -, reserve⟩ := getting_steps alive getting
    rw [← run_append] at alive' reserve
    rw [run_snoc, ← List.head?_drop, ← reserve]
    exact served_start alive'
  case cleared =>
    intro alive m clears
    rw [run_snoc]
    refine ⟨cleared_step sound alive clears, fun more => ?_⟩
    rw [run_append, run_snoc]
    exact (before_steps _ more).closed

/-- The session that ended last leaves its connection in front, whichever began first. -/
example :
    let w := run [.start, .arrive ⟨0, 0⟩ 7, .start, .arrive ⟨1, 0⟩ 8, .start, .arrive ⟨2, 0⟩ 9,
      .drop 1, .drop 2, .drop 0]
    w.hub.pool.reserve.map Connection.serial = [7, 9, 8] := by decide

end World

end PooledSql
