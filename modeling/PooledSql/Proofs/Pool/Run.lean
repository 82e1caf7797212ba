import Mathlib.Data.List.Perm.Basic
import PooledSql.Sessions

/-!
# Runs of a pool

A world is a pool with the handles that its users have and the gets that wait for the factory. Users
may do anything they have the handles for, in any order, also while gets wait: start a get, let the
factory answer one that waits, clone, downgrade and drop handles, upgrade weak ones, reset the pool,
and drop it. What cannot be done leaves the world as it is.

Besides, a world remembers what happened: the epoch that each get noted, the connections that the
factory returned, and which get a connection was opened by and a session was issued to.

Results:
* `step_effect`: what a move can do, whatever the move.
* `run_induction`: what holds at the start and after every effect holds after every run.
-/

namespace PooledSql

/-- A get that waits for the factory: its number in the order of starts, and the epoch it noted. -/
structure Pending where
  get : Nat
  epoch : Nat
deriving DecidableEq, Repr

/-- A pool and its users. -/
structure World where
  hub : Hub := {}
  /-- The handles there are, each by its session. -/
  strong : List SessionId := []
  /-- The weak handles there are, each by its session. -/
  weak : List SessionId := []
  waiting : List Pending := []
  /-- The epoch that each get noted, in the order of starts. -/
  noted : List Nat := []
  /-- The connections that the factory returned, in order, by their numbers with it. -/
  returned : List Nat := []
  /-- The get that each of them was opened by. -/
  openers : List Nat := []
  /-- The get that each session was issued to, in the order of issue. -/
  getters : List Nat := []

/-- Something a user does, or the factory. -/
inductive Move
  /-- A get starts. -/
  | start
  /-- The factory returns a connection that it never returned before to a get. -/
  | arrive (p : Pending) (serial : Nat)
  /-- The factory refuses a get. -/
  | refuse (p : Pending) (e : Error)
  | clone (s : SessionId)
  | drop (s : SessionId)
  | downgrade (s : SessionId)
  | cloneWeak (s : SessionId)
  | dropWeak (s : SessionId)
  | upgrade (s : SessionId)
  | reset
  | dropPool

namespace World

/-- What a list has at an id; ids count from one. -/
def atId (l : List Nat) (id : Nat) : Option Nat := if id = 0 then none else l[id - 1]?

theorem atId_eq_some {l : List Nat} {id n : Nat} :
    atId l id = some n ↔ id ≠ 0 ∧ l[id - 1]? = some n := by
  by_cases zero : id = 0 <;> simp [atId, zero]

theorem atId_mono {before after : List Nat} (h : before <+: after) {id n : Nat}
    (known : atId before id = some n) : atId after id = some n := by
  rw [atId_eq_some] at known ⊢
  obtain ⟨more, rfl⟩ := h
  obtain ⟨short, -⟩ := List.getElem?_eq_some_iff.1 known.2
  exact ⟨known.1, by rw [List.getElem?_append_left short, known.2]⟩

theorem atId_next (l : List Nat) (n : Nat) :
    atId (l ++ [n]) (l.length + 1) = some n := by
  simp [atId]

/-- The number of the next get. -/
def nextGet (w : World) : Nat := w.noted.length

/-- A get notes the epoch. -/
def note (w : World) : World := { w with noted := w.noted ++ [w.hub.pool.epoch] }

/-- A get starts. It has its session at once if a connection is idle, and else it waits. -/
def startGet (w : World) : World :=
  match w.hub.beginGet with
  | (.session s, hub) =>
    { w.note with hub, strong := s :: w.strong, getters := w.getters ++ [w.nextGet] }
  | (.vacant epoch, hub) => { w.note with hub, waiting := w.waiting ++ [⟨w.nextGet, epoch⟩] }

/-- The factory returns a connection to a get that waits. -/
def enter (w : World) (p : Pending) (serial : Nat) : World :=
  let (s, hub) := w.hub.finishGet p.epoch serial
  { w with
    hub
    strong := s :: w.strong
    waiting := w.waiting.erase p
    returned := w.returned ++ [serial]
    openers := w.openers ++ [p.get]
    getters := w.getters ++ [p.get] }

/-- One more handle to a session. -/
def share (w : World) (s : SessionId) : World :=
  { w with hub := w.hub.cloneOwner s, strong := s :: w.strong }

/-- One handle less to a session. -/
def letGo (w : World) (s : SessionId) : World :=
  { w with hub := w.hub.dropOwner s, strong := w.strong.erase s }

/-- What a move does. -/
def step (w : World) : Move → World
  | .start => if w.hub.alive then w.startGet else w
  | .arrive p serial => if p ∈ w.waiting ∧ serial ∉ w.returned then w.enter p serial else w
  | .refuse p e =>
    if p ∈ w.waiting then { w with hub := w.hub.failGet e, waiting := w.waiting.erase p } else w
  | .clone s => if s ∈ w.strong then w.share s else w
  | .drop s => if s ∈ w.strong then w.letGo s else w
  | .downgrade s => if s ∈ w.strong then { w with weak := s :: w.weak } else w
  | .cloneWeak s => if s ∈ w.weak then { w with weak := s :: w.weak } else w
  | .dropWeak s => { w with weak := w.weak.erase s }
  | .upgrade s => if s ∈ w.weak ∧ w.hub.isLive s then w.share s else w
  | .reset => if w.hub.alive then { w with hub := w.hub.reset } else w
  | .dropPool => { w with hub := w.hub.dropPool }

/-- What some moves do, one after the other. -/
def steps (w : World) (moves : List Move) : World := moves.foldl step w

/-- The world after some moves from the start. -/
def run (moves : List Move) : World := ({} : World).steps moves

theorem steps_append (w : World) (a b : List Move) : w.steps (a ++ b) = (w.steps a).steps b :=
  List.foldl_append

theorem run_append (a b : List Move) : run (a ++ b) = (run a).steps b := steps_append _ a b

theorem run_snoc (moves : List Move) (m : Move) : run (moves ++ [m]) = (run moves).step m :=
  run_append moves [m]

/-! ## What a move can do -/

/-- A get has the idle connection in front, and the others stay. -/
def reuse (w : World) (c : Connection) (rest : List Connection) : World :=
  { w.note with
    hub := (({ w.hub with pool := { w.hub.pool with
      reserve := rest, reused := w.hub.pool.reused + 1 } } : Hub).note
        (.reused c.id w.hub.pool.epoch)).issue c w.hub.pool.epoch |>.2
    strong := w.hub.issued.length :: w.strong
    getters := w.getters ++ [w.nextGet] }

/-- What a move can do to a world. -/
inductive Effect (w : World) : World → Prop
  | nothing : Effect w w
  | observe (weak : List SessionId) : Effect w { w with weak }
  | reuse {c : Connection} {rest : List Connection} (alive : w.hub.alive = true)
      (idle : w.hub.pool.reserve = c :: rest) : Effect w (w.reuse c rest)
  | wait (alive : w.hub.alive = true) (vacant : w.hub.pool.reserve = []) :
      Effect w { w.note with waiting := w.waiting ++ [⟨w.nextGet, w.hub.pool.epoch⟩] }
  | enter {p : Pending} {serial : Nat} (waits : p ∈ w.waiting) (fresh : serial ∉ w.returned) :
      Effect w (w.enter p serial)
  | refuse {p : Pending} (e : Error) (waits : p ∈ w.waiting) :
      Effect w { w with hub := w.hub.failGet e, waiting := w.waiting.erase p }
  | share {s : SessionId} (may : s ∈ w.strong ∨ w.hub.isLive s = true) : Effect w (w.share s)
  | letGo {s : SessionId} (has : s ∈ w.strong) : Effect w (w.letGo s)
  | reset (alive : w.hub.alive = true) : Effect w { w with hub := w.hub.reset }
  | dropPool : Effect w { w with hub := w.hub.dropPool }

theorem startGet_of_vacant {w : World} (vacant : w.hub.pool.reserve = []) :
    w.startGet = { w.note with waiting := w.waiting ++ [⟨w.nextGet, w.hub.pool.epoch⟩] } := by
  simp only [startGet, Hub.beginGet, Pool.take, vacant]
  rfl

theorem startGet_of_idle {w : World} {c : Connection} {rest : List Connection}
    (idle : w.hub.pool.reserve = c :: rest) : w.startGet = w.reuse c rest := by
  simp only [startGet, Hub.beginGet, Pool.take, idle]
  rfl

theorem startGet_effect {w : World} (alive : w.hub.alive = true) : Effect w w.startGet := by
  cases idle : w.hub.pool.reserve with
  | nil =>
    rw [startGet_of_vacant idle]
    exact .wait alive idle
  | cons c rest =>
    rw [startGet_of_idle idle]
    exact .reuse alive idle

/-- Whatever a move does is one of the effects. -/
theorem step_effect (w : World) (m : Move) : Effect w (w.step m) := by
  cases m with
  | start =>
    simp only [step]
    split
    · rename_i alive
      exact startGet_effect alive
    · exact .nothing
  | arrive p serial =>
    simp only [step]
    split
    · rename_i may
      exact .enter may.1 may.2
    · exact .nothing
  | refuse p e =>
    simp only [step]
    split
    · rename_i waits
      exact .refuse e waits
    · exact .nothing
  | clone s =>
    simp only [step]
    split
    · rename_i has
      exact .share (.inl has)
    · exact .nothing
  | drop s =>
    simp only [step]
    split
    · rename_i has
      exact .letGo has
    · exact .nothing
  | downgrade s | cloneWeak s =>
    simp only [step]
    split
    · exact .observe _
    · exact .nothing
  | dropWeak s => exact .observe _
  | upgrade s =>
    simp only [step]
    split
    · rename_i may
      exact .share (.inr may.2)
    · exact .nothing
  | reset =>
    simp only [step]
    split
    · rename_i alive
      exact .reset alive
    · exact .nothing
  | dropPool => exact .dropPool

/-- What every effect preserves, every run preserves. -/
theorem steps_induction {P : World → Prop} (effect : ∀ w w', P w → Effect w w' → P w') {w : World}
    (h : P w) (moves : List Move) : P (w.steps moves) := by
  induction moves generalizing w with
  | nil => exact h
  | cons m rest ih => exact ih (effect w _ h (step_effect w m))

/-- What holds at the start and is preserved by every effect holds after every run. -/
theorem run_induction {P : World → Prop} (start : P {})
    (effect : ∀ w w', P w → Effect w w' → P w') (moves : List Move) : P (run moves) :=
  steps_induction effect start moves

end World

end PooledSql
