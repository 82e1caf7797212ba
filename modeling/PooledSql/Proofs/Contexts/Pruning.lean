import PooledSql.Proofs.Contexts.Affinity

/-!
# Clearing out slots does not show

A finder clears out slots whenever there are too many of them, which hangs on its threshold and on
everything that happened before. What it answers does not: users of a pool who observe sessions, ask
for them and forget them get the same answers as from a plain map, which keeps every session until
its context is forgotten or gets another one.

Both are memories, and users go on with what a memory answers, a session that is found having one
owner more. So the two runs are compared as a whole: what is in the slots differs, but the answers
and the pool with its users do not.

Results:
* `Agree.step`: whatever is done, the two runs go on alike.
* `pruning_invisible`: a finder answers as the plain map, whatever its threshold.
-/

namespace PooledSql

/-- A way to remember sessions by contexts, given which sessions are live. -/
structure Memory (σ : Type) where
  observe : σ → (SessionId → Bool) → ContextKey → SessionId → σ
  forget : σ → ContextKey → σ
  find : σ → (SessionId → Bool) → ContextKey → Option SessionId
  isObserving : σ → (SessionId → Bool) → ContextKey → SessionId → Bool

/-- Every session that was observed for a context, and `none` where the context was forgotten, the
last one first. Nothing is taken out of it. -/
abbrev Record := List (ContextKey × Option SessionId)

/-- The session that was observed last for a context, if the context was not forgotten since. -/
def Record.latest (r : Record) (context : ContextKey) : Option SessionId := (r.lookup context).join

namespace Memory

/-- A finder with its scans. -/
def finder : Memory Finder where
  observe f live context s := (f.observe live context s).1
  forget := Finder.forget
  find := Finder.current?
  isObserving := Finder.isObserving

/-- A map without scans, kept as a record of what is put in and taken out. -/
def plain : Memory Record where
  observe r _ context s := (context, some s) :: r
  forget r context := (context, none) :: r
  find r live context := (r.latest context).filter live
  isObserving r live context s := r.latest context == some s && live s

theorem plain_isObserving_iff (r : Record) (live : SessionId → Bool) (context : ContextKey)
    (s : SessionId) :
    plain.isObserving r live context s = true ↔ r.latest context = some s ∧ live s = true := by
  simp [plain]

end Memory

/-- An answer of a memory. -/
inductive Recollection
  | found (s : Option SessionId)
  | observing (yes : Bool)
deriving DecidableEq, Repr

/-- A pool with its users, a memory of sessions, and what it has answered so far. -/
structure Watch (σ : Type) where
  world : World := {}
  memory : σ
  answers : List Recollection := []

/-- Something that a user of the pool and the memory does. -/
inductive Act
  | move (m : Move)
  | observe (context : ContextKey) (s : SessionId)
  | find (context : ContextKey)
  | isObserving (context : ContextKey) (s : SessionId)
  | forget (context : ContextKey)

namespace Watch

variable {σ : Type}

/-- What an act does. Only a session that the user has a handle to can be observed or asked about,
and a session that is found has one handle more. -/
def step (m : Memory σ) (w : Watch σ) : Act → Watch σ
  | .move move => { w with world := w.world.step move }
  | .observe context s =>
    if s ∈ w.world.strong then
      { w with memory := m.observe w.memory w.world.hub.isLive context s }
    else w
  | .find context =>
    let found := m.find w.memory w.world.hub.isLive context
    { w with world := found.elim w.world w.world.share, answers := w.answers ++ [.found found] }
  | .isObserving context s =>
    if s ∈ w.world.strong then
      { w with
        answers := w.answers ++ [.observing (m.isObserving w.memory w.world.hub.isLive context s)] }
    else w
  | .forget context => { w with memory := m.forget w.memory context }

/-- What some acts do, one after the other. -/
def steps (m : Memory σ) (w : Watch σ) (acts : List Act) : Watch σ := acts.foldl (step m) w

/-- A finder of a threshold with a pool, after some acts from the start. -/
def run (threshold : Nat) (acts : List Act) : Watch Finder :=
  steps .finder { memory := Finder.new threshold } acts

/-- A plain map with a pool, after the same acts. -/
def runPlain (acts : List Act) : Watch Record := steps .plain { memory := [] } acts

/-! ## The latest session -/

theorem latest_cons (r : Record) (context : ContextKey) (s : Option SessionId) :
    Record.latest ((context, s) :: r) = fun c => if c = context then s else r.latest c := by
  funext c
  rw [Record.latest, lookup_cons_eq]
  split <;> rfl

/-! ## Both runs go on alike -/

/-- The answers and the pool are the same, and the finder recalls what the record says. -/
structure Agree (pruned : Watch Finder) (plain : Watch Record) : Prop where
  world : pruned.world = plain.world
  answers : pruned.answers = plain.answers
  sound : plain.world.Sound
  issued : ∀ c s, plain.memory.latest c = some s → s < plain.world.hub.issued.length
  recalls : pruned.memory.Recalls plain.world.hub.isLive plain.memory.latest

section Agree

variable {pruned : Watch Finder} {plain : Watch Record}

/-- Two memories that agree find the same session for each context. -/
theorem Agree.find (h : Agree pruned plain) (c : ContextKey) :
    Memory.finder.find pruned.memory plain.world.hub.isLive c =
      Memory.plain.find plain.memory plain.world.hub.isLive c :=
  h.recalls.current? c

theorem Agree.isObserving (h : Agree pruned plain) (c : ContextKey) (s : SessionId) :
    Memory.finder.isObserving pruned.memory plain.world.hub.isLive c s =
      Memory.plain.isObserving plain.memory plain.world.hub.isLive c s := by
  change (pruned.memory.current? plain.world.hub.isLive c == some s) =
    (plain.memory.latest c == some s && plain.world.hub.isLive s)
  rw [h.recalls.current? c, Bool.eq_iff_iff, beq_iff_eq, Option.filter_eq_some_iff,
    Bool.and_eq_true, beq_iff_eq]

/-- What concerns sessions that have been issued goes on when the pool and its users do something,
as no session that has ended comes back. -/
theorem Agree.world_effect (h : Agree pruned plain) {world : World}
    (effect : World.Effect plain.world world) :
    Agree { pruned with world } { plain with world } where
  world := rfl
  answers := h.answers
  sound := World.sound_effect h.sound effect
  issued c s given := Nat.lt_of_lt_of_le (h.issued c s given) (World.fades_effect effect).more
  recalls := h.recalls.fewer fun c s given alive =>
    (World.fades_effect effect).live s (h.issued c s given) alive

theorem Agree.observe (h : Agree pruned plain) (context : ContextKey) {s : SessionId}
    (has : s ∈ plain.world.strong) :
    Agree
      { pruned with
        world := plain.world
        memory := Memory.finder.observe pruned.memory plain.world.hub.isLive context s }
      { plain with
        memory := Memory.plain.observe plain.memory plain.world.hub.isLive context s } where
  world := rfl
  answers := h.answers
  sound := h.sound
  issued c t given := by
    change Record.latest ((context, some s) :: plain.memory) c = some t at given
    simp only [latest_cons] at given
    split at given
    · cases given
      exact Hub.lt_of_isLive (h.sound.isLive_iff.2 has)
    · exact h.issued c t given
  recalls := by
    have recalled := h.recalls.observe context s
    rw [← latest_cons] at recalled
    exact recalled

theorem Agree.forget (h : Agree pruned plain) (context : ContextKey) :
    Agree { pruned with memory := Memory.finder.forget pruned.memory context }
      { plain with memory := Memory.plain.forget plain.memory context } where
  world := h.world
  answers := h.answers
  sound := h.sound
  issued c t given := by
    change Record.latest ((context, none) :: plain.memory) c = some t at given
    simp only [latest_cons] at given
    split at given
    · cases given
    · exact h.issued c t given
  recalls := by
    have recalled := h.recalls.forget context
    rw [← latest_cons] at recalled
    exact recalled

/-- A session that is found is live, so it may have one handle more. -/
theorem found_effect (plain : Watch Record) (c : ContextKey) :
    World.Effect plain.world
      ((Memory.plain.find plain.memory plain.world.hub.isLive c).elim plain.world
        plain.world.share) := by
  cases found : Memory.plain.find plain.memory plain.world.hub.isLive c with
  | none => exact .nothing
  | some s => exact .share (.inr (Option.filter_eq_some_iff.1 found).2)

/-- Whatever is done, both runs go on alike. -/
theorem Agree.step (h : Agree pruned plain) (act : Act) :
    Agree (step .finder pruned act) (step .plain plain act) := by
  cases act with
  | move m =>
    have moved := h.world_effect (World.step_effect plain.world m)
    simp only [Watch.step, h.world]
    exact moved
  | observe context s =>
    simp only [Watch.step, h.world]
    split
    · rename_i has
      exact h.observe context has
    · exact h
  | find context =>
    have shared := h.world_effect (found_effect plain context)
    simp only [Watch.step, h.world, h.find, h.answers]
    exact ⟨rfl, rfl, shared.sound, shared.issued, shared.recalls⟩
  | isObserving context s =>
    simp only [Watch.step, h.world, h.isObserving, h.answers]
    split
    · exact ⟨rfl, rfl, h.sound, h.issued, h.recalls⟩
    · exact h
  | forget context => exact h.forget context

theorem Agree.steps (h : Agree pruned plain) (acts : List Act) :
    Agree (steps .finder pruned acts) (steps .plain plain acts) := by
  induction acts generalizing pruned plain with
  | nil => exact h
  | cons act rest ih => exact ih (h.step act)

end Agree

/-- The memory that prunes agrees with the one that never does, after every run. -/
theorem agree_run (threshold : Nat) (acts : List Act) :
    Agree (run threshold acts) (runPlain acts) := by
  refine Agree.steps ?_ acts
  constructor
  case world | answers => rfl
  case sound => exact World.sound_run []
  case issued => exact fun c s given => by cases given
  case recalls => exact Finder.recalls_new threshold _

/-- Whatever the threshold and whatever was done, a finder answered every question as a plain map
would have, and its users and their sessions are as they would be. It would answer the next question
so too: a context's session is the one that was observed last for it since it was forgotten last, as
long as that one has an owner. No other threshold would have made a difference. -/
theorem pruning_invisible (threshold : Nat) (acts : List Act) :
    (run threshold acts).answers = (runPlain acts).answers ∧
      (run threshold acts).world = (runPlain acts).world ∧
      (∀ c, (run threshold acts).memory.current? (run threshold acts).world.hub.isLive c =
        ((runPlain acts).memory.latest c).filter (runPlain acts).world.hub.isLive) ∧
      (∀ c s, (run threshold acts).memory.isObserving (run threshold acts).world.hub.isLive c s =
        true ↔ (runPlain acts).memory.latest c = some s ∧
          (runPlain acts).world.hub.isLive s = true) ∧
      ∀ other, (run other acts).answers = (run threshold acts).answers ∧
        (run other acts).world = (run threshold acts).world := by
  have agree := agree_run threshold acts
  refine ⟨agree.answers, agree.world, fun c => ?_, fun c s => ?_, fun other => ?_⟩
  · rw [agree.world]
    exact agree.find c
  · rw [agree.world, ← Memory.plain_isObserving_iff]
    exact Bool.eq_iff_iff.1 (agree.isObserving c s)
  · have agree' := agree_run other acts
    exact ⟨agree'.answers.trans agree.answers.symm, agree'.world.trans agree.world.symm⟩

/-- Of two finders one clears out the slot of a session that has ended and the other keeps it. -/
example :
    let acts : List Act := [.move .start, .move (.arrive ⟨0, 0⟩ 7), .observe (.scope 1) 0,
      .move (.drop 0), .move .start, .observe (.scope 2) 1, .find (.scope 1), .find (.scope 2)]
    (run 0 acts).memory.size = 1 ∧ (run 2 acts).memory.size = 2 ∧
      (run 0 acts).answers = [.found none, .found (some 1)] := by decide

end Watch

end PooledSql
