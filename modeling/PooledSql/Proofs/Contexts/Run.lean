import PooledSql.Database
import PooledSql.Proofs.Pool.Ownership

/-!
# Runs of a database

A database in use, with the handles that its users have and a record of what it gave them: which
session each context got, and which sessions came from the pool without a context. Every use is over
before the next one starts. The factory answers a request as it likes, with a refusal or with a
connection that was never there before. What cannot be done changes nothing.

Results:
* `get_cases`, `sessionFor_cases`: the ways in which a request is answered.
* `step_effect`: what a use can do, whatever the use.
* `run_induction`: what holds at the start and after every effect holds after every run.
-/

namespace PooledSql

/-- The same pool, sessions and closed connections; only the events may differ. -/
structure Hub.Alike (h h' : Hub) : Prop where
  pool : h'.pool = h.pool
  issued : h'.issued = h.issued
  closed : h'.closed = h.closed

/-- One more session came about, on the idle connection in front or, if none is idle, on a connection
that the factory opened. -/
inductive Hub.Issues (h h' : Hub) : Prop
  | reuse {c : Connection} {rest : List Connection} (idle : h.pool.reserve = c :: rest)
      (same : (({ hub := h } : World).reuse c rest).hub.Alike h')
  | enter {serial : Nat} (vacant : h.pool.reserve = []) (fresh : serial ∉ h.places)
      (same : (h.finishGet h.pool.epoch serial).2.Alike h')

/-- The factory refuses, or returns a connection that is nowhere yet. -/
def Hub.admits (h : Hub) : Except Error Nat → Bool
  | .ok serial => !h.places.contains serial
  | .error _ => true

/-- A database and its users. -/
structure Usage where
  db : Database
  /-- The handles there are, each by its session. -/
  strong : List SessionId := []
  /-- The weak handles there are, each by its session. -/
  weak : List SessionId := []
  /-- The sessions that contexts got, the last one first. -/
  answers : List (ContextKey × SessionId) := []
  /-- The sessions that came from the pool without a context. -/
  pooled : List SessionId := []

/-- Something that a user does, with what the factory would answer. -/
inductive Use
  /-- Asks for a context's session. -/
  | session (context : ContextKey) (outcome : Except Error Nat)
  /-- Asks the pool for a session. -/
  | get (outcome : Except Error Nat)
  | clone (s : SessionId)
  | drop (s : SessionId)
  | downgrade (s : SessionId)
  | cloneWeak (s : SessionId)
  | dropWeak (s : SessionId)
  | upgrade (s : SessionId)
  | discard

namespace Usage

/-- Asks for a context's session. -/
def ask (u : Usage) (context : ContextKey) (outcome : Except Error Nat) : Usage :=
  match u.db.sessionFor context outcome with
  | (.ok s, db) => { u with db, strong := s :: u.strong, answers := (context, s) :: u.answers }
  | (.error _, db) => { u with db }

/-- Asks the pool for a session. -/
def get (u : Usage) (outcome : Except Error Nat) : Usage :=
  match u.db.hub.get outcome with
  | (.ok s, hub) => { u with db.hub := hub, strong := s :: u.strong, pooled := s :: u.pooled }
  | (.error _, hub) => { u with db.hub := hub }

/-- One more handle to a session. -/
def share (u : Usage) (s : SessionId) : Usage :=
  { u with db.hub := u.db.hub.cloneOwner s, strong := s :: u.strong }

/-- One handle less to a session. -/
def letGo (u : Usage) (s : SessionId) : Usage :=
  { u with db.hub := u.db.hub.dropOwner s, strong := u.strong.erase s }

/-- What a use does. -/
def step (u : Usage) : Use → Usage
  | .session context outcome => if u.db.hub.admits outcome then u.ask context outcome else u
  | .get outcome => if u.db.hub.admits outcome then u.get outcome else u
  | .clone s => if s ∈ u.strong then u.share s else u
  | .drop s => if s ∈ u.strong then u.letGo s else u
  | .downgrade s => if s ∈ u.strong then { u with weak := s :: u.weak } else u
  | .cloneWeak s => if s ∈ u.weak then { u with weak := s :: u.weak } else u
  | .dropWeak s => { u with weak := u.weak.erase s }
  | .upgrade s => if s ∈ u.weak ∧ u.db.hub.isLive s then u.share s else u
  | .discard => { u with db := u.db.discardConnections }

/-- What some uses do, one after the other. -/
def steps (u : Usage) (uses : List Use) : Usage := uses.foldl step u

/-- The database after some uses from the start, with any threshold for pruning. -/
def run (dialect : Dialect) (threshold : Nat) (uses : List Use) : Usage :=
  ({ db := Database.new dialect threshold } : Usage).steps uses

theorem run_append (dialect : Dialect) (threshold : Nat) (a b : List Use) :
    run dialect threshold (a ++ b) = (run dialect threshold a).steps b :=
  List.foldl_append

end Usage

/-! ## What is alike -/

namespace Hub

theorem Alike.refl (h : Hub) : h.Alike h := ⟨rfl, rfl, rfl⟩

theorem Alike.trans {a b c : Hub} (h : a.Alike b) (h' : b.Alike c) : a.Alike c :=
  ⟨h'.pool.trans h.pool, h'.issued.trans h.issued, h'.closed.trans h.closed⟩

theorem Alike.isLive {h h' : Hub} (same : h.Alike h') : h'.isLive = h.isLive := by
  funext s
  simp only [Hub.isLive, owners, same.issued]

theorem alike_note (h : Hub) (e : LogEvent) : h.Alike (h.note e) := ⟨rfl, rfl, rfl⟩

theorem Issues.trans {a b c : Hub} (issues : a.Issues b) (same : b.Alike c) : a.Issues c := by
  cases issues with
  | reuse idle same' => exact .reuse idle (same'.trans same)
  | enter vacant fresh same' => exact .enter vacant fresh (same'.trans same)

/-- A session comes about at the end of those that were issued, with one owner. -/
theorem Issues.issued {h h' : Hub} (issues : h.Issues h') :
    ∃ x : Session, x.owners = 1 ∧ h'.issued = h.issued ++ [x] := by
  cases issues with
  | @reuse c rest idle same => exact ⟨⟨c.id, h.pool.epoch, 1, some c.serial⟩, rfl, same.issued⟩
  | @enter serial vacant fresh same =>
    exact ⟨⟨h.pool.opened + 1, h.pool.epoch, 1, some serial⟩, rfl, same.issued⟩

theorem Issues.more {h h' : Hub} (issues : h.Issues h') : h.issued.length < h'.issued.length := by
  obtain ⟨x, -, issued⟩ := issues.issued
  rw [issued, List.length_append]
  exact Nat.lt_succ_self _

/-- The ways in which a pool answers a request: with one more session, or with the refusal of the
factory, which it asks only if no connection is idle. -/
theorem get_cases (h : Hub) {outcome : Except Error Nat} (may : h.admits outcome = true) :
    (∃ h', h.get outcome = (.ok h.issued.length, h') ∧ h.Issues h') ∨
      ∃ e, h.pool.reserve = [] ∧ outcome = .error e ∧
        h.get outcome = (.error e, h.failGet e) := by
  cases idle : h.pool.reserve with
  | cons c rest =>
    refine .inl ⟨(({ hub := h } : World).reuse c rest).hub, ?_, .reuse idle (.refl _)⟩
    simp only [Hub.get, beginGet, Pool.take, idle]
    rfl
  | nil =>
    cases outcome with
    | error e =>
      refine .inr ⟨e, rfl, rfl, ?_⟩
      simp only [Hub.get, beginGet, Pool.take, idle]
    | ok serial =>
      have fresh : serial ∉ h.places := by simpa [admits] using may
      refine .inl ⟨(h.finishGet h.pool.epoch serial).2, ?_, .enter idle fresh (.refl _)⟩
      simp only [Hub.get, beginGet, Pool.take, idle]
      rfl

end Hub

namespace Database

/-- Assigning a session to a context writes to the finder and the log, not to the hub. -/
theorem alike_assign (db : Database) (context : ContextKey) (s : SessionId) :
    db.hub.Alike (db.assign context s).hub := by
  unfold assign
  dsimp only
  split
  · exact (Hub.alike_note _ _).trans (Hub.alike_note _ _)
  · exact Hub.alike_note _ _

/-- A context with a current session is given that one, with an owner more. -/
theorem sessionFor_found {db : Database} {context : ContextKey} {s : SessionId}
    (current : db.current? context = some s) (outcome : Except Error Nat) :
    ∃ hub, (db.hub.cloneOwner s).Alike hub ∧
      db.sessionFor context outcome = (.ok s, { db with hub }) := by
  let e := LogEvent.found ((db.hub.issued[s]?).elim 0 Session.id) context
  refine ⟨(db.hub.cloneOwner s).note e, Hub.alike_note _ e, ?_⟩
  simp only [sessionFor, request, current]
  rfl

/-- Without a live session of its own, a context gets what the pool gives. -/
theorem sessionFor_vacant {db : Database} {context : ContextKey}
    (vacant : db.current? context = none) (outcome : Except Error Nat) :
    db.sessionFor context outcome =
      match db.hub.get outcome with
      | (.ok s, hub) => (.ok s, { db with hub }.assign context s)
      | (.error e, hub) => (.error e, { db with hub }) := by
  simp only [sessionFor, request, vacant, Hub.get]
  cases db.hub.beginGet with
  | mk checkout hub =>
    cases checkout with
    | session s => rfl
    | vacant epoch => cases outcome <;> rfl

/-- The ways in which a context's request is answered: with its live session and one owner more, with
one more session that becomes the context's, or with the refusal of the factory, which is asked only
if no connection is idle. -/
theorem sessionFor_cases (db : Database) (context : ContextKey) {outcome : Except Error Nat}
    (may : db.hub.admits outcome = true) :
    (∃ s hub, db.current? context = some s ∧ (db.hub.cloneOwner s).Alike hub ∧
      db.sessionFor context outcome = (.ok s, { db with hub })) ∨
    (db.current? context = none ∧ ∃ hub, db.hub.Issues hub ∧
      db.sessionFor context outcome = (.ok db.hub.issued.length,
        { db with
          hub
          finder := (db.finder.observe hub.isLive context db.hub.issued.length).1 })) ∨
    (db.current? context = none ∧ ∃ e, db.hub.pool.reserve = [] ∧ outcome = .error e ∧
      db.sessionFor context outcome = (.error e, db.fail e)) := by
  cases current : db.current? context with
  | some s =>
    obtain ⟨hub, same, answered⟩ := sessionFor_found current outcome
    exact .inl ⟨s, hub, rfl, same, answered⟩
  | none =>
    rcases db.hub.get_cases may with ⟨hub, given, issues⟩ | ⟨e, idle, refused, given⟩
    · have same := alike_assign { db with hub } context db.hub.issued.length
      refine .inr (.inl ⟨rfl, _, issues.trans same, ?_⟩)
      rw [sessionFor_vacant current, given, same.isLive]
      rfl
    · refine .inr (.inr ⟨rfl, e, idle, refused, ?_⟩)
      rw [sessionFor_vacant current, given]
      rfl

end Database

/-! ## What a use can do -/

namespace Usage

/-- What a use can do to a database and its users. -/
inductive Effect (u : Usage) : Usage → Prop
  | nothing : Effect u u
  | observe (weak : List SessionId) : Effect u { u with weak }
  /-- The factory refused, and only that is noted. -/
  | refuse {hub : Hub} (same : u.db.hub.Alike hub) : Effect u { u with db.hub := hub }
  /-- A context gets its live session. -/
  | found {context : ContextKey} {s : SessionId} {hub : Hub}
      (current : u.db.current? context = some s) (same : (u.db.hub.cloneOwner s).Alike hub) :
      Effect u { u with
        db.hub := hub, strong := s :: u.strong, answers := (context, s) :: u.answers }
  /-- A context without a live session gets one more. -/
  | issue {context : ContextKey} {hub : Hub} (vacant : u.db.current? context = none)
      (issues : u.db.hub.Issues hub) :
      Effect u { u with
        db := { u.db with
          hub
          finder := (u.db.finder.observe hub.isLive context u.db.hub.issued.length).1 }
        strong := u.db.hub.issued.length :: u.strong
        answers := (context, u.db.hub.issued.length) :: u.answers }
  /-- One more session comes from the pool. -/
  | pooled {hub : Hub} (issues : u.db.hub.Issues hub) :
      Effect u { u with
        db.hub := hub
        strong := u.db.hub.issued.length :: u.strong
        pooled := u.db.hub.issued.length :: u.pooled }
  | share {s : SessionId} (may : s ∈ u.strong ∨ u.db.hub.isLive s = true) : Effect u (u.share s)
  | letGo {s : SessionId} (has : s ∈ u.strong) : Effect u (u.letGo s)
  | discard : Effect u { u with db := u.db.discardConnections }

theorem ask_effect {u : Usage} {outcome : Except Error Nat} (may : u.db.hub.admits outcome = true)
    (context : ContextKey) : Effect u (u.ask context outcome) := by
  unfold ask
  rcases u.db.sessionFor_cases context may with ⟨s, hub, current, same, answered⟩ |
      ⟨vacant, hub, issues, answered⟩ | ⟨-, e, -, -, answered⟩
  · rw [answered]
    exact .found current same
  · rw [answered]
    exact .issue vacant issues
  · rw [answered]
    exact .refuse (Hub.alike_note _ _)

theorem get_effect {u : Usage} {outcome : Except Error Nat}
    (may : u.db.hub.admits outcome = true) : Effect u (u.get outcome) := by
  unfold get
  rcases u.db.hub.get_cases may with ⟨hub, given, issues⟩ | ⟨e, -, -, given⟩
  · rw [given]
    exact .pooled issues
  · rw [given]
    exact .refuse (Hub.alike_note _ _)

/-- Whatever a use does is one of the effects. -/
theorem step_effect (u : Usage) (use : Use) : Effect u (u.step use) := by
  cases use with
  | session context outcome =>
    simp only [step]
    split
    · rename_i may
      exact ask_effect may context
    · exact .nothing
  | get outcome =>
    simp only [step]
    split
    · rename_i may
      exact get_effect may
    · exact .nothing
  | clone s =>
    simp only [step]
    split
    · rename_i has
      exact .share (.inl has)
    · exact .nothing
  | drop s =>
    simp only [step]
    split
    · rename_i has
      exact .letGo has
    · exact .nothing
  | downgrade s | cloneWeak s =>
    simp only [step]
    split
    · exact .observe _
    · exact .nothing
  | dropWeak s => exact .observe _
  | upgrade s =>
    simp only [step]
    split
    · rename_i may
      exact .share (.inr may.2)
    · exact .nothing
  | discard => exact .discard

/-- What every effect preserves, every run preserves. -/
theorem steps_induction {P : Usage → Prop} (effect : ∀ u u', P u → Effect u u' → P u') {u : Usage}
    (h : P u) (uses : List Use) : P (u.steps uses) := by
  induction uses generalizing u with
  | nil => exact h
  | cons use rest ih => exact ih (effect u _ h (step_effect u use))

/-- What holds at the start and is preserved by every effect holds after every run. -/
theorem run_induction {P : Usage → Prop} {dialect : Dialect} {threshold : Nat}
    (start : P { db := Database.new dialect threshold })
    (effect : ∀ u u', P u → Effect u u' → P u') (uses : List Use) :
    P (run dialect threshold uses) :=
  steps_induction effect start uses

end Usage

end PooledSql
