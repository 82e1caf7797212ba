import PooledSql.Proofs.Contexts.Run

/-!
# A request that fails changes nothing

If a request for a session fails, then because the factory refused, and the error is the factory's.
That is noted, and nothing else is different: not the pool, not a session, not a slot of the finder.

What is noted is never read again. So two databases that differ only in that answer alike and stay
so, and a run goes on after a failed request as it would have gone on without it.

Results:
* `sessionFor_error`, `get_error`: what a failed request comes from and what it leaves behind.
* `perform_unlogged`: no operation depends on what was noted.
* `failures_leave_no_trace`: a run without the requests that fail in it has the other replies.
-/

namespace PooledSql

namespace Usage

/-- Something that is done with a database, a session or an observation, or asked of one. -/
inductive Operation
  | use (use : Use)
  | reset
  /-- The database goes away. -/
  | close
  | isUsing (context : ContextKey) (s : SessionId)
  | stats
  | dialect
  | describe (s : SessionId)
  /-- The connection that work on a session gets. -/
  | connection (s : SessionId)
  | isExpired (s : SessionId)
  | refersTo (observed s : SessionId)

/-- Without the database this cannot be done. -/
def Operation.needsDatabase : Operation → Bool
  | .use (.session _ _) | .use (.get _) | .use .discard => true
  | .reset | .close | .isUsing _ _ | .stats | .dialect => true
  | .use _ | .describe _ | .connection _ | .isExpired _ | .refersTo _ _ => false

/-- What an operation is answered. -/
inductive Reply
  | done
  /-- The handle that it takes, or the database, is not there. -/
  | impossible
  /-- A session, with what it says of itself. -/
  | session (s : SessionId) (x : Option Session)
  /-- An observation leads to no session any more. -/
  | expired
  | failed (e : Error)
  | flag (b : Bool)
  | stats (counts : PoolStats)
  | dialect (d : Dialect) (maxColumnNameLength : Option Nat)
  | description (x : Option Session)
  | connection (serial : Option Nat)

def Reply.isFailure : Reply → Bool
  | .failed _ => true
  | _ => false

/-- The reply to a request, given its result and the pool after it. -/
def Reply.ofRequest (result : Except Error SessionId) (h : Hub) : Reply :=
  match result with
  | .ok s => .session s h.issued[s]?
  | .error e => .failed e

/-- What a use is answered. -/
def replyTo (u : Usage) : Use → Reply
  | .session context outcome =>
    if u.db.hub.admits outcome then
      let answer := u.db.sessionFor context outcome
      .ofRequest answer.1 answer.2.hub
    else .impossible
  | .get outcome =>
    if u.db.hub.admits outcome then
      let answer := u.db.hub.get outcome
      .ofRequest answer.1 answer.2
    else .impossible
  | .clone s =>
    if s ∈ u.strong then .session s (u.db.hub.cloneOwner s).issued[s]? else .impossible
  | .drop s | .downgrade s => if s ∈ u.strong then .done else .impossible
  | .cloneWeak s | .dropWeak s => if s ∈ u.weak then .done else .impossible
  | .upgrade s =>
    if s ∈ u.weak then
      match u.db.hub.upgrade s with
      | (some t, hub) => .session t hub.issued[t]?
      | (none, _) => .expired
    else .impossible
  | .discard => .done

/-- What an operation is answered, and what it does. -/
def perform (u : Usage) (op : Operation) : Reply × Usage :=
  if op.needsDatabase && !u.db.hub.alive then (.impossible, u)
  else
    match op with
    | .use use => (u.replyTo use, u.step use)
    | .reset => (.done, { u with db.hub := u.db.hub.reset })
    | .close => (.done, { u with db.hub := u.db.hub.dropPool })
    | .isUsing context s => (.flag (u.db.isUsing context s), u)
    | .stats => (.stats u.db.hub.pool.stats, u)
    | .dialect => (.dialect u.db.dialect u.db.maxColumnNameLength, u)
    | .describe s => (.description u.db.hub.issued[s]?, u)
    | .connection s => (.connection (u.db.hub.connection? s), u)
    | .isExpired s => (.flag (u.db.hub.isExpired s), u)
    | .refersTo observed s => (.flag (u.db.hub.refersTo observed s), u)

/-- What some operations are answered, one after the other. -/
def replies (u : Usage) : List Operation → List Reply
  | [] => []
  | op :: rest => (u.perform op).1 :: (u.perform op).2.replies rest

/-- What some operations do, one after the other. -/
def after (u : Usage) : List Operation → Usage
  | [] => u
  | op :: rest => (u.perform op).2.after rest

/-- The operations that do not fail when all are done one after the other. -/
def succeeding (u : Usage) : List Operation → List Operation
  | [] => []
  | op :: rest =>
    if (u.perform op).1.isFailure then (u.perform op).2.succeeding rest
    else op :: (u.perform op).2.succeeding rest

end Usage

/-! ## Requests that fail -/

/-- A pool fails with the factory's error, and only notes that. -/
theorem Hub.get_error {h h' : Hub} {outcome : Except Error Nat} {e : Error}
    (failed : h.get outcome = (.error e, h')) : outcome = .error e ∧ h' = h.failGet e := by
  simp only [get, beginGet, Pool.take] at failed
  cases idle : h.pool.reserve with
  | cons c rest =>
    rw [idle] at failed
    cases failed
  | nil =>
    rw [idle] at failed
    cases outcome with
    | ok serial => cases failed
    | error e' =>
      cases failed
      exact ⟨rfl, rfl⟩

/-- So does a database. -/
theorem Database.sessionFor_error {db db' : Database} {context : ContextKey}
    {outcome : Except Error Nat} {e : Error}
    (failed : db.sessionFor context outcome = (.error e, db')) :
    outcome = .error e ∧ db' = db.fail e := by
  cases current : db.current? context with
  | some s =>
    obtain ⟨hub, -, answered⟩ := sessionFor_found current outcome
    rw [answered] at failed
    cases failed
  | none =>
    rw [sessionFor_vacant current] at failed
    rcases given : db.hub.get outcome with ⟨e' | s, hub⟩
    · rw [given] at failed
      cases failed
      obtain ⟨refused, rfl⟩ := Hub.get_error given
      exact ⟨refused, rfl⟩
    · rw [given] at failed
      cases failed

/-! ## What was noted is not read -/

namespace Hub

/-- The same pool and sessions, with nothing noted. -/
def unlogged (h : Hub) : Hub := { h with log := [] }

theorem pool_unlogged (h : Hub) : h.unlogged.pool = h.pool := rfl

theorem alive_unlogged (h : Hub) : h.unlogged.alive = h.alive := rfl

theorem issued_unlogged (h : Hub) : h.unlogged.issued = h.issued := rfl

theorem isLive_unlogged (h : Hub) : h.unlogged.isLive = h.isLive := rfl

theorem unlogged_cloneOwner (h : Hub) (s : SessionId) :
    (h.unlogged.cloneOwner s).unlogged = (h.cloneOwner s).unlogged := by
  cases live : h.isLive s <;> simp only [cloneOwner, isLive_unlogged, live] <;> rfl

theorem unlogged_release (h : Hub) (c : Connection) (epoch : Nat) :
    (h.unlogged.release c epoch).unlogged = (h.release c epoch).unlogged := by
  simp only [release, pool_unlogged]
  cases h.pool.giveBack c epoch with
  | mk taken pool =>
    cases alive : h.alive <;> cases taken <;> simp only [alive_unlogged, alive] <;> rfl

theorem unlogged_dropOwner (h : Hub) (s : SessionId) :
    (h.unlogged.dropOwner s).unlogged = (h.dropOwner s).unlogged := by
  simp only [dropOwner, issued_unlogged]
  cases h.issued[s]? with
  | none => rfl
  | some x =>
    by_cases zero : x.owners = 0
    · simp only [if_pos zero]
      rfl
    · by_cases one : x.owners = 1
      · simp only [if_neg zero, if_pos one]
        cases x.cell with
        | none => rfl
        | some serial => exact unlogged_release (h.vacate s) ⟨x.id, serial⟩ x.epoch
      · simp only [if_neg zero, if_neg one]
        rfl

theorem unlogged_dropPool (h : Hub) : h.unlogged.dropPool.unlogged = h.dropPool.unlogged := by
  cases alive : h.alive <;> simp only [dropPool, alive_unlogged, alive] <;> rfl

/-- Whatever was noted, a request gives the same and leads to the same pool and sessions. -/
theorem unlogged_get (h : Hub) (outcome : Except Error Nat) :
    ∃ result g g', h.get outcome = (result, g) ∧ h.unlogged.get outcome = (result, g') ∧
      g'.unlogged = g.unlogged := by
  simp only [get, beginGet, Pool.take, pool_unlogged]
  cases h.pool.reserve with
  | cons c rest => exact ⟨_, _, _, rfl, rfl, rfl⟩
  | nil => cases outcome <;> exact ⟨_, _, _, rfl, rfl, rfl⟩

end Hub

namespace Database

/-- The same database, with nothing noted. -/
def unlogged (db : Database) : Database := { db with hub := db.hub.unlogged }

theorem unlogged_assign (db : Database) (context : ContextKey) (s : SessionId) :
    (db.unlogged.assign context s).unlogged = (db.assign context s).unlogged := by
  simp only [assign, unlogged, Hub.isLive_unlogged]
  split <;> rfl

/-- A request gives the same result without the log, and the same state but for it. -/
theorem unlogged_sessionFor (db : Database) (context : ContextKey) (outcome : Except Error Nat) :
    ∃ result db' db'', db.sessionFor context outcome = (result, db') ∧
      db.unlogged.sessionFor context outcome = (result, db'') ∧ db''.unlogged = db'.unlogged := by
  cases current : db.current? context with
  | some s =>
    have current' : db.unlogged.current? context = some s := current
    simp only [sessionFor, request, current, current']
    refine ⟨_, _, _, rfl, rfl, ?_⟩
    exact congrArg (fun hub => { db with hub : Database }) (Hub.unlogged_cloneOwner db.hub s)
  | none =>
    have current' : db.unlogged.current? context = none := current
    obtain ⟨result, g, g', given, given', same⟩ := db.hub.unlogged_get outcome
    -- the finder reads which sessions are live, and they are the same in both pools
    rw [sessionFor_vacant current, sessionFor_vacant current', given,
      show db.unlogged.hub.get outcome = _ from given']
    cases result with
    | error e =>
      exact ⟨_, _, _, rfl, rfl, congrArg (fun hub => { db with hub : Database }) same⟩
    | ok s =>
      refine ⟨_, _, _, rfl, rfl, ?_⟩
      calc ({ db with hub := g' }.assign context s).unlogged
        _ = ({ db with hub := g'.unlogged }.assign context s).unlogged :=
          (unlogged_assign { db with hub := g' } context s).symm
        _ = ({ db with hub := g.unlogged }.assign context s).unlogged := by rw [same]
        _ = ({ db with hub := g }.assign context s).unlogged :=
          unlogged_assign { db with hub := g } context s

end Database

namespace Usage

/-- The same database and users, with nothing noted. -/
def unlogged (u : Usage) : Usage := { u with db := u.db.unlogged }

theorem unlogged_share (u : Usage) (s : SessionId) :
    (u.unlogged.share s).unlogged = (u.share s).unlogged :=
  congrArg (fun hub => { u with db.hub := hub, strong := s :: u.strong })
    (Hub.unlogged_cloneOwner u.db.hub s)

theorem unlogged_letGo (u : Usage) (s : SessionId) :
    (u.unlogged.letGo s).unlogged = (u.letGo s).unlogged :=
  congrArg (fun hub => { u with db.hub := hub, strong := u.strong.erase s })
    (Hub.unlogged_dropOwner u.db.hub s)

theorem unlogged_ask (u : Usage) (context : ContextKey) (outcome : Except Error Nat) :
    (u.unlogged.ask context outcome).unlogged = (u.ask context outcome).unlogged := by
  obtain ⟨result, db', db'', given, given', same⟩ := u.db.unlogged_sessionFor context outcome
  simp only [ask, given, show u.unlogged.db.sessionFor context outcome = _ from given']
  cases result with
  | error e => exact congrArg (fun db => { u with db }) same
  | ok s =>
    exact congrArg (fun db =>
      { u with db, strong := s :: u.strong, answers := (context, s) :: u.answers }) same

theorem unlogged_get (u : Usage) (outcome : Except Error Nat) :
    (u.unlogged.get outcome).unlogged = (u.get outcome).unlogged := by
  obtain ⟨result, g, g', given, given', same⟩ := u.db.hub.unlogged_get outcome
  simp only [get, given, show u.unlogged.db.hub.get outcome = _ from given']
  cases result with
  | error e => exact congrArg (fun hub => { u with db.hub := hub }) same
  | ok s =>
    exact congrArg (fun hub =>
      { u with db.hub := hub, strong := s :: u.strong, pooled := s :: u.pooled }) same

/-- What may be done is done, and else nothing is, whatever was noted. -/
theorem unlogged_ite (u : Usage) {may : Prop} [Decidable may] {v v' : Usage}
    (same : v'.unlogged = v.unlogged) :
    (if may then v' else u.unlogged).unlogged = (if may then v else u).unlogged := by
  split
  · exact same
  · rfl

/-- Whatever was noted, a use leads to the same database and users. -/
theorem unlogged_step (u : Usage) (use : Use) :
    (u.unlogged.step use).unlogged = (u.step use).unlogged := by
  cases use with
  | session context outcome => exact u.unlogged_ite (u.unlogged_ask context outcome)
  | get outcome => exact u.unlogged_ite (u.unlogged_get outcome)
  | clone s | upgrade s => exact u.unlogged_ite (u.unlogged_share s)
  | drop s => exact u.unlogged_ite (u.unlogged_letGo s)
  | downgrade s | cloneWeak s => exact u.unlogged_ite (v := { u with weak := s :: u.weak }) rfl
  | dropWeak s | discard => rfl

/-- A reply is read from the state without its log. -/
theorem ofRequest_congr {h h' : Hub} (same : h'.unlogged = h.unlogged)
    (result : Except Error SessionId) : Reply.ofRequest result h' = Reply.ofRequest result h := by
  have issued : h'.issued = h.issued := (congrArg Hub.issued same :)
  cases result with
  | error e => rfl
  | ok s => rw [Reply.ofRequest, Reply.ofRequest, issued]

/-- Whatever was noted, a use is answered the same. -/
theorem replyTo_unlogged (u : Usage) (use : Use) : u.unlogged.replyTo use = u.replyTo use := by
  cases use with
  | session context outcome =>
    obtain ⟨result, db', db'', given, given', same⟩ := u.db.unlogged_sessionFor context outcome
    refine if_congr Iff.rfl ?_ rfl
    rw [given, show u.unlogged.db.sessionFor context outcome = _ from given']
    exact ofRequest_congr (congrArg Database.hub same :) result
  | get outcome =>
    obtain ⟨result, g, g', given, given', same⟩ := u.db.hub.unlogged_get outcome
    refine if_congr Iff.rfl ?_ rfl
    rw [given, show u.unlogged.db.hub.get outcome = _ from given']
    exact ofRequest_congr same result
  | clone s =>
    exact if_congr Iff.rfl (ofRequest_congr (Hub.unlogged_cloneOwner u.db.hub s) (.ok s)) rfl
  | upgrade s =>
    refine if_congr Iff.rfl ?_ rfl
    have same : u.unlogged.db.hub.isExpired s = u.db.hub.isExpired s := rfl
    cases expired : u.db.hub.isExpired s with
    | true => simp only [Hub.upgrade, same, expired, if_true]
    | false =>
      simp only [Hub.upgrade, same, expired, Bool.false_eq_true, if_false]
      exact ofRequest_congr (Hub.unlogged_cloneOwner u.db.hub s) (.ok s)
  | drop s | downgrade s | cloneWeak s | dropWeak s | discard => rfl

/-- Whatever was noted, an operation is answered the same and does the same. -/
theorem perform_unlogged (u : Usage) (op : Operation) :
    (u.unlogged.perform op).1 = (u.perform op).1 ∧
      (u.unlogged.perform op).2.unlogged = (u.perform op).2.unlogged := by
  have alive : u.unlogged.db.hub.alive = u.db.hub.alive := rfl
  simp only [perform, alive]
  split
  · exact ⟨rfl, rfl⟩
  · cases op with
    | use use => exact ⟨u.replyTo_unlogged use, u.unlogged_step use⟩
    | close =>
      exact ⟨rfl, congrArg (fun hub => { u with db.hub := hub }) (Hub.unlogged_dropPool u.db.hub)⟩
    | reset | isUsing context s | stats | dialect | describe s | connection s | isExpired s
    | refersTo observed s => exact ⟨rfl, rfl⟩

/-- What differs only in what was noted is answered alike and stays so. -/
theorem perform_congr {u v : Usage} (same : u.unlogged = v.unlogged) (op : Operation) :
    (u.perform op).1 = (v.perform op).1 ∧
      (u.perform op).2.unlogged = (v.perform op).2.unlogged := by
  obtain ⟨reply, next⟩ := u.perform_unlogged op
  obtain ⟨reply', next'⟩ := v.perform_unlogged op
  rw [← reply, ← next, same, reply', next']
  exact ⟨rfl, rfl⟩

/-- Two states that differ in their logs only reply alike to all operations. -/
theorem replies_congr {u v : Usage} (same : u.unlogged = v.unlogged) (ops : List Operation) :
    u.replies ops = v.replies ops ∧ (u.after ops).unlogged = (v.after ops).unlogged := by
  induction ops generalizing u v with
  | nil => exact ⟨rfl, same⟩
  | cons op rest ih =>
    obtain ⟨reply, next⟩ := perform_congr same op
    obtain ⟨replies, after⟩ := ih next
    exact ⟨congrArg₂ List.cons reply replies, after⟩

/-! ## Runs without the failures -/

theorem unlogged_ask_of_failure {u : Usage} {context : ContextKey} {outcome : Except Error Nat}
    {e : Error} {db : Database} (failed : u.db.sessionFor context outcome = (.error e, db)) :
    (u.ask context outcome).unlogged = u.unlogged := by
  rw [ask, failed, (Database.sessionFor_error failed).2]
  rfl

theorem unlogged_get_of_failure {u : Usage} {outcome : Except Error Nat} {e : Error} {hub : Hub}
    (failed : u.db.hub.get outcome = (.error e, hub)) : (u.get outcome).unlogged = u.unlogged := by
  rw [get, failed, (Hub.get_error failed).2]
  rfl

/-- A use that fails only notes that. -/
theorem unlogged_step_of_failure {u : Usage} {use : Use}
    (failed : (u.replyTo use).isFailure = true) : (u.step use).unlogged = u.unlogged := by
  cases use with
  | session context outcome =>
    simp only [replyTo] at failed
    split at failed
    · rename_i may
      rw [step, if_pos may]
      rcases given : u.db.sessionFor context outcome with ⟨e | s, db⟩
      · exact unlogged_ask_of_failure given
      · rw [given] at failed
        cases failed
    · cases failed
  | get outcome =>
    simp only [replyTo] at failed
    split at failed
    · rename_i may
      rw [step, if_pos may]
      rcases given : u.db.hub.get outcome with ⟨e | s, hub⟩
      · exact unlogged_get_of_failure given
      · rw [given] at failed
        cases failed
    · cases failed
  | clone s | drop s | downgrade s | cloneWeak s | dropWeak s =>
    simp only [replyTo] at failed
    split at failed <;> cases failed
  | upgrade s =>
    simp only [replyTo] at failed
    split at failed
    · split at failed <;> cases failed
    · cases failed
  | discard => cases failed

/-- An operation that fails only notes that. -/
theorem unlogged_of_failure {u : Usage} {op : Operation}
    (failed : (u.perform op).1.isFailure = true) : (u.perform op).2.unlogged = u.unlogged := by
  unfold perform at failed ⊢
  split
  · rfl
  · rename_i there
    rw [if_neg there] at failed
    cases op with
    | use use => exact unlogged_step_of_failure failed
    | reset | close | isUsing context s | stats | dialect | describe s | connection s | isExpired s
    | refersTo observed s => cases failed

/-- Leaving out the operations that fail leaves out their replies and nothing else. -/
theorem replies_succeeding (u : Usage) (ops : List Operation) :
    u.replies (u.succeeding ops) = (u.replies ops).filter (fun r => !r.isFailure) ∧
      (u.after (u.succeeding ops)).unlogged = (u.after ops).unlogged := by
  induction ops generalizing u with
  | nil => exact ⟨rfl, rfl⟩
  | cons op rest ih =>
    obtain ⟨replies, after⟩ := ih (u.perform op).2
    by_cases failed : (u.perform op).1.isFailure = true
    · -- the run goes on as if the operation had not been there
      obtain ⟨replies', after'⟩ := replies_congr (unlogged_of_failure failed)
        ((u.perform op).2.succeeding rest)
      rw [succeeding, if_pos failed, ← replies', ← after', replies, after]
      refine ⟨?_, rfl⟩
      rw [Usage.replies, List.filter_cons_of_neg (by simpa using failed)]
    · rw [succeeding, if_neg failed]
      refine ⟨?_, after⟩
      rw [Usage.replies, Usage.replies, replies, List.filter_cons_of_pos (by simpa using failed)]

/-- A request that fails, for a context or from the pool, fails with the error of the factory and only
notes that. So a run without the requests that fail in it has the other replies, and ends with the
same pool, sessions and slots. -/
theorem failures_leave_no_trace (u : Usage) (ops : List Operation) :
    (∀ context outcome e db, u.db.sessionFor context outcome = (.error e, db) →
      outcome = .error e ∧
        db = { u.db with hub.log := u.db.hub.log ++ [.failedToOpen e.message] }) ∧
    (∀ outcome e hub, u.db.hub.get outcome = (.error e, hub) →
      outcome = .error e ∧
        hub = { u.db.hub with log := u.db.hub.log ++ [.failedToOpen e.message] }) ∧
    u.replies (u.succeeding ops) = (u.replies ops).filter (fun r => !r.isFailure) ∧
    (u.after (u.succeeding ops)).unlogged = (u.after ops).unlogged :=
  ⟨fun _ _ _ _ failed => Database.sessionFor_error failed,
    fun _ _ _ failed => Hub.get_error failed, u.replies_succeeding ops⟩

/-- The factory refuses a context, and then it does not: the connection has the id that it would have
had. -/
example :
    let u : Usage := { db := Database.new .sqlite 1 }
    let refused := Error.connection "mock" (.stated "refused")
    u.replies [.use (.session (.scope 0) (.error refused)), .use (.session (.scope 0) (.ok 7)),
        .stats] =
      [.failed refused, .session 0 (some ⟨1, 0, 1, some 7⟩), .stats ⟨0, 0, 1, 0, 0⟩] := rfl

end Usage

end PooledSql
