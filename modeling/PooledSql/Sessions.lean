import PooledSql.Error
import PooledSql.Log
import PooledSql.Pool

/-!
# Sessions

A session has a connection that is checked out of a pool. It may have several owners; when the last
of them lets go, the connection is taken out of the session and goes back to the pool, is discarded
if the pool was reset in the meantime, or is closed if the pool is gone. A session that has no owner
left stays so for ever, even when its connection is checked out again.

Getting a session has two steps when nothing is idle: the epoch is noted first, then a factory is
asked for a connection, and anything may happen in between.

Owners are counted by a natural number, as ids and epochs are, and overflow is out of scope here too.

Results:
* `owners_cloneOwner`, `owners_dropOwner`: what the number of owners becomes.
-/

namespace PooledSql

/-- A session: the id of its connection, the epoch it was checked out at, how many owners it has,
and the connection itself, by its number with the factory, until that is taken out
(`session::pool::SessionInner`). -/
structure Session where
  id : Nat
  epoch : Nat
  owners : Nat
  cell : Option Nat
deriving DecidableEq, Repr

/-- A session by its place in the order of issue. -/
abbrev SessionId := Nat

/-- A pool with all sessions it ever issued: `session::pool::SessionPool`, and every `Session` of
it. -/
structure Hub where
  pool : Pool := {}
  /-- The pool is still there. -/
  alive : Bool := true
  /-- Every session ever issued, the first one first. -/
  issued : List Session := []
  /-- The connections closed so far, in order, by their numbers with the factory. -/
  closed : List Nat := []
  /-- The events so far, in order. -/
  log : List LogEvent := []
deriving Repr

/-- What a request finds: a session on an idle connection, or none idle at an epoch. -/
inductive Checkout
  | session (s : SessionId)
  | vacant (epoch : Nat)
deriving DecidableEq, Repr

namespace Hub

/-- How many owners a session has: `session::pool::Session::owners`. -/
def owners (h : Hub) (s : SessionId) : Nat := (h.issued[s]?).elim 0 Session.owners

/-- A session that still has an owner. -/
def isLive (h : Hub) (s : SessionId) : Bool := h.owners s != 0

/-- Adds an event. -/
def note (h : Hub) (e : LogEvent) : Hub := { h with log := h.log ++ [e] }

/-- Issues a session on a connection, with one owner: `session::pool::Session::checked_out`. -/
def issue (h : Hub) (c : Connection) (epoch : Nat) : SessionId × Hub :=
  (h.issued.length, { h with issued := h.issued ++ [⟨c.id, epoch, 1, some c.serial⟩] })

/-- The first step of getting a session: `session::pool::SessionPool::get`, up to the call of the
factory. -/
def beginGet (h : Hub) : Checkout × Hub :=
  match h.pool.take with
  | (some c, pool) =>
    let (s, h) := ({ h with pool }.note (.reused c.id pool.epoch)).issue c pool.epoch
    (.session s, h)
  | (none, pool) => (.vacant pool.epoch, { h with pool })

/-- The second step, when the factory opened a connection: it is entered, and the session has the
epoch that was noted (`session::pool::SessionPool::get`, after that call). -/
def finishGet (h : Hub) (epoch serial : Nat) : SessionId × Hub :=
  let (c, pool) := h.pool.enter serial
  ({ h with pool }.note (.opened c.id epoch)).issue c epoch

/-- The second step, when the factory refused: `session::pool::SessionPool::get`, where that call
fails. -/
def failGet (h : Hub) (e : Error) : Hub := h.note (.failedToOpen e.message)

/-- What becomes of a connection that was taken out of a session of an epoch:
`session::pool::PoolShared::release`, or its end where the pool is gone. -/
def release (h : Hub) (c : Connection) (epoch : Nat) : Hub :=
  if h.alive then
    match h.pool.giveBack c epoch with
    | (true, pool) => { h with pool }.note (.returned c.id epoch)
    | (false, pool) =>
      { h with pool, closed := h.closed ++ [c.serial] }.note (.discarded c.id epoch pool.epoch)
  else { h with closed := h.closed ++ [c.serial] }

/-- The connection that work on a session gets, by its number with the factory:
`session::pool::Session::with_connection`. -/
def connection? (h : Hub) (s : SessionId) : Option Nat := h.issued[s]?.bind Session.cell

/-- One more owner of a live session: `session::pool::Session::clone`. -/
def cloneOwner (h : Hub) (s : SessionId) : Hub :=
  if h.isLive s then
    { h with issued := h.issued.modify s fun x => { x with owners := x.owners + 1 } }
  else h

/-- One owner less of a live session; the last one takes the connection out and releases it: the
`Drop` of `session::pool::SessionInner`. -/
def dropOwner (h : Hub) (s : SessionId) : Hub :=
  match h.issued[s]? with
  | none => h
  | some session =>
    if session.owners = 0 then h
    else if session.owners = 1 then
      let after :=
        { h with issued := h.issued.modify s fun x => { x with owners := 0, cell := none } }
      match session.cell with
      | some serial => after.release ⟨session.id, serial⟩ session.epoch
      | none => after
    else { h with issued := h.issued.modify s fun x => { x with owners := x.owners - 1 } }

/-- An observation of a session has expired: the session has no owner left
(`session::pool::WeakSession::is_expired`). -/
def isExpired (h : Hub) (s : SessionId) : Bool := !h.isLive s

/-- An observation, of `observed`, refers to a session, which it observes and which is still live:
`session::pool::WeakSession::refers_to`. -/
def refersTo (h : Hub) (observed s : SessionId) : Bool := observed == s && !h.isExpired observed

/-- The session that is observed, with one owner more, unless the observation has expired:
`session::pool::WeakSession::upgrade`. -/
def upgrade (h : Hub) (s : SessionId) : Option SessionId × Hub :=
  if h.isExpired s then (none, h) else (some s, h.cloneOwner s)

/-- Resets the pool: idle connections are closed now, the others when they are released
(`session::pool::SessionPool::reset`). -/
def reset (h : Hub) : Hub :=
  let (stale, pool) := h.pool.reset
  { h with pool, closed := h.closed ++ stale.map Connection.serial }.note
    (.reset pool.epoch stale.length)

/-- The pool goes away, and its idle connections with it: the drop of
`session::pool::SessionPool`. -/
def dropPool (h : Hub) : Hub :=
  if h.alive then
    { h with
      alive := false
      closed := h.closed ++ h.pool.reserve.map Connection.serial
      pool := { h.pool with reserve := [] } }
  else h

/-- A session with an outcome of the factory that is known beforehand, the two steps in one:
`session::pool::SessionPool::get`. -/
def get (h : Hub) (outcome : Except Error Nat) : Except Error SessionId × Hub :=
  match h.beginGet with
  | (.session s, h) => (.ok s, h)
  | (.vacant epoch, h) =>
    match outcome with
    | .ok serial => let (s, h) := h.finishGet epoch serial; (.ok s, h)
    | .error e => (.error e, h.failGet e)

/-! ## Owners -/

theorem owners_release (h : Hub) (c : Connection) (epoch : Nat) (s : SessionId) :
    (h.release c epoch).owners s = h.owners s := by
  unfold release
  split
  · split <;> rfl
  · rfl

theorem owners_modify (h : Hub) (f : Session → Session) (s t : SessionId) :
    Hub.owners { h with issued := h.issued.modify s f } t =
      if s = t then (h.issued[t]?).elim 0 fun x => (f x).owners else h.owners t := by
  by_cases e : s = t
  · subst e
    cases hs : h.issued[s]? <;> simp [owners, hs]
  · simp [owners, e]

theorem owners_cloneOwner (h : Hub) (s t : SessionId) :
    (h.cloneOwner s).owners t = if s = t ∧ h.isLive s then h.owners t + 1 else h.owners t := by
  unfold cloneOwner
  by_cases live : h.isLive s = true
  · rw [if_pos live, owners_modify]
    by_cases e : s = t
    · subst e
      cases hs : h.issued[s]? <;> simp_all [isLive, owners]
    · simp [e]
  · simp [live]

theorem owners_dropOwner (h : Hub) (s t : SessionId) :
    (h.dropOwner s).owners t = if s = t then h.owners t - 1 else h.owners t := by
  unfold dropOwner
  cases hs : h.issued[s]? with
  | none =>
    by_cases e : s = t
    · subst e; simp [owners, hs]
    · simp [e]
  | some session =>
    dsimp only
    split
    · rename_i zero
      by_cases e : s = t
      · subst e; simp [owners, hs, zero]
      · simp [e]
    · split
      · rename_i one
        have emptied : Hub.owners { h with issued := h.issued.modify s fun x =>
            { x with owners := 0, cell := none } } t =
              if s = t then h.owners t - 1 else h.owners t := by
          rw [owners_modify]
          by_cases e : s = t
          · subst e; simp [owners, hs, one]
          · simp [e]
        cases session.cell with
        | none => exact emptied
        | some serial => exact (owners_release _ _ _ t).trans emptied
      · rw [owners_modify]
        by_cases e : s = t
        · subst e; simp [owners, hs]
        · simp [e]

end Hub

/-- A session as it describes itself: the `Debug` of `session::pool::Session`. -/
def Session.describe (s : Session) : String :=
  "Session \x7b connection_id: " ++ toString s.id ++ ", checkout_epoch: " ++
    toString s.epoch ++ ", owners: " ++ toString s.owners ++ " \x7d"

end PooledSql
