/-!
# The pool of connections

Idle connections are kept in reserve, the most recently released in front. Every connection has a
serial id that the pool gives it when it is opened, and the number by which its factory knows it.
The pool counts its resets: a connection that was checked out before a reset is not taken back
after it.

Ids, epochs and counts are natural numbers here. A pool that runs keeps them in unsigned words of
sixty-four bits; overflow of these is out of scope, so what is proved is about runs that are shorter.
-/

namespace PooledSql

/-- An open connection: the id that the pool gave it, and its number with the factory
(`session::pool::Pooled`). -/
structure Connection where
  id : Nat
  serial : Nat
deriving DecidableEq, Repr

/-- The counts of a pool at one moment: `session::pool::PoolStats`. -/
structure PoolStats where
  idle : Nat
  epoch : Nat
  opened : Nat
  reused : Nat
  discarded : Nat
deriving DecidableEq, Repr

/-- A pool of connections: `session::pool::PoolState`, with the counter of `PoolShared`. -/
structure Pool where
  /-- The idle connections, the most recently released first. -/
  reserve : List Connection := []
  /-- How many resets there were. -/
  epoch : Nat := 0
  opened : Nat := 0
  reused : Nat := 0
  discarded : Nat := 0
deriving DecidableEq, Repr

namespace Pool

/-- The counts: `session::pool::SessionPool::stats`. -/
def stats (p : Pool) : PoolStats := ⟨p.reserve.length, p.epoch, p.opened, p.reused, p.discarded⟩

/-- Takes the idle connection in front, if there is one: the first part of
`session::pool::SessionPool::get`. -/
def take (p : Pool) : Option Connection × Pool :=
  match p.reserve with
  | [] => (none, p)
  | c :: rest => (some c, { p with reserve := rest, reused := p.reused + 1 })

/-- Enters a connection that the factory opened, under the next id: the second part of
`session::pool::SessionPool::get`. -/
def enter (p : Pool) (serial : Nat) : Connection × Pool :=
  (⟨p.opened + 1, serial⟩, { p with opened := p.opened + 1 })

/-- Gives back a connection that was checked out at an epoch: into the reserve if that is still the
pool's epoch, and else it is discarded (`session::pool::PoolShared::release`). Tells whether it was
taken back. -/
def giveBack (p : Pool) (c : Connection) (epoch : Nat) : Bool × Pool :=
  if p.epoch = epoch then (true, { p with reserve := c :: p.reserve })
  else (false, { p with discarded := p.discarded + 1 })

/-- Goes to the next epoch and gives up the reserve, the front first:
`session::pool::SessionPool::reset`. -/
def reset (p : Pool) : List Connection × Pool :=
  (p.reserve, { p with reserve := [], epoch := p.epoch + 1 })

end Pool

end PooledSql
