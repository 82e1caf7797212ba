import PooledSql.Error

/-!
# The library of the databases

Connections are opened through a library of another hand, in five calls: to open a database in memory
or by a target, to set how long a connection waits for a lock, to run the statements that set it up,
and to close it. What the calls do to the world is the library's own matter, so it is a parameter
here, and what it documents is a hypothesis where a result depends on it.

A call ends with a result, with a failure, or with the program.

Results:
* `runOn_bind`, `runOn_inWords`, `runOn_tidied`: what comes of work that is put together.
-/

namespace PooledSql

/-- The target that stands for a database in memory. -/
def memoryPath : String := ":memory:"

/-- How work ends early: with a failure, or with the end of the program. -/
inductive Stop (ε : Type)
  | failed (e : ε)
  | aborted
deriving Repr

/-- The same end, with what went wrong put in other words. -/
def Stop.map {ε ε' : Type} (f : ε → ε') : Stop ε → Stop ε'
  | .failed e => .failed (f e)
  | .aborted => .aborted

/-- An end of the program is not one of the failures, whatever words these are put in. -/
@[simp]
theorem Stop.map_eq_aborted {ε ε' : Type} {f : ε → ε'} {stop : Stop ε} :
    stop.map f = .aborted ↔ stop = .aborted := by
  cases stop <;> simp [map]

/-- Work on a world, which may end early. What it did to the world by then stays. -/
abbrev Work (ω ε α : Type) := ExceptT (Stop ε) (StateM ω) α

namespace Work

variable {ω ε ε' α β : Type}

/-- What comes of some work in a world, and the world after it. -/
def runOn (work : Work ω ε α) (w : ω) : Except (Stop ε) α × ω := (work.run.run w).run

/-- The same work, with what went wrong put in other words. -/
def inWords (f : ε → ε') (work : Work ω ε α) : Work ω ε' α := work.adapt (Stop.map f)

/-- The same work, after which the world is tidied up if it ended early. -/
def tidied (tidy : ω → ω) (work : Work ω ε α) : Work ω ε α := ExceptT.mk do
  match ← work.run with
  | .ok a => return .ok a
  | .error stop =>
    modify tidy
    return .error stop

@[simp]
theorem runOn_pure (a : α) (w : ω) : (pure a : Work ω ε α).runOn w = (.ok a, w) := rfl

@[simp]
theorem runOn_throw (stop : Stop ε) (w : ω) :
    (throw stop : Work ω ε α).runOn w = (.error stop, w) := rfl

@[simp]
theorem runOn_get (w : ω) : (get : Work ω ε ω).runOn w = (.ok w, w) := rfl

@[simp]
theorem runOn_set (w w' : ω) : (set w' : Work ω ε PUnit).runOn w = (.ok ⟨⟩, w') := rfl

/-- One after the other: the second part starts in the world that the first one leaves, if that does not
end early. -/
theorem runOn_bind (work : Work ω ε α) (f : α → Work ω ε β) (w : ω) :
    (work >>= f).runOn w =
      match work.runOn w with
      | (.ok a, w') => (f a).runOn w'
      | (.error stop, w') => (.error stop, w') := by
  simp only [runOn, ExceptT.run_bind, StateT.run_bind, Id.run_bind]
  rcases (work.run.run w).run with ⟨_ | _, _⟩ <;> rfl

/-- Other words for a failure change neither the world nor what else the work comes to. -/
@[simp]
theorem runOn_inWords (f : ε → ε') (work : Work ω ε α) (w : ω) :
    (work.inWords f).runOn w = ((work.runOn w).1.mapError (Stop.map f), (work.runOn w).2) :=
  rfl

/-- The world is tidied up after work that ends early, by a failure or with the program, and only
then. -/
theorem runOn_tidied (tidy : ω → ω) (work : Work ω ε α) (w : ω) :
    (work.tidied tidy).runOn w =
      match work.runOn w with
      | (.ok a, w') => (.ok a, w')
      | (.error stop, w') => (.error stop, tidy w') := by
  simp only [tidied, runOn, ExceptT.run_mk, StateT.run_bind, Id.run_bind]
  rcases (work.run.run w).run with ⟨_ | _, _⟩ <;> rfl

end Work

/-- A library that opens connections of a type `κ` in a world of a type `ω`, as far as
`session::sqlite` calls it. -/
structure Library (ω κ : Type) where
  /-- `rusqlite::Connection::open_in_memory`. -/
  openInMemory : Work ω Cause κ
  /-- `rusqlite::Connection::open_with_flags`, to read and write, to create what is not there, and with
  targets that may be URIs. -/
  openTarget : String → Work ω Cause κ
  /-- `rusqlite::Connection::busy_timeout`, in milliseconds. -/
  setBusyTimeout : κ → Nat → Work ω Cause Unit
  /-- `rusqlite::Connection::execute_batch`. -/
  runBatch : κ → String → Work ω Cause Unit
  /-- What becomes of the world when a connection is dropped. -/
  close : κ → ω → ω

namespace Library

variable {ω κ : Type}

/-- A connection to a target, which may be in memory. -/
def opening (L : Library ω κ) (target : String) : Work ω Cause κ :=
  if target = memoryPath then L.openInMemory else L.openTarget target

/-- The longest waiting time, in milliseconds: a signed integer of thirty-two bits has to hold it. -/
def longestBusyTimeout : Nat := 2147483647

/-- The documented behaviour of the library: setting a waiting time ends the program exactly if it is
longer than one can be, and no other call that opening makes does. -/
structure IsDocumented (L : Library ω κ) : Prop where
  busyTimeout_aborts : ∀ k ms w,
    ((L.setBusyTimeout k ms).runOn w).1 = .error .aborted ↔ longestBusyTimeout < ms
  memory_returns : ∀ w, (L.openInMemory.runOn w).1 ≠ .error .aborted
  target_returns : ∀ target w, ((L.openTarget target).runOn w).1 ≠ .error .aborted
  batch_returns : ∀ k text w, ((L.runBatch k text).runOn w).1 ≠ .error .aborted

/-- So no way to open a connection ends the program. -/
theorem IsDocumented.opening_returns {L : Library ω κ} (documented : L.IsDocumented)
    (target : String) (w : ω) : ((L.opening target).runOn w).1 ≠ .error .aborted := by
  unfold opening
  split
  · exact documented.memory_returns w
  · exact documented.target_returns target w

end Library

end PooledSql
