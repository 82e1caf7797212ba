import PooledSql.Proofs.Configuration.Modes
import PooledSql.Service
import PooledSql.Sqlite.Engine

/-!
# Opening connections as configured

A configuration that is accepted says how connections are opened. Its waiting time may be any number of
64 bits, and nothing on the way to the library narrows that range: not the check of the configuration,
not its seconds and milliseconds, not the settings. The library takes 31 bits, and a longer time ends the
program instead of being refused.

That happens after the library has opened the target, and so not for one that it cannot open. And it
happens when a connection is opened at last, that is at the first request for a session.

What the library does with a world is left open. All that is used of it is what it documents.

Results:
* `runOn_connect`: what comes of opening a connection.
* `connect_ok_iff`, `connect_aborted_iff`, `connect_failed`: when each of these outcomes is the one.
* `get_aborted_iff`, `get_failed`: and when it is that of asking for a session.
* `opening_aborts_iff`: exactly which configurations that are accepted end the program, in which worlds
  and at what moment, and that they only ever get connections or refusals else.
* `patient_aborts`: there is one that does.
-/

namespace PooledSql

variable {ω κ : Type} {L : Library ω κ}

/-! ## Opening a connection -/

namespace Sqlite.Settings

variable {s : Settings} {w w' : ω}

/-- Opening is three calls: a connection is reached, its waiting time is set, and it runs its statements.
The first of them that does not succeed decides, and then a connection that was reached is dropped. -/
theorem runOn_connect (s : Settings) (L : Library ω κ) (w : ω) :
    (s.connect L).runOn w =
      match (L.opening s.target).runOn w with
      | (.error stop, w₁) => (.error (stop.map (Error.connection s.target)), w₁)
      | (.ok k, w₁) =>
        match (L.setBusyTimeout k s.busyTimeout).runOn w₁ with
        | (.error stop, w₂) => (.error (stop.map (Error.connection s.target)), L.close k w₂)
        | (.ok (), w₂) =>
          match (L.runBatch k s.setup).runOn w₂ with
          | (.error stop, w₃) => (.error (stop.map (Error.connection s.target)), L.close k w₃)
          | (.ok (), w₃) => (.ok k, w₃) := by
  simp only [connect, reach, prepare, Work.runOn_inWords, Work.runOn_bind, Work.runOn_tidied]
  rcases (L.opening s.target).runOn w with ⟨stop | k, w₁⟩
  · rfl
  · dsimp only
    rcases (L.setBusyTimeout k s.busyTimeout).runOn w₁ with ⟨stop | ⟨⟩, w₂⟩
    · rfl
    · dsimp only
      rcases (L.runBatch k s.setup).runOn w₂ with ⟨stop | ⟨⟩, w₃⟩ <;> rfl

/-- There is a connection exactly if all three calls succeed, each in the world that the one before it
left. -/
theorem connect_ok_iff {k : κ} :
    (s.connect L).runOn w = (.ok k, w') ↔
      ∃ w₁ w₂, (L.opening s.target).runOn w = (.ok k, w₁) ∧
        (L.setBusyTimeout k s.busyTimeout).runOn w₁ = (.ok (), w₂) ∧
        (L.runBatch k s.setup).runOn w₂ = (.ok (), w') := by
  rw [runOn_connect]
  constructor
  · intro connected
    split at connected
    · cases connected
    · rename_i k' w₁ opened
      split at connected
      · cases connected
      · rename_i w₂ timed
        split at connected
        · cases connected
        · rename_i w₃ ran
          cases connected
          exact ⟨w₁, w₂, opened, timed, ran⟩
  · rintro ⟨w₁, w₂, opened, timed, ran⟩
    simp only [opened, timed, ran]

/-- Opening ends the program exactly if the library reaches a connection and then is asked to let it wait
for too long. -/
theorem connect_aborted_iff (documented : L.IsDocumented) :
    ((s.connect L).runOn w).1 = .error .aborted ↔
      (∃ k, ((L.opening s.target).runOn w).1 = .ok k) ∧
        Library.longestBusyTimeout < s.busyTimeout := by
  have returns := documented.opening_returns s.target w
  rw [runOn_connect]
  generalize (L.opening s.target).runOn w = opened at returns ⊢
  rcases opened with ⟨stop | k, w₁⟩
  · simpa using returns
  · have aborts := documented.busyTimeout_aborts k s.busyTimeout w₁
    dsimp only
    generalize (L.setBusyTimeout k s.busyTimeout).runOn w₁ = timed at aborts ⊢
    rcases timed with ⟨stop | ⟨⟩, w₂⟩
    · simpa using aborts
    · have returns := documented.batch_returns k s.setup w₂
      have short : ¬ Library.longestBusyTimeout < s.busyTimeout := by simpa using aborts
      dsimp only
      generalize (L.runBatch k s.setup).runOn w₂ = ran at returns ⊢
      rcases ran with ⟨stop | ⟨⟩, w₃⟩
      · simpa [short] using returns
      · simp [short]

/-- A failure is that of a connection to the target. -/
theorem connect_failed {e : Error} (failed : ((s.connect L).runOn w).1 = .error (.failed e)) :
    ∃ cause, e = .connection s.target cause := by
  have put {stop : Stop Cause} (h : stop.map (Error.connection s.target) = .failed e) :
      ∃ cause, e = .connection s.target cause := by
    cases stop with
    | failed cause =>
      cases h
      exact ⟨cause, rfl⟩
    | aborted => cases h
  rw [runOn_connect] at failed
  repeat' split at failed
  · exact put (Except.error.inj failed)
  · exact put (Except.error.inj failed)
  · exact put (Except.error.inj failed)
  · cases failed

end Sqlite.Settings

/-! ## Asking for a session -/

namespace Database

/-- A request for a session of the context needs a new connection: the context has no live session, and
no connection is idle. -/
def NeedsConnection (db : Database) (context : ContextKey) : Prop :=
  db.current? context = none ∧ db.hub.pool.reserve = []

/-- A request is answered with a session, or it needs a new connection and has changed nothing so far. -/
theorem request_session_or_vacant (db : Database) (context : ContextKey) :
    (¬ db.NeedsConnection context ∧ ∃ s db', db.request context = (.session s, db')) ∨
      (db.NeedsConnection context ∧ db.request context = (.vacant db.hub.pool.epoch, db)) := by
  unfold NeedsConnection request
  cases current : db.current? context with
  | some s => exact .inl ⟨by simp, _, _, rfl⟩
  | none =>
    simp only [Hub.beginGet, Pool.take]
    cases idle : db.hub.pool.reserve with
    | cons connection rest => exact .inl ⟨by simp, _, _, rfl⟩
    | nil => exact .inr ⟨⟨trivial, rfl⟩, rfl⟩

end Database

namespace Service

open Sqlite (Settings)

variable {v : Service ω κ} {context : ContextKey}

/-- A request for a session ends the program exactly if it needs a new connection and opening that does.
-/
theorem get_aborted_iff :
    (v.get L context).1 = .error .aborted ↔
      v.db.NeedsConnection context ∧
        ((v.settings.connect L).runOn v.world).1 = .error .aborted := by
  rcases v.db.request_session_or_vacant context with ⟨provided, s, db, asked⟩ | ⟨needed, asked⟩
  · simp [get, asked, provided]
  · simp only [get, asked, needed, true_and, note]
    rcases (v.settings.connect L).runOn v.world with ⟨(e | _) | k, w⟩ <;> simp

/-- A request that fails does so with the error of opening a connection, and only notes that: what happens
is that a connection is about to be opened, and that it is not. -/
theorem get_failed {e : Error} {after : Service ω κ}
    (failed : v.get L context = (.error (.failed e), after)) :
    ((v.settings.connect L).runOn v.world).1 = .error (.failed e) ∧
      after = { (v.note (.openingConnection v.settings.target)).note (.failedToOpen e.message) with
        world := after.world } := by
  rcases v.db.request_session_or_vacant context with ⟨-, s, db, asked⟩ | ⟨-, asked⟩
  · simp [get, asked] at failed
  · simp only [get, asked, note] at failed
    rcases connected : (v.settings.connect L).runOn v.world with ⟨(e' | _) | k, w⟩
    all_goals
      simp only [connected] at failed
      cases failed
    exact ⟨rfl, rfl⟩

/-- Where nothing is open, every request for a session needs a new connection. -/
theorem needsConnection_of_ofConfig {c : Config} {w : ω} (opened : ofConfig c w = .ok v)
    (context : ContextKey) : v.db.NeedsConnection context := by
  unfold ofConfig at opened
  cases settings : Settings.ofConfig c with
  | error e =>
    rw [settings] at opened
    cases opened
  | ok s =>
    rw [settings] at opened
    cases opened
    exact ⟨rfl, rfl⟩

end Service

/-! ## The engine as a library -/

namespace Sqlite.Engine

theorem reach_returns (target : String) (e : Engine) :
    ((reach target).runOn e).1 ≠ .error .aborted := by
  simp only [reach, Work.runOn_bind, Work.runOn_get]
  split <;> simp [refuse]

theorem setUp_returns (l : Link) (e : Engine) : ((setUp l).runOn e).1 ≠ .error .aborted := by
  simp only [setUp, Work.runOn_bind, Work.runOn_get]
  split
  · simp [refuse]
  · split <;> simp [refuse]

/-- The engine does what is documented. -/
theorem documented_library : library.IsDocumented where
  busyTimeout_aborts k ms e := by
    unfold library
    dsimp only
    split <;> simp [*]
  memory_returns := reach_returns memoryPath
  target_returns := reach_returns
  batch_returns l _ := setUp_returns l

end Sqlite.Engine

/-! ## Configurations that are accepted -/

namespace Config

open Sqlite (Settings Engine Directories)

/-- The waiting time is longer than one can be. -/
def IsOverlong (c : Config) : Prop := Library.longestBusyTimeout < c.busyTimeout.toNat

instance : DecidablePred IsOverlong := fun c =>
  inferInstanceAs (Decidable (Library.longestBusyTimeout < c.busyTimeout.toNat))

/-- A configuration that is accepted always gives the settings that it asks for, with the waiting time in
full. With a library that does what it documents, opening a connection gives one exactly if the three
calls succeed one after the other; it ends the program exactly if the library opens the target and the
waiting time is longer than one can be; and what is left are failures of a connection to the target. The
same holds for a session at any moment in the use of a service with these settings, if a new connection is
needed, and so for the first one after the service is opened; and a request that fails only notes that,
and leaves the pool, the sessions and the slots as they were. -/
theorem opening_aborts_iff {ω κ : Type} (L : Library ω κ) (documented : L.IsDocumented) (c : Config)
    (accepted : c.validate = none) :
    ∃ s, Settings.ofConfig c = .ok s ∧
      s.busyTimeout = 1000 * c.busySeconds.1 + c.busySeconds.2 ∧
      (∀ w k w', (s.connect L).runOn w = (.ok k, w') ↔
        ∃ w₁ w₂, (L.opening c.target).runOn w = (.ok k, w₁) ∧
          (L.setBusyTimeout k s.busyTimeout).runOn w₁ = (.ok (), w₂) ∧
          (L.runBatch k s.setup).runOn w₂ = (.ok (), w')) ∧
      (∀ w, ((s.connect L).runOn w).1 = .error .aborted ↔
        (∃ k, ((L.opening c.target).runOn w).1 = .ok k) ∧ c.IsOverlong) ∧
      (∀ w e, ((s.connect L).runOn w).1 = .error (.failed e) →
        ∃ cause, e = .connection c.target cause) ∧
      (∀ (v : Service ω κ) context, v.settings = s →
        ((v.get L context).1 = .error .aborted ↔ v.db.NeedsConnection context ∧
          (∃ k, ((L.opening c.target).runOn v.world).1 = .ok k) ∧ c.IsOverlong) ∧
        ∀ e after, v.get L context = (.error (.failed e), after) →
          (∃ cause, e = .connection c.target cause) ∧
            after = { (v.note (.openingConnection c.target)).note (.failedToOpen e.message) with
              world := after.world }) ∧
      ∀ w, ∃ v : Service ω κ, Service.ofConfig c w = .ok v ∧ v.settings = s ∧ v.world = w ∧
        ∀ context, (v.get L context).1 = .error .aborted ↔
          (∃ k, ((L.opening c.target).runOn w).1 = .ok k) ∧ c.IsOverlong := by
  let s : Settings :=
    ⟨c.target, c.busyTimeout.toNat, some ⟨c.journalMode, c.synchronous, c.cacheSize⟩⟩
  have settings : Settings.ofConfig c = .ok s := by rw [Settings.ofConfig, accepted]
  have overlong (w : ω) : ((s.connect L).runOn w).1 = .error .aborted ↔
      (∃ k, ((L.opening c.target).runOn w).1 = .ok k) ∧ c.IsOverlong :=
    Settings.connect_aborted_iff documented
  refine ⟨s, settings, (Nat.div_add_mod _ _).symm, fun w k w' => Settings.connect_ok_iff, overlong,
    fun w e => Settings.connect_failed, fun v context same => ⟨?_, fun e after failed => ?_⟩,
    fun w => ?_⟩
  · rw [Service.get_aborted_iff, same, overlong]
  · obtain ⟨failed, noted⟩ := Service.get_failed failed
    rw [same] at failed noted
    exact ⟨Settings.connect_failed failed, noted⟩
  · let v : Service ω κ := (Service.new s c.pruneThreshold.toNat w).note (.openingDatabase c.target)
    have opened : Service.ofConfig c w = .ok v := by rw [Service.ofConfig, settings]; rfl
    refine ⟨v, opened, rfl, rfl, fun context => ?_⟩
    have needed := Service.needsConnection_of_ofConfig opened context
    rw [Service.get_aborted_iff]
    exact (and_iff_right needed).trans (overlong w)

/-- A database in memory, and a waiting time of one millisecond more than the longest. -/
def patient : Config := { usual with inMemory := true, busyTimeout := 2147483648 }

theorem validate_patient :
    patient.validate = none ∧ { patient with busyTimeout := 2147483647 }.validate = none := by
  decide +kernel

/-- With this waiting time the first request for a session ends the program, on the engine as on every
library that opens databases in memory, and with the longest one no connection does. -/
theorem opening_aborts_iff_patient :
    (∀ directories : Directories, ∃ s, Settings.ofConfig patient = .ok s ∧
      ∃ v, Service.ofConfig patient (Engine.new s directories) = .ok v ∧
        (v.get Engine.library (.thread .main)).1 = .error .aborted) ∧
      ∃ s, Settings.ofConfig { patient with busyTimeout := 2147483647 } = .ok s ∧
        ∀ e, ((s.connect Engine.library).runOn e).1 ≠ .error .aborted := by
  refine ⟨fun directories => ?_, ?_⟩
  · obtain ⟨s, settings, -, -, -, -, -, first⟩ :=
      opening_aborts_iff Engine.library Engine.documented_library patient validate_patient.1
    obtain ⟨v, opened, -, -, aborts⟩ := first (Engine.new s directories)
    exact ⟨s, settings, v, opened, (aborts _).2 ⟨⟨_, rfl⟩, by decide⟩⟩
  · obtain ⟨s, settings, -, -, aborts, -⟩ :=
      opening_aborts_iff Engine.library Engine.documented_library
        { patient with busyTimeout := 2147483647 } validate_patient.2
    refine ⟨s, settings, fun e aborted => ?_⟩
    exact absurd ((aborts e).1 aborted).2 (by decide)

/-- It is not so that every configuration that is accepted gets connections or the errors of connections
when it opens them. -/
theorem patient_aborts :
    ¬ ∀ (ω κ : Type) (L : Library ω κ), L.IsDocumented → ∀ c : Config, c.validate = none →
      ∃ s, Settings.ofConfig c = .ok s ∧ ∀ w,
        (∃ k, ((s.connect L).runOn w).1 = .ok k) ∨
          ∃ e, ((s.connect L).runOn w).1 = .error (.failed e) ∧ e.isConnectionFailure = true := by
  intro always
  obtain ⟨s, settings, outcome⟩ :=
    always _ _ Engine.library Engine.documented_library patient validate_patient.1
  have same : s = ⟨patient.target, 2147483648, some ⟨"WAL", "NORMAL", -64000⟩⟩ := by
    rw [Settings.ofConfig, validate_patient.1] at settings
    cases settings
    rfl
  have aborted :
      ((s.connect Engine.library).runOn (Engine.new s .few)).1 = .error .aborted := by
    rw [Settings.connect_aborted_iff Engine.documented_library, same]
    exact ⟨⟨_, rfl⟩, by decide⟩
  rcases outcome (Engine.new s .few) with ⟨k, opened⟩ | ⟨e, failed, -⟩
  · rw [aborted] at opened
    cases opened
  · rw [aborted] at failed
    cases failed

end Config

end PooledSql
