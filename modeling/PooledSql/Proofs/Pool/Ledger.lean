import Mathlib.Algebra.GroupWithZero.Nat
import Mathlib.Data.List.Nodup
import PooledSql.Proofs.Pool.Epochs

/-!
# The counts of a pool are a ledger of its run

A pool counts as it goes: when it pops a connection, after the factory returned one, when it turns a
connection away, and at a reset. A book-keeper who watches the users from outside and enters what
each move means comes to the same figures at every moment.

What the book-keeper enters hangs on the world in which a move is made, so the books of a run are
made along it. A move does one of few things to what the figures are about, and which one it is
decides the entry (`Booked`); all figures then follow by cases on these few.

Results:
* `booked_step`: what a move does and what is entered for it, whatever the move.
* `books_booked`: the figures agree with the books after every move.
* `stats_ledger`: what the counts of a pool say about its run.
-/

namespace PooledSql

/-! ## Sessions in use -/

namespace Hub

/-- How many sessions with an owner were checked out at such an epoch. -/
def inUse (h : Hub) (epochs : Nat → Bool) : Nat :=
  h.issued.countP fun x => x.owners != 0 && epochs x.epoch

/-- Changing one entry changes a count by that entry. -/
theorem countP_modify {α : Type} {p : α → Bool} {f : α → α} {l : List α} {i : Nat} {a : α}
    (found : l[i]? = some a) :
    (l.modify i f).countP p + (if p a then 1 else 0) = l.countP p + if p (f a) then 1 else 0 := by
  induction l generalizing i with
  | nil => simp at found
  | cons b rest ih =>
    cases i with
    | zero =>
      obtain rfl : b = a := by simpa using found
      rw [List.modify_zero_cons, List.countP_cons, List.countP_cons]
      omega
    | succ i =>
      have onward := ih (i := i) (by simpa using found)
      rw [List.modify_succ_cons, List.countP_cons, List.countP_cons]
      omega

theorem inUse_issue (h : Hub) (c : Connection) (epoch : Nat) (epochs : Nat → Bool) :
    (h.issue c epoch).2.inUse epochs = h.inUse epochs + if epochs epoch then 1 else 0 := by
  simp [inUse, issue, List.countP_cons]

theorem inUse_release (h : Hub) (c : Connection) (epoch : Nat) (epochs : Nat → Bool) :
    (h.release c epoch).inUse epochs = h.inUse epochs := by
  rw [inUse, issued_release]
  rfl

theorem inUse_join {h : Hub} {s : SessionId} (live : h.isLive s = true) (epochs : Nat → Bool) :
    (h.join s).inUse epochs = h.inUse epochs := by
  cases found : h.issued[s]? with
  | none => simp [isLive, owners, found] at live
  | some x =>
    have owned : x.owners ≠ 0 := by simpa [isLive, owners, found] using live
    have changed := countP_modify (p := fun x : Session => x.owners != 0 && epochs x.epoch)
      (f := fun x : Session => { x with owners := x.owners + 1 }) found
    simp only [bne_iff_ne.2 owned, bne_iff_ne.2 (Nat.succ_ne_zero x.owners)] at changed
    exact Nat.add_right_cancel changed

theorem inUse_leave {h : Hub} {s : SessionId} (many : 1 < h.owners s) (epochs : Nat → Bool) :
    (h.leave s).inUse epochs = h.inUse epochs := by
  cases found : h.issued[s]? with
  | none => simp [owners, found] at many
  | some x =>
    have two : 1 < x.owners := by simpa [owners, found] using many
    have owned : x.owners ≠ 0 := by omega
    have owned' : x.owners - 1 ≠ 0 := by omega
    have changed := countP_modify (p := fun x : Session => x.owners != 0 && epochs x.epoch)
      (f := fun x : Session => { x with owners := x.owners - 1 }) found
    simp only [bne_iff_ne.2 owned, bne_iff_ne.2 owned'] at changed
    exact Nat.add_right_cancel changed

theorem inUse_vacate {h : Hub} {s : SessionId} {x : Session} (found : h.issued[s]? = some x)
    (one : x.owners = 1) (epochs : Nat → Bool) :
    (h.vacate s).inUse epochs + (if epochs x.epoch then 1 else 0) = h.inUse epochs := by
  have changed := countP_modify (p := fun x : Session => x.owners != 0 && epochs x.epoch)
    (f := fun x : Session => { x with owners := 0, cell := none }) found
  simpa [one, inUse, vacate] using changed

end Hub

/-! ## Books -/

/-- What is entered for a move. -/
inductive Entry
  /-- A get finds nothing idle and calls the factory. -/
  | called (get : Nat)
  /-- A session loses its last owner; it may be stale, the pool being at another epoch than its. -/
  | ended (s : SessionId) (stale : Bool)
  /-- A reset closes so many idle connections. -/
  | reset (idle : Nat)
  /-- The pool goes away. -/
  | gone
  | nothing
deriving DecidableEq, Repr

namespace Entry

def isReset : Entry → Bool
  | .reset _ => true
  | _ => false

/-- The get that calls the factory. -/
def call? : Entry → Option Nat
  | .called get => some get
  | _ => none

/-- The stale session that ends. -/
def stale? : Entry → Option SessionId
  | .ended s true => some s
  | _ => none

/-- How many idle connections a reset closes. -/
def cleared : Entry → Nat
  | .reset idle => idle
  | _ => 0

end Entry

namespace World

/-- The session was checked out at another epoch than the pool's. -/
def isStale (w : World) (s : SessionId) : Bool :=
  (w.hub.issued[s]?).any fun x => x.epoch != w.hub.pool.epoch

/-- What is entered for a move that is made in a world. -/
def entry (w : World) : Move → Entry
  | .start => if w.hub.alive ∧ w.hub.pool.reserve = [] then .called w.nextGet else .nothing
  | .drop s => if w.strong.count s = 1 then .ended s (w.isStale s) else .nothing
  | .reset => if w.hub.alive then .reset w.hub.pool.reserve.length else .nothing
  | .dropPool => if w.hub.alive then .gone else .nothing
  | _ => .nothing

/-- The entries for some moves that are made one after the other. -/
def entries (w : World) : List Move → List Entry
  | [] => []
  | m :: rest => w.entry m :: (w.step m).entries rest

/-- The books of a run from the start. -/
def journal (moves : List Move) : List Entry := ({} : World).entries moves

theorem entries_append (w : World) (a b : List Move) :
    w.entries (a ++ b) = w.entries a ++ (w.steps a).entries b := by
  induction a generalizing w with
  | nil => rfl
  | cons m rest ih =>
    rw [List.cons_append, entries, entries, ih]
    rfl

theorem journal_snoc (moves : List Move) (m : Move) :
    journal (moves ++ [m]) = journal moves ++ [(run moves).entry m] := entries_append _ _ _

/-! ## What a move does to the figures -/

/-- Nothing that the figures are about changes, though gets may be refused and handles to sessions
that have some may come and go. -/
structure Quiet (w w' : World) : Prop where
  alive : w'.hub.alive = w.hub.alive
  pool : w'.hub.pool = w.hub.pool
  issues : w'.hub.issues = w.hub.issues
  inUse : ∀ epochs, w'.hub.inUse epochs = w.hub.inUse epochs
  strong : ∀ s ∈ w'.strong, s ∈ w.strong
  waiting : w'.waiting.Sublist w.waiting
  noted : w'.noted = w.noted
  openers : w'.openers = w.openers
  getters : w'.getters = w.getters

theorem Quiet.refl (w : World) : w.Quiet w :=
  ⟨rfl, rfl, rfl, fun _ => rfl, fun _ has => has, List.Sublist.refl _, rfl, rfl, rfl⟩

/-- What a move does, with what is entered for it. -/
inductive Booked (w : World) : Entry → World → Prop
  | quiet {w' : World} (quiet : w.Quiet w') : Booked w .nothing w'
  | reuse {c : Connection} {rest : List Connection} (alive : w.hub.alive = true)
      (idle : w.hub.pool.reserve = c :: rest) : Booked w .nothing (w.reuse c rest)
  | call (alive : w.hub.alive = true) (vacant : w.hub.pool.reserve = []) :
      Booked w (.called w.nextGet)
        { w.note with waiting := w.waiting ++ [⟨w.nextGet, w.hub.pool.epoch⟩] }
  | enter {p : Pending} {serial : Nat} (waits : p ∈ w.waiting) (fresh : serial ∉ w.returned) :
      Booked w .nothing (w.enter p serial)
  | ended {s : SessionId} {x : Session} {serial : Nat} (last : w.strong.count s = 1)
      (found : w.hub.issued[s]? = some x) (one : x.owners = 1)
      (released : (w.letGo s).hub = (w.hub.vacate s).release ⟨x.id, serial⟩ x.epoch) :
      Booked w (.ended s (x.epoch != w.hub.pool.epoch)) (w.letGo s)
  | reset (alive : w.hub.alive = true) :
      Booked w (.reset w.hub.pool.reserve.length) { w with hub := w.hub.reset }
  | gone (alive : w.hub.alive = true) : Booked w .gone { w with hub := w.hub.dropPool }

theorem quiet_share {w : World} (h : w.Sound) {s : SessionId}
    (may : s ∈ w.strong ∨ w.hub.isLive s = true) : w.Quiet (w.share s) := by
  have live : w.hub.isLive s = true := may.elim h.isLive_iff.2 id
  have joined : (w.share s).hub = w.hub.join s := Hub.cloneOwner_of_live live
  refine { Quiet.refl w with alive := ?_, pool := ?_, issues := ?_, inUse := ?_, strong := ?_ }
  · rw [joined]
    rfl
  · rw [joined]
    rfl
  · exact Hub.issues_cloneOwner w.hub s
  · rw [joined]
    exact Hub.inUse_join live
  · intro t has
    rcases List.mem_cons.1 has with rfl | has
    · exact h.isLive_iff.1 live
    · exact has

theorem quiet_leave {w : World} (h : w.Sound) {s : SessionId} (many : 1 < w.strong.count s)
    (left : (w.letGo s).hub = w.hub.leave s) : w.Quiet (w.letGo s) := by
  refine { Quiet.refl w with alive := ?_, pool := ?_, issues := ?_, inUse := ?_, strong := ?_ }
  · rw [left]
    rfl
  · rw [left]
    rfl
  · exact Hub.issues_dropOwner w.hub s
  · rw [left]
    exact Hub.inUse_leave (h.owners s ▸ many)
  · exact fun t has => List.mem_of_mem_erase has

/-- Letting go of the last handle books the end of the session, and of any other nothing. -/
theorem booked_letGo {w : World} (h : w.Sound) {s : SessionId} (has : s ∈ w.strong) :
    Booked w (w.entry (.drop s)) (w.letGo s) := by
  rcases h.letGo_cases has with ⟨many, left⟩ | ⟨last, x, serial, found, one, -, released⟩
  · rw [entry, if_neg (Nat.ne_of_gt many)]
    exact .quiet (quiet_leave h many left)
  · have stale : w.isStale s = (x.epoch != w.hub.pool.epoch) := by
      rw [isStale, found]
      rfl
    rw [entry, if_pos last, stale]
    exact .ended last found one released

/-- Whatever a move does is one of these, and what is entered for it goes with it. -/
theorem booked_step {w : World} (h : w.Sound) (m : Move) : Booked w (w.entry m) (w.step m) := by
  have same : Booked w .nothing w := .quiet (.refl w)
  cases m with
  | start =>
    simp only [step, entry]
    by_cases alive : w.hub.alive = true
    · rw [if_pos alive]
      cases idle : w.hub.pool.reserve with
      | nil =>
        rw [startGet_of_vacant idle, if_pos ⟨alive, rfl⟩]
        exact .call alive idle
      | cons c rest =>
        rw [startGet_of_idle idle, if_neg fun both => List.cons_ne_nil c rest both.2]
        exact .reuse alive idle
    · rw [if_neg alive, if_neg fun both => alive both.1]
      exact same
  | arrive p serial =>
    simp only [step, entry]
    split
    · rename_i may
      exact .enter may.1 may.2
    · exact same
  | refuse p e =>
    simp only [step, entry]
    split
    · exact .quiet { Quiet.refl w with waiting := List.erase_sublist }
    · exact same
  | clone s =>
    simp only [step, entry]
    split
    · rename_i has
      exact .quiet (quiet_share h (.inl has))
    · exact same
  | drop s =>
    simp only [step]
    split
    · rename_i has
      exact booked_letGo h has
    · rename_i hasNot
      rw [entry, if_neg]
      · exact same
      · rw [List.count_eq_zero.2 hasNot]
        exact Nat.zero_ne_one
  | downgrade s | cloneWeak s =>
    simp only [step, entry]
    split
    · exact .quiet { Quiet.refl w with }
    · exact same
  | dropWeak s => exact .quiet { Quiet.refl w with }
  | upgrade s =>
    simp only [step, entry]
    split
    · rename_i may
      exact .quiet (quiet_share h (.inr may.2))
    · exact same
  | reset =>
    simp only [step, entry]
    split
    · rename_i alive
      exact .reset alive
    · exact same
  | dropPool =>
    simp only [step, entry]
    split
    · rename_i alive
      exact .gone alive
    · rename_i gone
      rw [Hub.dropPool, if_neg gone]
      exact same

/-! ## The figures agree with the books -/

theorem nodup_snoc {α : Type} {l : List α} {a : α} (distinct : l.Nodup) (new : a ∉ l) :
    (l ++ [a]).Nodup :=
  (List.perm_append_singleton a l).nodup_iff.2 (List.nodup_cons.2 ⟨new, distinct⟩)

/-- What every run of a live pool preserves. -/
structure Books (journal : List Entry) (w : World) : Prop where
  epoch : w.hub.pool.epoch = journal.countP Entry.isReset
  issued : w.hub.pool.opened + w.hub.pool.reused = w.hub.issued.length
  discarded : w.hub.pool.discarded = (journal.filterMap Entry.stale?).length
  past : ∀ s ∈ journal.filterMap Entry.stale?, s ∉ w.strong ∧ s < w.hub.issued.length
  once : (journal.filterMap Entry.stale?).Nodup
  balance : w.hub.pool.opened = w.hub.pool.reserve.length + (w.hub.inUse fun _ => true) +
    w.hub.pool.discarded + (journal.map Entry.cleared).sum

section Books

variable {journal : List Entry} {w : World}

/-- An entry that no figure is about may be made. -/
theorem Books.skip (h : Books journal w) {e : Entry} (noReset : e.isReset = false)
    (notStale : e.stale? = none) (noneCleared : e.cleared = 0) : Books (journal ++ [e]) w := by
  have ends : (journal ++ [e]).filterMap Entry.stale? = journal.filterMap Entry.stale? := by
    simp [notStale]
  constructor
  case epoch => simpa [noReset] using h.epoch
  case issued => exact h.issued
  case discarded => exact ends ▸ h.discarded
  case past => exact ends ▸ h.past
  case once => exact ends ▸ h.once
  case balance => simpa [noneCleared] using h.balance

theorem books_quiet (h : Books journal w) {w' : World} (quiet : w.Quiet w') : Books journal w' := by
  have issued : w'.hub.issued.length = w.hub.issued.length := Hub.length_issued quiet.issues
  constructor
  case epoch => exact quiet.pool ▸ h.epoch
  case issued => rw [issued, quiet.pool, h.issued]
  case discarded => exact quiet.pool ▸ h.discarded
  case past =>
    intro s ended
    rw [issued]
    exact ⟨fun has => (h.past s ended).1 (quiet.strong s has), (h.past s ended).2⟩
  case once => exact h.once
  case balance => rw [quiet.inUse, quiet.pool, h.balance]

/-- One more session does not bring back those that have ended. -/
theorem Books.past_issued (h : Books journal w) {s : SessionId}
    (ended : s ∈ journal.filterMap Entry.stale?) :
    s ∉ w.hub.issued.length :: w.strong ∧ s < w.hub.issued.length + 1 := by
  obtain ⟨gone, issued⟩ := h.past s ended
  refine ⟨fun has => ?_, Nat.lt_succ_of_lt issued⟩
  exact (List.mem_cons.1 has).elim (Nat.ne_of_lt issued) gone

theorem books_reuse (h : Books journal w) {c : Connection} {rest : List Connection}
    (idle : w.hub.pool.reserve = c :: rest) : Books journal (w.reuse c rest) := by
  have issued : (w.reuse c rest).hub.issued.length = w.hub.issued.length + 1 := List.length_append
  constructor
  case epoch => exact h.epoch
  case issued =>
    rw [issued, ← h.issued]
    rfl
  case discarded => exact h.discarded
  case past =>
    intro s ended
    rw [issued]
    exact h.past_issued ended
  case once => exact h.once
  case balance =>
    have balance := h.balance
    rw [idle, List.length_cons] at balance
    rw [reuse, Hub.inUse_issue]
    change w.hub.pool.opened = rest.length + ((w.hub.inUse fun _ => true) + 1) +
      w.hub.pool.discarded + _
    omega

theorem books_enter (h : Books journal w) (p : Pending) (serial : Nat) :
    Books journal (w.enter p serial) := by
  have issued : (w.enter p serial).hub.issued.length = w.hub.issued.length + 1 :=
    List.length_append
  constructor
  case epoch => exact h.epoch
  case issued =>
    rw [issued, ← h.issued]
    exact Nat.succ_add _ _
  case discarded => exact h.discarded
  case past =>
    intro s ended
    rw [issued]
    exact h.past_issued ended
  case once => exact h.once
  case balance =>
    have balance := h.balance
    rw [enter, Hub.finishGet, Hub.inUse_issue]
    change w.hub.pool.opened + 1 = w.hub.pool.reserve.length +
      ((w.hub.inUse fun _ => true) + 1) + w.hub.pool.discarded + _
    omega

/-- A session has ended: its connection is back or, if the session was stale, has been discarded. -/
theorem books_ended (h : Books journal w) {s : SessionId} {x : Session} {serial : Nat}
    (last : w.strong.count s = 1) (found : w.hub.issued[s]? = some x) (one : x.owners = 1)
    (released : (w.letGo s).hub = (w.hub.vacate s).release ⟨x.id, serial⟩ x.epoch)
    (alive : (w.letGo s).hub.alive = true) :
    Books (journal ++ [.ended s (x.epoch != w.hub.pool.epoch)]) (w.letGo s) := by
  have balance := h.balance
  have fewer := Hub.inUse_vacate found one fun _ => true
  rw [if_pos rfl] at fewer
  have inUse : (w.letGo s).hub.inUse (fun _ => true) = (w.hub.vacate s).inUse fun _ => true := by
    rw [released, Hub.inUse_release]
  have issued : (w.letGo s).hub.issued.length = w.hub.issued.length :=
    Hub.length_issued (Hub.issues_dropOwner w.hub s)
  obtain ⟨-, opened, epoch⟩ := Hub.pool_dropOwner w.hub s
  have past (t : SessionId) (ended : t ∈ journal.filterMap Entry.stale?) :
      t ∉ (w.letGo s).strong ∧ t < (w.letGo s).hub.issued.length := by
    rw [issued]
    exact ⟨fun has => (h.past t ended).1 (List.mem_of_mem_erase has), (h.past t ended).2⟩
  rcases Hub.release_cases (w.hub.vacate s) ⟨x.id, serial⟩ x.epoch with ⟨-, same, back⟩ |
      ⟨-, differs, away⟩ | ⟨dead, -⟩
  · have same : x.epoch = w.hub.pool.epoch := same.symm
    rw [bne_eq_false_iff_eq.2 same]
    refine Books.skip ?_ rfl rfl rfl
    rw [back] at released
    constructor
    case epoch => exact epoch.trans h.epoch
    case issued =>
      rw [issued, ← h.issued, released]
      rfl
    case discarded =>
      rw [released]
      exact h.discarded
    case past => exact past
    case once => exact h.once
    case balance =>
      rw [inUse, released]
      change w.hub.pool.opened = (w.hub.pool.reserve.length + 1) + _ + w.hub.pool.discarded + _
      omega
  · have differs : x.epoch ≠ w.hub.pool.epoch := fun same => differs same.symm
    rw [bne_iff_ne.2 differs]
    rw [away] at released
    have ends : (journal ++ [Entry.ended s true]).filterMap Entry.stale? =
        journal.filterMap Entry.stale? ++ [s] := by
      simp [Entry.stale?]
    constructor
    case epoch =>
      rw [List.countP_append]
      exact epoch.trans h.epoch
    case issued =>
      rw [issued, ← h.issued, released]
      rfl
    case discarded =>
      rw [ends, List.length_append, ← h.discarded, released]
      rfl
    case past =>
      intro t ended
      rw [ends] at ended
      rcases List.mem_append.1 ended with before | now
      · exact past t before
      · rw [List.mem_singleton.1 now, issued, letGo, ← List.count_eq_zero, List.count_erase_self,
          last]
        exact ⟨rfl, (List.getElem?_eq_some_iff.1 found).1⟩
    case once =>
      have has : s ∈ w.strong := List.count_pos_iff.1 (last ▸ Nat.one_pos)
      have new : s ∉ journal.filterMap Entry.stale? := fun ended => (h.past s ended).1 has
      rw [ends]
      exact nodup_snoc h.once new
    case balance =>
      rw [inUse, released, List.map_append, List.sum_append]
      change w.hub.pool.opened = w.hub.pool.reserve.length + _ + (w.hub.pool.discarded + 1) + _
      simp only [List.map_singleton, List.sum_singleton, Entry.cleared]
      omega
  · rw [letGo] at alive
    rw [(Hub.pool_dropOwner w.hub s).1] at alive
    exact absurd alive (by simpa [Hub.vacate] using dead)

theorem books_reset (h : Books journal w) :
    Books (journal ++ [.reset w.hub.pool.reserve.length]) { w with hub := w.hub.reset } := by
  have ends : (journal ++ [Entry.reset w.hub.pool.reserve.length]).filterMap Entry.stale? =
      journal.filterMap Entry.stale? := by
    simp [Entry.stale?]
  constructor
  case epoch =>
    rw [List.countP_append, ← h.epoch]
    rfl
  case issued => exact h.issued
  case discarded => exact ends ▸ h.discarded
  case past => exact ends ▸ h.past
  case once => exact ends ▸ h.once
  case balance =>
    have balance := h.balance
    rw [List.map_append, List.sum_append]
    change w.hub.pool.opened = 0 + _ + w.hub.pool.discarded + (_ + (w.hub.pool.reserve.length + 0))
    change w.hub.pool.opened = _ + (w.hub.inUse fun _ => true) + _ + _ at balance
    change _ = 0 + (w.hub.inUse fun _ => true) + _ + _
    omega

/-- While the pool is there, the figures agree with the books after every move. -/
theorem books_booked (h : Books journal w) {e : Entry} {w' : World} (booked : Booked w e w')
    (alive : w'.hub.alive = true) : Books (journal ++ [e]) w' := by
  cases booked with
  | quiet quiet => exact (books_quiet h quiet).skip rfl rfl rfl
  | reuse alive idle => exact (books_reuse h idle).skip rfl rfl rfl
  | call alive vacant =>
    have same : Books journal
        { w.note with waiting := w.waiting ++ [⟨w.nextGet, w.hub.pool.epoch⟩] } :=
      ⟨h.epoch, h.issued, h.discarded, h.past, h.once, h.balance⟩
    exact same.skip rfl rfl rfl
  | enter waits fresh => exact (books_enter h _ _).skip rfl rfl rfl
  | ended last found one released => exact books_ended h last found one released alive
  | reset alive => exact books_reset h
  | gone there =>
    rw [Hub.dropPool, if_pos there] at alive
    cases alive

end Books

/-! ## Calls of the factory -/

/-- What becomes of the gets that called the factory: each waits, or the factory refused it, or it
opened a connection and has its session. -/
structure Calls (calls : List Nat) (w : World) : Prop where
  started : ∀ g ∈ calls, g < w.nextGet
  served : ∀ g ∈ w.getters, g < w.nextGet
  distinct : calls.Nodup
  apart : (w.waiting.map Pending.get).Nodup
  unserved : ∀ p ∈ w.waiting, p.get ∈ calls ∧ p.get ∉ w.getters
  once : w.openers.Nodup
  opened : ∀ g, g ∈ w.openers ↔ g ∈ calls ∧ g ∈ w.getters

section Calls

variable {calls : List Nat} {w : World}

theorem nextGet_note (w : World) : w.note.nextGet = w.nextGet + 1 := List.length_append

theorem Calls.not_mem_next (h : Calls calls w) : w.nextGet ∉ calls ∧ w.nextGet ∉ w.getters :=
  ⟨fun early => Nat.lt_irrefl _ (h.started _ early),
    fun early => Nat.lt_irrefl _ (h.served _ early)⟩

theorem calls_quiet (h : Calls calls w) {w' : World} (quiet : w.Quiet w') : Calls calls w' := by
  have next : w'.nextGet = w.nextGet := congrArg List.length quiet.noted
  constructor
  case started => exact next ▸ h.started
  case served => exact next ▸ quiet.getters ▸ h.served
  case distinct => exact h.distinct
  case apart => exact h.apart.sublist (quiet.waiting.map _)
  case unserved =>
    rw [quiet.getters]
    exact fun p waits => h.unserved p (quiet.waiting.subset waits)
  case once => exact quiet.openers ▸ h.once
  case opened =>
    rw [quiet.openers, quiet.getters]
    exact h.opened

theorem calls_reuse (h : Calls calls w) (c : Connection) (rest : List Connection) :
    Calls calls (w.reuse c rest) := by
  have next : (w.reuse c rest).nextGet = w.nextGet + 1 := nextGet_note w
  have getters : (w.reuse c rest).getters = w.getters ++ [w.nextGet] := rfl
  constructor
  case started =>
    rw [next]
    exact fun g called => Nat.lt_succ_of_lt (h.started g called)
  case served =>
    rw [next, getters]
    intro g served
    rcases List.mem_append.1 served with before | now
    · exact Nat.lt_succ_of_lt (h.served g before)
    · rw [List.mem_singleton.1 now]
      exact Nat.lt_succ_self _
  case distinct => exact h.distinct
  case apart => exact h.apart
  case unserved =>
    intro p waits
    obtain ⟨called, unserved⟩ := h.unserved p waits
    rw [getters, List.mem_append, List.mem_singleton, not_or]
    exact ⟨called, unserved, Nat.ne_of_lt (h.started _ called)⟩
  case once => exact h.once
  case opened =>
    intro g
    rw [getters, List.mem_append, List.mem_singleton, and_or_left, ← h.opened]
    -- the get that reuses a connection has not called the factory
    refine ⟨.inl, fun either => either.resolve_right ?_⟩
    rintro ⟨called, rfl⟩
    exact h.not_mem_next.1 called

theorem calls_call (h : Calls calls w) :
    Calls (calls ++ [w.nextGet])
      { w.note with waiting := w.waiting ++ [⟨w.nextGet, w.hub.pool.epoch⟩] } := by
  have next : World.nextGet
      { w.note with waiting := w.waiting ++ [⟨w.nextGet, w.hub.pool.epoch⟩] } = w.nextGet + 1 :=
    nextGet_note w
  obtain ⟨fresh, unserved⟩ := h.not_mem_next
  constructor
  case started =>
    rw [next]
    intro g called
    rcases List.mem_append.1 called with before | now
    · exact Nat.lt_succ_of_lt (h.started g before)
    · rw [List.mem_singleton.1 now]
      exact Nat.lt_succ_self _
  case served =>
    rw [next]
    exact fun g served => Nat.lt_succ_of_lt (h.served g served)
  case distinct => exact nodup_snoc h.distinct fresh
  case apart =>
    rw [List.map_append]
    refine nodup_snoc h.apart fun waits => ?_
    obtain ⟨p, waits, same⟩ := List.mem_map.1 waits
    have called := (h.unserved p waits).1
    rw [show p.get = w.nextGet from same] at called
    exact fresh called
  case unserved =>
    intro p waits
    rcases List.mem_append.1 waits with before | now
    · obtain ⟨called, unserved⟩ := h.unserved p before
      exact ⟨List.mem_append_left _ called, unserved⟩
    · rw [List.mem_singleton.1 now]
      exact ⟨List.mem_append_right _ List.mem_cons_self, unserved⟩
  case once => exact h.once
  case opened =>
    intro g
    change g ∈ w.openers ↔ g ∈ calls ++ [w.nextGet] ∧ g ∈ w.getters
    rw [List.mem_append, List.mem_singleton, or_and_right, ← h.opened]
    refine ⟨.inl, fun either => either.resolve_right ?_⟩
    rintro ⟨rfl, served⟩
    exact unserved served

theorem calls_enter (h : Calls calls w) {p : Pending} (serial : Nat) (waits : p ∈ w.waiting) :
    Calls calls (w.enter p serial) := by
  have getters : (w.enter p serial).getters = w.getters ++ [p.get] := rfl
  obtain ⟨called, unserved⟩ := h.unserved p waits
  constructor
  case started => exact h.started
  case served =>
    intro g served
    rcases List.mem_append.1 served with before | now
    · exact h.served g before
    · rw [List.mem_singleton.1 now]
      exact h.started _ called
  case distinct => exact h.distinct
  case apart => exact h.apart.sublist (List.erase_sublist.map _)
  case unserved =>
    intro q waits'
    obtain ⟨differs, waits'⟩ := (List.Nodup.of_map _ h.apart).mem_erase_iff.1 waits'
    rw [getters, List.mem_append, List.mem_singleton, not_or]
    refine ⟨(h.unserved q waits').1, (h.unserved q waits').2, fun same => differs ?_⟩
    exact List.inj_on_of_nodup_map h.apart waits' waits same
  case once => exact nodup_snoc h.once fun opened => unserved ((h.opened _).1 opened).2
  case opened =>
    intro g
    rw [getters, show (w.enter p serial).openers = w.openers ++ [p.get] from rfl,
      List.mem_append, List.mem_append, List.mem_singleton, and_or_left, ← h.opened]
    refine or_congr_right ⟨fun same => ⟨same ▸ called, same⟩, And.right⟩

/-- The calls of the factory grow by the one that an entry carries, if it carries one. -/
theorem calls_booked (h : Calls calls w) {e : Entry} {w' : World} (booked : Booked w e w') :
    Calls (calls ++ e.call?.toList) w' := by
  have same {w' : World} (h : Calls calls w') : Calls (calls ++ []) w' := by
    rwa [List.append_nil]
  cases booked with
  | quiet quiet => exact same (calls_quiet h quiet)
  | reuse alive idle => exact same (calls_reuse h _ _)
  | call alive vacant => exact calls_call h
  | enter waits fresh => exact same (calls_enter h _ waits)
  | ended last found one released | reset alive | gone alive => exact same { h with }

/-- As many connections were opened as gets that called the factory have a session. -/
theorem Calls.length_openers (h : Calls calls w) :
    w.openers.length = calls.countP (· ∈ w.getters) := by
  rw [List.countP_eq_length_filter]
  refine ((List.perm_ext_iff_of_nodup h.once (h.distinct.filter _)).2 fun g => ?_).length_eq
  rw [h.opened, List.mem_filter, decide_eq_true_iff]

end Calls

theorem calls_run (moves : List Move) :
    Calls ((journal moves).filterMap Entry.call?) (run moves) := by
  induction moves using List.reverseRecOn with
  | nil => constructor <;> simp [journal, entries, run, steps]
  | append_singleton moves m ih =>
    rw [journal_snoc, run_snoc, List.filterMap_append]
    have called := calls_booked ih (booked_step (sound_run moves) m)
    cases e : ((run moves).entry m).call? with
    | none =>
      rw [e] at called
      simpa [e] using called
    | some g =>
      rw [e] at called
      simpa [e] using called

/-! ## The ledger -/

/-- A pool that is gone does not come back. -/
theorem alive_of_booked {w w' : World} {e : Entry} (booked : Booked w e w')
    (alive : w'.hub.alive = true) : w.hub.alive = true := by
  cases booked with
  | quiet quiet => exact quiet.alive ▸ alive
  | reuse there | call there | reset there | gone there => exact there
  | enter waits fresh => exact alive
  | @ended s x serial last found one released =>
    rwa [← (Hub.pool_dropOwner w.hub s).1]

/-- The journal of a run balances as long as the pool is alive. -/
theorem books_run (moves : List Move) (alive : (run moves).hub.alive = true) :
    Books (journal moves) (run moves) := by
  induction moves using List.reverseRecOn with
  | nil => constructor <;> simp [journal, entries, run, steps, Hub.inUse]
  | append_singleton moves m ih =>
    have booked := booked_step (sound_run moves) m
    rw [run_snoc] at alive
    rw [journal_snoc, run_snoc]
    exact books_booked (ih (alive_of_booked booked alive)) booked alive

/-- What the counts of a pool say about a run. -/
structure Ledger (moves : List Move) : Prop where
  /-- The epoch is the number of resets. -/
  epoch : (run moves).hub.pool.stats.epoch = (journal moves).countP Entry.isReset
  /-- A get calls the factory once at most. -/
  calls : ((journal moves).filterMap Entry.call?).Nodup
  /-- As many connections were opened as calls of the factory were made by gets that have a
  session. -/
  opened : (run moves).hub.pool.stats.opened =
    ((journal moves).filterMap Entry.call?).countP (· ∈ (run moves).getters)
  /-- Every session ever issued is on a connection that was opened or reused for it. -/
  issued : (run moves).hub.pool.stats.opened + (run moves).hub.pool.stats.reused =
    (run moves).hub.issued.length
  /-- A session becomes stale and ends once at most. -/
  ends : ((journal moves).filterMap Entry.stale?).Nodup
  /-- As many connections were discarded as sessions were stale when their last owner let go. -/
  discarded : (run moves).hub.pool.stats.discarded =
    ((journal moves).filterMap Entry.stale?).length
  /-- What was opened is idle, in use, discarded, or was idle when it was closed by a reset. -/
  balance : (run moves).hub.pool.stats.opened =
    (run moves).hub.pool.stats.idle + ((run moves).hub.inUse fun _ => true) +
      (run moves).hub.pool.stats.discarded + ((journal moves).map Entry.cleared).sum

/-- At every moment of a run, as long as the pool is there, its counts are what the books of the run
say. -/
theorem stats_ledger (moves : List Move) (alive : (run moves).hub.alive = true) : Ledger moves where
  epoch := (books_run moves alive).epoch
  calls := (calls_run moves).distinct
  opened := (dated_run moves).opened.trans (calls_run moves).length_openers
  issued := (books_run moves alive).issued
  ends := (books_run moves alive).once
  discarded := (books_run moves alive).discarded
  balance := (books_run moves alive).balance

/-- A run with a reset while a connection is being opened, a refusal, and a connection that was idle
when it was closed: of three that were opened one was discarded, one was cleared away, and one is
still in use. -/
theorem stats_ledger_threeOpened :
    let moves : List Move := [.start, .arrive ⟨0, 0⟩ 7, .start, .reset, .arrive ⟨1, 0⟩ 8, .drop 1,
      .start, .refuse ⟨2, 1⟩ (.connection "mock" (.stated "refused")), .start, .arrive ⟨3, 1⟩ 9,
      .drop 2, .start, .drop 3, .reset]
    (run moves).hub.alive = true ∧ (run moves).hub.pool.stats = ⟨0, 2, 3, 1, 1⟩ ∧ Ledger moves :=
  ⟨by decide, by decide, stats_ledger _ (by decide)⟩

end World

end PooledSql
