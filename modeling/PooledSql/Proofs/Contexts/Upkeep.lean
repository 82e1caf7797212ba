import Mathlib.Algebra.GroupWithZero.Nat
import Mathlib.Data.Set.Finite.Lemmas
import PooledSql.Proofs.Contexts.Pruning

/-!
# Slots do not pile up, and scans pay off

A finder looks through its slots only now and then, so slots whose sessions have ended stay for a
while. Still there are never more slots than the bar, and the bar never passes twice the most slots
that ever had a live session at once, if it passes the threshold at all.

The bar at least doubles the slots that a scan leaves. So between two scans there are as many
observations as there were slots left, and each observation pays for two slots: for its own, and for
one that was left. What has been paid and not yet been spent is the potential, twice the slots less
the bar; the next scan comes when it has reached the bar.

Results:
* `change_step`: what an act can do to the slots.
* `tended_steps`: whatever is done, scans are paid for and slots stay within the bar.
* `slots_bounded`: what that means for the slots, the scans and their cost.
-/

namespace PooledSql

namespace Finder

variable {f : Finder} {live : Nat → Bool} {context : ContextKey} {s : Nat}

/-- How many slots have a live session. -/
def liveCount (f : Finder) (live : Nat → Bool) : Nat := (f.slots.filter fun p => live p.2).length

/-- How many slots are looked at when a session is observed: all that there are then, if that takes a
scan. -/
def looks (f : Finder) (live : Nat → Bool) (context : ContextKey) (s : Nat) : Nat :=
  if (f.observe live context s).2.isSome then (f.put context s).size else 0

theorem size_forget_le : (f.forget context).size ≤ f.size :=
  List.length_filter_le _ _

theorem size_put_le : (f.put context s).size ≤ f.size + 1 :=
  Nat.succ_le_succ size_forget_le

/-- A scan drops no session that is alive. -/
theorem liveCount_scan : (f.scan live).liveCount live = f.liveCount live := by
  simp [liveCount, scan, List.filter_filter]

/-- The ways to observe a session: without a scan, or with one as the slots pass the bar. -/
theorem observe_cases (f : Finder) (live : Nat → Bool) (context : ContextKey) (s : Nat) :
    ((f.put context s).size ≤ f.bar ∧ f.observe live context s = (f.put context s, none)) ∨
      (f.bar < (f.put context s).size ∧ (f.observe live context s).2.isSome = true ∧
        (f.observe live context s).1 = (f.put context s).scan live) := by
  simp only [observe]
  split
  · rename_i passes
    exact .inr ⟨passes, rfl, rfl⟩
  · rename_i passes
    exact .inl ⟨Nat.le_of_not_lt passes, rfl⟩

/-- The slots stay within the bar and the bar above the threshold, and what the scans have looked at
is paid for by the observations, the potential included. -/
structure Tended (threshold : Nat) (f : Finder) (looked observations : Nat) : Prop where
  threshold : f.threshold = max threshold 1
  above : f.threshold ≤ f.bar
  within : f.size ≤ f.bar
  paid : looked + (2 * f.size - f.bar) ≤ 2 * observations

theorem tended_new (threshold : Nat) : (new threshold).Tended threshold 0 0 where
  threshold := rfl
  above := Nat.le_refl _
  within := Nat.zero_le _
  paid := by simp [new, size]

section Tended

variable {threshold looked observations : Nat}

theorem Tended.forget (h : f.Tended threshold looked observations) (context : ContextKey) :
    (f.forget context).Tended threshold looked observations where
  threshold := h.threshold
  above := h.above
  within := Nat.le_trans size_forget_le h.within
  paid := by
    have fewer : (f.forget context).size ≤ f.size := size_forget_le
    have paid := h.paid
    have same : (f.forget context).bar = f.bar := rfl
    omega

/-- When a scan comes, the potential has reached the bar, which pays for all slots but the new one. -/
theorem Tended.observe (h : f.Tended threshold looked observations) (live : Nat → Bool)
    (context : ContextKey) (s : Nat) :
    (f.observe live context s).1.Tended threshold (looked + f.looks live context s)
      (observations + 1) := by
  have paid := h.paid
  have within := h.within
  have more : (f.put context s).size ≤ f.size + 1 := size_put_le
  have same : (f.put context s).bar = f.bar := rfl
  rcases f.observe_cases live context s with ⟨below, observed⟩ | ⟨passes, scanned, observed⟩
  · have free : f.looks live context s = 0 := by simp [looks, observed]
    rw [observed, free]
    refine ⟨h.threshold, h.above, below, ?_⟩
    dsimp only
    omega
  · have all : f.looks live context s = (f.put context s).size := if_pos scanned
    have left : ((f.put context s).scan live).bar =
        max f.threshold (2 * ((f.put context s).scan live).size) := by
      rw [Nat.mul_comm]
      rfl
    rw [observed, all]
    -- there were as many slots as the bar, so that was the potential, and none of it is left
    refine ⟨h.threshold, ?_, by omega, by omega⟩
    rw [left]
    exact Nat.le_max_left _ _

end Tended

end Finder

namespace Watch

/-- How many slots have a live session. -/
def liveSlots (w : Watch Finder) : Nat := w.memory.liveCount w.world.hub.isLive

/-- How many slots had a live session, after as many of the acts as one likes. -/
def liveCounts (threshold : Nat) (acts : List Act) : Set Nat :=
  {n | ∃ past, past <+: acts ∧ (run threshold past).liveSlots = n}

/-- If an act observes a session: how many slots that looks at. -/
def look (w : Watch Finder) : Act → List Nat
  | .observe context s =>
    if s ∈ w.world.strong then [w.memory.looks w.world.hub.isLive context s] else []
  | _ => []

/-- For each observation, how many slots it looks at. -/
def looks (w : Watch Finder) : List Act → List Nat
  | [] => []
  | act :: rest => w.look act ++ (w.step .finder act).looks rest

theorem run_snoc (threshold : Nat) (acts : List Act) (act : Act) :
    run threshold (acts ++ [act]) = (run threshold acts).step .finder act := by
  simp [run, steps]

/-! ## What an act does to the slots -/

/-- What an act can do to the slots, with the slots that it looks at. -/
inductive Change (w : Watch Finder) : Watch Finder → List Nat → Prop
  | keep {world : World} {answers : List Recollection} : Change w { w with world, answers } []
  | forget (context : ContextKey) : Change w { w with memory := w.memory.forget context } []
  | observe {s : SessionId} (context : ContextKey) (has : s ∈ w.world.strong) :
      Change w { w with memory := (w.memory.observe w.world.hub.isLive context s).1 }
        [w.memory.looks w.world.hub.isLive context s]

theorem change_step (w : Watch Finder) (act : Act) :
    Change w (w.step .finder act) (w.look act) := by
  cases act with
  | move m => exact .keep
  | observe context s =>
    simp only [step, look]
    split
    · rename_i has
      exact .observe context has
    · exact .keep
  | find context => exact .keep
  | isObserving context s =>
    simp only [step]
    split <;> exact .keep
  | forget context => exact .forget context

theorem tended_change {threshold looked observations : Nat} {w w' : Watch Finder} {now : List Nat}
    (h : w.memory.Tended threshold looked observations) (change : Change w w' now) :
    w'.memory.Tended threshold (looked + now.sum) (observations + now.length) := by
  cases change with
  | keep => exact h
  | forget context => exact h.forget context
  | @observe s context has => exact h.observe w.world.hub.isLive context s

theorem tended_steps {threshold looked observations : Nat} {w : Watch Finder}
    (h : w.memory.Tended threshold looked observations) (acts : List Act) :
    (steps .finder w acts).memory.Tended threshold (looked + (w.looks acts).sum)
      (observations + (w.looks acts).length) := by
  induction acts generalizing w looked observations with
  | nil => exact h
  | cons act rest ih =>
    have later := ih (tended_change h (change_step w act))
    rw [looks, List.sum_append, List.length_append, ← Nat.add_assoc, ← Nat.add_assoc]
    exact later

/-! ## The bar and the slots with live sessions -/

/-- The bar stays, or it is moved to twice the slots that are left, which have live sessions. -/
theorem bar_change {w w' : Watch Finder} {now : List Nat} (change : Change w w' now) :
    w'.memory.bar = w.memory.bar ∨ w'.memory.bar = max w.memory.threshold (2 * w'.liveSlots) := by
  cases change with
  | keep => exact .inl rfl
  | forget context => exact .inl rfl
  | @observe s context has =>
    rcases w.memory.observe_cases w.world.hub.isLive context s with
      ⟨-, observed⟩ | ⟨-, -, observed⟩
    · rw [observed]
      exact .inl rfl
    · refine .inr ?_
      simp only [liveSlots, observed, Finder.liveCount_scan]
      rw [Nat.mul_comm]
      rfl

/-- Among the numbers of sessions alive at once, in any run, there is a greatest. -/
theorem exists_peak (threshold : Nat) (acts : List Act) :
    ∃ peak, IsGreatest (liveCounts threshold acts) peak := by
  have finite : {past | past <+: acts}.Finite := by
    refine (List.finite_toSet acts.inits).subset fun past early => ?_
    exact (List.mem_inits past acts).2 early
  obtain ⟨past, early, most⟩ :=
    Set.exists_max_image _ (fun past => (run threshold past).liveSlots) finite
      ⟨acts, List.prefix_rfl⟩
  refine ⟨_, ⟨past, early, rfl⟩, ?_⟩
  rintro n ⟨other, early', rfl⟩
  exact most other early'

/-- The memory is tended after every run, with all looks of the run accounted for. -/
theorem tended_run (threshold : Nat) (acts : List Act) :
    (run threshold acts).memory.Tended threshold
      (looks { memory := Finder.new threshold } acts).sum
      (looks { memory := Finder.new threshold } acts).length := by
  have kept :=
    tended_steps (w := { memory := Finder.new threshold }) (Finder.tended_new threshold) acts
  rwa [Nat.zero_add, Nat.zero_add] at kept

/-- The bar is at most the threshold or twice the peak. -/
theorem bar_le {threshold peak : Nat} {acts : List Act}
    (most : peak ∈ upperBounds (liveCounts threshold acts)) :
    (run threshold acts).memory.bar ≤ max (max threshold 1) (2 * peak) := by
  induction acts using List.reverseRecOn with
  | nil => exact Nat.le_max_left _ _
  | append_singleton acts act ih =>
    have now : (run threshold (acts ++ [act])).liveSlots ≤ peak := most ⟨_, List.prefix_rfl, rfl⟩
    have before := ih fun n ⟨past, early, e⟩ => most ⟨past, early.trans (List.prefix_append _ _), e⟩
    have set := (tended_run threshold acts).threshold
    have moved := bar_change (change_step (run threshold acts) act)
    rw [← run_snoc] at moved
    -- where the bar is moved, it is to twice the slots that are live just then
    omega

/-! ## The next observation -/

theorem slot?_observe_self {w : Watch Finder} {context : ContextKey} {s : SessionId}
    (single : w.memory.Single) (sound : w.world.Sound) (has : s ∈ w.world.strong) :
    (w.memory.observe w.world.hub.isLive context s).1.slot? context = some s :=
  (w.memory.slot?_observe single _ context context s s).2 (if_pos rfl) (sound.isLive_iff.2 has)

/-- Observing scans the slots exactly when they have reached the bar. -/
theorem isSome_observe_iff {threshold looked observations : Nat} {f : Finder}
    (h : f.Tended threshold looked observations) (live : Nat → Bool) (context : ContextKey)
    (s : Nat) :
    (f.observe live context s).2.isSome = true ↔ (f.put context s).size = f.bar + 1 := by
  have within := h.within
  have more : (f.put context s).size ≤ f.size + 1 := Finder.size_put_le
  rcases f.observe_cases live context s with ⟨below, observed⟩ | ⟨passes, scanned, -⟩
  · rw [observed]
    exact iff_of_false (by simp) (by omega)
  · exact iff_of_true scanned (by omega)

theorem slots_observe (f : Finder) (live : Nat → Bool) (context : ContextKey) (s : Nat) :
    (f.observe live context s).1.slots =
      if (f.observe live context s).2.isSome then
        (f.put context s).slots.filter fun p => live p.2
      else (f.put context s).slots := by
  rcases f.observe_cases live context s with ⟨-, observed⟩ | ⟨-, scanned, observed⟩
  · rw [observed]
    rfl
  · rw [if_pos scanned, observed]
    rfl

/-- At every moment there are no more slots than the bar, and no more than the threshold or twice the
most slots with a live session that there were at any moment. When a session is observed next, there
is a scan exactly if that makes one slot more than the bar; a scan takes away the slots without a
live session and no others; and either way the session is in its context's slot then. All the scans
so far looked at two slots for each observation at most. -/
theorem slots_bounded (threshold : Nat) (acts : List Act) :
    (run threshold acts).memory.size ≤ (run threshold acts).memory.bar ∧
      (∃ peak, IsGreatest (liveCounts threshold acts) peak ∧
        (run threshold acts).memory.size ≤ max (max threshold 1) (2 * peak)) ∧
      (∀ context, ∀ s ∈ (run threshold acts).world.strong,
        let f := (run threshold acts).memory
        let live := (run threshold acts).world.hub.isLive
        let (after, scan) := f.observe live context s
        (scan.isSome = true ↔ (f.put context s).size = f.bar + 1) ∧
          after.slots =
            (if scan.isSome then (f.put context s).slots.filter fun p => live p.2
            else (f.put context s).slots) ∧
          after.slot? context = some s) ∧
      (looks { memory := Finder.new threshold } acts).sum ≤
        2 * (looks { memory := Finder.new threshold } acts).length := by
  have tended := tended_run threshold acts
  have agree := agree_run threshold acts
  refine ⟨tended.within, ?_, fun context s has => ⟨?_, ?_, ?_⟩, ?_⟩
  · obtain ⟨peak, greatest⟩ := exists_peak threshold acts
    exact ⟨peak, greatest, Nat.le_trans tended.within (bar_le greatest.2)⟩
  · exact isSome_observe_iff tended _ context s
  · exact slots_observe _ _ context s
  · exact slot?_observe_self agree.recalls.single (agree.world ▸ agree.sound) has
  · exact Nat.le_trans (Nat.le_add_right _ _) tended.paid

/-- With a threshold of two, the third of three sessions that are live leads to a scan, which clears
out none of them; the next one waits for twice as many. -/
theorem slots_bounded_threeLive :
    let acts : List Act := [.move .start, .move (.arrive ⟨0, 0⟩ 7), .observe (.scope 1) 0,
      .move .start, .move (.arrive ⟨1, 0⟩ 8), .observe (.scope 2) 1, .move .start,
      .move (.arrive ⟨2, 0⟩ 9)]
    let f := (run 2 acts).memory
    let live := (run 2 acts).world.hub.isLive
    2 ∈ (run 2 acts).world.strong ∧ (f.observe live (.scope 3) 2).2 = some ⟨0, 6⟩ ∧
      (f.observe live (.scope 3) 2).1.slot? (.scope 3) = some 2 ∧
      looks { memory := Finder.new 2 } (acts ++ [.observe (.scope 3) 2]) = [0, 0, 3] := by
  intro acts f live
  have has : 2 ∈ (run 2 acts).world.strong := by decide
  obtain ⟨-, -, next, -⟩ := slots_bounded 2 acts
  obtain ⟨-, -, slot⟩ := next (.scope 3) 2 has
  exact ⟨has, by decide, slot, by decide⟩

end Watch

end PooledSql
