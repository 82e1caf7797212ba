import PooledSql.Context

/-!
# Finding a context's session

A finder remembers, for each context, the session most recently issued to it, without owning it. A
slot whose session has no owner left is as good as none, and such slots are cleared out in one scan
whenever the number of slots passes a bar; after a scan the bar is twice the number of slots that
stayed, and never below the threshold.
-/

namespace PooledSql

/-- The slots of a finder, one for each context that was observed, and the bar of the next scan:
`session::context_cache::SessionFinder`. -/
structure Finder where
  threshold : Nat
  bar : Nat
  slots : List (ContextKey × Nat)
deriving Repr

/-- What a scan did: how many slots it cleared, and the next bar. -/
structure Scan where
  cleared : Nat
  bar : Nat
deriving DecidableEq, Repr

namespace Finder

/-- An empty finder; the threshold is at least one: `session::context_cache::SessionFinder::new`. -/
def new (threshold : Nat) : Finder := ⟨max threshold 1, max threshold 1, []⟩

/-- How many slots there are, with a live session or without:
`session::context_cache::SessionFinder::len`. -/
def size (f : Finder) : Nat := f.slots.length

/-- The slot's session of a context, live or not. -/
def slot? (f : Finder) (context : ContextKey) : Option Nat := f.slots.lookup context

/-- The context's session, if it is live: `session::context_cache::SessionFinder::find`. -/
def current? (f : Finder) (live : Nat → Bool) (context : ContextKey) : Option Nat :=
  (f.slot? context).filter live

/-- Drops the context's slot: `session::context_cache::SessionFinder::forget`. -/
def forget (f : Finder) (context : ContextKey) : Finder :=
  { f with slots := f.slots.filter fun p => p.1 != context }

/-- Puts a session into the context's slot. -/
def put (f : Finder) (context : ContextKey) (s : Nat) : Finder :=
  { f with slots := (context, s) :: (f.forget context).slots }

/-- Clears the slots without a live session and moves the bar. -/
def scan (f : Finder) (live : Nat → Bool) : Finder :=
  let kept := f.slots.filter fun p => live p.2
  { f with slots := kept, bar := max f.threshold (kept.length * 2) }

/-- Remembers a session as the context's current one, with a scan if that passes the bar:
`session::context_cache::SessionFinder::observe`. -/
def observe (f : Finder) (live : Nat → Bool) (context : ContextKey) (s : Nat) :
    Finder × Option Scan :=
  let f := f.put context s
  if f.bar < f.size then
    let after := f.scan live
    (after, some ⟨f.size - after.size, after.bar⟩)
  else (f, none)

/-- The session is the context's current one:
`session::context_cache::SessionFinder::is_observing`. -/
def isObserving (f : Finder) (live : Nat → Bool) (context : ContextKey) (s : Nat) : Bool :=
  f.current? live context == some s

/-! ## What is current -/

theorem lookup_filter_ne (slots : List (ContextKey × Nat)) (context c : ContextKey) :
    (slots.filter fun p => p.1 != context).lookup c =
      if c = context then none else slots.lookup c := by
  induction slots with
  | nil => simp
  | cons p rest ih =>
    obtain ⟨k, v⟩ := p
    by_cases hk : k = context
    · have dropped : (((k, v) :: rest).filter fun p => p.1 != context) =
          rest.filter fun p => p.1 != context := by simp [hk]
      rw [dropped, ih]
      split
      · rfl
      · rename_i hc
        have : (c == k) = false := by simpa [hk] using hc
        rw [List.lookup_cons, this]
    · have kept : (((k, v) :: rest).filter fun p => p.1 != context) =
          (k, v) :: rest.filter fun p => p.1 != context := by simp [hk]
      rw [kept, List.lookup_cons, List.lookup_cons, ih]
      by_cases hck : c = k
      · subst hck; simp [hk]
      · have : (c == k) = false := by simpa using hck
        simp [this]

/-- Only the slot of the context that is put changes. -/
theorem slot?_put (f : Finder) (context c : ContextKey) (s : Nat) :
    (f.put context s).slot? c = if c = context then some s else f.slot? c := by
  simp only [slot?, put, forget, List.lookup_cons, lookup_filter_ne]
  by_cases h : c = context
  · simp [h]
  · have : (c == context) = false := by simpa using h
    simp [h, this]

/-- No context has two slots. -/
def Single (f : Finder) : Prop := (f.slots.map Prod.fst).Nodup

theorem lookup_filter_live (slots : List (ContextKey × Nat)) (live : Nat → Bool) (c : ContextKey)
    (single : (slots.map Prod.fst).Nodup) :
    (slots.filter fun p => live p.2).lookup c = (slots.lookup c).filter live := by
  induction slots with
  | nil => simp
  | cons p rest ih =>
    obtain ⟨k, v⟩ := p
    have hn := List.nodup_cons.1 single
    have ih := ih hn.2
    by_cases hc : c = k
    · have absent : rest.lookup c = none := by
        rw [List.lookup_eq_none_iff]
        intro q hq
        have : c ≠ q.1 := fun he => hn.1 (by
          rw [← hc, he]
          exact List.mem_map.2 ⟨q, hq, rfl⟩)
        simpa using this
      have same : (c == k) = true := by simpa using hc
      cases hv : live v
      · simp [hv, List.lookup_cons, same, ih, absent, Option.filter]
      · simp [hv, List.lookup_cons, same, Option.filter]
    · have hne : (c == k) = false := by simpa using hc
      cases hv : live v <;> simp [hv, List.lookup_cons, hne, ih]

theorem single_put (f : Finder) (context : ContextKey) (s : Nat) (h : f.Single) :
    (f.put context s).Single := by
  simp only [Single, put, forget, List.map_cons, List.nodup_cons] at h ⊢
  refine ⟨by simp, ?_⟩
  exact h.sublist (List.filter_sublist.map Prod.fst)

/-- Observing a session leaves every context with one slot at most. -/
theorem single_observe (f : Finder) (live : Nat → Bool) (context : ContextKey) (s : Nat)
    (h : f.Single) : (f.observe live context s).1.Single := by
  have hput := f.single_put context s h
  simp only [observe]
  split
  · exact hput.sublist (List.filter_sublist.map Prod.fst)
  · exact hput

end Finder

end PooledSql
