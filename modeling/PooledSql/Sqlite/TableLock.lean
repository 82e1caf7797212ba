import PooledSql.Sqlite.Store

/-!
# Locks on tables

Connections that share what is in memory keep out of each other's way by locks on tables. Many may
read a table, and one alone may write it, while nobody else reads it.
-/

namespace PooledSql.Sqlite

/-- A lock on a table. -/
structure TableLock where
  table : String
  isWrite : Bool
deriving DecidableEq, Repr

namespace TableLock

/-- Two locks cannot be held by two connections. -/
def excludes (a b : TableLock) : Bool := a.table == b.table && (a.isWrite || b.isWrite)

/-- Locks with another one. There is one on each table, the strongest. -/
def hold (lock : TableLock) : List TableLock → List TableLock
  | [] => [lock]
  | x :: rest =>
    if x.table = lock.table then { x with isWrite := x.isWrite || lock.isWrite } :: rest
    else x :: hold lock rest

/-- Each lock once, in the order in which they are first asked for. -/
def gather (locks : List TableLock) : List TableLock := locks.foldl (fun held x => hold x held) []

/-- Takes locks one after the other, given what the others hold, up to the first that cannot be had:
what is held then, and that one. -/
def take (others held : List TableLock) : List TableLock → List TableLock × Option TableLock
  | [] => (held, none)
  | x :: rest =>
    if others.any x.excludes then (held, some x) else take others (hold x held) rest

end TableLock

/-- The locks that reading the tables of some names takes. -/
def Store.readLocks (s : Store) (names : List String) : List TableLock :=
  names.filterMap fun name => (s.find name).toOption.map fun t => ⟨t.name, false⟩

end PooledSql.Sqlite
