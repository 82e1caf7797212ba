import PooledSql.Sqlite.Inquiry
import PooledSql.Sqlite.Settings
import PooledSql.Sqlite.Target

/-!
# Settings of a connection

What is set on an open connection. It starts as the connection was asked for, and a question about a
setting may say what that is to be from then on. A number is read from the digits that a text starts
with, and a mode by its name; where nothing of that name is known there is a mode for it.
-/

namespace PooledSql.Sqlite

/-- What is set on a connection. -/
structure Tuning where
  /-- The journal mode, as the connection last knew it. -/
  journal : String
  /-- It has opened the log of its file. -/
  hasLog : Bool := false
  synchronous : Nat
  cacheSize : Int := Settings.usualCacheSize
  /-- In milliseconds. -/
  busyTimeout : Int
  /-- What temporary tables are kept in: what is usual, a file or memory. -/
  temporaryStore : Nat := 2
  /-- There is a place for temporary tables. -/
  hasTemporary : Bool := false
  temporaryJournal : String := "memory"
  temporaryCacheSize : Int := 0
deriving DecidableEq, Repr

/-! ## What is wanted -/

/-- The number that a text starts with, in the digits of a base; zero if it reaches a limit. -/
def leadingNumber (base limit : Nat) (s : List Char) : Nat :=
  let digits := (s.map Text.Hex.digit?).takeWhile fun d => d.any fun n => decide (n < base)
  let n := digits.foldl (fun n d => base * n + d.getD 0) 0
  if n < limit then n else 0

/-- The number that a text starts with; zero if it does not fit into a signed integer of thirty-two
bits. Only one without a sign may have hexadecimal digits. -/
def wantedNumber (text : String) : Int :=
  let limit := Library.longestBusyTimeout + 1
  match text.toList with
  | '-' :: rest => -(leadingNumber 10 (limit + 1) rest : Int)
  | '+' :: rest => leadingNumber 10 limit rest
  | '0' :: x :: rest =>
    if x = 'x' ∨ x = 'X' then leadingNumber 16 limit rest else leadingNumber 10 limit (x :: rest)
  | s => leadingNumber 10 limit s

/-- The synchronous mode that a text stands for: a number, of which the last bits count, or a name or
an answer. -/
def wantedLevel (text : String) : Nat :=
  let names := [("off", 0), ("no", 0), ("false", 0), ("on", 1), ("yes", 1), ("true", 1), ("full", 2),
    ("extra", 3)]
  if text.toList.head?.any Char.isDigit then ((wantedNumber text).toNat + 1) % 8 - 1
  else (names.lookup (text.map Char.toLower)).getD 1

/-- What a text asks temporary tables to be kept in: what is usual, a file or memory. -/
def wantedStore (text : String) : Nat :=
  match text.toList.head? with
  | some '0' => 0
  | some '1' => 1
  | some '2' => 2
  | _ => ([("file", 1), ("memory", 2)].lookup (text.map Char.toLower)).getD 0

/-- The journal mode the name of which a text starts, or is. -/
def wantedJournal? (text : String) : Option String :=
  Settings.journalNames.find? fun name => (text.toList.map Char.toLower).isPrefixOf name.toList

/-- The journal mode of a database that is new. -/
def Medium.usualJournal : Medium → String
  | .memory => "memory"
  | .heldFile => "memory"
  | .temporary => "delete"
  | .file => "delete"

/-- A database can have a journal mode. One in memory has only two, and only a file can be a log. -/
def Medium.admits (m : Medium) (mode : String) : Bool :=
  match m with
  | .memory => mode == "memory" || mode == "off"
  | .file => true
  | _ => mode != "wal"

namespace Tuning

/-- What is set on a new connection, before it looks at the tables. -/
def ofSettings (s : Settings) (home : Home) : Tuning where
  journal := home.medium.usualJournal
  synchronous := s.synchronousLevel
  busyTimeout := s.busyTimeout

/-- Shares the pages of another connection. -/
def sharing (t other : Tuning) : Tuning :=
  { t with journal := other.journal, cacheSize := other.cacheSize }

/-- Finds a file kept as a log, or not. -/
def withLog (t : Tuning) (isLog : Bool) : Tuning :=
  if isLog then { t with journal := "wal", hasLog := true }
  else if t.journal = "wal" then { t with journal := "delete", hasLog := false }
  else t

/-- Temporary tables are kept in memory. -/
def keepsTemporary (t : Tuning) : Bool := t.temporaryStore == 2

/-- Makes a place for temporary tables, if there is none. -/
def openTemporary (t : Tuning) : Tuning :=
  if t.hasTemporary then t
  else
    { t with
      hasTemporary := true
      temporaryJournal := if t.keepsTemporary then "memory" else "delete" }

/-- Keeps temporary tables in something else. The place for them goes. -/
def withStore (t : Tuning) (store : Nat) : Tuning :=
  { t with temporaryStore := store, hasTemporary := false }

/-- Changes the journal mode of temporary tables, if they can have that mode. -/
def withTemporaryJournal (t : Tuning) (mode : String) : Tuning :=
  let isPossible := if t.keepsTemporary then mode == "memory" || mode == "off" else mode != "wal"
  if t.hasTemporary && isPossible then { t with temporaryJournal := mode } else t

/-- The size of a cache once tables were read: the usual one, if it had none. -/
def sizeRead (size : Int) : Int := if size = 0 then Settings.usualCacheSize else size

/-- Gives the cache of the database that is open a size, once its tables were read. -/
def sizedMain (t : Tuning) : Tuning := { t with cacheSize := sizeRead t.cacheSize }

/-- Gives the cache of temporary tables a size, once these were read. -/
def sizedTemporary (t : Tuning) : Tuning :=
  if t.hasTemporary then { t with temporaryCacheSize := sizeRead t.temporaryCacheSize } else t

/-- Changes the size of a cache. -/
def withCacheSize (t : Tuning) (isTemporary : Bool) (size : Int) : Tuning :=
  if isTemporary then { t with temporaryCacheSize := size } else { t with cacheSize := size }

/-- The rows that answer a question about a setting; there are none if there is no such setting. -/
def answer (t : Tuning) (i : Inquiry) : List (List Value) :=
  let number (n : Int) : List (List Value) := [[.integer (Int64.ofInt n)]]
  match i.name with
  | "journal_mode" => [[.text (if i.isTemporary then t.temporaryJournal else t.journal)]]
  | "synchronous" => number (if i.isTemporary then 0 else t.synchronous)
  | "cache_size" => number (if i.isTemporary then t.temporaryCacheSize else t.cacheSize)
  | "temp_store" => number t.temporaryStore
  | "busy_timeout" => number t.busyTimeout
  | _ => []

end Tuning

end PooledSql.Sqlite
