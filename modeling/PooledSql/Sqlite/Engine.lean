import PooledSql.Sqlite.Change
import PooledSql.Sqlite.Tuning

/-!
# Statements on connections

Connections to one file share its contents; the others have contents of their own. Outside of a
transaction a statement sees what is committed, and what it changes is committed at once. Within
one, a connection sees the contents as they were when it first looked, and its own changes on top
of them, and the others see nothing of these until they are committed.

A connection remembers which tables there are, and looks again when it misses one and whenever it
runs a statement. So it may find only while it creates a table that somebody else has done that
already, and then has lost the place of the name in the text.

There is one writer at a time. A second one is locked out at once, and so is one whose view is no
longer the latest. Where writers do not add to a log, moreover, a commit is locked out as long as
another connection has a view, and once it was, no new views are given out before it is through.

Where connections share what is in memory, they lock single tables instead, and what they see is
always the latest. A transaction keeps its locks up to its end. Once a lock to write is refused over
those who read, nobody else starts to read before they have all ended. While somebody has written
the table of the tables, the others can do nothing at all.

A file may be kept as a log or not, and a connection can change that where no other one is in the way;
the others find out when they look at the file the next time.

What fails is undone, if a journal is kept of what was there before. Without one, a change within a
transaction stays as far as it got, and in databases that are not files nothing at all is undone.
What a statement did before it failed may stay nevertheless, or the whole transaction may be undone
with it, as the constraint has it that a row failed.
-/

namespace PooledSql.Sqlite

/-! ## State -/

/-- What is committed, and how many commits there were. -/
structure Storage where
  contents : Store := {}
  commits : Nat := 0
deriving Repr

/-- An open transaction. -/
structure Transaction where
  /-- What it sees: a copy of the contents, once it has looked. -/
  view : Option Storage := none
  /-- It is the writer. -/
  writing : Bool := false
  /-- It has written something, whether that is still there or not. -/
  isTouched : Bool := false
  /-- It was locked out from its commit. -/
  waiting : Bool := false
  /-- The locks on tables that it holds, where there are such locks. -/
  locks : List TableLock := []
  /-- A lock to write was refused it over those who read. -/
  isPending : Bool := false
deriving Repr

/-- An open connection, by its number. -/
structure Link where
  serial : Nat
  home : Home
  /-- The contents of a database that belongs to this connection alone. -/
  own : Storage := {}
  transaction : Option Transaction := none
  /-- The names of the tables, as the connection last saw them, if it remembers any. -/
  known : Option (List String) := none
  tuning : Tuning
deriving Repr

/-- A connection that finds tables of some names. If it did not know of them, it reads what there is
to know about them, and gives every cache a size that has none. -/
def Link.find (l : Link) (names : List String) : Link :=
  if l.known = some names then l
  else { l with known := some names, tuning := l.tuning.sizedMain.sizedTemporary }

/-- Changes what is set on a connection. -/
def Link.tune (l : Link) (f : Tuning → Tuning) : Link := { l with tuning := f l.tuning }

/-- A connection that finds its database kept as a log, or not. -/
def Link.findLog (l : Link) (isLog : Bool) : Link :=
  if l.home.medium = .file then l.tune fun t => t.withLog isLog else l

/-- All open connections. -/
structure Engine where
  settings : Settings
  /-- The directories of the machine. -/
  directories : Directories
  /-- The contents of the database that all connections have, if there is one. -/
  common : Storage := {}
  /-- How many commits were not added to the log, if it is a file that is kept as one. -/
  log : Option Nat := none
  links : List Link := []
  /-- How many connections there were so far. -/
  entered : Nat := 0
deriving Repr

/-- What a statement gives: rows, or the number of rows that it changed. -/
inductive Outcome
  | rows (rows : List (List Value))
  | changed (count : Nat)
deriving DecidableEq, Repr

namespace Engine

/-! ## Connections -/

/-- Nothing is open. -/
def new (settings : Settings) (directories : Directories) : Engine := { settings, directories }

/-- The file that all connections have is kept as a log. -/
def isLog (e : Engine) : Bool := e.log.isSome

/-- There is something in the log. -/
def isLogUsed (e : Engine) : Bool := e.log.any fun n => n != e.common.commits

/-- An open connection by number. -/
def link? (e : Engine) (serial : Nat) : Option Link := e.links.find? fun l => l.serial == serial

/-- What is committed, as a connection finds it. -/
def storage (e : Engine) (l : Link) : Storage := if l.home.isCommon then e.common else l.own

/-- Changes a connection. -/
def onLink (e : Engine) (l : Link) (f : Link → Link) : Engine :=
  { e with links := e.links.map fun x => if x.serial = l.serial then f x else x }

/-- Commits contents for a connection. -/
def store (e : Engine) (l : Link) (contents : Store) : Engine :=
  let storage : Storage := ⟨contents, (e.storage l).commits + 1⟩
  if l.home.isCommon then { e with common := storage }
  else e.onLink l fun x => { x with own := storage }

/-- Puts a connection into another state of transaction. -/
def setTransaction (e : Engine) (l : Link) (t : Option Transaction) : Engine :=
  e.onLink l fun x => { x with transaction := t }

/-- What a connection sees. -/
def seen (e : Engine) (l : Link) : Storage :=
  (l.transaction.bind Transaction.view).getD (e.storage l)

/-- Connections lock tables. -/
def locksTables (l : Link) : Bool := l.home.sharing == .tables

/-- Changes what is set for all who have the same pages: connections that lock tables share them. -/
def onSharers (e : Engine) (l : Link) (f : Tuning → Tuning) : Engine :=
  if locksTables l then
    { e with links := e.links.map fun x => if locksTables x then x.tune f else x }
  else e.onLink l fun x => x.tune f

/-- Lets a connection look at the tables. Those that share what is in memory only remember that they
looked. -/
def look (e : Engine) (l : Link) : Engine :=
  if locksTables l then
    e.onLink l fun x =>
      if x.known.isSome then x else { x with known := some [] }.tune Tuning.sizedTemporary
  else e.onLink l fun x => (x.find (e.seen x).contents.names).findLog e.isLog

/-- Lets a connection keep in mind which tables there are after a change of its own. -/
def renew (e : Engine) (l : Link) : Engine :=
  if locksTables l then e
  else e.onLink l fun x => { x with known := some (e.seen x).contents.names }

/-- Lets a connection look at the tables, unless it remembers some. -/
def remember (e : Engine) (l : Link) : Engine := if l.known.isSome then e else e.look l

/-- Lets a connection forget the tables. Where others share what it knows, that is read once more. -/
def forget (e : Engine) (l : Link) : Engine :=
  let e := e.onLink l fun x => { x with known := none }
  if locksTables l then e.onSharers l Tuning.sizedMain else e

/-- Lets a connection look at the tables, or forget them, if it is undone that some were created. -/
def afterUndoing (e : Engine) (l : Link) (undone : Store) : Engine :=
  if undone.names = (e.storage l).contents.names then e.renew l else e.forget l

/-- Ends the transaction of a connection. If it leaves a single one, nobody has to wait for that any
longer. -/
def finish (e : Engine) (l : Link) : Engine :=
  let after := e.setTransaction l none
  let left := (after.links.filterMap Link.transaction).filter fun t => !t.locks.isEmpty
  let settled (t : Transaction) : Transaction := { t with isPending := false }
  if left.length = 1 && l.transaction.any fun t => !t.locks.isEmpty then
    { after with
      links := after.links.map fun x => { x with transaction := x.transaction.map settled } }
  else after

/-- Closes a connection; what it has not committed is gone, and so is what is only kept for those
who are connected, once nobody is. The last one who has opened a log empties it. -/
def close (e : Engine) (serial : Nat) : Engine :=
  match e.link? serial with
  | none => e
  | some l =>
    let e := e.finish l
    let links := e.links.filter fun x => x.serial != serial
    let isLost := l.home.isCommon && l.home.isFleeting && !links.any fun x => x.home.isCommon
    let common := if isLost then {} else e.common
    let isEmptied := l.tuning.hasLog && !links.any fun x => x.tuning.hasLog
    { e with links, common, log := if isEmptied then e.log.map fun _ => common.commits else e.log }

/-! ## Locks -/

/-- The transactions of the other connections to the same contents. -/
def rivals (e : Engine) (l : Link) : List Transaction :=
  if l.home.isCommon then
    (e.links.filter fun x => x.serial != l.serial && x.home.isCommon).filterMap Link.transaction
  else []

/-- Another connection is the writer. -/
def isWriteLocked (e : Engine) (l : Link) : Bool := (e.rivals l).any Transaction.writing

/-- Writers add to a log, and so leave readers alone. -/
def isLogged (e : Engine) (l : Link) : Bool := e.isLog && l.home.medium == .file

/-- A commit is not possible while another connection has a view. -/
def isCommitLocked (e : Engine) (l : Link) : Bool :=
  !locksTables l && !e.isLogged l && (e.rivals l).any fun t => t.view.isSome

/-- What was there before a change is kept, so that the change can be undone. -/
def isJournaled (e : Engine) (l : Link) : Bool := e.isLogged l || l.tuning.journal != "off"

/-- A journal has to be kept in a file, for the name of which there is no room. -/
def lacksJournal (e : Engine) (l : Link) : Bool :=
  !l.home.hasRoom && (e.isLogged l || ["memory", "off"].all (l.tuning.journal != ·))

/-- Nothing is ever undone. -/
def isFinal (e : Engine) (l : Link) : Bool :=
  !e.isJournaled l && (l.home.medium == .memory || l.home.medium == .temporary)

/-- No new view is given out while a commit is waiting, or where nobody else reads while one
writes. -/
def isReadLocked (e : Engine) (l : Link) : Bool :=
  match l.home.sharing with
  | .separate => false
  | .whole => !e.isLogged l && (e.rivals l).any Transaction.waiting
  | .alone => (e.rivals l).any Transaction.writing
  | .tables => false

/-- Another connection has written the table of the tables. -/
def isBarred (e : Engine) (l : Link) : Bool :=
  locksTables l && (e.rivals l).any fun t => t.locks.contains ⟨catalogName, true⟩

/-- The transaction of a connection after it takes the locks on tables that a statement needs, and
whether it gets all of them. Every transaction reads the table of the tables. -/
def lockTables (e : Engine) (l : Link) (isWrite : Bool) (locks : List TableLock) :
    Except Refusal Unit × Transaction :=
  let t := l.transaction.getD {}
  let rivals := e.rivals l
  let starts := t.locks.isEmpty || (isWrite && !t.writing)
  let isHeldUp := rivals.any Transaction.isPending || (isWrite && rivals.any Transaction.writing)
  if starts && isHeldUp then (.error ⟨.tableLocked none, none⟩, t)
  else
    let held := TableLock.hold ⟨catalogName, false⟩ t.locks
    let (held, refused) := TableLock.take (rivals.flatMap Transaction.locks) held locks
    let t := { t with locks := held, writing := t.writing || isWrite }
    match refused with
    | none => (.ok (), t)
    | some x =>
      (.error ⟨.tableLocked (some x.table), none⟩, { t with isPending := t.isPending || x.isWrite })

/-- Keeps the state of an open transaction, if there is one. -/
def keep (e : Engine) (l : Link) (t : Transaction) : Engine :=
  if l.transaction.isSome then e.setTransaction l (some t) else e

/-! ## Reading and writing -/

/-- A statement on a connection: a refusal or a result, and the state after it. -/
abbrev Step (α : Type) := Except Refusal α × Engine

/-- The refusal of who is locked out. -/
def lockedOut : Refusal := ⟨.locked, none⟩

/-- A connection that has no view cannot get one. -/
def isKeptOut (e : Engine) (l : Link) : Bool :=
  (l.transaction.bind Transaction.view).isNone && e.isReadLocked l

/-- Lets a connection that is to read find its file kept as a log, or not. -/
def meetLog (e : Engine) (l : Link) : Engine :=
  if e.isKeptOut l then e else e.onLink l fun x => x.findLog e.isLog

/-- What a connection finds wrong with a statement before it runs it. It judges by the tables that
it remembers, and looks at them again over a fault of names, if it is not kept out. -/
def prepare (e : Engine) (l : Link) (check : Store → Except Refusal Unit) : Step Unit :=
  let now := (e.seen l).contents
  if l.known.isNone && e.isKeptOut l then (.error lockedOut, e)
  else
    let known := if locksTables l then now else (l.known.map now.among).getD now
    match check known with
    | .ok () => (.ok (), e.remember l)
    | .error refusal =>
      if refusal.fault.isOfNames && !e.isKeptOut l then (check now, e.look l)
      else (.error refusal, e.remember l)

/-- Reads tables. -/
def read (e : Engine) (l : Link) (q : Question) : Step (List (List Value)) :=
  match e.prepare l q.check with
  | (.error refusal, e) => (.error refusal, e)
  | (.ok (), e) =>
    if locksTables l then
      let contents := (e.seen l).contents
      let (granted, t) := e.lockTables l false (q.locks contents)
      (granted.map fun _ => q.rows contents, e.keep l t)
    else if e.isKeptOut l then (.error lockedOut, e)
    else
      let view := e.seen l
      let transaction := l.transaction.map fun t => { t with view := some view }
      (.ok (q.rows view.contents), (e.setTransaction l transaction).look l)

/-- What is wrong with contents that are to be permanent: all references have to lead somewhere. -/
def checkReferences (contents : Store) : Except Refusal Unit :=
  if contents.danglingCount true = 0 then .ok () else .error ⟨.failedReference, none⟩

/-- What a transaction would leave in the contents, if it has written anything. -/
def result? (t : Transaction) : Option Store :=
  if t.isTouched then t.view.map Storage.contents else none

/-- Puts contents in place, if there are any. -/
def storeSome (e : Engine) (l : Link) (contents : Option Store) : Engine :=
  (contents.map (e.store l)).getD e

/-- Gives the changes of the open transaction up. -/
def rollback (e : Engine) (l : Link) : Step Unit :=
  match l.transaction with
  | none => (.error ⟨.noRollback, none⟩, e)
  | some t =>
    let after := if e.isFinal l then e.storeSome l (result? t) else e
    let after := after.finish l
    (.ok (), if t.writing then after.afterUndoing l (e.seen l).contents else after)

/-- Lets a change take effect at once. A failure may leave what was done before it. -/
def writeThrough (e : Engine) (l : Link) (effect : Effect) : Step Nat :=
  let after := if effect.isTouched then e.store l effect.contents else e
  let undone := if e.isFinal l then after else e
  if effect.isKept then
    match checkReferences effect.contents with
    | .error refusal => (.error refusal, undone.renew l)
    | .ok () =>
      if e.isCommitLocked l then (.error lockedOut, e.afterUndoing l effect.contents)
      else (effect.outcome, after.renew l)
  else (effect.outcome, undone.renew l)

/-- Lets a change take effect in an open transaction that sees a view. A failure may give the whole
transaction up. -/
def writeOpen (e : Engine) (l : Link) (t : Transaction) (view : Storage) (effect : Effect) :
    Step Nat :=
  let isUndone := effect.undoing == .transaction || effect.undoing == .statement
  let isUndone := isUndone && !effect.outcome.isOk && e.isJournaled l
  let contents := if isUndone then view.contents else effect.contents
  let t := { t with
    view := some { view with contents }
    writing := true
    isTouched := t.isTouched || effect.isTouched }
  let after := e.setTransaction l (some t)
  if !effect.isKept && effect.undoing == .transaction then
    (effect.outcome, (after.rollback { l with transaction := some t }).2)
  else (effect.outcome, after.renew l)

/-- Lets a change take effect, in a transaction or at once. -/
def carryOut (e : Engine) (l : Link) (t : Option Transaction) (view : Storage) (c : Change) :
    Step Nat :=
  match t with
  | none => (e.look l).writeThrough l (c.run view.contents)
  | some t => (e.look l).writeOpen l t view (c.run view.contents)

/-- Changes tables. -/
def write (e : Engine) (l : Link) (c : Change) : Step Nat :=
  match e.prepare l c.check with
  | (.error refusal, e) => (.error refusal, e)
  | (.ok (), e) =>
    let view := e.seen l
    if l.home.isReadOnly then (.error ⟨.readOnly, none⟩, e)
    else if locksTables l then
      match e.lockTables l true (c.locks view.contents) with
      | (.error refusal, t) => (.error refusal, e.keep l t)
      | (.ok (), t) => e.carryOut l (l.transaction.map fun _ => t) view c
    else if e.isWriteLocked l || e.isKeptOut l || view.commits != (e.storage l).commits then
      (.error lockedOut, e.meetLog l)
    else if e.lacksJournal l then (.error ⟨.noJournal, none⟩, e)
    else e.carryOut l l.transaction view c

/-- Opens a transaction, where none is open. -/
def begin (e : Engine) (l : Link) : Step Unit :=
  match l.transaction with
  | some _ => (.error ⟨.nestedTransaction, none⟩, e)
  | none => (.ok (), e.setTransaction l (some {}))

/-- Makes the changes of the open transaction permanent. -/
def commit (e : Engine) (l : Link) : Step Unit :=
  match l.transaction with
  | none => (.error ⟨.noCommit, none⟩, e)
  | some t =>
    match checkReferences (e.seen l).contents with
    | .error refusal => (.error refusal, e)
    | .ok () =>
      if t.writing && e.isCommitLocked l then
        (.error lockedOut, e.setTransaction l (some { t with waiting := true }))
      else (.ok (), (e.storeSome l (result? t)).finish l)

/-! ## Settings -/

/-- Makes the file of a connection a log. Nobody may look at it meanwhile, unless it is one. -/
def startLog (e : Engine) (l : Link) : Step Unit :=
  if e.isLog then (.ok (), e.onLink l fun x => x.findLog true)
  else if e.isReadLocked l || (e.rivals l).any fun t => t.view.isSome || t.writing then
    (.error lockedOut, e)
  else if e.lacksJournal l then (.error ⟨.noJournal, none⟩, e)
  else
    let tuned (t : Tuning) : Tuning := { t with journal := "wal" }
    (.ok (), { e.onLink l fun x => x.tune tuned with log := some e.common.commits })

/-- Keeps the file of a connection as a log no longer. Nobody else may have opened the log. -/
def endLog (e : Engine) (l : Link) (mode : String) : Step Unit :=
  let others := e.links.filter fun x => x.serial != l.serial
  if (others.any fun x => x.tuning.hasLog) || e.isReadLocked l then (.error lockedOut, e)
  else
    let tuned (t : Tuning) : Tuning := { t with journal := mode, hasLog := false }
    (.ok (), { e.onLink l fun x => x.tune tuned with log := none })

/-- Changes the journal mode of a file that the connection does not know as a log. Where a journal was
left there that is not to stay, the connection looks for it and so finds a log that is in use. -/
def leaveJournal (e : Engine) (l : Link) (mode : String) : Engine :=
  let isKept := ["truncate", "persist"].contains l.tuning.journal
  let isLeft := ["truncate", "persist"].contains mode
  if isKept && !isLeft && e.isLogged l && e.isLogUsed then e.meetLog l
  else e.onSharers l fun t => { t with journal := mode }

/-- Changes the journal mode of a database, if it can have that mode. That of one that was written
within the open transaction stays as it is. -/
def changeJournal (e : Engine) (l : Link) (mode : String) : Step Unit :=
  let isLog := mode == "wal"
  if mode = l.tuning.journal || l.transaction.any Transaction.isTouched ||
      !l.home.medium.admits mode then (.ok (), e)
  else if isLog || l.tuning.journal == "wal" then
    if l.transaction.isSome then (.error ⟨.settledLog isLog, none⟩, e)
    else if isLog then e.startLog l
    else e.endLog l mode
  else (.ok (), e.leaveJournal l mode)

/-- Enters a new connection, if it can be set up. To set its modes, it looks at the tables. -/
def enter (e : Engine) (l : Link) : Except OpenFault Engine :=
  if e.isBarred l then .error .catalogLocked
  else
    let sharer := e.links.find? fun x => locksTables l && locksTables x
    let l := l.tune fun t => (sharer.map fun x => t.sharing x.tuning).getD t
    let entered := { e with links := l :: e.links }
    if e.settings.modes.isNone then .ok entered
    else if e.isReadLocked l then .error .locked
    else
      let looking := entered.look l
      let mode := (e.settings.journal?).getD l.tuning.journal
      match looking.changeJournal ((looking.link? l.serial).getD l) mode with
      | (.error _, _) => .error .locked
      | (.ok (), e) =>
        .ok (e.onLink l fun x => x.tune fun t => t.withCacheSize false e.settings.cacheSize)

/-! ## Opening connections -/

/-- A refusal to open a connection. -/
def refuse {α : Type} (fault : OpenFault) : Work Engine Cause α :=
  throw (.failed (.refusedToOpen fault))

/-- A new connection to a target, which is not set up yet. -/
def reach (target : String) : Work Engine Cause Link := do
  let e ← get
  match Home.resolve e.directories target with
  | .error fault => refuse fault
  | .ok home =>
    return { serial := e.entered + 1, home, tuning := Tuning.ofSettings e.settings home }

/-- Sets a new connection up with the statements of the engine's own settings. To start a log, a journal
is needed once. -/
def setUp (l : Link) : Work Engine Cause Unit := do
  let e ← get
  if !l.home.hasRoom && l.home.medium == .file && e.settings.journal? == some "wal" then
    refuse .noJournal
  else
    match e.enter l with
    | .error fault => refuse fault
    | .ok e => set { e with entered := l.serial }

/-- The engine as a library: one of those that there can be, in a world without files. It is asked to set
connections up with the statements of its own settings only. -/
def library : Library Engine Link where
  openInMemory := reach memoryPath
  openTarget := reach
  setBusyTimeout _ ms := if Library.longestBusyTimeout < ms then throw .aborted else pure ()
  runBatch l _ := setUp l
  close l e := e.close l.serial

/-! ## Settings that are changed -/

/-- Changes the journal mode of the database that a question is about, or of all. Where nothing of
the name is known, nothing changes. -/
def changeJournals (e : Engine) (l : Link) (i : Inquiry) (text : String) : Step Unit :=
  match wantedJournal? text with
  | none => (.ok (), e)
  | some mode =>
    let temporary (t : Tuning) : Tuning := t.withTemporaryJournal mode
    let e := if i.database = some false then e else e.onLink l fun x => x.tune temporary
    if i.isTemporary then (.ok (), e) else e.changeJournal l mode

/-- Keeps temporary tables in something else. It forgets all tables if it had a place for these. -/
def changeStore (e : Engine) (l : Link) (store : Nat) : Step Unit :=
  if store = l.tuning.temporaryStore then (.ok (), e)
  else if l.tuning.hasTemporary && l.transaction.isSome then (.error ⟨.settledStore, none⟩, e)
  else
    let forgetting := if l.tuning.hasTemporary then e.forget l else e
    (.ok (), forgetting.onLink l fun x => x.tune fun t => t.withStore store)

/-- Changes a setting as a question about it asks. -/
def change (e : Engine) (l : Link) (i : Inquiry) (text : String) : Step Unit :=
  match i.name with
  | "journal_mode" => e.changeJournals l i text
  | "temp_store" => e.changeStore l (wantedStore text)
  | "synchronous" =>
    if l.transaction.isSome then (.error ⟨.settledSynchronous, none⟩, e)
    else if i.isTemporary then (.ok (), e)
    else (.ok (), e.onLink l fun x => x.tune fun t => { t with synchronous := wantedLevel text })
  | "cache_size" =>
    let size := wantedNumber text
    if i.isTemporary then (.ok (), e.onLink l fun x => x.tune fun t => t.withCacheSize true size)
    else (.ok (), e.onSharers l fun t => t.withCacheSize false size)
  | "busy_timeout" =>
    let time := max 0 (wantedNumber text)
    (.ok (), e.onLink l fun x => x.tune fun t => { t with busyTimeout := time })
  | _ => (.ok (), e)

/-- Answers a question about a setting as it is now. -/
def answer (e : Engine) (l : Link) (i : Inquiry) : Outcome :=
  .rows (((e.link? l.serial).getD l).tuning.answer i)

/-- Changes a setting, if a question asks for that, and answers it. Some settings are only told when
nothing changes. -/
def settle (e : Engine) (l : Link) (i : Inquiry) : Step Outcome :=
  match i.wanted with
  | none => (.ok (e.answer l i), e)
  | some text =>
    let (done, e) := e.change l i text
    (done.map fun _ => if i.isAnswered then e.answer l i else .rows [], e)

/-! ## Statements -/

/-- A step that gives something else. -/
def Step.map {α β : Type} (f : α → β) (s : Step α) : Step β := (s.1.map f, s.2)

/-- Answers the question about a setting that a text asks, for which the tables may have to be looked
at. -/
def inquire (e : Engine) (l : Link) (text : String) : Step Outcome :=
  match Inquiry.ofText text with
  | .error refusal => (.error refusal, e)
  | .ok i =>
    let e := if i.isTemporary then e.onLink l fun x => x.tune Tuning.openTemporary else e
    let (found, e) := if i.needsTables then e.prepare l fun _ => .ok () else (.ok (), e)
    match found with
    | .error refusal => (.error refusal, e)
    | .ok () => e.settle ((e.link? l.serial).getD l) i

/-- Runs a statement that is given as a text and changes no tables. -/
def obey (e : Engine) (l : Link) (text : String) : Step Outcome :=
  match Command.ofText text with
  | .error refusal => (.error refusal, e)
  | .ok .inquiry => e.inquire l text
  | .ok .opening => (e.begin l).map fun _ => .changed 0
  | .ok .commit => (e.commit l).map fun _ => .changed 0
  | .ok .rollback => (e.rollback l).map fun _ => .changed 0
  | .ok _ => (.ok (.changed 0), e)

/-- Runs a statement that changes no tables. -/
def ask (e : Engine) (l : Link) : Statement → Step Outcome
  | .select source columns filter => (e.read l (.select source columns filter)).map .rows
  | .count table => (e.read l (.count table)).map .rows
  | .literals values => (((Question.literals values).ask {}).map .rows, e)
  | .setting name => e.inquire l (Statement.setting name).text
  | .verbatim text => e.obey l text
  | .begin => (e.begin l).map fun _ => .changed 0
  | .commit => (e.commit l).map fun _ => .changed 0
  | .rollback => (e.rollback l).map fun _ => .changed 0
  | .version => (.ok (.rows [[.text sqliteVersion]]), e)
  | _ => (.ok (.changed 0), e)

/-- Runs a statement on an open connection. -/
def runOn (e : Engine) (l : Link) (statement : Statement) : Step Outcome :=
  if e.isBarred l then (.error ⟨.catalogLocked, none⟩, e)
  else
    match statement.check with
    | .error refusal => (.error refusal, e)
    | .ok () =>
      match statement.change? with
      | some change => (e.write l change).map .changed
      | none => e.ask l statement

/-- Runs a statement on a connection by number. -/
def run (e : Engine) (serial : Nat) (statement : Statement) : Step Outcome :=
  match e.link? serial with
  | some l => e.runOn l statement
  | none => (.error ⟨.noRows, none⟩, e)

/-- Runs a statement that is to give no rows. -/
def execute (e : Engine) (serial : Nat) (statement : Statement) : Step Nat :=
  match e.run serial statement with
  | (.ok (.changed count), e) => (.ok count, e)
  | (.ok (.rows _), e) => (.error ⟨.returnedRows, none⟩, e)
  | (.error refusal, e) => (.error refusal, e)

/-- Runs a statement for its rows; a change has none. -/
def query (e : Engine) (serial : Nat) (statement : Statement) : Step (List (List Value)) :=
  (e.run serial statement).map fun
    | .rows rows => rows
    | .changed _ => []

end Engine

end PooledSql.Sqlite
