import PooledSql.Library
import PooledSql.Text.Hex
import PooledSql.Text.Utf8

/-!
# Where a database is

A target is a path, or a URI of the scheme `file` whose options say how the file is opened. One
path stands for a database in memory and the empty one for a temporary database, and both are new
for each connection, unless connections are asked to share what is in memory. Which directories there
are is up to the machine. There are no files in them when a program starts, so a file that may not be
created cannot be opened.
-/

namespace PooledSql.Sqlite

/-- What holds a database. -/
inductive Medium
  | memory
  /-- A file that is kept in memory. -/
  | heldFile
  /-- A file that goes with its connection. -/
  | temporary
  | file
deriving DecidableEq, Repr

/-- Who has the same database, and what keeps connections to it apart. -/
inductive Sharing
  /-- Each connection has a database of its own. -/
  | separate
  /-- All connections have the same one, and lock the whole of it. -/
  | whole
  /-- All connections have the same one, and nobody else reads it while one of them writes. -/
  | alone
  /-- All connections have the same one, and lock its tables. -/
  | tables
deriving DecidableEq, Repr

/-- What a target stands for. -/
structure Home where
  medium : Medium
  sharing : Sharing := .separate
  /-- Nothing can be changed there. -/
  isReadOnly : Bool := false
  /-- There is room for the name of a journal beside a file, which is longer than that of the file.
  -/
  hasRoom : Bool := true
deriving DecidableEq, Repr

/-- All connections have the same database. -/
def Home.isCommon (h : Home) : Bool := h.sharing != .separate

/-- It is gone once there is no connection to it. -/
def Home.isFleeting (h : Home) : Bool := h.medium != .file

/-! ## Paths -/

/-- The directories of a machine, by the names that lead to them from the root and from the working
directory. -/
structure Directories where
  absolute : List (List String)
  relative : List (List String)
deriving DecidableEq, Repr

/-- The root, the working directory and a place for temporary files. -/
def Directories.few : Directories := ⟨[[], ["tmp"]], [[]]⟩

/-- A path without detours. One that is not absolute starts in the working directory or above. -/
structure Path where
  isAbsolute : Bool
  names : List String
deriving DecidableEq, Repr

namespace Path

/-- Goes on from the names of a path. -/
def step (names : List String) (element : String) : List String :=
  if element = "" ∨ element = "." then names
  else if element = ".." then names.dropLast
  else names ++ [element]

/-- The path that a text describes. -/
def ofText (text : String) : Path :=
  ⟨text.toList.head? == some '/', (text.splitOn "/").foldl step []⟩

/-- The directories that a path can lead to. -/
def directories (p : Path) (machine : Directories) : List (List String) :=
  if p.isAbsolute then machine.absolute else machine.relative

/-- The path leads to a directory that can be opened: any but the root of all. -/
def isDirectory (p : Path) (machine : Directories) : Bool :=
  (p.directories machine).contains p.names && !(p.isAbsolute && p.names.isEmpty)

/-- The longest name of a file, in bytes. -/
def longestName : Nat := 255

/-- What is added to the name of a file for its journal, in bytes. -/
def journalEnding : Nat := "-journal".utf8ByteSize

/-- The last name leaves room for the name of a journal. -/
def hasRoom (p : Path) : Bool :=
  p.names.getLast?.all fun name => decide (name.utf8ByteSize + journalEnding ≤ longestName)

/-- A file can be created there. -/
def isCreatable (p : Path) (machine : Directories) : Bool :=
  !(p.directories machine).contains p.names &&
    (p.directories machine).contains p.names.dropLast &&
    p.names.all fun name => decide (name.utf8ByteSize ≤ longestName)

end Path

/-! ## Access -/

/-- How a file is opened. -/
inductive AccessMode
  | reading
  | writing
  | creating
  | memory
deriving DecidableEq, Repr

namespace AccessMode

/-- The access mode of a name. -/
def named? (name : String) : Option AccessMode :=
  [("ro", reading), ("rw", writing), ("rwc", creating), ("memory", memory)].lookup name

/-- How much an access mode permits. -/
def level : AccessMode → Nat
  | memory => 0
  | reading => 1
  | writing => 2
  | creating => 3

/-- An access mode can take the place of another one: it permits no more, or that one is memory. -/
def isAllowed (current requested : AccessMode) : Bool :=
  current = memory || decide (requested.level ≤ current.level)

end AccessMode

/-! ## URIs -/

/-- The bytes of a text in which `%` and two digits stand for one byte. -/
def percentDecode : List Char → List UInt8
  | [] => []
  | '%' :: a :: b :: rest =>
    match Text.Hex.decode [a, b] with
    | some bytes => bytes ++ percentDecode rest
    | none => (String.singleton '%').toUTF8.toList ++ percentDecode (a :: b :: rest)
  | c :: rest => (String.singleton c).toUTF8.toList ++ percentDecode rest

/-- The text that a part of a URI stands for; a zero byte ends it. -/
def decodePart (s : List Char) : String :=
  String.ofList (Text.Utf8.repair ((percentDecode s).takeWhile (· != 0)))

/-- A text up to a character, and what follows it. -/
def cut (c : Char) (s : List Char) : List Char × List Char :=
  (s.takeWhile (· != c), (s.dropWhile (· != c)).drop 1)

/-- A path with options, by name. -/
structure Uri where
  path : String
  options : List (String × String)
deriving DecidableEq, Repr

namespace Uri

/-- The options of a query; those without a name do not count. -/
def readOptions (query : List Char) : List (String × String) :=
  let options := ((String.ofList query).splitOn "&").map fun part =>
    let (name, value) := cut '=' part.toList
    (decodePart name, decodePart value)
  options.filter fun p => p.1 != ""

/-- The authorities that stand for this machine. -/
def localAuthorities : List String := ["", "localhost"]

/-- Takes the authority off, if there is one, which reaches up to the next slash. -/
def stripAuthority : List Char → Except OpenFault (List Char)
  | '/' :: '/' :: rest =>
    let authority := String.ofList (rest.takeWhile (· != '/'))
    if localAuthorities.contains authority then .ok (rest.dropWhile (· != '/'))
    else .error (.unknownAuthority authority)
  | s => .ok s

/-- Reads a URI, less its scheme. -/
def read (s : List Char) : Except OpenFault Uri := do
  let s ← stripAuthority s
  let (path, query) := cut '?' (cut '#' s).1
  return ⟨decodePart path, readOptions query⟩

/-- How a database is opened: in which mode, and whether connections share what is in memory. -/
structure Access where
  mode : AccessMode := .creating
  isShared : Bool := false
deriving DecidableEq, Repr

/-- The ways to keep what is in memory, and whether connections share it. -/
def caches : List (String × Bool) := [("shared", true), ("private", false)]

/-- The access after an option. -/
def takeOption (current : Access) (option : String × String) : Except OpenFault Access :=
  match option.1 with
  | "cache" =>
    match caches.lookup option.2 with
    | some isShared => .ok { current with isShared }
    | none => .error (.unknownMode "cache" option.2)
  | "mode" =>
    match AccessMode.named? option.2 with
    | none => .error (.unknownMode "access" option.2)
    | some mode =>
      if current.mode.isAllowed mode then .ok { current with mode }
      else .error (.forbiddenMode option.2)
  | _ => .ok current

/-- The file system that keeps its files in memory. -/
def heldSystem : String := "memdb"

/-- The file systems that there are. -/
def systems : List String := ["unix", "unix-none", "unix-dotfile", "unix-excl", heldSystem]

/-- The file system that the options ask for. -/
def system? (u : Uri) : Option String :=
  ((u.options.filter fun p => p.1 == "vfs").getLast?).map Prod.snd

/-- The access that the options ask for. -/
def access (u : Uri) : Except OpenFault Access := do
  let access ← u.options.foldlM takeOption {}
  match u.system? with
  | none => return access
  | some system => if systems.contains system then return access else throw (.unknownSystem system)

/-- The words for yes and no. -/
def answers : List (String × Bool) :=
  [("on", true), ("yes", true), ("true", true), ("no", false), ("off", false), ("false", false)]

/-- What the value of an option says: a word, or a number by its last bits. -/
def saysYes (value : String) : Bool :=
  let digits := value.toList.takeWhile Char.isDigit
  if digits.isEmpty then (answers.lookup (value.map Char.toLower)).getD false
  else
    let n := digits.foldl (fun n c => 10 * n + (c.toNat - '0'.toNat)) 0
    decide (n ≤ 2147483647) && n % 256 != 0

/-- Nobody changes the file, it is said, so that it is read without regard to others. -/
def isImmutable (u : Uri) : Bool := ((u.options.lookup "immutable").map saysYes).getD false

end Uri

/-! ## Targets -/

section Targets

variable (machine : Directories)

/-- What a path stands for when it is opened in a mode. A file that nobody changes is like a
temporary database that cannot be changed. -/
def Home.ofPath (target path : String) (isImmutable : Bool) (access : Uri.Access) :
    Except OpenFault Home :=
  let isReadOnly := access.mode == .reading
  let shared : Sharing := if access.isShared then .tables else .separate
  if access.mode = .memory then
    .ok { medium := .memory, sharing := if path = "" then .separate else shared }
  else if path = memoryPath then .ok { medium := .memory, sharing := shared, isReadOnly }
  else if path = "" then .ok { medium := .temporary, isReadOnly }
  else if isReadOnly ∧ (Path.ofText path).isDirectory machine then .error .unreadable
  else if access.mode = .creating ∧ (Path.ofText path).isCreatable machine then
    if isImmutable then .ok { medium := .temporary, isReadOnly := true }
    else
      let sharing : Sharing := if access.isShared then .tables else .whole
      .ok { medium := .file, sharing, hasRoom := (Path.ofText path).hasRoom }
  else .error (.cannotOpen target)

/-- A path that all connections find the same file at, where files are kept in memory. -/
def isHeldPath (path : String) : Bool :=
  match path.toList with
  | c :: _ :: _ => c == '/' || c == '\\'
  | _ => false

/-- What a path stands for where files are kept in memory. -/
def Home.ofHeldPath (target path : String) (isImmutable : Bool) (access : Uri.Access) :
    Except OpenFault Home :=
  if access.mode = .memory ∨ path = memoryPath ∨ path = "" then
    ofPath machine target path isImmutable access
  else if isImmutable then .ok { medium := .temporary, isReadOnly := true }
  else
    let sharing : Sharing :=
      if access.isShared then .tables else if isHeldPath path then .alone else .separate
    .ok { medium := .heldFile, sharing, isReadOnly := access.mode == .reading }

/-- What a target without zero bytes stands for. -/
def Home.ofTarget (target : String) : Except OpenFault Home :=
  match target.toList with
  | 'f' :: 'i' :: 'l' :: 'e' :: ':' :: body => do
    let uri ← Uri.read body
    let access ← uri.access
    let ofPath := if uri.system? = some Uri.heldSystem then Home.ofHeldPath else Home.ofPath
    ofPath machine target uri.path uri.isImmutable access
  | _ => Home.ofPath machine target target false {}

/-- What a target stands for. -/
def Home.resolve (target : String) : Except OpenFault Home :=
  let start := target.toList.takeWhile (· != '\x00')
  if start.length < target.toList.length then .error (.zeroByte (Text.Utf8.byteCount start))
  else Home.ofTarget machine target

end Targets

end PooledSql.Sqlite
