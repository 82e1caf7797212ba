import PooledSql.Config.Number
import PooledSql.Text.Terminal

/-!
# Command-line arguments

Every setting has a long option, an environment variable and, unless it is a switch, a default. An
argument wins over the environment, and the environment over the default; what is not used is not
read. Arguments are taken from left to right, and the first fault ends the reading; the value of an
option that stands by itself is only looked at when the next option begins, or at the end.

Results:
* `read_help`: asking for help alone is answered by help.
-/

namespace PooledSql.Config

/-- A setting: a field of `config::Config`. -/
inductive Setting
  | database
  | inMemory
  | logLevel
  | pruneThreshold
  | busyTimeout
  | journalMode
  | synchronous
  | cacheSize
deriving DecidableEq, Repr

namespace Setting

/-- The settings in order. -/
def all : List Setting :=
  [.database, .inMemory, .logLevel, .pruneThreshold, .busyTimeout, .journalMode, .synchronous,
    .cacheSize]

/-- The name of the long option. -/
def long : Setting → String
  | .database => "database"
  | .inMemory => "in-memory"
  | .logLevel => "log-level"
  | .pruneThreshold => "finder-prune-threshold"
  | .busyTimeout => "busy-timeout-ms"
  | .journalMode => "pragma-journal-mode"
  | .synchronous => "pragma-synchronous"
  | .cacheSize => "pragma-cache-size"

/-- The letter of the short option, where there is one. -/
def short : Setting → Option Char
  | .database => some 'd'
  | _ => none

/-- The environment variable, without what all of them start with. -/
def variableName : Setting → String
  | .database => "DATABASE"
  | .inMemory => "IN_MEMORY"
  | .logLevel => "LOG_LEVEL"
  | .pruneThreshold => "FINDER_PRUNE_THRESHOLD"
  | .busyTimeout => "BUSY_TIMEOUT_MS"
  | .journalMode => "JOURNAL_MODE"
  | .synchronous => "SYNCHRONOUS"
  | .cacheSize => "CACHE_SIZE"

/-- The environment variable. -/
def fullVariable (s : Setting) : String := "SQLWEAVE_" ++ s.variableName

/-- The default, as it would be given; a switch has none: the `default_value` of a field of
`config::Config`. -/
def default? : Setting → Option String
  | .database => some "sqlweave.db"
  | .inMemory => none
  | .logLevel => some "info"
  | .pruneThreshold => some "64"
  | .busyTimeout => some "5000"
  | .journalMode => some "WAL"
  | .synchronous => some "NORMAL"
  | .cacheSize => some "-64000"

/-- What the help says about the setting: the `help` of a field of `config::Config`. -/
def help : Setting → Option String
  | .database => none
  | .inMemory => some "Use in-memory SQLite databases (each connection gets its own)"
  | .logLevel => none
  | .pruneThreshold =>
    some "Number of per-context session observations kept before expired ones are pruned"
  | .busyTimeout => some "SQLite busy timeout for new connections in milliseconds"
  | .journalMode => some "SQLite journal mode (WAL, DELETE, TRUNCATE, etc.)"
  | .synchronous => some "SQLite synchronous mode (NORMAL, FULL, OFF)"
  | .cacheSize => some "SQLite page cache size (negative for KB, positive for pages)"

/-- A setting that is on or off and takes no value as an argument. -/
def isSwitch : Setting → Bool
  | .inMemory => true
  | _ => false

/-- The name that stands for an option's value. -/
def placeholder (s : Setting) : String :=
  String.ofList ((s.long.toList.map fun c => if c = '-' then '_' else c).map Char.toUpper)

/-- The option as messages show it. -/
def display (s : Setting) : String :=
  if s.isSwitch then "--" ++ s.long else "--" ++ s.long ++ " <" ++ s.placeholder ++ ">"

end Setting

/-- The value of a setting. -/
inductive Given
  | text (s : String)
  | natural (n : Nat)
  | integer (n : Int)
  | switch (b : Bool)
deriving DecidableEq, Repr

/-- Why arguments are refused; asking for help is one reason. -/
inductive ArgumentFault
  | help
  | invalidNumber (s : Setting) (value : String) (fault : NumberFault)
  | invalidSwitch (s : Setting) (value : String)
  | missingValue (s : Setting)
  | unknownArgument (argument : String)
  | repeated (s : Setting)
  | unexpectedValue (option value : String)
deriving DecidableEq, Repr

namespace ArgumentFault

/-- The words of the message in their styles; asking for help needs none. -/
def message (f : ArgumentFault) : String :=
  let quoted (style : String → String) (text : String) := "'" ++ style text ++ "'"
  let invalid := quoted Text.asInvalid
  let literal := quoted Text.asLiteral
  let error (words : String) := Text.asError "error:" ++ " " ++ words
  match f with
  | .help => ""
  | .invalidNumber s value fault =>
    error ("invalid value " ++ invalid value ++ " for " ++ literal s.display ++ ": " ++
      fault.message)
  | .invalidSwitch s value =>
    error ("invalid value " ++ invalid value ++ " for " ++ literal s.display)
  | .missingValue s =>
    error ("a value is required for " ++ literal s.display ++ " but none was supplied")
  | .unknownArgument argument => error ("unexpected argument " ++ invalid argument ++ " found")
  | .repeated s => error ("the argument " ++ invalid s.display ++ " cannot be used multiple times")
  | .unexpectedValue option value =>
    error ("unexpected value " ++ invalid value ++ " for " ++ literal option ++
      " found; no more were expected")

/-- The message without its styles. -/
def display (f : ArgumentFault) : String := Text.plain f.message

/-- The message as it is printed. -/
def printed (f : ArgumentFault) : String := Text.printed f.message

/-- The exit code of a program that is given such arguments. -/
def exitCode : ArgumentFault → Nat
  | .help => 0
  | _ => 2

end ArgumentFault

/-- Reads the value of a setting. -/
def Setting.read (s : Setting) (value : String) : Except ArgumentFault Given :=
  let numeric {α : Type} (given : α → Given) (r : Except NumberFault α) :
      Except ArgumentFault Given :=
    match r with
    | .ok n => .ok (given n)
    | .error fault => .error (.invalidNumber s value fault)
  match s with
  | .pruneThreshold => numeric .natural (readNatural (Number.twoTo 64 - 1) value)
  | .busyTimeout => numeric .natural (readNatural (Number.twoTo 64 - 1) value)
  | .cacheSize => numeric .integer (readInteger32 value)
  | .inMemory =>
    if value = "true" then .ok (.switch true)
    else if value = "false" then .ok (.switch false)
    else if value = "" then .error (.missingValue s)
    else .error (.invalidSwitch s value)
  | _ => .ok (.text value)

/-- The arguments taken so far: the settings that are given, the option that is still open with its
value if it has one yet, and whether `--` was passed. -/
structure Taken where
  given : List (Setting × Given) := []
  pending : Option (Setting × Option String) := none
  trailing : Bool := false

namespace Taken

/-- Gives a setting, which may not be given already. -/
def give (t : Taken) (s : Setting) (value : Except ArgumentFault Given) :
    Except ArgumentFault Taken :=
  if (t.given.lookup s).isSome then .error (.repeated s)
  else do
    let value ← value
    return { t with given := (s, value) :: t.given }

/-- Closes the option that is still open. -/
def settle (t : Taken) : Except ArgumentFault Taken :=
  match t.pending with
  | none => .ok t
  | some (s, none) => .error (.missingValue s)
  | some (s, some value) => give { t with pending := none } s (s.read value)

/-- Takes an option that needs a value, with the one attached to it if there is one. -/
def takeOption (t : Taken) (s : Setting) (attached : Option String) :
    Except ArgumentFault Taken := do
  let t ← t.settle
  match attached with
  | some value => t.give s (s.read value)
  | none => return { t with pending := some (s, none) }

/-- Takes an argument that starts with `--`, less that start. -/
def takeLong (t : Taken) (body : List Char) : Except ArgumentFault Taken :=
  let name := String.ofList (body.takeWhile (· != '='))
  let attached :=
    match body.dropWhile (· != '=') with
    | [] => none
    | _ :: value => some (String.ofList value)
  if name = "help" then
    match attached with
    | some value => .error (.unexpectedValue "--help" value)
    | none => do
      let _ ← t.settle
      throw .help
  else
    match Setting.all.find? fun s => s.long == name with
    | none => .error (.unknownArgument ("--" ++ name))
    | some s =>
      if s.isSwitch then
        match attached with
        | some value => .error (.unexpectedValue s.display value)
        | none => do
          let t ← t.settle
          t.give s (.ok (.switch true))
      else t.takeOption s attached

/-- Takes an argument that starts with `-` and the letter `c`. -/
def takeShort (t : Taken) (c : Char) (rest : List Char) : Except ArgumentFault Taken :=
  if c = 'h' then do
    let _ ← t.settle
    throw .help
  else
    match Setting.all.find? fun s => s.short == some c with
    | none => .error (.unknownArgument (String.ofList ['-', c]))
    | some s =>
      let attached :=
        match rest with
        | [] => none
        | '=' :: value => some (String.ofList value)
        | value => some (String.ofList value)
      t.takeOption s attached

/-- Takes one argument. -/
def take (t : Taken) (argument : String) : Except ArgumentFault Taken :=
  let value : Except ArgumentFault Taken :=
    match t.pending with
    | some (s, none) => .ok { t with pending := some (s, some argument) }
    | _ => .error (.unknownArgument argument)
  if t.trailing then .error (.unknownArgument argument)
  else
    match argument.toList with
    | ['-', '-'] => .ok { t with trailing := true }
    | '-' :: '-' :: body => t.takeLong body
    | ['-'] => value
    | '-' :: c :: rest => t.takeShort c rest
    | _ => value

/-- Fills in the settings that the environment gives and the arguments do not, in order. -/
def addEnvironment (t : Taken) (environment : Setting → Option String) :
    List Setting → Except ArgumentFault Taken
  | [] => .ok t
  | s :: rest => do
    let t ←
      match t.given.lookup s, environment s with
      | none, some value => t.give s (s.read value)
      | _, _ => .ok t
    t.addEnvironment environment rest

end Taken

/-- Reads arguments and environment: the settings that are given. -/
def readArguments (arguments : List String) (environment : Setting → Option String) :
    Except ArgumentFault (List (Setting × Given)) := do
  let taken ← arguments.foldlM Taken.take {}
  let taken ← taken.settle
  return (← taken.addEnvironment environment Setting.all).given

/-- The indentation of what the help says about a setting. -/
def indentation : String := "          "

/-- The help, which shows the environment too, in its styles. -/
def helpText (environment : Setting → Option String) : String :=
  let option (s : Setting) : List String :=
    let start :=
      match s.short with
      | some c => "  " ++ Text.asLiteral ("-" ++ String.singleton c) ++ ", "
      | none => "      "
    let value := if s.isSwitch then "" else " <" ++ s.placeholder ++ ">"
    let about :=
      s.help.toList ++
        ["[env: " ++ s.fullVariable ++ "=" ++ (environment s).getD "" ++ "]"] ++
        s.default?.toList.map fun value => "[default: " ++ value ++ "]"
    [start ++ Text.asLiteral ("--" ++ s.long) ++ value,
      indentation ++ (" ".intercalate about).replace "\n" ("\n" ++ indentation)]
  "\n".intercalate
    (["sqlweave - session pooling and typed SQL expression trees on top of SQLite", "",
      Text.asHeadline "Usage:" ++ " " ++ Text.asLiteral "sqlweave" ++ " [OPTIONS]", "",
      Text.asHeadline "Options:"] ++
      Setting.all.flatMap option ++
      ["  " ++ Text.asLiteral "-h" ++ ", " ++ Text.asLiteral "--help", indentation ++ "Print help"])

/-- The lines of the help as they are printed. -/
def helpLines (environment : Setting → Option String) : List String :=
  (Text.lines (Text.printed (helpText environment)).toList).map String.ofList

theorem read_help (environment : Setting → Option String) :
    readArguments ["--help"] environment = .error .help := by
  rfl

end PooledSql.Config
