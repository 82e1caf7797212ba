import PooledSql.Config.Number
import PooledSql.Log
import PooledSql.Log.ValuePattern
import PooledSql.Text.Utf8

/-!
# Choosing log lines

A filter is a list of directives, separated by commas: a level for everything, or a target with its
level (with none, everything of that target). In brackets, a directive may name a span, or a field
that an event has to have. What is no directive is complained about and has no effect. The directive
with the longest target that an event's target starts with decides; an event without one is left
out.

The places within a directive are counted without the white space in front of it, but its parts are
taken at these places from the text with it. So white space in front spoils all parts, and the
reading breaks off where such a place is within a character.
-/

namespace PooledSql

/-- What is let through of the targets that start with `target`: events up to a rank. -/
structure Directive where
  target : String := ""
  greatest : Nat
  /-- It is about the insides of spans only. -/
  isConfined : Bool := false
  /-- The fields that an event has to have. -/
  fields : List String := []
deriving DecidableEq, Repr

/-- Why a directive is refused. -/
inductive DirectiveFault
  | malformed
  | unknownLevel
  /-- A part of it starts or ends within a character. -/
  | torn
  /-- The value of a field is asked for by what is no pattern. -/
  | badValue (fault : ValuePattern.PatternFault)
deriving DecidableEq, Repr

/-- The words of a refused directive. -/
def DirectiveFault.message : DirectiveFault → String
  | .unknownLevel => "error parsing level filter: expected one of \"off\", \"error\", \"warn\", " ++
    "\"info\", \"debug\", \"trace\", or a number 0-5"
  | .badValue fault => "invalid field filter: " ++ fault.message
  | .malformed | .torn => "invalid filter directive"

/-! ## Levels -/

/-- The names of levels, each with the rank up to which it lets events through. -/
def levelNames : List (String × Nat) :=
  [("off", 0), ("error", 1), ("warn", 2), ("info", 3), ("debug", 4), ("trace", 5)]

/-- The rank of everything. -/
def greatestRank : Nat := 5

/-- The rank up to which a named or numbered level lets events through. -/
def levelNamed? (s : String) : Option Nat :=
  match Config.readNatural greatestRank s with
  | .ok n => some n
  | .error _ => levelNames.lookup (s.map Char.toLower)

/-! ## Directives -/

/-- A character that a directive may start with, if it does not start with a bracket. -/
def isDirectiveStart (c : Char) : Bool :=
  Text.isAlphabetic c || Text.isNumeric c || ['-', ':', '_'].contains c

/-- Where the reading of a directive stands, and the place, in bytes, from which on it takes what
comes. -/
inductive DirectiveStage
  | start
  /-- In a level or a target. -/
  | word (place : Nat)
  /-- In the name of a span. -/
  | span (place : Nat)
  /-- In a field. -/
  | field (place : Nat)
  | afterField
  | afterSpan
  | level (place : Nat)

/-- A directive as far as it is read. -/
structure DirectiveDraft where
  stage : DirectiveStage := .start
  target : String := ""
  isConfined : Bool := false
  fields : List String := []

namespace DirectiveDraft

/-- Goes on to another stage. -/
def goOn (d : DirectiveDraft) (stage : DirectiveStage) : Except DirectiveFault DirectiveDraft :=
  .ok { d with stage }

/-- The part of a text between two places. -/
def part (text : List Char) (start stop : Nat) : Except DirectiveFault String :=
  match Text.Utf8.slice? start stop text with
  | some s => .ok (String.ofList s)
  | none => .error .torn

/-- Adds a field; with a value, which a second sign of equality ends, it is one that only spans are
asked for. -/
def addField (d : DirectiveDraft) (field : String) : Except DirectiveFault DirectiveDraft :=
  match field.toList with
  | [] => .error .malformed
  | s =>
    let named := { d with
      stage := .afterField
      fields := d.fields ++ [String.ofList (s.takeWhile (· != '='))] }
    match s.dropWhile (· != '=') with
    | [] => .ok named
    | _ :: value =>
      match ValuePattern.valueFault? (value.takeWhile (· != '=')) with
      | some fault => .error (.badValue fault)
      | none => .ok { named with isConfined := true }

/-- Takes the character at a place. -/
def take (text : List Char) (d : DirectiveDraft) (place : Nat) (c : Char) :
    Except DirectiveFault DirectiveDraft :=
  let next := place + 1
  match d.stage with
  | .start =>
    if c = '[' then d.goOn (.span next)
    else if isDirectiveStart c then d.goOn (.word place)
    else .error .malformed
  | .word start =>
    if c = '=' then do return { d with stage := .level next, target := ← part text start place }
    else if c = '[' then do return { d with stage := .span next, target := ← part text start place }
    else .ok d
  | .span start =>
    if c = ']' then do
      let _ ← part text start place
      return { d with stage := .afterSpan, isConfined := true }
    else if c = '\x7b' then do
      return { d with stage := .field next, isConfined := (← part text start place) != "" }
    else .ok d
  | .field start => if c = '\x7d' then do d.addField (← part text start place) else .ok d
  | .afterField => if c = ']' then d.goOn .afterSpan else .error .malformed
  | .afterSpan => if c = '=' then d.goOn (.level next) else .error .malformed
  | .level _ => .ok d

/-- Takes the characters from a place on. -/
def takeAll (text : List Char) (d : DirectiveDraft) (place : Nat) :
    List Char → Except DirectiveFault DirectiveDraft
  | [] => .ok d
  | c :: rest => do takeAll text (← d.take text place c) (place + c.utf8Size) rest

/-- The directive with a level. -/
def withLevel (d : DirectiveDraft) (greatest : Nat) : Directive :=
  ⟨d.target, greatest, d.isConfined, d.fields⟩

/-- The directive, if it may end here. -/
def finish (text : List Char) (d : DirectiveDraft) : Except DirectiveFault Directive :=
  let rest (start : Nat) := part text start (Text.Utf8.byteCount text)
  match d.stage with
  | .word start => do
    let s ← rest start
    match levelNamed? s with
    | some greatest => return d.withLevel greatest
    | none => return { d.withLevel greatestRank with target := s }
  | .level start => do
    let s ← rest start
    if s.isEmpty then return d.withLevel greatestRank
    else
      match levelNamed? s with
      | some greatest => return d.withLevel greatest
      | none => throw .unknownLevel
  | .afterSpan => .ok (d.withLevel greatestRank)
  | _ => .error .malformed

end DirectiveDraft

/-- Reads a directive. -/
def Directive.read (s : String) : Except DirectiveFault Directive := do
  (← DirectiveDraft.takeAll s.toList {} 0 (Text.trimBlank s.toList)).finish s.toList

/-! ## Filters -/

/-- The parts of a filter that are to be directives. -/
def filterParts (s : String) : List String := (s.splitOn ",").filter (· != "")

/-- The complaint about a part of a filter that is no directive. -/
def directiveComplaint (part : String) (fault : DirectiveFault) : String :=
  "ignoring `" ++ part ++ "`: " ++ fault.message

/-- The directives among some parts of a filter, unless the reading breaks off, and the complaints
about the others. -/
def readParts : List String → Option (List Directive) × List String
  | [] => (some [], [])
  | part :: rest =>
    let (directives, complaints) := readParts rest
    match Directive.read part with
    | .ok d => (directives.map (d :: ·), complaints)
    | .error .torn => (none, [])
    | .error fault => (directives, directiveComplaint part fault :: complaints)

/-- The directives of a filter, unless the reading breaks off, and the complaints about the parts
that are none. Without any directive, errors are let through. -/
def readFilter (s : String) : Option (List Directive) × List String :=
  let (directives, complaints) := readParts (filterParts s)
  (directives.map fun d => if d.isEmpty then [{ greatest := 1 }] else d, complaints)

/-! ## Choosing -/

/-- The fields that an event has. -/
def eventFields : List String := ["message"]

/-- A directive is about events of a target. -/
def Directive.isAbout (d : Directive) (target : String) : Bool :=
  !d.isConfined && d.target.toList.isPrefixOf target.toList && d.fields.all eventFields.contains

/-- The longer of two directives' targets decides; of equals, the greater number of fields, and else
the later directive. -/
def Directive.better (best : Option Directive) (d : Directive) : Option Directive :=
  match best with
  | none => some d
  | some b =>
    let isLess := d.target.length < b.target.length ∨
      (d.target.length = b.target.length ∧ d.fields.length < b.fields.length)
    if isLess then some b else some d

/-- The directive that decides about a target. -/
def deciding? (filter : List Directive) (target : String) : Option Directive :=
  (filter.filter fun d => d.isAbout target).foldl Directive.better none

/-- The event is let through. -/
def admits (filter : List Directive) (e : LogEvent) : Bool :=
  match deciding? filter e.target with
  | none => false
  | some d => decide (e.level.rank ≤ d.greatest)

end PooledSql
