import PooledSql.Sqlite.Formula.Basic
import PooledSql.Sqlite.Function.Catalog

/-!
# What formulas are refused for

When a table is created, its formulas are looked at as far as names, functions and numbers of values
go. A formula is gone through from the left to the right, and what is found last is reported. Once
something was found, most parts are not looked into any more, but some, such as the arguments of
functions, are.
-/

namespace PooledSql.Sqlite

/-- The formulas of a place, as messages call them. -/
def Place.formulas : Place → String
  | .check => "CHECK constraints"
  | .generator => "generated columns"
  | .index => "index expressions"

namespace Formula

/-- What can be wrong with a formula: where it stands, and which names mean something there. -/
structure Checker where
  place : Place
  isKnown : List String → String → Bool

/-- What was found wrong so far, of which the last counts, and whether the search goes on. -/
structure Findings where
  last : Option Refusal
  goesOn : Bool := true

/-- Nothing more is found in a part of a formula itself. What is below it is not looked at once
something was found. -/
def Findings.passing (found : Option Refusal) : Findings := ⟨found, found.isNone⟩

namespace Checker

/-- What is wrong with a name. The database in front of one does not matter in a condition. -/
def checkName (c : Checker) (qualifiers : List String) (name : String) (style : NameStyle)
    (start : Nat) (found : Option Refusal) : Findings :=
  let isText := style == .doubleQuoted
  let isTruth := style == .bare && (truthWord? name).isSome
  let shown := if c.place = .check then qualifiers.drop (qualifiers.length - 1) else qualifiers
  if c.isKnown qualifiers name || (qualifiers.isEmpty && (isText || isTruth)) then
    if c.place ≠ .check ∧ qualifiers ≠ [] then
      ⟨some ⟨.prohibited "the \".\" operator" c.place.formulas, some start⟩, true⟩
    else ⟨found, true⟩
  else ⟨some ⟨.noSuchColumn (".".intercalate (shown ++ [name])), some start⟩, false⟩

/-- A probability is a number with a point or an exponent, and not greater than one. -/
def isProbability : Formula → Bool
  | .number spelling _ =>
    match numberValue false spelling with
    | .real d =>
      (unmarked spelling).any (fun c => c == '.' || c == 'e' || c == 'E') &&
        d.rank ≤ (Double.ofInt 1).rank
    | _ => false
  | _ => false

/-- What is wrong with the call of a function, in the order in which it is found. -/
def callFaults (c : Checker) (name : String) (manner : CallManner) (start : Nat)
    (parts : List Formula) : List Refusal :=
  let at_ (fault : StatementFault) : Refusal := ⟨fault, some start⟩
  let found := Routine.find? name parts.length
  let isWrong : Bool :=
    match parts with
    | [_, p] => name.map Char.toLower == Routine.probabilityName && !isProbability p
    | _ => false
  let isProhibited := (found.any fun f => !f.isSteady) && c.place != .check
  let manners : Option Refusal :=
    match found with
    | none =>
      if !Routine.isName name then some (at_ (.noSuchFunction name))
      else if manner.isWindowed && !Routine.isNameOfRows name then some (at_ (.noWindow name))
      else some (at_ (.argumentCount name))
    | some f =>
      if manner.isWindowed && !f.isOfRows then some (at_ (.noWindow name))
      else if f.isOfRows then
        some (at_ (if f.isOfWindow || manner.isWindowed then .misusedWindow name
          else .misusedAggregate name))
      else if manner.isFiltered then some (at_ (.filteredCall name))
      else if manner.isOrdered then some ⟨.orderedCall name, none⟩
      else none
  (if isWrong then [at_ (.wrongProbability name)] else []) ++
    (if isProhibited then
      [at_ (.prohibited "non-deterministic functions" c.place.formulas)] else []) ++
    manners.toList

/-- Values are compared with others of another number. -/
def isUneven (parts : List Formula) : Bool :=
  parts.any fun p => p.width != ((parts.head?.map width).getD 1)

/-- A comparison of rows that are not of the same width. -/
def checkWidths (parts : List Formula) (found : Option Refusal) : Option Refusal :=
  if isUneven parts then some ⟨.misusedRow, parts.head?.bind start?⟩ else found

mutual

/-- Looks for something wrong in a formula, given what was found before. A name on the right of an
`IS` comes first, as it may be a truth value. -/
def inspect (c : Checker) (found : Option Refusal) : Formula → Findings
  | .literal _ _ => .passing found
  | .number _ _ => .passing found
  | .truth _ => .passing found
  | .named qualifiers name style start => c.checkName qualifiers name style start found
  | .apply (.call name manner) start parts =>
    let found := (c.callFaults name manner start parts).getLast? <|> found
    { inspectAll c found parts with goesOn := true }
  | .apply (.same _) _ [part, other] =>
    match other.uncollated with
    | .truth _ => .passing (inspect c found part).last
    | .named [] name style start =>
      let findings := c.checkName [] name style start found
      let isTruth := style == .bare && (truthWord? name).isSome && !c.isKnown [] name
      if !findings.goesOn then findings
      else
        let found := if isTruth then findings.last else checkWidths [part, other] findings.last
        if found.isSome && !isTruth then .passing found
        else .passing (inspect c found part).last
    | _ =>
      let found := checkWidths [part, other] found
      if found.isSome then .passing found else inspectAll c found [part, other]
  | .apply (.absent _) _ parts => { inspectAll c found parts with goesOn := true }
  | .apply o _ parts =>
    let found :=
      match o with
      | .compare _ => checkWidths parts found
      | .between => checkWidths parts found
      | _ => found
    if found.isSome then .passing found else inspectAll c found parts
  | .collated _ part => if found.isSome then .passing found else inspect c found part
  | .cast _ part => if found.isSome then .passing found else inspect c found part
  | .query start _ => ⟨some ⟨.prohibited "subqueries" c.place.formulas, start⟩, false⟩
  | .parameter start => ⟨some ⟨.prohibited "parameters" c.place.formulas, some start⟩, false⟩
  | .tuple parts => if found.isSome then .passing found else inspectAll c found parts

/-- Looks for something wrong in some formulas. -/
def inspectAll (c : Checker) (found : Option Refusal) : List Formula → Findings
  | [] => ⟨found, true⟩
  | part :: rest =>
    let findings := inspect c found part
    if findings.goesOn then inspectAll c findings.last rest else findings

end

/-- What a formula is refused for, given what others were refused for. A column that makes its
values from those of another one alone does so with a sign in front of it. -/
def fault? (c : Checker) (found : Option Refusal) (f : Formula) : Option Refusal :=
  match f with
  | .named [] _ _ _ =>
    if c.place = .generator && found.isSome then found else (c.inspect found f).last
  | f => (c.inspect found f).last

end Checker

end Formula

end PooledSql.Sqlite
