import PooledSql.Sqlite.Formula.Basic
import PooledSql.Sqlite.Scanner

/-!
# Reading formulas

A formula is read by how tightly its operators bind: what stands on the left of an operator is
everything that binds more tightly than what comes before it, and what stands on the right is
everything that binds more tightly than the operator itself. Every unit that is taken allows a few
steps deeper, so a number of steps is given that no text can use up.
-/

namespace PooledSql.Sqlite.Formula

open Scanner

/-! ## Operators -/

/-- How tightly operators bind. -/
abbrev Level := Nat

/-- The level of a denial. -/
def notLevel : Level := 3

/-- The level of comparisons for equality and of tests. -/
def testLevel : Level := 4

/-- The level of the request for a collation. -/
def collationLevel : Level := 10

/-- The level of signs before a value. -/
def signLevel : Level := 11

/-- An operator between two values: how tightly it binds, and what it makes of them, given the unit
that it is. -/
structure BinaryOperator where
  level : Level
  combine : Lexeme → Formula → Formula → Formula

/-- An operator that is an operation of its own. -/
def BinaryOperator.plain (level : Level) (o : Operation) : BinaryOperator :=
  ⟨level, fun _ left right => .apply o 0 [left, right]⟩

/-- An operator that is the call of a function that goes by its name. -/
def BinaryOperator.calling (level : Level) : BinaryOperator :=
  ⟨level, fun l left right => .apply (.call (String.ofList l.spelling) {}) l.start [left, right]⟩

/-- The operators between two values. -/
def binaryOperators : List (String × BinaryOperator) :=
  [("OR", .plain 1 .or), ("AND", ⟨2, fun _ => conjunction⟩),
    ("=", .plain 4 (.compare .equal)), ("==", .plain 4 (.compare .equal)),
    ("<>", .plain 4 (.compare .notEqual)), ("!=", .plain 4 (.compare .notEqual)),
    ("<", .plain 5 (.compare .less)), ("<=", .plain 5 (.compare .lessOrEqual)),
    (">", .plain 5 (.compare .greater)), (">=", .plain 5 (.compare .greaterOrEqual)),
    ("&", .plain 6 .bitAnd), ("|", .plain 6 .bitOr), ("<<", .plain 6 .shiftLeft),
    (">>", .plain 6 .shiftRight), ("+", .plain 7 (.arithmetic .add)),
    ("-", .plain 7 (.arithmetic .subtract)), ("*", .plain 8 (.arithmetic .multiply)),
    ("/", .plain 8 (.arithmetic .divide)), ("%", .plain 8 (.arithmetic .remainder)),
    ("||", .plain 9 .concatenate), ("->", .calling 9), ("->>", .calling 9)]

/-- The operators that bind at least as tightly as a level. -/
def operatorsFrom (level : Level) : List (String × BinaryOperator) :=
  binaryOperators.filter fun o => level ≤ o.2.level

/-- The level of what stands on the right of an operator. -/
def BinaryOperator.right (o : BinaryOperator) : Level := o.level + 1

/-! ## Units -/

/-- A word that starts a sub-query. -/
def startsQuery (l : Lexeme) : Bool :=
  l.isSpelled "SELECT" || l.isSpelled "VALUES" || l.isSpelled "WITH"

/-- The words that stand for the time. -/
def timeWords : List String := ["CURRENT_DATE", "CURRENT_TIME", "CURRENT_TIMESTAMP"]

/-- A unit that can start a value. -/
def startsValue (l : Lexeme) : Bool :=
  l.kind == .constant || l.isReference ||
    ["(", "+", "-", "~", "NOT", "EXISTS", "CASE", "NULL"].any l.isSpelled

/-- The bytes that a unit stands for. -/
def byteString (l : Lexeme) : Datum :=
  .blob ((Text.Hex.decode (l.spelling.drop 2).dropLast).getD [])

/-- How a name is written. -/
def styleOf (l : Lexeme) : NameStyle :=
  if l.kind = .word then .bare
  else if l.spelling.head? = some '"' then .doubleQuoted
  else .quoted

/-- What a number with marks is refused for: the last mark that does not stand between two digits.
The marks before it are gone from what is reported. -/
def misplacedMark? (spelling : List Char) : Option (List Char) :=
  let isDigit : Char → Bool :=
    match spelling with
    | '0' :: x :: _ => if x = 'x' ∨ x = 'X' then isHexDigit else Char.isDigit
    | _ => Char.isDigit
  let rec go (before : Option Char) (kept : List Char) (found : Option (List Char)) :
      List Char → Option (List Char)
    | [] => found
    | c :: rest =>
      if c ≠ digitMark then go (some c) (kept ++ [c]) found rest
      else
        let isBetween := (before.map isDigit).getD false && (rest.head?.map isDigit).getD false
        let found :=
          if isBetween then found
          else some (kept ++ spelling.drop kept.length)
        go (some c) kept found rest
  go none [] none spelling

/-- The formula of a number. -/
def numeral (l : Lexeme) : Scanner Formula := do
  (misplacedMark? l.spelling).forM fun s => complain (.unrecognized (String.ofList s)) none
  return .number l.spelling l.start

/-- The greatest number of a parameter. -/
def mostParameters : Nat := 32766

/-- The formula of a parameter. -/
def parameterOf (l : Lexeme) : Scanner Formula := do
  match l.spelling with
  | '?' :: d :: digits =>
    let n := Numeral.digitsValue (d :: digits)
    if n = 0 ∨ mostParameters < n then complain .parameterNumber (some l.start)
  | '#' :: d :: _ =>
    if d.isDigit then complain (.unexpected (String.ofList l.spelling)) (some l.start)
  | _ => pure ()
  return .parameter l.start

/-- How many columns a sub-query gives that starts some units. -/
def queryWidth (units : List Lexeme) : Nat :=
  let rec ofList (depth n : Nat) : List Lexeme → Nat
    | [] => n
    | l :: rest =>
      if l.isSpelled "(" then ofList (depth + 1) n rest
      else if l.isSpelled ")" then if depth = 0 then n else ofList (depth - 1) n rest
      else if depth = 0 && ["FROM", "WHERE", "GROUP", "HAVING", "ORDER", "LIMIT", "UNION", "EXCEPT",
          "INTERSECT"].any l.isSpelled then n
      else if depth = 0 && l.isSpelled "," then ofList depth (n + 1) rest
      else ofList depth n rest
  let rec start (depth : Nat) : List Lexeme → Nat
    | [] => 1
    | l :: rest =>
      if l.isSpelled "(" then start (depth + 1) rest
      else if l.isSpelled ")" then start (depth - 1) rest
      else if depth = 0 && l.isSpelled "SELECT" then ofList 0 1 rest
      else if depth = 0 && l.isSpelled "VALUES" then ofList 0 1 (rest.drop 1)
      else start depth rest
  start 0 units

/-! ## Types -/

/-- A number in the parentheses of a type. -/
def typeWidth : Scanner Lexeme := do
  let _ ← take? fun l => l.isSpelled "+" || l.isSpelled "-"
  take Lexeme.isPlainNumber

/-- The words of a type. -/
def typeWords : Nat → Scanner (List Lexeme)
  | 0 => refuseEnd
  | n + 1 => do
    match ← take? Lexeme.isName with
    | some l => return l :: (← typeWords n)
    | none => return []

/-- A type, which may be missing: its first word and its last unit, and its words. -/
def typeName (n : Nat) : Scanner (Option (Lexeme × Lexeme) × List Lexeme) := do
  let words ← typeWords n
  match words.head?, words.getLast? with
  | some first, some last =>
    if ← skip? "(" then
      let _ ← typeWidth
      if ← skip? "," then
        let _ ← typeWidth
      let closing ← take fun l => l.isSpelled ")"
      return (some (first, closing), words)
    else return (some (first, last), words)
  | _, _ => return (none, words)

/-! ## Parts -/

/-- A test that may be denied. -/
inductive Test
  | between
  | among
  /-- The call of the function that has the name of the word. -/
  | call
deriving DecidableEq, Repr

/-- The words of the tests that may be denied. -/
def tests : List (String × Test) :=
  [("BETWEEN", .between), ("IN", .among), ("LIKE", .call), ("GLOB", .call), ("MATCH", .call),
    ("REGEXP", .call)]

/-- A denial of a formula, or the formula. -/
def deniedIf (negated : Bool) (f : Formula) : Formula :=
  if negated then .apply .not 0 [f] else f

/-- Two values are the same. -/
def sameAs (negated : Bool) (left : Formula) : Formula → Formula
  | .literal .null _ => .apply (.absent negated) 0 [left]
  | right => .apply (.same negated) 0 [left, right]

/-- A sign in front of a formula. It takes the place of a plus that is there already. -/
def signed (o : Operation) : Formula → Formula
  | .apply .plus _ [part] => .apply o 0 [part]
  | part => .apply o 0 [part]

/-- A value is among the members of a list, or it is not. -/
def membership (negated : Bool) (left : Formula) (members : List Formula) : Scanner Formula := do
  match left, members with
  | _, [] => return .truth negated
  | left, [.query _ width] => return .query left.start? width
  | .tuple parts, members =>
    let wanted := parts.length
    let valueCount : Formula → Nat
      | .tuple ps => ps.length
      | _ => 1
    (members.find? fun m => valueCount m != wanted).forM fun m =>
      complain (.memberWidth (valueCount m) wanted) none
    return .query none wanted
  | left, [member] =>
    let f : Formula :=
      if member.isPlain then .apply (.compare .equal) 0 [left, .apply .plus 0 [member.settled]]
      else .apply .among 0 [left, member]
    return deniedIf negated f
  | left, members => return deniedIf negated (.apply .among 0 (left :: members))

/-- The most arguments that a call may have. -/
def mostArguments : Nat := 1000

/-- The call of a function, by the unit that names it. -/
def callOf (l : Lexeme) (manner : CallManner) (isDistinct : Bool) (arguments : List Formula) :
    Scanner Formula := do
  if mostArguments < arguments.length then
    complain (.tooManyArguments (String.ofList l.spelling)) (some l.start)
  if manner.isWindowed then
    if isDistinct then complain .distinctWindow none
    if manner.isOrdered && !arguments.isEmpty then complain (.orderedCall l.content) none
  let isOrdered := manner.isOrdered && !arguments.isEmpty && !manner.isWindowed
  return .apply (.call l.content { manner with isOrdered }) l.start arguments

/-- The ways in which another program can end. -/
def endings : List String := ["ROLLBACK", "ABORT", "FAIL"]

/-- The words that the frame of a window starts with. -/
def frameWords : List String := ["RANGE", "ROWS", "GROUPS"]

/-- A word that narrows a call comes next, and what makes it one. -/
def narrows (word : String) (next : Lexeme → Bool) : Scanner Bool := do
  if ← sees fun l => l.isWord word then foresees next else return false

/-! ## Formulas -/

mutual

/-- A formula whose operators bind at least as tightly as a level. -/
def expression : Nat → Level → Scanner Formula
  | 0, _ => refuseEnd
  | n + 1, level => do extended n level (← operand n)

/-- A value, and the operators after it that bind at least as tightly as a level. -/
def extended : Nat → Level → Formula → Scanner Formula
  | 0, _, _ => refuseEnd
  | n + 1, level, left => do
    let operators := operatorsFrom level
    match ← take? fun l => operators.any fun o => l.isSpelled o.1 with
    | some l =>
      match operators.lookup l.capitals with
      | some o =>
        let right ← expression n o.right
        extended n level (o.combine l left right)
      | none => return left
    | none =>
      match ← collation? n level left with
      | some f => extended n level f
      | none =>
        if testLevel < level then return left
        else
          match ← test? n left with
          | some f => extended n level f
          | none => return left

/-- A value with a request for a collation. -/
def collation? : Nat → Level → Formula → Scanner (Option Formula)
  | 0, _, _ => refuseEnd
  | _ + 1, level, left => do
    if collationLevel < level then return none
    else if ← skip? "COLLATE" then
      return some (.collated (← take Lexeme.isName).content left)
    else return none

/-- A value with a test. -/
def test? : Nat → Formula → Scanner (Option Formula)
  | 0, _ => refuseEnd
  | n + 1, left => do
    if ← skip? "ISNULL" then return some (.apply (.absent false) 0 [left])
    else if ← skip? "NOTNULL" then return some (.apply (.absent true) 0 [left])
    else if ← skip? "IS" then
      let negated ← skip? "NOT"
      if ← skip? "DISTINCT" then
        skip "FROM"
        return some (sameAs (!negated) left (← expression n (testLevel + 1)))
      else return some (sameAs negated left (← expression n (testLevel + 1)))
    else
      let negated ← skip? "NOT"
      let isAbsence ← if negated then skip? "NULL" else pure false
      let isTest ← sees fun l => tests.any fun t => l.isSpelled t.1
      if isAbsence then return some (.apply (.absent true) 0 [left])
      else if negated || isTest then
        let l ← take fun l => tests.any fun t => l.isSpelled t.1
        match tests.lookup l.capitals with
        | some t => return some (← testOf n negated l t left)
        | none => return none
      else return none

/-- The rest of a test that may be denied, after its word. -/
def testOf : Nat → Bool → Lexeme → Test → Formula → Scanner Formula
  | 0, _, _, _, _ => refuseEnd
  | n + 1, negated, l, t, left => do
    match t with
    | .between =>
      let low ← disjunction n (← expression n notLevel)
      skip "AND"
      let high ← expression n (testLevel + 1)
      return deniedIf negated (.apply .between 0 [left, low, high])
    | .among => members n negated left
    | .call =>
      let name := String.ofList l.spelling
      let pattern ← expression n (testLevel + 1)
      let escape ← if ← skip? "ESCAPE" then pure [← expression n (testLevel + 1)] else pure []
      return deniedIf negated (.apply (.call name {}) l.start (pattern :: left :: escape))

/-- More alternatives to a formula. -/
def disjunction : Nat → Formula → Scanner Formula
  | 0, _ => refuseEnd
  | n + 1, left => do
    if ← skip? "OR" then disjunction n (.apply .or 0 [left, ← expression n 2]) else return left

/-- What a value is looked for in. -/
def members : Nat → Bool → Formula → Scanner Formula
  | 0, _, _ => refuseEnd
  | n + 1, negated, left => do
    if ← skip? "(" then
      if ← sees startsQuery then return .query left.start? (← subquery n)
      else membership negated left (← closedList n)
    else
      let _ ← take Lexeme.isReference
      if ← skip? "." then
        let _ ← take Lexeme.isReference
      if ← skip? "(" then
        let _ ← closedList n
      return .query left.start? 1

/-- A sub-query up to the parenthesis that closes it, and how many columns it gives. -/
def subquery : Nat → Scanner Nat
  | 0 => refuseEnd
  | n + 1 => do
    let width := queryWidth (← get).units
    skipGroup n 1
    return width

/-- Formulas with commas between them, or none, up to the parenthesis that closes them. -/
def closedList : Nat → Scanner (List Formula)
  | 0 => refuseEnd
  | n + 1 => do
    if ← skip? ")" then return []
    else
      let parts ← listOf (expression n 1) n
      skip ")"
      return parts

/-- A value. -/
def operand : Nat → Scanner Formula
  | 0 => refuseEnd
  | n + 1 => do
    let l ← take startsValue
    if l.isSpelled "(" then group n
    else if l.isSpelled "NOT" then return .apply .not 0 [← expression n notLevel]
    else if l.isSpelled "+" then return signed .plus (← expression n signLevel)
    else if l.isSpelled "~" then return .apply .invert 0 [← expression n signLevel]
    else if l.isSpelled "-" then return signed .minus (← expression n signLevel)
    else if l.isSpelled "EXISTS" then
      skip "("
      let _ ← take startsQuery
      skipGroup n 1
      return .query none 1
    else if l.isSpelled "CASE" then
      let given ← sees fun l => !l.isSpelled "WHEN"
      let first ← if given then pure [← expression n 1] else pure []
      return .apply (.choose given) 0 (first ++ (← cases n))
    else if l.isSpelled "NULL" then return .literal .null l.start
    else if l.isNumber then numeral l
    else if l.isBytes then return .literal (byteString l) l.start
    else if l.kind = .constant then parameterOf l
    else if l.isWord "CAST" then conversion n
    else if l.isWord "RAISE" then ending n
    else if timeWords.contains l.capitals && l.kind == .word then
      return .apply (.call l.content {}) l.start []
    else if l.kind = .text then
      if ← sees fun d => d.isSpelled "." then qualified n [] l
      else return .literal (.ofText l.content) l.start
    else if ← skip? "(" then call n l
    else qualified n [] l

/-- What is in parentheses. -/
def group : Nat → Scanner Formula
  | 0 => refuseEnd
  | n + 1 => do
    if ← sees startsQuery then return .query none (← subquery n)
    else
      let parts ← listOf (expression n 1) n
      skip ")"
      match parts with
      | [part] => return part
      | parts => return .tuple parts

/-- Conditions with their values, and the value that goes with none of them. -/
def cases : Nat → Scanner (List Formula)
  | 0 => refuseEnd
  | n + 1 => do
    skip "WHEN"
    let condition ← expression n 1
    skip "THEN"
    let v ← expression n 1
    if ← skip? "ELSE" then
      let other ← expression n 1
      skip "END"
      return [condition, v, other]
    else if ← skip? "END" then return [condition, v]
    else return condition :: v :: (← cases n)

/-- A conversion to a type. -/
def conversion : Nat → Scanner Formula
  | 0 => refuseEnd
  | n + 1 => do
    skip "("
    let part ← expression n 1
    skip "AS"
    let (_, words) ← typeName n
    skip ")"
    return .cast (" ".intercalate (words.map Lexeme.content)) part

/-- The end of what another program does. -/
def ending : Nat → Scanner Formula
  | 0 => refuseEnd
  | n + 1 => do
    skip "("
    let l ← take fun l => ("IGNORE" :: endings).any l.isSpelled
    let parts ←
      if l.isSpelled "IGNORE" then pure []
      else do
        skip ","
        pure [← expression n 1]
    skip ")"
    return .apply .raise 0 parts

/-- The call of a function. -/
def call : Nat → Lexeme → Scanner Formula
  | 0, _ => refuseEnd
  | n + 1, l => do
    let isStar ← skip? "*"
    let isDistinct ←
      if isStar then pure false
      else do pure ((← choose? [("DISTINCT", true), ("ALL", false)]).getD false)
    let isEmpty ← sees fun l => isStar || l.isSpelled ")" || l.isSpelled "ORDER"
    let arguments ← if isEmpty then pure [] else listOf (expression n 1) n
    let isOrdered ← if isStar then pure false else skip? "ORDER"
    if isOrdered then
      skip "BY"
      sortTerms n
    skip ")"
    let isFiltered ← narrows "FILTER" fun l => l.isSpelled "("
    if isFiltered then filter n
    let isWindowed ← narrows "OVER" fun l => l.isSpelled "(" || l.isName
    if isWindowed then window n
    callOf l { isOrdered, isFiltered, isWindowed } isDistinct arguments

/-- The rows that count in a call. -/
def filter : Nat → Scanner Unit
  | 0 => refuseEnd
  | n + 1 => do
    skip "FILTER"
    skip "("
    skip "WHERE"
    let _ ← expression n 1
    skip ")"

/-- Terms to sort by. -/
def sortTerms : Nat → Scanner Unit
  | 0 => refuseEnd
  | n + 1 => do
    let item : Scanner Unit := do
      let _ ← expression n 1
      let _ ← choose? [("ASC", ()), ("DESC", ())]
      if ← skip? "NULLS" then choose [("FIRST", ()), ("LAST", ())]
    let _ ← listOf item n

/-- The window that a call works on: its name, or what it is. -/
def window : Nat → Scanner Unit
  | 0 => refuseEnd
  | n + 1 => do
    skip "OVER"
    if ← skip? "(" then
      let isNamed ← sees fun l =>
        l.isReference && !(l.kind == .word && ("PARTITION" :: frameWords).contains l.capitals)
      if isNamed then
        let _ ← take Lexeme.isReference
      if ← skip? "PARTITION" then
        skip "BY"
        let _ ← listOf (expression n 1) n
      if ← skip? "ORDER" then
        skip "BY"
        sortTerms n
      if ← sees fun l => frameWords.any l.isSpelled then skipGroup n 1 else skip ")"
    else
      let _ ← take Lexeme.isReference

/-- A name, after some that qualify it. -/
def qualified : Nat → List Lexeme → Lexeme → Scanner Formula
  | 0, _, _ => refuseEnd
  | n + 1, before, l => do
    let goesOn ← if before.length < 2 then skip? "." else pure false
    if goesOn then
      qualified n (before ++ [l]) (← take Lexeme.isReference)
    else
      let first := before.head?.getD l
      return .named (before.map Lexeme.content) l.content (styleOf l) first.start

end

/-- How many steps a reading takes at most: some for each unit that is left. -/
def enoughSteps : Scanner Nat := do
  return 8 * (← get).units.length + 8

/-- Any formula. One that is too high is refused. -/
def read : Scanner Formula := do
  let f ← expression (← enoughSteps) 1
  if greatestHeight < f.height then complain .tooDeep none
  return f

end PooledSql.Sqlite.Formula
