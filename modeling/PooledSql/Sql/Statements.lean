import PooledSql.Sql.Encoding
import PooledSql.Sql.Lexer

/-!
# Checking text before it is sent

A text is split into tokens first; then one pass over them counts its statements, which are `SELECT`
and one operand, maybe with a label, separated by semicolons. The first token that cannot stand
where it is ends the pass, and so does the first construct that is nested too deeply.

Conditions are not read again from their text: they are well formed by construction, and the only
way in which a parser refuses one is that it is nested too deeply.
-/

namespace PooledSql.Sql

/-- How deeply constructs may be nested. -/
def nestingLimit : Nat := 50

/-- How many constructs are open at the operand of a statement: the statement, its query and the
operand itself. -/
def operandNesting : Nat := 3

/-! ## Statements -/

/-- Where the pass stands. -/
inductive Stage
  /-- Before a statement. -/
  | between
  /-- Before the operand, inside some parentheses and behind some signs. -/
  | operand (opened signs : Nat)
  /-- After the operand, with some parentheses still open. -/
  | closing (opened : Nat)
  /-- After a statement that may yet have a label or not. -/
  | complete (labelled : Bool)
  /-- Where nothing is read any more. -/
  | over
deriving DecidableEq, Repr

/-- A word in upper case, or nothing for any other token. -/
def keyword : Token → String
  | .word s => s.map Char.toUpper
  | _ => ""

/-- A token that is an operand by itself. -/
def isOperand : Token → Bool
  | .number _ => true
  | .text _ => true
  | .name _ => true
  | .bytes _ => true
  | .word s => !(["SELECT", "FROM", "WHERE"].contains (s.map Char.toUpper))
  | .sign _ => false

/-- The words that go on with a statement and so are no labels. -/
def continuations : List String :=
  ["ANALYZE", "AND", "AS", "AT", "BETWEEN", "CLUSTER", "COLLATE", "DISTRIBUTE", "DIV", "END",
    "EXCEPT", "EXCLUDE", "EXPLAIN", "FETCH", "FROM", "GROUP", "HAVING", "ILIKE", "IN", "INTERSECT",
    "INTO", "IS", "ISNULL", "LATERAL", "LIKE", "LIMIT", "MINUS", "NOT", "NOTNULL", "OFFSET", "OR",
    "ORDER", "OVERLAPS", "REGEXP", "RETURNING", "RLIKE", "SELECT", "SIMILAR", "SORT", "TOP",
    "UNION", "VIEW", "WHERE", "WITH", "XOR"]

/-- A token that can be the label of an operand. -/
def isLabel : Token → Bool
  | .word s => !continuations.contains (s.map Char.toUpper)
  | .name _ => true
  | .text _ => true
  | _ => false

/-- What had to stand where something else did, or where the text ended. -/
def Stage.expected : Stage → String
  | .between => "an SQL statement"
  | .operand _ _ => "an expression"
  | .closing _ => ")"
  | .complete _ => "end of statement"
  | .over => ""

/-- The fault of a token that cannot stand at a stage. -/
def Stage.fault (s : Stage) (found : Option Located) : ParseFault :=
  match s, found with
  | .between, some l =>
    let what :=
      if keyword l.token = "FROM" then "SELECT, VALUES, or a subquery in the query body"
      else s.expected
    .expected what (some (String.ofList l.token.spell, l.place))
  | s, some l => .expected s.expected (some (String.ofList l.token.spell, l.place))
  | s, none => .expected s.expected none

/-- Before an operand, unless that is nested too deeply. -/
def Stage.deeper (opened signs : Nat) : Except ParseFault Stage :=
  if operandNesting + opened + signs ≤ nestingLimit then .ok (.operand opened signs)
  else .error .tooDeep

/-- The stage after a token, if the token can stand there. -/
def Stage.next (l : Located) (s : Stage) : Except ParseFault Stage :=
  let only (isRight : Bool) (after : Stage) : Except ParseFault Stage :=
    if isRight then .ok after else .error (s.fault (some l))
  match s with
  | .between =>
    if l.token = .sign ";" then .ok .between
    else only (keyword l.token == "SELECT") (.operand 0 0)
  | .operand opened signs =>
    if l.token = .sign "(" then deeper (opened + 1) signs
    else if l.token = .sign "-" ∨ l.token = .sign "+" then deeper opened (signs + 1)
    else only (isOperand l.token) (if opened = 0 then .complete false else .closing opened)
  | .closing opened =>
    only (l.token == .sign ")") (if opened ≤ 1 then .complete false else .closing (opened - 1))
  | .complete labelled =>
    if l.token = .sign ";" then .ok .between
    else if keyword l.token = "END" then .ok .over
    else only (!labelled && isLabel l.token) (.complete true)
  | .over => .ok .over

/-- A statement is complete with the step from one stage to another. -/
def Stage.completes (s after : Stage) : Bool :=
  match s, after with
  | .complete _, _ => false
  | _, .complete _ => true
  | _, _ => false

/-- The statements that the tokens complete, from a stage on. -/
def countFrom (s : Stage) : List Located → Except ParseFault Nat
  | [] =>
    match s with
    | .operand _ _ => .error (s.fault none)
    | .closing _ => .error (s.fault none)
    | _ => .ok 0
  | l :: rest => do
    let after ← s.next l
    let more ← countFrom after rest
    return if s.completes after then more + 1 else more

/-- How many statements a text has: `sql::Dialect::check_syntax`. -/
def statementCount (d : Dialect) (s : String) : Except ParseFault Nat := do
  countFrom .between (← lex d s)

/-! ## Depth -/

mutual

/-- How many constructs an operand opens, one within the other. -/
def Operand.nesting : Operand → Nat
  | .literal v => if Piece.isSigned v then 1 else 0
  | .subquery q => 1 + q.nesting
  | _ => 0

/-- How many constructs a condition opens, one within the other. The members of an `IN` are read as
part of the comparison, and so do not count as a query of their own. -/
def Condition.nesting : Condition → Nat
  | .compare _ lhs rhs => max lhs.nesting (1 + rhs.nesting)
  | .inValues _ lhs members => max lhs.nesting (if members.any Piece.isSigned then 2 else 1)
  | .inQuery _ lhs members => max lhs.nesting members.nesting
  | .quantified _ _ lhs members => max lhs.nesting (2 + members.nesting)
  | .existing _ members _ filter => 1 + max (1 + members.nesting) (1 + filter.nesting)
  | .notTrue part => 1 + part.nesting
  | .any parts => 1 + Condition.chainNesting parts
  | .all parts => 1 + Condition.chainNesting parts
  | .verbatim _ => 0

/-- The deepest nesting of some conditions with a connective between them: each one but the first is
an operand of it. -/
def Condition.chainNesting : List Condition → Nat
  | [] => 0
  | c :: rest => max c.nesting (Condition.linksNesting rest)

/-- The deepest nesting of the operands of a connective. -/
def Condition.linksNesting : List Condition → Nat
  | [] => 0
  | c :: rest => max (1 + c.nesting) (Condition.linksNesting rest)

/-- The nesting of a filter, if there is one. -/
def Condition.optionNesting : Option Condition → Nat
  | none => 0
  | some c => c.nesting

/-- How many constructs the parts of a sub-query open, one within the other. -/
def Subquery.nesting : Subquery → Nat
  | .select value _ _ filter => 1 + max value.nesting (Condition.optionNesting filter)
  | .verbatim _ => 1

end

/-- How many statements a `SELECT` with the condition as its filter has: one, unless it is nested
too deeply to be read (`sql::Dialect::check_syntax`). The filter is as deep in its statement as an
operand. -/
def checkCondition (c : Condition) : Except ParseFault Nat :=
  if operandNesting + c.nesting ≤ nestingLimit then .ok 1 else .error .tooDeep

end PooledSql.Sql
