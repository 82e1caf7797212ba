import PooledSql.Sqlite.Formula.Meaning

/-!
# What formulas are refused for when they are used

Some faults of a formula show only when a statement is made ready that calculates it: numbers that
are too large, rows in the place of single values, functions that must not be called from there, and
collations that there are not. Parts whose values are always the same are made ready last, once for
all rows, so their faults are reported only if nothing else is wrong. Parts of a condition that make
no difference are left out.
-/

namespace PooledSql.Sqlite

/-- A fault that shows when a formula is made ready. -/
structure UseFault where
  refusal : Refusal
  /-- It shows after all others. -/
  isLate : Bool := false
  /-- It shows only if there was none before. -/
  yields : Bool := false

namespace UseFault

/-- A fault without a place. -/
def of (fault : StatementFault) : UseFault := { refusal := ⟨fault, none⟩ }

/-- The last fault that shows, given those that were found before. -/
def lastOf (found : Option Refusal) (faults : List UseFault) : Option Refusal :=
  faults.foldl (fun found f => if f.yields && found.isSome then found else some f.refusal) found

/-- The fault that is reported, given what was found before. -/
def last? (found : Option Refusal) (faults : List UseFault) : Option Refusal :=
  match lastOf found (faults.filter fun f => !f.isLate) with
  | some refusal => some refusal
  | none => lastOf none (faults.filter UseFault.isLate)

end UseFault

/-- How a formula is made ready: what it is for, what its names stand for, and what is found in the
columns of these names. -/
structure Preparation where
  occasion : Occasion
  column : String → List UseFault

namespace Preparation

/-- Nothing is found in the columns. -/
def plain (place : Option Place) (names : Names) : Preparation :=
  ⟨⟨place, names⟩, fun _ => []⟩

/-- A fault that starts at a place, which is known in conditions only. -/
def faultAt (p : Preparation) (fault : StatementFault) (start : Nat) : UseFault :=
  { refusal := ⟨fault, if p.occasion.place = some .check then some start else none⟩ }

/-- A formula has the same value always. -/
def isConstant (p : Preparation) (f : Formula) : Bool := (f.meaning p.occasion).isConstant

/-- Whether a condition holds is known before anything is calculated. -/
def fixed? (p : Preparation) (f : Formula) : Option Bool := (f.meaning p.occasion).single.fixed

end Preparation

namespace Formula

/-- The collation that is asked for in a formula. -/
def asked? : Formula → Option String
  | .collated collation _ => some collation
  | .cast _ part => part.asked?
  | .apply .between _ (part :: _) => part.asked?
  | .apply _ _ parts => firstAsked? parts
  | .tuple (part :: _) => part.asked?
  | _ => none
where
  /-- The collation that is asked for in the first of some formulas that asks for one. -/
  firstAsked? : List Formula → Option String
    | [] => none
    | part :: rest => part.asked? <|> firstAsked? rest

/-- The fault of a comparison by a collation that there is not. -/
def collationFaults (parts : List Formula) : List UseFault :=
  match parts.findSome? asked? with
  | some name =>
    if (Collation.named? name).isNone then
      [{ refusal := ⟨.unknownCollation name, none⟩, yields := true }]
    else []
  | none => []

/-- The fault of rows that cannot be compared. -/
def rowFault : UseFault := { refusal := ⟨.misusedRow, none⟩, yields := true }

/-- The functions that compare their arguments. -/
def comparingNames : List String := ["min", "max", "nullif"]

end Formula

/-- What is found when a formula is made ready: as a value, as a condition, and as several values.
Where that happens only once, nothing is put off. -/
structure Ready where
  formula : Formula
  value : (isRepeated : Bool) → List UseFault
  condition : (isRepeated : Bool) → List UseFault
  parts : List ((isRepeated : Bool) → List UseFault) := []

namespace Ready

/-- Several values. -/
def isRow (r : Ready) : Bool :=
  match r.formula with
  | .tuple _ => true
  | _ => false

/-- What is found in a part of another formula. If its value is always the same, that shows last,
unless it calls a function. -/
def operand (p : Preparation) (r : Ready) (isRepeated : Bool) : List UseFault :=
  let isConstant := p.isConstant r.formula
  let faults := r.value (isRepeated && !isConstant)
  if isRepeated && isConstant && !r.formula.uncollated.calls then
    faults.map ({ · with isLate := true })
  else faults

/-- A formula that as a condition is a value like any other. -/
def ofValue (p : Preparation) (formula : Formula) (value : Bool → List UseFault) : Ready :=
  let r : Ready := ⟨formula, value, value, []⟩
  { r with condition := r.operand p }

/-- What is found in some parts, one after the other. -/
def operands (p : Preparation) (isRepeated : Bool) (parts : List Ready) : List UseFault :=
  parts.flatMap fun r => r.operand p isRepeated

/-- What is found in two parts that are compared. -/
def compared (p : Preparation) (isRepeated : Bool) (a b : Ready) : List UseFault :=
  if !a.isRow then
    operands p isRepeated [a, b] ++ Formula.collationFaults [a.formula, b.formula]
  else if a.parts.length ≠ b.parts.length then [Formula.rowFault]
  else (a.parts.zipWith (fun x y => x isRepeated ++ y isRepeated) b.parts).flatten

/-- What is found in a part that another one is compared with, once that is there. -/
def comparedTo (p : Preparation) (isRepeated : Bool) (a b : Ready) : List UseFault :=
  if !a.isRow then
    b.operand p isRepeated ++ Formula.collationFaults [a.formula, b.formula]
  else if a.parts.length ≠ b.parts.length then [Formula.rowFault]
  else b.parts.flatMap fun x => x isRepeated

/-- What is found in a part, of which all values are made ready. -/
def whole (p : Preparation) (isRepeated : Bool) (a : Ready) : List UseFault :=
  if a.isRow then a.parts.flatMap fun x => x isRepeated else a.operand p isRepeated

/-- What is found in conditions, each with its value, and in the value that goes with none of them.
-/
def cases (isRepeated : Bool) : List Ready → List UseFault
  | condition :: v :: rest =>
    condition.condition isRepeated ++ v.value isRepeated ++ cases isRepeated rest
  | rest => rest.flatMap fun r => r.value isRepeated

/-- What is found in conditions on one part, each with its value. -/
def casesOf (p : Preparation) (isRepeated : Bool) (given : Ready) : List Ready → List UseFault
  | condition :: v :: rest =>
    comparedTo p isRepeated given condition ++ v.value isRepeated ++
      casesOf p isRepeated given rest
  | rest => rest.flatMap fun r => r.value isRepeated

/-- What is found in a call of a function. -/
def ofCall (p : Preparation) (name : String) (start : Nat) (parts : List Ready)
    (isRepeated : Bool) : List UseFault :=
  let isConstant := parts.all fun r => p.isConstant r.formula
  match Routine.find? name parts.length with
  | none => [p.faultAt (.unknownFunction name) start]
  | some f =>
    let isRepeated := isRepeated && !(f.isSteady && isConstant)
    match f.body with
    | .ofRows _ => [p.faultAt (.unknownFunction name) start]
    | .cases => cases isRepeated parts
    | .first => (parts.take 1).flatMap fun r => r.value isRepeated
    | .firstPresent => parts.flatMap fun r => r.value isRepeated
    | .strict _ =>
      (if f.isUnsafe then [p.faultAt (.unsafeFunction name) start] else []) ++
        (if Formula.comparingNames.contains f.name then
          Formula.collationFaults (parts.map Ready.formula) else []) ++
        operands p isRepeated parts

/-- Two conditions that are connected. One of them may be enough, and then the other is left out. -/
def connected (p : Preparation) (isOr : Bool) (f : Formula) (a b : Ready) : Ready :=
  let first := p.fixed? a.formula
  let second := p.fixed? b.formula
  { ofValue p f fun isRepeated => operands p isRepeated [a, b] with
    condition :=
      if first = some true ∨ second = some false then
        if isOr then a.condition else b.condition
      else if second = some true ∨ first = some false then
        if isOr then b.condition else a.condition
      else fun isRepeated => a.condition isRepeated ++ b.condition isRepeated }

/-- What is found in the members of a list, which comes first if these are always the same. -/
def ofMembers (p : Preparation) (part : Ready) (members : List Ready) (isRepeated : Bool) :
    List UseFault :=
  let isReady :=
    fewestMembers ≤ members.length && members.all fun m => p.isConstant m.formula
  let own := part.operand p isRepeated
  let others :=
    if isReady then members.flatMap fun m => m.value isRepeated
    else operands p isRepeated members
  (if isReady then others ++ own else own ++ others) ++ Formula.collationFaults [part.formula]

/-- A number, with another sign if it is negated. -/
def ofNumber (p : Preparation) (f : Formula) (isNegated : Bool) (spelling : List Char)
    (start : Nat) : Ready :=
  let shown := (if isNegated then ['-'] else []) ++ Formula.unmarked spelling
  ofValue p f fun _ =>
    if Formula.isOversized isNegated spelling then
      [p.faultAt (.oversizedLiteral (String.ofList shown)) start]
    else []

/-- A formula of some parts. -/
def ofOperation (p : Preparation) (f : Formula) (o : Operation) (start : Nat)
    (parts : List Ready) : Ready :=
  match o, parts with
  | .and, [a, b] => connected p false f a b
  | .or, [a, b] => connected p true f a b
  | .not, [a] => { ofValue p f (a.operand p) with condition := a.condition }
  | .same _, [a, b] =>
    if (Formula.truthFor? p.occasion b.formula).isSome then
      { ofValue p f (a.operand p) with condition := a.condition }
    else { ofValue p f fun r => compared p r a b with condition := fun r => compared p r a b }
  | .compare _, [a, b] =>
    { ofValue p f fun r => compared p r a b with condition := fun r => compared p r a b }
  | .between, [a, low, high] =>
    let faults (r : Bool) : List UseFault :=
      whole p r a ++ comparedTo p r a low ++ comparedTo p r a high
    { ofValue p f faults with condition := faults }
  | .among, part :: members =>
    { ofValue p f (ofMembers p part members) with condition := ofMembers p part members }
  | .choose false, parts => ofValue p f fun r => cases r parts
  | .choose true, given :: parts =>
    ofValue p f fun r => whole p r given ++ casesOf p r given parts
  | .call name _, parts => ofValue p f (ofCall p name start parts)
  | .raise, _ => ofValue p f fun _ => [.of .misplacedRaise]
  | .plus, [a] => ofValue p f a.value
  | _, parts => ofValue p f fun r => operands p r parts

end Ready

namespace Formula

mutual

/-- What is found when a formula is made ready. -/
def ready (p : Preparation) : Formula → Ready
  | .number spelling start => .ofNumber p (.number spelling start) false spelling start
  | .named qualifiers name style start =>
    .ofValue p (.named qualifiers name style start) fun _ => p.column name
  | .apply .minus at_ [.number spelling start] =>
    .ofNumber p (.apply .minus at_ [.number spelling start]) true spelling start
  | .apply o start parts => .ofOperation p (.apply o start parts) o start (readies p parts)
  | .collated collation part => .ofValue p (.collated collation part) (part.ready p).value
  | .cast type part => .ofValue p (.cast type part) (part.ready p).value
  | .tuple parts =>
    { Ready.ofValue p (.tuple parts) fun _ => [.of .misusedRow] with
      parts := (readies p parts).map fun r => r.operand p }
  | f => .ofValue p f fun _ => []

/-- What is found when some formulas are made ready. -/
def readies (p : Preparation) : List Formula → List Ready
  | [] => []
  | part :: rest => part.ready p :: readies p rest

end

/-- What is found in a condition, which is made ready for all rows. -/
def conditionFaults (p : Preparation) (f : Formula) : List UseFault := (f.ready p).condition true

/-- What is found in a value, which is made ready for all rows. -/
def valueFaults (p : Preparation) (f : Formula) : List UseFault := (f.ready p).value true

end Formula

end PooledSql.Sqlite
