import PooledSql.Sqlite.Calendar.Reading

/-!
# Adjusting moments

A moment is followed by adjustments, each of which is a text: an amount of some unit to be added, a
day to go back or forward to, what a number means, or what is to be done with a day that its month
does not have. The clocks of this place show the time of all.
-/

namespace PooledSql.Sqlite.Moment

/-- What an adjustment makes of a moment, if it is one and can be made. -/
abbrev Adjusted := Calculated (Option Moment)

/-- A moment that is there. -/
def done (m : Moment) : Adjusted := .ok (some m)

/-- No adjustment, or none of this moment. -/
def undone : Adjusted := .ok none

/-! ## Numbers -/

/-- A number as the seconds since 1970 began, in milliseconds since noon of the day zero. -/
def sinceEpoch (x : Float) : Float := x * 1000.0 + 210866760000000.0

/-- The instant of a number that counts seconds. -/
def ofSeconds (m : Moment) (x : Float) : Moment :=
  { m.bare with instant := some (whole (sinceEpoch x + 0.5)), number := none }

/-- The least and the greatest number that is taken as seconds if nothing is said. -/
def secondsRange : Float × Float := (-210866760000.0, 253402300799.0)

/-- A number that is too great for days is taken as seconds. -/
def guessed (m : Moment) : Moment :=
  match m.number with
  | none => m
  | some x =>
    if m.instant.isSome then { m with number := none }
    else if secondsRange.1 ≤ x ∧ x ≤ secondsRange.2 then m.ofSeconds x
    else m

/-! ## Days to go to -/

/-- The next day of a week that has a number, which may be the same day. -/
def onWeekday (m : Moment) (n : Int) : Moment :=
  let m := m.written
  let m := Moment.located { m with zone := 0, instant := none }
  let today := m.daysAfterSunday
  let today := if n < today then today - 7 else today
  (m.moved ((n - today) * dayLength)).bare

/-- The beginning of a day, a month or a year. -/
def startOfUnit (m : Moment) (unit : List Char) : Option Moment :=
  if m.instant.isNone && m.day.isNone && m.clock.isNone then none
  else
    let m := m.dated
    let m : Moment :=
      { m with clock := some ⟨0, 0, 0.0⟩, number := none, zone := 0, instant := none }
    if isWord "month" unit then some { m with day := m.day.map Day.inMonth }
    else if isWord "year" unit then some { m with day := m.day.map Day.inYear }
    else if isWord "day" unit then some m
    else none

/-! ## Amounts -/

/-- The moment moved by whole years and months. -/
def movedMonths (m : Moment) (years months : Int) : Moment :=
  let m := m.written
  let d := m.theDay
  let d := Day.carried ⟨d.year + years, d.month + months, d.day⟩
  { m with day := some d, excess := d.excess, instant := none }

/-- A unit of amounts. -/
structure Measure where
  name : String
  /-- The amount is less than this. -/
  limit : Float
  seconds : Float
  /-- How many months it has, if it is counted in months. -/
  months : Int := 0

/-- The units. -/
def measures : List Measure :=
  [⟨"second", 464269992787968.0, 1.0, 0⟩, ⟨"minute", 7737900007424.0, 60.0, 0⟩,
    ⟨"hour", 128969998336.0, 3600.0, 0⟩, ⟨"day", 5373485.0, 86400.0, 0⟩,
    ⟨"month", 176546.0, 2592000.0, 1⟩, ⟨"year", 14713.0, 31536000.0, 12⟩]

/-- The moment moved by an amount of a unit. Whole months move it to the same day of another month,
and what is left of them is taken as a part of thirty days, or of three hundred and sixty-five. -/
def movedMeasures (m : Moment) (x : Float) (u : Measure) : Moment :=
  let m := { m.located with excess := 0 }
  let count := whole x
  let (m, rest) :=
    if u.months = 1 then (m.movedMonths 0 count, x - toFloat count)
    else if u.months = 12 then (m.movedMonths count 0, x - toFloat count)
    else (m, x)
  let rounder := if x < 0.0 then -0.5 else 0.5
  (m.located.moved (whole (rest * 1000.0 * u.seconds + rounder))).bare

/-- Reads a unit, one or many of it. -/
def measure? (s : List Char) (x : Float) : Option Measure :=
  let s := s.map Char.toLower
  let s := s.dropWhile isPadding
  if s.length < 3 ∨ 10 < s.length then none
  else
    let name := if s.getLast? = some 's' then s.dropLast else s
    measures.find? fun u => u.name.toList == name && decide (-u.limit < x) && decide (x < u.limit)

/-- The moment moved by a clock, which is read from a text. -/
def movedClock (m : Moment) (isBack : Bool) (s : List Char) : Option Moment :=
  (readClock? s).map fun c =>
    let parts := (c.located.place - noon) % dayLength
    (m.located.bare).moved (if isBack then -parts else parts)

/-- The characters of an amount: up to a blank, a colon, or a hyphen after a year. -/
def amountOf : List Char → List Char → List Char × List Char
  | taken, [] => (taken, [])
  | taken, c :: rest =>
    let year := taken.drop 1
    let isYear :=
      (taken.length == 5 || taken.length == 6) && (digits? year.length 0 greatestYear year).isSome
    if c = ':' ∨ isPadding c ∨ (c = '-' ∧ isYear) then (taken, c :: rest)
    else amountOf (taken ++ [c]) rest

/-- The moment moved by a number of years, months and days, which a clock may follow. -/
def movedDate (m : Moment) (sign : Char) (digits : Nat) (s : List Char) : Option Moment := do
  let isBack := sign == '-'
  let (d, rest) ← readDate? digits 0 s
  if (sign ≠ '+' ∧ sign ≠ '-') ∨ 12 ≤ d.month ∨ 31 ≤ d.day then none
  else
    let signed (n : Int) : Int := if isBack then -n else n
    let m := m.movedMonths (signed d.year) (signed d.month)
    let m := m.located
    let m := Moment.moved { m with day := none, clock := none } (signed d.day * dayLength)
    match rest with
    | [] => some m
    | c :: rest =>
      if isPadding c && (readHour? 24 rest).isSome then m.movedClock isBack rest else none

/-- The moment moved by an amount. -/
def movedAmount (m : Moment) (s : List Char) : Option Moment := do
  let (amount, rest) := amountOf (s.take 1) (s.drop 1)
  let sign := s.head?.getD '0'
  let x ← number? amount
  match rest with
  | '-' :: _ => m.movedDate sign (amount.length - 1) (s.drop 1)
  | ':' :: _ => m.movedClock (sign == '-') (if sign.isDigit then s else s.drop 1)
  | rest => (measure? rest x).map (m.movedMeasures x)

/-! ## Places -/

/-- The moment as the clocks of this place show it. -/
def here (m : Moment) : Moment :=
  let m := m.located
  let shown : Moment :=
    if m.instant.isNone then { m with day := some .ofClocks, clock := some ⟨0, 0, 0.0⟩ }
    else m.bare.written
  { shown with instant := none, number := none, zone := 0, isLost := false }

/-! ## Adjustments -/

/-- The number of a day in the week, after the word that asks for it. -/
def weekday? (s : List Char) : Option Int :=
  if (s.take 8).map Char.toLower = "weekday ".toList then
    (number? (s.drop 8)).bind fun x =>
      if 0.0 ≤ x ∧ x < 7.0 ∧ toFloat (whole x) == x then some (whole x) else none
  else none

/-- What an adjustment with a place among the arguments makes of a moment. The clocks of this place
may be no one's business, like the present time. -/
def adjusted (present : Calculated Int) (place : Nat) (s : List Char) (m : Moment) : Adjusted :=
  let isFirst := place == 1
  if isWord "auto" s then if isFirst then done m.guessed else undone
  else if isWord "ceiling" s then done { m.located.bare with excess := 0 }
  else if isWord "floor" s then
    let m := m.located
    done (m.moved (-(m.excess * dayLength))).bare
  else if isWord "julianday" s then
    if isFirst && m.instant.isSome && m.number.isSome then done { m with number := none }
    else undone
  else if isWord "localtime" s then present.map fun _ => some m.here
  else if isWord "utc" s then present.map fun _ => some (ofInstant m.located.place)
  else if isWord "unixepoch" s then
    match m.number with
    | some x =>
      let n := sinceEpoch x
      if isFirst ∧ 0.0 ≤ n ∧ n < 464269060800000.0 then done (m.ofSeconds x) else undone
    | none => undone
  else if asksParts s then done { m with showsParts := true }
  else if (s.take 9).map Char.toLower = "start of ".toList then .ok (m.startOfUnit (s.drop 9))
  else if (s.head?.map fun c => c.isDigit || c == '+' || c == '-').getD false then
    .ok (m.movedAmount s)
  else .ok ((weekday? s).map m.onWeekday)

/-- What some adjustments make of a moment, one after the other. -/
def allAdjusted (present : Calculated Int) : Nat → List Datum → Moment → Adjusted
  | _, [], m => done m
  | place, v :: rest, m => do
    match Calculation.textBytes? v with
    | none => return none
    | some s =>
      match ← adjusted present place (Datum.letters (Characters.untilZero s)) m with
      | none => return none
      | some m => allAdjusted present (place + 1) rest m

/-- The moment that some values stand for: what is read, and adjustments. -/
def ofValues (present : Calculated Int) : List Datum → Adjusted
  | [] => present.map fun n => some (ofInstant n)
  | v :: adjustments => do
    let read ←
      match v with
      | .integer n => pure (some (ofNumber (Float.ofBits (Calculation.toReal (.integer n)).bits)))
      | .real d => pure (some (ofNumber (Float.ofBits d.bits)))
      | v =>
        match Calculation.textBytes? v with
        | none => pure none
        | some s => read? present (Datum.letters (Characters.untilZero s))
    match read with
    | none => return none
    | some m =>
      match ← allAdjusted present 1 adjustments m with
      | none => return none
      | some m =>
        let m := m.located
        let isUnusual := adjustments.isEmpty && (m.day.map fun d => decide (28 < d.day)).getD false
        if m.isLost || !isInstant m.place then return none
        else return some (if isUnusual then { m with day := none } else m)

end PooledSql.Sqlite.Moment
