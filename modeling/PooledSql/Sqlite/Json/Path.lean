import PooledSql.Sqlite.Json.Basic

/-!
# Paths into JSON values

A path is made of steps: `.label`, `."label"`, `[index]`, `[#]` and `[#-index]`, where `#` is the
number of items. A path is read only as far as it is followed. What it leads to can be looked up,
removed, exchanged or put there; what is put behind the last item or under a new label is made with
all that leads to it.
-/

namespace PooledSql.Sqlite.Json

/-- A path. -/
abbrev Path := List UInt8

/-- Why a path leads nowhere. -/
inductive Miss
  | absent
  | badPath
  | broken
deriving DecidableEq, Repr

/-- A label at the start of a path, and the rest. -/
def stepLabel? (path : Path) : Option (Written × Path) :=
  match path with
  | 34 :: rest =>
    let size := quotedLength rest
    match rest.drop size with
    | 34 :: after =>
      let bytes := rest.take size
      some (⟨if bytes.contains 92 then .loose else .raw, bytes⟩, after)
    | _ => none
  | path =>
    let label := path.takeWhile fun b => b != 46 && b != 91
    if label.isEmpty then none else some (⟨.raw, label⟩, path.drop label.length)
where
  /-- How many bytes come before the quote. -/
  quotedLength : List UInt8 → Nat
    | [] => 0
    | [b] => if b = 34 then 0 else 1
    | b :: c :: rest =>
      if b = 34 then 0 else if b = 92 then 2 + quotedLength rest else 1 + quotedLength (c :: rest)

/-- Indices are counted up to this number. -/
def indexSpan : Nat := 4294967296

/-- Digits at the start of a path as an index, and the rest. -/
def spanIndex (path : Path) : Nat × Path :=
  let digits := path.takeWhile isDigit
  (digits.foldl (fun n b => (10 * n + (b.toNat - 48)) % indexSpan) 0, path.drop digits.length)

/-- An index among so many items at the start of a path, after its bracket, and the rest. -/
def stepIndex? (size : Nat) (path : Path) : Except Miss (Nat × Path) :=
  let ended (index : Nat) : Path → Except Miss (Nat × Path)
    | 93 :: rest => .ok (index, rest)
    | _ => .error .badPath
  match path with
  | 35 :: 45 :: d :: rest =>
    if isDigit d then
      let (back, rest) := spanIndex (d :: rest)
      if size < back then .error .absent else ended (size - back) rest
    else .error .badPath
  | 35 :: rest => ended size rest
  | path =>
    let (index, rest) := spanIndex path
    if rest.length = path.length then .error .badPath else ended index rest

/-! ## Looking up -/

/-- What a path leads to. -/
def find : Nat → Path → Json → Except Miss Json
  | _, [], j => .ok j
  | 0, _, _ => .error .badPath
  | n + 1, b :: path, j =>
    if b = 46 then
      match stepLabel? path with
      | none => .error .badPath
      | some (label, rest) =>
        match j with
        | .object members =>
          match members.find? fun m => label.isSame m.1 with
          | some m => find n rest m.2
          | none => .error .absent
        | .broken => .error .broken
        | _ => .error .absent
    else if b = 91 then
      match j with
      | .array items => do
        let (index, rest) ← stepIndex? items.length path
        match items[index]? with
        | some j => find n rest j
        | none => .error .absent
      | .broken => .error .broken
      | _ => .error .absent
    else .error .badPath

/-! ## Changing -/

/-- What is to be done at the end of a path. -/
inductive Change
  | remove
  /-- Exchanges what is there. -/
  | replace (j : Json)
  /-- Puts something where nothing is. -/
  | insert (j : Json)
  /-- Puts something there in any case. -/
  | put (j : Json)

/-- What is put where nothing is. -/
def Change.added? : Change → Option Json
  | .insert j => some j
  | .put j => some j
  | _ => none

/-- What takes the place of a value; nothing if it is removed. -/
def Change.apply (j : Json) : Change → Option Json
  | .remove => none
  | .replace new => some new
  | .insert _ => some j
  | .put new => some new

/-- Exchanges a part of a list, or takes it out. -/
def exchangeAt (parts : List Json) (index : Nat) : Option Json → List Json
  | some j => parts.set index j
  | none => parts.eraseIdx index

/-- The value that leads to what is put at the rest of a path. -/
def seed : Path → Json
  | 46 :: _ => .object []
  | _ => .array []

/-- A value with something done at the end of a path; nothing is left if it is removed itself. -/
def change (c : Change) : Nat → Path → Json → Except Miss (Option Json)
  | _, [], j => .ok (c.apply j)
  | 0, _, _ => .error .badPath
  | n + 1, b :: path, j =>
    let made (rest : Path) : Except Miss (Option Json) :=
      match c.added? with
      | none => .error .absent
      | some new => if rest.isEmpty then .ok (some new) else change c n rest (seed rest)
    if b = 46 then
      match stepLabel? path with
      | none => .error .badPath
      | some (label, rest) =>
        match j with
        | .object members =>
          match members.findIdx? fun m => label.isSame m.1 with
          | some index => do
            match ← change c n rest ((members[index]?.map Prod.snd).getD .null) with
            | some j => return some (.object (members.modify index fun m => (m.1, j)))
            | none => return some (.object (members.eraseIdx index))
          | none => do
            match ← made rest with
            | some j => return some (.object (members ++ [(label, j)]))
            | none => return some (.object members)
        | .broken => .error .broken
        | _ => .error .absent
    else if b = 91 then
      match j with
      | .array items => do
        let (index, rest) ← stepIndex? items.length path
        match items[index]? with
        | some j => return some (.array (exchangeAt items index (← change c n rest j)))
        | none =>
          if index ≠ items.length then .error .absent
          else return some (.array (items ++ (← made rest).toList))
      | .broken => .error .broken
      | _ => .error .absent
    else .error .badPath

/-- What a path leads to. -/
def Path.find (path : Path) (j : Json) : Except Miss Json := Json.find path.length path j

/-- A value with something done at the end of a path. -/
def Path.change (path : Path) (c : Change) (j : Json) : Except Miss (Option Json) :=
  Json.change c path.length path j

/-! ## Merging -/

mutual

/-- A value with another one merged into it. -/
def merged (target : Json) : Json → Json
  | .object members =>
    match target with
    | .object old => .object (mergedAll old members)
    | _ => .object (mergedAll [] members)
  | patch => patch

/-- Members with others merged into them: absent ones are taken out. -/
def mergedAll (old : List (Written × Json)) : List (Written × Json) → List (Written × Json)
  | [] => old
  | (label, j) :: rest =>
    let place := old.findIdx? fun m => label.isSame m.1
    match place, j with
    | some index, .null => mergedAll (old.eraseIdx index) rest
    | none, .null => mergedAll old rest
    | some index, j =>
      mergedAll (old.modify index fun m => (m.1, merged m.2 j)) rest
    | none, j => mergedAll (old ++ [(label, merged .null j)]) rest

end

end PooledSql.Sqlite.Json
