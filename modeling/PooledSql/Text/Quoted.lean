/-!
# Quoted text

A text between two quotes, in which every quote of its own is written twice. Nothing else is
changed, so a backslash is an ordinary character.

Results:
* `unquote_doubled`: what was quoted reads back, and reading stops at the closing quote.
* `unquote_length`: what is left after the closing quote is shorter than what was read from.
-/

namespace PooledSql.Text.Quoted

/-- The text with each quote written twice. -/
def doubled (quote : Char) : List Char → List Char
  | [] => []
  | c :: r => if c = quote then c :: c :: doubled quote r else c :: doubled quote r

/-- The text between two quotes: `sql::buffer::SqlBuffer::write_ident`, and
`sql::buffer::SqlBuffer::write_string_literal`. -/
def enclose (quote : Char) (s : List Char) : List Char := quote :: (doubled quote s ++ [quote])

/-- Reads on after an opening quote: the text up to the closing quote and what follows it, or none
if the quote is never closed. -/
def unquote (quote : Char) : List Char → Option (List Char × List Char)
  | [] => none
  | [c] => if c = quote then some ([], []) else none
  | c :: d :: r =>
    if c = quote then
      if d = quote then (unquote quote r).map fun p => (quote :: p.1, p.2) else some ([], d :: r)
    else (unquote quote (d :: r)).map fun p => (c :: p.1, p.2)

theorem unquote_cons_of_ne {quote c : Char} (h : c ≠ quote) (s : List Char) :
    unquote quote (c :: s) = (unquote quote s).map fun p => (c :: p.1, p.2) := by
  cases s <;> simp [unquote, h]

theorem unquote_length {quote : Char} {s text rest : List Char}
    (h : unquote quote s = some (text, rest)) : rest.length < s.length := by
  fun_induction unquote quote s generalizing text rest with
  | case1 => simp at h
  | case2 => simp_all
  | case3 c hc => simp at h
  | case4 r ih =>
    obtain ⟨p, hp, he⟩ := Option.map_eq_some_iff.1 h
    have := ih hp
    cases he
    simp only [List.length_cons]
    omega
  | case5 d r hd =>
    simp only [Option.some.injEq, Prod.mk.injEq] at h
    obtain ⟨-, rfl⟩ := h
    simp
  | case6 c d r hc ih =>
    obtain ⟨p, hp, he⟩ := Option.map_eq_some_iff.1 h
    have := ih hp
    cases he
    simp only [List.length_cons] at this ⊢
    omega

theorem unquote_doubled (quote : Char) (s rest : List Char) (h : rest.head? ≠ some quote) :
    unquote quote (doubled quote s ++ quote :: rest) = some (s, rest) := by
  induction s with
  | nil =>
    cases rest with
    | nil => simp [doubled, unquote]
    | cons d r =>
      have hd : d ≠ quote := by simpa using h
      simp [doubled, unquote, hd]
  | cons c r ih =>
    by_cases hc : c = quote
    · subst hc
      simp [doubled, unquote, ih]
    · simp [doubled, hc, unquote_cons_of_ne, ih]

end PooledSql.Text.Quoted
