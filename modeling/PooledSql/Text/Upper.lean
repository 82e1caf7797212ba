/-!
# Upper case, as far as it can be ASCII

Keywords are compared after full upper-casing, which may turn one character into several. Only the
outcomes within ASCII matter for that: a character whose upper-case form leaves ASCII can be part of
no keyword, whatever that form is, and so it stands for itself here.
-/

namespace PooledSql.Text

/-- The characters beyond ASCII whose full upper-case form is ASCII, with that form. -/
def upperExpansions : List (Char × List Char) :=
  [('\u00df', ['S', 'S']), ('\u0131', ['I']), ('\u017f', ['S']), ('\ufb00', ['F', 'F']),
    ('\ufb01', ['F', 'I']), ('\ufb02', ['F', 'L']), ('\ufb03', ['F', 'F', 'I']),
    ('\ufb04', ['F', 'F', 'L']), ('\ufb05', ['S', 'T']), ('\ufb06', ['S', 'T'])]

/-- The upper-case form of a character where that form is ASCII, and the character itself where it
is not. -/
def upperChar (c : Char) : List Char :=
  match upperExpansions.lookup c with
  | some form => form
  | none => [c.toUpper]

/-- The upper-case form of a text, as far as it is ASCII. -/
def upper (s : String) : String :=
  String.ofList (s.toList.flatMap upperChar)

end PooledSql.Text
