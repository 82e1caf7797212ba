/-!
# Dialects

The two dialects of SQL that are written.
-/

namespace PooledSql

/-- A dialect of SQL: `sql::Dialect`. -/
inductive Dialect
  | sqlite
  | postgres
deriving DecidableEq, Repr

namespace Dialect

/-- The dialect where none is named: the default of `session::pool::ConnectionFactory::dialect`. -/
def standard : Dialect := .sqlite

/-- The longest identifier that is kept whole, where there is a limit:
`sql::Dialect::max_identifier_length`. -/
def maxIdentifierLength : Dialect → Option Nat
  | .sqlite => none
  | .postgres => some 63

/-- Comparisons such as `x < ALL (SELECT ..)` are understood as they stand:
`sql::Dialect::supports_quantified_subquery`. -/
def hasQuantifiedSubquery : Dialect → Bool
  | .sqlite => false
  | .postgres => true

end Dialect

end PooledSql
