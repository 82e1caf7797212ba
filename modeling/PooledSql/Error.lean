/-!
# Errors

What can go wrong, by cause. The words of each cause are in one place, beside it, and the code that
databases give to its class is `Error.sqlState`.

Results:
* `sqlState_connection_iff`: the code of a failed connection belongs to connection errors alone.
-/

namespace PooledSql

/-- Why a table or a reference to one of its columns is refused: `SqlWeaveError::InvalidExpression`. -/
inductive ExpressionFault
  | blankTableName
  | noColumns (table : String)
  | blankColumn (table : String)
  | duplicateColumn (column table : String)
  | unknownColumn (column label : String)
  | stated (text : String)
deriving DecidableEq, Repr

/-- The words of a refused table or column: those of `exprn::column::Table::aliased` and
`column`. -/
def ExpressionFault.message : ExpressionFault → String
  | .blankTableName => "table name and alias must not be empty"
  | .noColumns table => "table " ++ table ++ " has no columns"
  | .blankColumn table => "table " ++ table ++ " has an empty column name"
  | .duplicateColumn column table => "duplicate column " ++ column ++ " in table " ++ table
  | .unknownColumn column label => "no column " ++ column ++ " in table " ++ label
  | .stated text => text

/-- Why a configuration is refused: `SqlWeaveError::Config`. -/
inductive ConfigFault
  | unknownJournalMode (mode : String)
  | unknownSynchronousMode (mode : String)
  | zeroPruneThreshold
  | emptyDatabasePath
  | stated (text : String)
deriving DecidableEq, Repr

/-- The words of a refused configuration: those of `config::Config::validate`. -/
def ConfigFault.message : ConfigFault → String
  | .unknownJournalMode mode => "unknown journal mode '" ++ mode ++ "'"
  | .unknownSynchronousMode mode => "unknown synchronous mode '" ++ mode ++ "'"
  | .zeroPruneThreshold => "finder prune threshold must be at least 1"
  | .emptyDatabasePath => "database path is empty"
  | .stated text => text

/-- A place in a text: line and column, both counted from one, columns in characters. -/
structure Location where
  line : Nat
  column : Nat
deriving DecidableEq, Repr

/-- The place of the first character. -/
def Location.start : Location := ⟨1, 1⟩

/-- The place after a character that stands at `l`. -/
def Location.after (l : Location) (c : Char) : Location :=
  if c = '\n' then ⟨l.line + 1, 1⟩ else ⟨l.line, l.column + 1⟩

/-- A place as messages give it. -/
def Location.message (l : Location) : String :=
  " at Line: " ++ toString l.line ++ ", Column: " ++ toString l.column

/-- Why a text of SQL is refused before anything is run: `SqlWeaveError::SqlParse`. -/
inductive ParseFault
  | unterminatedString (opening : Location)
  | unclosedName (opening : Location)
  | unclosedComment (ending : Location)
  /-- Something else stood, or nothing (`none`), where `what` had to. -/
  | expected (what : String) (found : Option (String × Location))
  | tooDeep
  | stated (text : String)
deriving DecidableEq, Repr

/-- The words of a refused text. -/
def ParseFault.message (f : ParseFault) : String :=
  "sql parser error: " ++
    match f with
    | .unterminatedString opening => "Unterminated string literal" ++ opening.message
    | .unclosedName opening => "Expected close delimiter '\"' before EOF." ++ opening.message
    | .unclosedComment ending => "Unexpected EOF while in a multi-line comment" ++ ending.message
    | .expected what none => "Expected: " ++ what ++ ", found: EOF"
    | .expected what (some (word, at_)) =>
      "Expected: " ++ what ++ ", found: " ++ word ++ at_.message
    | .tooDeep => "recursion limit exceeded"
    | .stated text => text

/-- Why a value cannot be calculated. -/
inductive CalculationFault
  | integerOverflow
  | tooBig
  /-- What is to make the next character stand for itself is not one character. -/
  | wrongEscape
  | complexPattern
  | unusable (function : String)
  | volatileUse (function place : String)
  | malformedJson
  | badPath (path : String)
  | bytesInJson
  | unpairedLabels (function : String)
  | labelKind (function : String)
  | unpairedPaths (function : String)
  | flagRange
deriving DecidableEq, Repr

/-- The words of a value that cannot be calculated. -/
def CalculationFault.message : CalculationFault → String
  | .integerOverflow => "integer overflow"
  | .tooBig => "string or blob too big"
  | .wrongEscape => "ESCAPE expression must be a single character"
  | .complexPattern => "LIKE or GLOB pattern too complex"
  | .unusable function => "unable to use function " ++ function ++ " in the requested context"
  | .volatileUse function place => "non-deterministic use of " ++ function ++ "() in " ++ place
  | .malformedJson => "malformed JSON"
  | .badPath path => "bad JSON path: " ++ path
  | .bytesInJson => "JSON cannot hold BLOB values"
  | .unpairedLabels function => function ++ "() requires an even number of arguments"
  | .labelKind function => function ++ "() labels must be TEXT"
  | .unpairedPaths function => function ++ "() needs an odd number of arguments"
  | .flagRange => "FLAGS parameter to json_valid() must be between 1 and 15"

/-- Why the database refuses a statement. -/
inductive StatementFault
  | unrecognized (token : String)
  | unexpected (token : String)
  | incompleteInput
  | tooDeep
  | noSuchTable (table : String)
  | noSuchColumn (column : String)
  | notModifiable (table : String)
  | notRemovable (table : String)
  | columnCount (table : String) (columns values : Nat)
  | unevenRows
  /-- The name is given as it was written. -/
  | tableExists (name : String)
  | reservedName (name : String)
  | duplicateColumn (column : String)
  | severalKeys (table : String)
  | misplacedCounter
  | unknownCollation (name : String)
  | tooManyTableColumns (table : String)
  | tooManyColumns
  | noSuchFunction (name : String)
  | argumentCount (function : String)
  | misusedAggregate (function : String)
  | misusedWindow (function : String)
  | noWindow (function : String)
  | distinctWindow
  | filteredCall (function : String)
  | orderedCall (function : String)
  | unknownFunction (function : String)
  | unsafeFunction (function : String)
  | tooManyArguments (function : String)
  | wrongProbability (function : String)
  /-- Something stands in a formula of a kind that must not have it. -/
  | prohibited (what kind : String)
  | misusedRow
  /-- A member of a list is a row of another width than what is looked for. -/
  | memberWidth (found wanted : Nat)
  | misplacedRaise
  | oversizedLiteral (spelling : String)
  | parameterNumber
  | variableDefault (column : String)
  | generatedDefault
  | generatedKey
  | misplacedGenerator (column : String)
  | circularGenerator (column : String)
  | onlyGenerated
  | generatedTarget (column : String)
  | conflictingResolutions
  | severalTargets (column table : String)
  | uncountedTargets
  | unknownKeyColumn (column : String)
  | surplusAfterColumn (column : String)
  | unknownOption (name : String)
  | missingType (table column : String)
  | unknownType (table column type : String)
  | countingByKey
  | missingKey (table : String)
  | placedNulls (place : String)
  | datatypeMismatch
  /-- A strict table does not take a value of a kind in a column of a type. -/
  | wrongKind (kind type table column : String)
  | noNumberLeft
  /-- Too much followed one from the other. -/
  | tooManyLevels
  | absentValue (table column : String)
  | notUnique (columns : List (String × String))
  | failedCheck (name : String)
  | mismatchedReference (table target : String)
  | failedReference
  | calculation (fault : CalculationFault)
  | nestedTransaction
  | noCommit
  | noRollback
  /-- A setting cannot be changed while a transaction is open. -/
  | settledSynchronous
  | settledStore
  | settledLog (isWanted : Bool)
  | locked
  /-- Another connection has a lock on a table, if its name is known. -/
  | tableLocked (name : Option String)
  /-- Another connection has a lock on the table of the tables. -/
  | catalogLocked
  | readOnly
  /-- The journal of a file cannot be kept. -/
  | noJournal
  | unknownDatabase (name : String)
  | returnedRows
  | noRows
  | invalidColumnName (name : String)
deriving DecidableEq, Repr

/-- The words of a refused statement. -/
def StatementFault.message : StatementFault → String
  | .unrecognized token => "unrecognized token: \"" ++ token ++ "\""
  | .unexpected token => "near \"" ++ token ++ "\": syntax error"
  | .incompleteInput => "incomplete input"
  | .tooDeep => "Expression tree is too large (maximum depth 1000)"
  | .noSuchTable table => "no such table: " ++ table
  | .noSuchColumn column => "no such column: " ++ column
  | .notModifiable table => "table " ++ table ++ " may not be modified"
  | .notRemovable table => "table " ++ table ++ " may not be dropped"
  | .columnCount table columns values =>
    "table " ++ table ++ " has " ++ toString columns ++ " columns but " ++ toString values ++
      " values were supplied"
  | .unevenRows => "all VALUES must have the same number of terms"
  | .tableExists name => "table " ++ name ++ " already exists"
  | .reservedName name => "object name reserved for internal use: " ++ name
  | .duplicateColumn column => "duplicate column name: " ++ column
  | .severalKeys table => "table \"" ++ table ++ "\" has more than one primary key"
  | .misplacedCounter => "AUTOINCREMENT is only allowed on an INTEGER PRIMARY KEY"
  | .unknownCollation name => "no such collation sequence: " ++ name
  | .tooManyTableColumns table => "too many columns on " ++ table
  | .tooManyColumns => "too many columns in result set"
  | .noSuchFunction name => "no such function: " ++ name
  | .argumentCount function => "wrong number of arguments to function " ++ function ++ "()"
  | .misusedAggregate function => "misuse of aggregate function " ++ function ++ "()"
  | .misusedWindow function => "misuse of window function " ++ function ++ "()"
  | .noWindow function => function ++ "() may not be used as a window function"
  | .distinctWindow => "DISTINCT is not supported for window functions"
  | .filteredCall function => "FILTER may not be used with non-aggregate " ++ function ++ "()"
  | .orderedCall function => "ORDER BY may not be used with non-aggregate " ++ function ++ "()"
  | .unknownFunction function => "unknown function: " ++ function ++ "()"
  | .unsafeFunction function => "unsafe use of " ++ function ++ "()"
  | .tooManyArguments function => "too many arguments on function " ++ function
  | .wrongProbability function =>
    "second argument to " ++ function ++ "() must be a constant between 0.0 and 1.0"
  | .prohibited what kind => what ++ " prohibited in " ++ kind
  | .misusedRow => "row value misused"
  | .memberWidth found wanted =>
    "IN(...) element has " ++ toString found ++ " term" ++ (if 1 < found then "s" else "") ++
      " - expected " ++ toString wanted
  | .misplacedRaise => "RAISE() may only be used within a trigger-program"
  | .oversizedLiteral spelling => "hex literal too big: " ++ spelling
  | .parameterNumber => "variable number must be between ?1 and ?32766"
  | .variableDefault column => "default value of column [" ++ column ++ "] is not constant"
  | .generatedDefault => "cannot use DEFAULT on a generated column"
  | .generatedKey => "generated columns cannot be part of the PRIMARY KEY"
  | .misplacedGenerator column => "error in generated column \"" ++ column ++ "\""
  | .circularGenerator column => "generated column loop on \"" ++ column ++ "\""
  | .onlyGenerated => "must have at least one non-generated column"
  | .generatedTarget column => "cannot UPDATE generated column \"" ++ column ++ "\""
  | .conflictingResolutions => "conflicting ON CONFLICT clauses specified"
  | .severalTargets column table =>
    "foreign key on " ++ column ++ " should reference only one column of table " ++ table
  | .uncountedTargets =>
    "number of columns in foreign key does not match the number of columns in the referenced table"
  | .unknownKeyColumn column => "unknown column \"" ++ column ++ "\" in foreign key definition"
  | .surplusAfterColumn column => "syntax error after column name \"" ++ column ++ "\""
  | .unknownOption name => "unknown table option: " ++ name
  | .missingType table column => "missing datatype for " ++ table ++ "." ++ column
  | .unknownType table column type =>
    "unknown datatype for " ++ table ++ "." ++ column ++ ": \"" ++ type ++ "\""
  | .countingByKey => "AUTOINCREMENT not allowed on WITHOUT ROWID tables"
  | .missingKey table => "PRIMARY KEY missing on table " ++ table
  | .placedNulls place => "unsupported use of NULLS " ++ place
  | .datatypeMismatch => "datatype mismatch"
  | .wrongKind kind type table column =>
    "cannot store " ++ kind ++ " value in " ++ type ++ " column " ++ table ++ "." ++ column
  | .noNumberLeft => "database or disk is full"
  | .tooManyLevels => "too many levels of trigger recursion"
  | .absentValue table column => "NOT NULL constraint failed: " ++ table ++ "." ++ column
  | .notUnique columns =>
    "UNIQUE constraint failed: " ++ ", ".intercalate (columns.map fun c => c.1 ++ "." ++ c.2)
  | .failedCheck name => "CHECK constraint failed: " ++ name
  | .mismatchedReference table target =>
    "foreign key mismatch - \"" ++ table ++ "\" referencing \"" ++ target ++ "\""
  | .failedReference => "FOREIGN KEY constraint failed"
  | .calculation fault => fault.message
  | .nestedTransaction => "cannot start a transaction within a transaction"
  | .noCommit => "cannot commit - no transaction is active"
  | .noRollback => "cannot rollback - no transaction is active"
  | .settledSynchronous => "Safety level may not be changed inside a transaction"
  | .settledStore => "temporary storage cannot be changed from within a transaction"
  | .settledLog isWanted =>
    "cannot change " ++ (if isWanted then "into" else "out of") ++
      " wal mode from within a transaction"
  | .locked => "database is locked"
  | .tableLocked none => "database table is locked"
  | .tableLocked (some name) => "database table is locked: " ++ name
  | .catalogLocked => "database schema is locked: main"
  | .readOnly => "attempt to write a readonly database"
  | .noJournal => "unable to open database file"
  | .unknownDatabase name => "unknown database " ++ name
  | .returnedRows => "Execute returned results - did you mean to call query?"
  | .noRows => "Query returned no rows"
  | .invalidColumnName name => "Invalid column name: " ++ name

/-- A fault that another look at the tables may settle: something that a statement refers to is not
there, or a name that it gives cannot be had. -/
def StatementFault.isOfNames : StatementFault → Bool
  | .noSuchTable _ => true
  | .noSuchColumn _ => true
  | .tableExists _ => true
  | .reservedName _ => true
  | _ => false

/-- A fault that no constraint foresees, which shows while rows are worked on. -/
def StatementFault.isUnforeseen : StatementFault → Bool
  | .noNumberLeft => true
  | .datatypeMismatch => true
  | .wrongKind _ _ _ _ => true
  | .calculation _ => true
  | _ => false

/-- A refusal: its reason, and where in the text of the statement it lies, in bytes, if that is
known. -/
structure Refusal where
  fault : StatementFault
  offset : Option Nat := none
deriving DecidableEq, Repr

/-- The words of a refusal of a text. -/
def Refusal.message (r : Refusal) (text : String) : String :=
  match r.offset with
  | none => r.fault.message
  | some n => r.fault.message ++ " in " ++ text ++ " at offset " ++ toString n

/-- Why a database cannot be opened. -/
inductive OpenFault
  | cannotOpen (target : String)
  | unreadable
  /-- There is a zero byte in the target. -/
  | zeroByte (position : Nat)
  | unknownMode (kind mode : String)
  | forbiddenMode (mode : String)
  | unknownSystem (name : String)
  | unknownAuthority (authority : String)
  | locked
  | catalogLocked
  | noJournal
deriving DecidableEq, Repr

/-- The words of a database that cannot be opened. -/
def OpenFault.message : OpenFault → String
  | .cannotOpen target => "unable to open database file: " ++ target
  | .unreadable => "disk I/O error"
  | .zeroByte position => "nul byte found in provided data at position: " ++ toString position
  | .unknownMode kind mode => "no such " ++ kind ++ " mode: " ++ mode
  | .forbiddenMode mode => "access mode not allowed: " ++ mode
  | .unknownSystem name => "no such vfs: " ++ name
  | .unknownAuthority authority => "invalid uri authority: " ++ authority
  | .locked => "database is locked"
  | .catalogLocked => "database schema is locked: main"
  | .noJournal => "unable to open database file"

mutual

/-- What went wrong: `SqlWeaveError`. -/
inductive Error
  | connection (target : String) (cause : Cause)
  /-- The text of the statement was refused. -/
  | statement (text : String) (refusal : Refusal)
  | parse (fault : ParseFault)
  | expression (fault : ExpressionFault)
  | config (fault : ConfigFault)

/-- Why a connection failed. -/
inductive Cause
  | stated (text : String)
  | refusedToOpen (fault : OpenFault)
  | error (inner : Error)

end

mutual

/-- The words of an error: the `Display` of `SqlWeaveError`. -/
def Error.message : Error → String
  | .connection target cause =>
    "Failed to establish connection to " ++ target ++ ": " ++ cause.message
  | .statement text refusal => "SQLite error: " ++ refusal.message text
  | .parse fault => "SQL parse error: " ++ fault.message
  | .expression fault => "Invalid expression: " ++ fault.message
  | .config fault => "Configuration error: " ++ fault.message

/-- The words of a cause. -/
def Cause.message : Cause → String
  | .stated text => text
  | .refusedToOpen fault => fault.message
  | .error inner => inner.message

end

mutual

/-- The words of everything below an error, from the nearest to the deepest. -/
def Error.sources : Error → List String
  | .connection _ cause => cause.message :: cause.sources
  | .statement text refusal => [refusal.message text]
  | .parse fault => [fault.message]
  | .expression _ => []
  | .config _ => []

/-- The words of everything below a cause. -/
def Cause.sources : Cause → List String
  | .stated _ => []
  | .refusedToOpen _ => []
  | .error inner => inner.sources

end

namespace Error

/-- The five-character code of an error's class: `SqlWeaveError::sqlstate`. -/
def sqlState : Error → String
  | .connection _ _ => "08001"
  | .statement _ _ => "58000"
  | .parse _ => "42601"
  | .expression _ => "42000"
  | .config _ => "F0000"

/-- No connection came about: `SqlWeaveError::is_connection_failure`. -/
def isConnectionFailure : Error → Bool
  | .connection _ _ => true
  | _ => false

/-- The state of failed connections is that of connection failures and of no other error. -/
theorem sqlState_connection_iff (e : Error) :
    e.sqlState = "08001" ↔ e.isConnectionFailure = true := by
  cases e <;> simp [sqlState, isConnectionFailure]

end Error

end PooledSql
