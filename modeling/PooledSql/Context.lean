import PooledSql.Text.Hex

/-!
# Execution contexts

Who asks for a session: a thread, or a unit of work that names itself by a 128-bit number and may
move between threads.
-/

namespace PooledSql

/-- A thread: the first one, or a numbered other one. -/
inductive Thread
  | main
  | worker (n : Nat)
deriving DecidableEq, Repr

/-- An execution context: `session::context_cache::ContextKey`. -/
inductive ContextKey
  | thread (t : Thread)
  | scope (id : Nat)
deriving DecidableEq, Repr

/-- The lowest `count` hexadecimal digits of a number. -/
def hexDigits (n : Nat) : Nat → List Char
  | 0 => []
  | count + 1 => hexDigits (n / 16) count ++ [Text.Hex.digit (n % 16)]

/-- A 128-bit number in five groups of digits. -/
def scopeText (id : Nat) : List Char :=
  let digits := hexDigits id 32
  digits.take 8 ++ '-' :: (digits.drop 8).take 4 ++ '-' :: (digits.drop 12).take 4 ++
    '-' :: (digits.drop 16).take 4 ++ '-' :: digits.drop 20

/-- A context as messages show it, given what threads are called: the `Display` of
`session::context_cache::ContextKey`. -/
def ContextKey.display (threadName : Thread → String) : ContextKey → String
  | .thread t => "thread " ++ threadName t
  | .scope id => "scope " ++ String.ofList (scopeText id)

end PooledSql
