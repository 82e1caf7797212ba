import PooledSql.Program

/-!
# Running the program

The one place where arguments and environment are read and lines are printed. The program is run on a
machine with few directories and no files.
-/

open PooledSql

/-- Runs the program. -/
def main (arguments : List String) : IO UInt32 := do
  let values ← Config.Setting.all.mapM fun s => return (s, ← IO.getEnv s.fullVariable)
  let t := Program.run Sqlite.Directories.few arguments fun s => (values.lookup s).join
  t.output.forM IO.println
  if t.complaint ≠ "" then IO.eprintln t.complaint
  return UInt32.ofNat t.exit
