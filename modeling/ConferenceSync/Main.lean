import ConferenceSync.CommandLine

/-!
# The program

Reads the options and the files that they name, and prints the lines of a run.
-/

namespace ConferenceSync.CommandLine

/-- The text of a file that an option names, if there is one that can be read. -/
def readTextFile? : Option String → IO (Option String)
  | none => return none
  | some path => do
    try
      return some (← IO.FS.readFile path)
    catch _ =>
      return none

/-- The octets of a file with the URL under which it is served. -/
def readServed (entry : String × String) : IO (String × List UInt8) := do
  let bytes ← IO.FS.readBinFile entry.2
  return (entry.1, bytes.toList)

/-- Runs the program with the words of its command line, and gives its exit code. -/
def execute (words : List String) : IO UInt32 := do
  match parse .none words with
  | .error message =>
    IO.eprintln message
    return 2
  | .ok options =>
    let override? ← readTextFile? options.override?
    let seed? ← readTextFile? options.seed?
    let served ← options.served.mapM readServed
    (run options { override?, seed?, served }).forM IO.println
    return 0

end ConferenceSync.CommandLine

/-- The program. -/
def main (args : List String) : IO UInt32 :=
  ConferenceSync.CommandLine.execute args
