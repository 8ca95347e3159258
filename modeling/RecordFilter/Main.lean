import RecordFilter.CommandLine.Run
import RecordFilter.Configuration.Source

/-!
# The command

Gives the command its arguments, files, environment and records, and writes what it ends with.  The
files of its configuration are read as JSON.
-/

open RecordFilter

/-- The variables of the environment, where the system shows them. -/
def environmentVariables : IO (List (Text × Text)) := do
  try
    let content ← IO.FS.readFile "/proc/self/environ"
    return (content.toList.splitOn (Char.ofNat 0)).filterMap (Text.cutAt? '=')
  catch _ => return []

/-- The files among the given names that can be read. -/
def readFiles (names : List Text) : IO (List (Text × Text)) := do
  let mut found := []
  for name in names do
    try
      let content ← IO.FS.readFile (String.ofList name)
      found := (name, content.toList) :: found
    catch _ => pure ()
  return found

/-- The names of the files that arguments may refer to. -/
def fileNames (args : List Text) : List Text :=
  match CommandLine.Arguments.ofTexts args with
  | .ok a => ([a.config, a.log].filterMap id).flatMap fun name =>
    let plain := Configuration.plainFileName name
    [plain, plain ++ '.' :: Configuration.jsonEnding]
  | .error _ => []

/-- Writes what a command ends with. -/
def deliver (o : CommandLine.Outcome) : IO UInt32 := do
  IO.eprint (String.ofList o.complaint)
  try
    let output ← IO.getStdout
    output.putStr (String.ofList o.output)
    output.flush
  catch _ => pure ()
  return UInt32.ofNat o.status

def main (args : List String) : IO UInt32 := do
  let args := args.map String.toList
  let files ← readFiles (fileNames args)
  let environment ← environmentVariables
  match CommandLine.run args { content? := fun name => files.lookup name } environment with
  | .finished o => deliver o
  | .awaitsRecords answer =>
    try
      let input ← (← IO.getStdin).readToEnd
      deliver (answer input.toList)
    catch _ => deliver (.failure "failed to read input".toList)
