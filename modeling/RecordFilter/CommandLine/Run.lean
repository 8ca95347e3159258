import RecordFilter.CommandLine.Arguments
import RecordFilter.Configuration.Logging
import RecordFilter.Json.Writer
import RecordFilter.Record.Reading
import RecordFilter.Search.Engine

/-!
# Running the command

The command reads records and writes those that match a query, one a line, or writes the conditions
of the query without reading records.  Its end is a status with what is written to either stream.
-/

namespace RecordFilter.CommandLine

/-- How the command ends. -/
structure Outcome where
  status : Nat
  output : Text := []
  /-- What is written to the stream for errors, apart from what is logged there: at the normal level
  these are the warnings for texts that are no patterns. -/
  complaint : Text := []
deriving DecidableEq, Repr

namespace Outcome

/-- The end with something written. -/
def success (output : Text) : Outcome := ⟨0, output, []⟩

/-- The end with an error. -/
def failure (message : Text) : Outcome := ⟨1, [], "error: ".toList ++ message ++ ['\n']⟩

/-- The end when a list has no place for a value: the command breaks off. -/
def broken (message : Text) : Outcome := ⟨101, [], message ++ ['\n']⟩

/-- The end when the configuration cannot be read. -/
def ofConfigurationError (e : ConfigurationError) : Outcome :=
  match e with
  | .noPlace _ => broken e.message
  | _ => failure e.message

/-- The end when nothing can be written to the output: what should have been written ends the
command without an error. -/
def withoutOutput (o : Outcome) : Outcome := { o with output := [] }

end Outcome

/-- The command as far as it goes without records. -/
inductive Program
  | finished (o : Outcome)
  | awaitsRecords (answer : Text → Outcome)

/-- The end of a command that is given the text of its records. -/
def Program.finish : Program → Text → Outcome
  | finished o, _ => o
  | awaitsRecords answer, input => answer input

/-- How the command is used. -/
def usage : Text :=
  "USAGE:\n    tfq [OPTIONS] <QUERY>\n".toList

/-- The end when no query is run. -/
def Stop.outcome : Stop → Outcome
  | wrongUse => ⟨2, [], usage⟩
  | versionAsked => .success "tfq 0.1.0\n".toList
  | helpAsked => .success usage

/-- Settings with those that the arguments ask for. -/
def Arguments.adjust (a : Arguments) (s : Settings) : Settings :=
  { s with
    ignoreCase := a.ignoreCase || s.ignoreCase
    onePhrase := a.onePhrase || s.onePhrase
    haystackKey := a.haystackKey.getD s.haystackKey }

/-- A condition as it may stand in a query and in words. -/
def conditionLine (c : Condition) : Text :=
  c.text ++ '\t' :: c.describe ++ ['\n']

/-- The conditions of a query, with a bar between sub-queries. -/
def conditionLines (chain : List (List Condition)) : Text :=
  ['|', '\n'].intercalate (chain.map (·.flatMap conditionLine))

/-- Records, one a line. -/
def recordLines (records : List Json) : Text :=
  records.flatMap fun r => r.write ++ ['\n']

/-- The records that match, in the order asked for by the query and then by the arguments. -/
def Arguments.matching (a : Arguments) (o : Options) (records : List Json) : List Json :=
  let found := ((Engine.ofOptions o).searchAndSort records a.query).value.1
  match a.sort with
  | some key => sortAt key a.descending found
  | none => found

/-- The end of a command that is given the text of its records. -/
def Arguments.answer (a : Arguments) (o : Options) (input : Text) : Outcome :=
  match readRecords input with
  | .ok records => .success (recordLines (a.matching o records))
  | .error e => .failure e.message.toList

/-- Runs the command with its options (`Root::run`). -/
def Arguments.program (a : Arguments) (o : Options) : Program :=
  if a.tokens then
    .finished (.success (conditionLines ((Engine.ofOptions o).conditions a.query).value))
  else .awaitsRecords (a.answer o)

/-- The options that the arguments, the files and the environment ask for (`Root::options`). -/
def Arguments.options (a : Arguments) (files : Configuration.Files)
    (environment : List (Text × Text)) : Except ConfigurationError Options := do
  let _ ← Configuration.loadLogging files environment a.log
  let settings ← Configuration.loadSettings files environment a.config
  return .ofSettings (a.adjust settings)

/-- Runs the command (`main`). -/
def run (args : List Text) (files : Configuration.Files) (environment : List (Text × Text)) :
    Program :=
  match Arguments.ofTexts args with
  | .error stop => .finished stop.outcome
  | .ok a =>
    match a.options files environment with
    | .ok o => a.program o
    | .error e => .finished (.ofConfigurationError e)

end RecordFilter.CommandLine
