import RecordFilter.Configuration.Error
import RecordFilter.Json.Reader
import RecordFilter.Text.LowerCase

/-!
# Sources of configurations

Entries come from files, and from the variables of the environment whose names begin with a given
word.  The ending of a file's name tells its format.  One of the formats is JSON; the readers of
others may be given with the files.
-/

namespace RecordFilter.Configuration

/-- A name of a file without the steps that lead nowhere. -/
def plainFileName (name : Text) : Text :=
  match name.splitOn '/' with
  | [] => []
  | first :: rest =>
    let kept := rest.filter fun s => !s.isEmpty && s != ['.']
    ['/'].intercalate (if first = ['.'] then kept else first :: kept)

/-- The ending of a file's name, without the point; a name that only begins with a point has
none. -/
def fileEnding (name : Text) : Text :=
  let file := (name.splitOn '/').getLastD []
  match file.reverse.span (· != '.') with
  | (_, []) | (_, ['.']) => []
  | (ending, _) => ending.reverse

/-- Reads the entries of a text for a source, or says what is wrong with the text. -/
abbrev FileReader := Text → Text → Except Text (List (Text × Configuration))

/-- The ending of a file of JSON. -/
def jsonEnding : Text := "json".toList

/-- Reads the entries of a text of JSON.  What is no object has none. -/
def readJson : FileReader := fun origin content =>
  match Json.ofText content with
  | .ok (.object fields) => .ok (ofFields origin fields)
  | .ok _ => .ok []
  | .error e => .error e.message.toList

/-- The files that configurations are read from. -/
structure Files where
  /-- What a file contains, if there is one of this name. -/
  content? : Text → Option Text
  /-- The formats known, JSON alone unless others are given: endings in the order in which they are
  tried, with their readers. -/
  formats : List (Text × FileReader) := [(jsonEnding, readJson)]

/-- No files at all. -/
def Files.empty : Files where
  content? _ := none

/-- The entries of a text in a format. -/
def ofFileText (read : FileReader) (name content : Text) :
    Except ConfigurationError (List (Text × Configuration)) :=
  match read name content with
  | .ok entries => .ok entries
  | .error cause => .error (.badFile cause name)

/-- The entries of a file given by its name, with or without its ending. -/
def ofFile (files : Files) (name : Text) :
    Except ConfigurationError (List (Text × Configuration)) :=
  let plain := plainFileName name
  match files.content? plain with
  | some content =>
    match files.formats.lookup (fileEnding plain) with
    | some read => ofFileText read plain content
    | none => .error (.unknownFormat name)
  | none =>
    let found := files.formats.findSome? fun (ending, read) =>
      let full := plain ++ '.' :: ending
      (files.content? full).map (ofFileText read full)
    found.getD (.error (.missingFile name))

/-- What an entry from the environment is said to come from. -/
def environmentName : Text := "the environment".toList

/-- The value that the text of a variable writes: a truth value, an integer, another number, or the
text itself. -/
def readVariable (t : Text) : Leaf :=
  let word := Text.lowerCase t
  if word = "true".toList then .bool true
  else if word = "false".toList then .bool false
  else match Text.integer? t with
    | some i => .integer i
    | none =>
      match Reading.ofText? t with
      | some x => .float x
      | none => .text t

/-- The entries of the variables whose names begin with `lead`, the letter case of names aside. -/
def ofEnvironment (lead : Text) (read : Text → Leaf) (environment : List (Text × Text)) :
    List (Text × Configuration) :=
  environment.filterMap fun v =>
    (lead.isPrefixOf? (Text.lowerCase v.1)).map fun name =>
      (name, .leaf environmentName (read v.2))

end RecordFilter.Configuration
