import RecordFilter.Text.Basic

/-!
# Arguments of the command line

The command takes one query, switches, and options with a value.  Switches of one letter may stand
together, the last of them may be an option with its value attached; the value of a long option may
follow an equals sign.  Two hyphens end the options.  No switch and no option may be repeated, and
the reverse order needs a field to sort by.
-/

namespace RecordFilter.CommandLine

/-- What is switched on by its name alone. -/
inductive Switch
  | ignoreCase
  | onePhrase
  | descending
  | tokens
  | version
  | help
deriving DecidableEq, Repr

/-- What is followed by a value. -/
inductive Slot
  | config
  | log
  | haystackKey
  | sort
deriving DecidableEq, Repr

/-- What a name on the command line means. -/
inductive Parameter
  | switch (s : Switch)
  | slot (s : Slot)
deriving DecidableEq, Repr

/-- The long names. -/
def longNames : List (Text × Parameter) :=
  [("config".toList, .slot .config), ("log".toList, .slot .log),
   ("ignore-case".toList, .switch .ignoreCase), ("haystack-key".toList, .slot .haystackKey),
   ("one-token".toList, .switch .onePhrase), ("sort".toList, .slot .sort),
   ("reverse".toList, .switch .descending), ("tokens".toList, .switch .tokens),
   ("version".toList, .switch .version), ("help".toList, .switch .help)]

/-- The names of one letter. -/
def shortNames : List (Char × Parameter) :=
  [('c', .slot .config), ('i', .switch .ignoreCase), ('s', .slot .sort),
   ('r', .switch .descending), ('V', .switch .version), ('h', .switch .help)]

/-- Why no query is run. -/
inductive Stop
  | wrongUse
  | versionAsked
  | helpAsked
deriving DecidableEq, Repr

/-- What has been read so far.  An option without a value waits for the next argument. -/
structure Gathered where
  switches : List Switch := []
  values : List (Slot × Option Text) := []
  waiting : Option Slot := none
  queries : List Text := []
deriving Repr

namespace Gathered

/-- Leaves the waiting option without a value. -/
def settle (r : Gathered) : Gathered :=
  match r.waiting with
  | some s => { r with values := r.values ++ [(s, none)], waiting := none }
  | none => r

/-- Takes a switch. -/
def takeSwitch (r : Gathered) : Switch → Except Stop Gathered
  | .version => .error .versionAsked
  | .help => .error .helpAsked
  | s => .ok { r.settle with switches := r.settle.switches ++ [s] }

/-- Takes an option with its value. -/
def takeValue (r : Gathered) (s : Slot) (value : Text) : Gathered :=
  { r.settle with values := r.settle.values ++ [(s, some value)] }

/-- Takes an option that waits for its value. -/
def takeSlot (r : Gathered) (s : Slot) : Gathered :=
  { r.settle with waiting := some s }

/-- Takes the query; there is only one. -/
def takeQuery (r : Gathered) (query : Text) : Except Stop Gathered :=
  if r.queries.isEmpty then .ok { r.settle with queries := [query] } else .error .wrongUse

/-- Takes a long name, with the value that follows an equals sign. -/
def takeLong (r : Gathered) (name : Text) (value : Option Text) : Except Stop Gathered :=
  match longNames.lookup name, value with
  | some (.switch s), none => r.takeSwitch s
  | some (.slot s), some v => .ok (r.takeValue s v)
  | some (.slot s), none => .ok (r.takeSlot s)
  | some (.switch _), some _ | none, _ => .error .wrongUse

/-- The value attached to a letter; an equals sign before it does not count. -/
def attachedValue : Text → Text
  | '=' :: rest => rest
  | rest => rest

/-- Takes letters that stand together. -/
def takeLetters (r : Gathered) : Text → Except Stop Gathered
  | [] => .ok r
  | c :: rest =>
    match shortNames.lookup c with
    | some (.switch s) =>
      match r.takeSwitch s with
      | .ok r => r.takeLetters rest
      | .error e => .error e
    | some (.slot s) =>
      if rest.isEmpty then .ok (r.takeSlot s) else .ok (r.takeValue s (attachedValue rest))
    | none => .error .wrongUse

/-- Takes an argument that names nothing. -/
def takePlain (r : Gathered) (arg : Text) : Except Stop Gathered :=
  match r.waiting with
  | some s => .ok { r with values := r.values ++ [(s, some arg)], waiting := none }
  | none => r.takeQuery arg

/-- Takes an argument before the end of the options. -/
def take (r : Gathered) : Text → Except Stop Gathered
  | '-' :: '-' :: name =>
    match Text.cutAt? '=' name with
    | some (name, value) => r.takeLong name (some value)
    | none => r.takeLong name none
  | '-' :: c :: letters => r.takeLetters (c :: letters)
  | arg => r.takePlain arg

/-- Takes the arguments in order. -/
def takeAll : Gathered → List Text → Except Stop Gathered
  | r, [] => .ok r.settle
  | r, ['-', '-'] :: rest => rest.foldlM takeQuery r.settle
  | r, arg :: rest =>
    match r.take arg with
    | .ok r => takeAll r rest
    | .error e => .error e

/-- The value of an option. -/
def value? (r : Gathered) (s : Slot) : Option Text :=
  (r.values.lookup s).join

/-- Whether something is switched on. -/
def isOn (r : Gathered) (s : Switch) : Bool :=
  r.switches.contains s

/-- Whether no switch and no option is repeated, and every option has a value. -/
def isProper (r : Gathered) : Bool :=
  decide r.switches.Nodup && decide (r.values.map (·.1)).Nodup && r.values.all (·.2.isSome) &&
    (!r.isOn .descending || (r.value? .sort).isSome)

end Gathered

/-- The arguments of the command (`Root`). -/
structure Arguments where
  query : Text
  config : Option Text := none
  log : Option Text := none
  haystackKey : Option Text := none
  sort : Option Text := none
  ignoreCase : Bool := false
  onePhrase : Bool := false
  descending : Bool := false
  tokens : Bool := false
deriving DecidableEq, Repr

/-- Reads the arguments of the command. -/
def Arguments.ofTexts (args : List Text) : Except Stop Arguments := do
  let r ← Gathered.takeAll {} args
  match r.queries with
  | [query] =>
    if r.isProper then
      return {
        query := query
        config := r.value? .config
        log := r.value? .log
        haystackKey := r.value? .haystackKey
        sort := r.value? .sort
        ignoreCase := r.isOn .ignoreCase
        onePhrase := r.isOn .onePhrase
        descending := r.isOn .descending
        tokens := r.isOn .tokens }
    else throw .wrongUse
  | _ => throw .wrongUse

end RecordFilter.CommandLine
