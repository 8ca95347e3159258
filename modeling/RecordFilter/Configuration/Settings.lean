import RecordFilter.Configuration.Conversion
import RecordFilter.Configuration.Path
import RecordFilter.Configuration.Source
import RecordFilter.Query.Options

/-!
# Settings from their sources

Settings are the usual ones, with those of a file laid over them and those of the environment on
top.
-/

namespace RecordFilter.Configuration

/-- The entry of a configuration under a name, converted. -/
def convertEntry {α : Type} (c : Configuration) (name : String)
    (convert : Text → Configuration → Converted α) : Converted (Option α) :=
  match c.entry? name.toList with
  | some v => (convert name.toList v).map some
  | none => .ok none

/-- Converts to a number that may be missing. -/
def asCapacity (key : Text) : Configuration → Converted (Option Nat)
  | .leaf _ .nothing => .ok none
  | v => (v.asNat key).map some

/-- Converts to a fault policy. -/
def asFaultPolicy (_key : Text) : Configuration → Converted FaultPolicy :=
  asChoice "FaultPolicy" ([.opened, .closed].map fun p => (FaultPolicy.word p, p))

/-- The settings of a configuration. -/
def toSettings (c : Configuration) : Converted Settings := do
  let aliases ← c.convertEntry "aliases" asTexts
  let cacheCapacity ← c.convertEntry "cache_capacity" asCapacity
  let faultPolicy ← c.convertEntry "fault_policy" asFaultPolicy
  let onePhrase ← c.convertEntry "haystack_as_one_token" asBool
  let haystackKey ← c.convertEntry "haystack_key" asText
  let ignoreCase ← c.convertEntry "ignore_case" asBool
  return {
    haystackKey := haystackKey.getD defaultHaystackKey
    ignoreCase := ignoreCase.getD false
    onePhrase := onePhrase.getD false
    faultPolicy := faultPolicy.getD .closed
    cacheCapacity := cacheCapacity.getD none
    aliases := aliases.getD [] }

/-- The usual settings. -/
def usualSettings : Configuration :=
  .table [
    ("haystack_key".toList, .leaf none (.text defaultHaystackKey)),
    ("ignore_case".toList, .leaf none (.bool false)),
    ("haystack_as_one_token".toList, .leaf none (.bool false)),
    ("fault_policy".toList, .leaf none (.text "closed".toList))]

/-- The entries of the file that is named, if one is. -/
def ofNamedFile (files : Files) :
    Option Text → Except ConfigurationError (List (Text × Configuration))
  | some name => ofFile files name
  | none => .ok []

/-- Reads the settings from their sources (`load`). -/
def loadSettings (files : Files) (environment : List (Text × Text)) (file : Option Text) :
    Converted Settings := do
  let entries ← ofNamedFile files file
  let given := ofEnvironment "textfilter_".toList readVariable environment
  toSettings (← (← usualSettings.withSource entries).withSource given)

end RecordFilter.Configuration
