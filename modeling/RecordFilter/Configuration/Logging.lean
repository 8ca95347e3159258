import RecordFilter.Configuration.Settings

/-!
# What is logged

How much is logged is one of two levels or a list of directives, and what is logged may be written
as JSON.  Here a file has the last word.
-/

namespace RecordFilter

/-- How much is logged (`LogStructure`). -/
inductive LogLevel
  | normal
  | detailed
  | directives (ds : List Text)
deriving DecidableEq, Repr

/-- What is logged, and how (`LoggingConfig`). -/
structure Logging where
  level : LogLevel
  json : Bool
deriving DecidableEq, Repr

namespace Configuration

/-- The level with a name. -/
def levelNamed? (name : Text) : Option LogLevel :=
  if name = "normal".toList then some .normal
  else if name = "detailed".toList then some .detailed
  else none

/-- The text that a value is. -/
def text? : Configuration → Option Text
  | .leaf _ (.text t) => some t
  | _ => none

/-- The level that a value asks for. -/
def level? : Configuration → Option LogLevel
  | .leaf _ (.text name) | .table [(name, .leaf _ .nothing)] => levelNamed? name
  | .list _ vs => (vs.mapM text?).map .directives
  | _ => none

/-- Converts to a level. -/
def asLevel (_key : Text) (v : Configuration) : Converted LogLevel :=
  match v.level? with
  | some l => .ok l
  | none => .error (.noForm "LogStructure")

/-- What is usually logged. -/
def usualLogging : Configuration :=
  .table [("level".toList, .leaf none (.text "normal".toList)),
    ("json".toList, .leaf none (.bool false))]

/-- Reads what is logged from its sources (`load_logging_config`). -/
def loadLogging (files : Files) (environment : List (Text × Text)) (file : Option Text) :
    Converted Logging := do
  let entries ← ofNamedFile files file
  let given := ofEnvironment "textfilter_log_".toList .text environment
  let c ← (← usualLogging.withSource given).withSource entries
  let json ← c.convertEntry "json" asBool
  let level ← c.convertEntry "level" asLevel
  return ⟨level.getD .normal, json.getD false⟩

end Configuration

end RecordFilter
