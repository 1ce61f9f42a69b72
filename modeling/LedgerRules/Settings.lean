import LedgerRules.Account.Coverage
import LedgerRules.Json.Reader
import LedgerRules.Payload.Scalar
import LedgerRules.Text.CaseMap

/-!
# Settings

Settings are read from named values, whose names count without regard to case.
A setting that is not named keeps its default.  The excluded account types are
written as a JSON list.
-/

namespace LedgerRules

/-- The settings of the service and of the drafting of rules. -/
structure Settings where
  databaseUrl : String := "sqlite:///./finance_automation.db"
  host : String := "0.0.0.0"
  port : Int := 8000
  debug : Bool := false
  logLevel : String := "INFO"
  detectionPriority : Int := Coverage.defaultPriority
  excludedTypes : List String := Coverage.excludedByDefault
deriving DecidableEq, Repr, Inhabited

namespace Settings

/-- Why settings cannot be read: a list that is no JSON, or values with
problems. -/
inductive Fault where
  | unreadableList (name : String)
  | invalid (problems : List Payload.Problem)
deriving DecidableEq, Repr

/-- The complaint about a list that is no JSON. -/
def unreadableMessage (name : String) : String :=
  "error parsing value for field \"" ++ name ++
    "\" from source \"EnvSettingsSource\""

def excludedName : String := "account_detection_excluded_types"

/-- The name of a setting, with capital letters made small. -/
def smallName (name : String) : String :=
  String.ofList
    (name.toList.map fun character => Char.ofNat (lowerCase character.toNat))

/-- The last value with a name, cases apart. -/
def value? (name : String) (values : List (String × String)) : Option String :=
  (values.reverse.find? fun value => smallName value.1 = name).map (·.2)

/-- Checks the values of the settings, with the value of the list already
read. -/
def check (values : List (String × String)) (excluded : Json) :
    Payload.Checked Settings :=
  let setting {Value : Type} (name : String) (default : Value)
      (check : Payload.Check Value) :
      Payload.Checked Value :=
    match value? name values with
    | some value => (check (.str value)).under (.field name)
    | none => .accepted default
  let defaults : Settings := {}
  Settings.mk
    <$> setting "database_url" defaults.databaseUrl Payload.text
    <*> setting "host" defaults.host Payload.text
    <*> setting "port" defaults.port Payload.int
    <*> setting "debug" defaults.debug Payload.bool
    <*> setting "log_level" defaults.logLevel Payload.text
    <*> setting "account_detection_priority" defaults.detectionPriority
      Payload.int
    <*> (match excluded with
      | .null => .accepted defaults.excludedTypes
      | excluded =>
          (Payload.list Payload.text excluded).under (.field excludedName))

def read (values : List (String × String)) : Except Fault Settings := do
  let excluded ← match value? excludedName values with
    | none => pure Json.null
    | some value =>
        match Json.read value with
        | .ok excluded => pure excluded
        | .error _ => throw (.unreadableList excludedName)
  match check values excluded with
  | .accepted settings => return settings
  | .rejected problems => throw (.invalid problems)
  | .overflowed => throw (.invalid [])

def toJson (settings : Settings) : Json :=
  .obj [("database_url", .str settings.databaseUrl),
    ("host", .str settings.host), ("port", .int settings.port),
    ("debug", .bool settings.debug),
    ("log_level", .str settings.logLevel),
    ("account_detection_priority", .int settings.detectionPriority),
    (excludedName, .arr (settings.excludedTypes.map .str))]

end Settings

end LedgerRules
