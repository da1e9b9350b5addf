import GraphPath.Endpoint
import GraphPath.Settings.Dotenv
import GraphPath.Settings.Port

/-!
# Settings

Where the server is and which version of its interface to use. A setting is taken from
the arguments, else from the environment, else from the settings file, else it has its
default. Names are compared without regard to case.

* `Settings` — host, port and version; `Settings.url` — the endpoint;
* `SettingsFault` — why a setting is not accepted;
* `Settings.load` — the settings, or all faults in the order of the fields;
* `Settings.Cache` — settings that are loaded once.
-/

namespace GraphPath

/-- **The settings.** -/
structure Settings where
  host : Text
  port : Port
  version : Text

/-- **A setting.** -/
inductive Setting where
  | host
  | port
  | version
deriving DecidableEq, Repr

/-- The name of a setting. -/
def Setting.name : Setting → Text
  | .host => "cayley_host"
  | .port => "cayley_port"
  | .version => "cayley_api_version"

/-- **Why a setting is not accepted.** -/
inductive SettingsFault where
  | notAString (setting : Setting)
  | notAPort (fault : PortFault)
deriving DecidableEq, Repr

namespace SettingsFault

/-- The setting at fault. -/
def setting : SettingsFault → Setting
  | .notAString setting => setting
  | .notAPort _ => .port

/-- The kind of a fault. -/
def kind : SettingsFault → Text
  | .notAString _ => "string_type"
  | .notAPort .notUnicode => "string_unicode"
  | .notAPort .notParsable => "int_parsing"
  | .notAPort .tooLong => "int_parsing_size"
  | .notAPort .fractional => "int_from_float"
  | .notAPort .notFinite => "finite_number"
  | .notAPort .notANumber => "int_type"
  | .notAPort .tooSmall => "greater_than_equal"
  | .notAPort .tooLarge => "less_than_equal"

/-- The wording of a fault. -/
def message : SettingsFault → Text
  | .notAString _ => "Input should be a valid string"
  | .notAPort .notUnicode =>
    "Input should be a valid string, unable to parse raw data as a unicode string"
  | .notAPort .notParsable =>
    "Input should be a valid integer, unable to parse string as an integer"
  | .notAPort .tooLong => "Unable to parse input string as an integer, exceeded maximum size"
  | .notAPort .fractional =>
    "Input should be a valid integer, got a number with a fractional part"
  | .notAPort .notFinite => "Input should be a finite number"
  | .notAPort .notANumber => "Input should be a valid integer"
  | .notAPort .tooSmall => "Input should be greater than or equal to 1"
  | .notAPort .tooLarge => "Input should be less than or equal to 65535"

end SettingsFault

namespace Settings

/-- The settings that are used where nothing else is said. -/
def default : Settings := ⟨"localhost", ⟨64210, by omega, by omega⟩, "v1"⟩

/-- **The endpoint** of the settings, perhaps with another version. -/
def url (settings : Settings) (version : Option ApiVersion) : Text :=
  Endpoint.url settings.host (Text.ofNat settings.port.number)
    ((version.map ApiVersion.segment).getD settings.version)

/-- **What settings are loaded from.** -/
structure Sources where
  arguments : Fields Json
  environment : Fields Text
  file : Option Text

/-- The first value under a name, in any spelling. -/
def lookupFirst {α : Type} (name : Text) (fields : Fields α) : Option α :=
  (fields.find? (·.1.lower = name)).map (·.2)

/-- The last value under a name, in any spelling. -/
def lookupLast {α : Type} (name : Text) (fields : Fields α) : Option α :=
  lookupFirst name fields.reverse

/-- **The value of a setting** in the first source that has it. Of several spellings the
first one counts among the arguments, and the last one elsewhere. -/
def Sources.value? (sources : Sources) (setting : Setting) : Option Json :=
  (lookupFirst setting.name sources.arguments).or <|
    (lookupLast setting.name sources.environment).map Json.text |>.or <|
      (sources.file.bind fun file =>
        (lookupLast setting.name (Dotenv.read sources.environment file)).bind id).map Json.text

/-- A setting that is a text. -/
def textSetting (sources : Sources) (setting : Setting) (default : Text) :
    Except SettingsFault Text :=
  match sources.value? setting with
  | none => .ok default
  | some (.text t) => .ok t
  | some _ => .error (.notAString setting)

/-- The setting that is a port. -/
def portSetting (sources : Sources) : Except SettingsFault Port :=
  match sources.value? .port with
  | none => .ok default.port
  | some v => match Port.ofJson v with
    | .ok port => .ok port
    | .error fault => .error (.notAPort fault)

/-- The fault of an outcome, if it is one. -/
def faultOf {α : Type} : Except SettingsFault α → List SettingsFault
  | .ok _ => []
  | .error fault => [fault]

/-- **Loading the settings.** Faults are listed in the order host, port, version. -/
def load (sources : Sources) : Except (List SettingsFault) Settings :=
  let host := textSetting sources .host default.host
  let port := portSetting sources
  let version := textSetting sources .version default.version
  -- all settings are looked at before any fault is told
  match host, port, version with
  | .ok host, .ok port, .ok version => .ok ⟨host, port, version⟩
  | host, port, version => .error (faultOf host ++ faultOf port ++ faultOf version)

/-! ### Loading once -/

/-- **Settings that are loaded once**: what was loaded, if anything. -/
abbrev Cache := Option Settings

/-- The cached settings, loaded from the sources if there are none. A failure is not
kept. -/
def Cache.get (cache : Cache) (sources : Sources) : Except (List SettingsFault) Settings × Cache :=
  match cache with
  | some settings => (.ok settings, some settings)
  | none =>
    match load sources with
    | .ok settings => (.ok settings, some settings)
    | .error faults => (.error faults, none)

end Settings

end GraphPath
