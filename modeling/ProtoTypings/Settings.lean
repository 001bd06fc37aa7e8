import ProtoTypings.ModulePath
import ProtoTypings.Text

/-!
# Settings

What the user may choose, and how it is written: `key=value` pairs separated by commas, with white
space around keys and values of no meaning. Of two pairs for one key the later counts.

* `Settings` — the choices, with their defaults.
* `Settings.parse` — reads them from the parameter of a request.
* `SettingsError` — why a parameter is refused; the first pair at fault decides.
-/

namespace ProtoTypings

/-- The runtime module that generated code imports, and the ending of generated files' names. -/
structure Settings where
  runtimeModule : String := "google-protobuf"
  outputSuffix : String := "_pb.d.ts"
deriving Repr, DecidableEq

inductive SettingsError where
  /-- A pair has no `=`. -/
  | notAPair (text : String)
  | emptyValue (key : String)
  | unknownKey (key : String)
deriving Repr, DecidableEq

def SettingsError.message : SettingsError → String
  | .notAPair text => "invalid option: expected key=value, got '" ++ text ++ "'"
  | .emptyValue key => "invalid option: empty value for '" ++ key ++ "'"
  | .unknownKey key => "invalid option: unknown option '" ++ key ++ "'"

namespace Settings

/-- The name of the file generated for `path`. -/
def outputName (s : Settings) (path : String) : String := ModulePath.stem path ++ s.outputSuffix

/-- Gives the setting named `key` a value. -/
def assign (s : Settings) (key value : String) : Except SettingsError Settings :=
  if key = "runtime_module" then .ok { s with runtimeModule := value }
  else if key = "output_suffix" then .ok { s with outputSuffix := value }
  else .error (.unknownKey key)

/-- Applies one pair, trimmed and not empty. A missing value is reported before an unknown key. -/
def applyPair (s : Settings) (pair : List Char) : Except SettingsError Settings :=
  match Text.cutAt '=' pair with
  | none => .error (.notAPair (String.ofList pair))
  | some (key, value) =>
    match Text.trim value with
    | [] => .error (.emptyValue (String.ofList key))
    | value => s.assign (String.ofList (Text.trim key)) (String.ofList value)

/-- Applies pairs in order. -/
def applyPairs (s : Settings) : List (List Char) → Except SettingsError Settings
  | [] => .ok s
  | pair :: pairs =>
    match s.applyPair pair with
    | .error e => .error e
    | .ok s => s.applyPairs pairs

/-- The pairs of a parameter: what stands between commas, trimmed, blanks left out. -/
def pairs (parameter : String) : List (List Char) :=
  ((Text.splitOn ',' parameter.toList).map Text.trim).filter (· ≠ [])

/-- The settings that a parameter makes, over the defaults. -/
def parse (parameter : String) : Except SettingsError Settings :=
  applyPairs {} (pairs parameter)

end Settings

end ProtoTypings
