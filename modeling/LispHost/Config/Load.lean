import LispHost.Config.Format
import LispHost.Config.Ini
import LispHost.Config.Json
import LispHost.Config.Json5
import LispHost.Config.Place
import LispHost.Config.Ron
import LispHost.Config.Settings
import LispHost.Config.Substitution
import LispHost.Config.Toml
import LispHost.Config.Yaml

/-!
Where the settings come from: a text, the environment, and the usual values.

References to the environment are replaced in the text before it is read. Variables whose name starts
with a mark override single settings of a file; two underscores in the rest of the name part the steps
to the setting. Names do not depend on case.
-/

set_option autoImplicit false

namespace LispHost.Config

inductive Origin where
  | inline
  | path (path : String)
  deriving DecidableEq, Repr

def Origin.text : Origin → String
  | inline => "inline config"
  | path p => p

inductive LoadError where
  | format (path : String) (error : FormatError)
  | file (fault : FileFault)
  /-- The text is not of its format, or its root is no table. -/
  | malformed (origin : Origin) (format : Format)
  | problem (origin : Origin) (problem : Problem)
  deriving DecidableEq, Repr

def Format.name : Format → String
  | yaml => "YAML"
  | toml => "TOML"
  | json => "JSON"
  | ini => "INI"
  | ron => "RON"
  | json5 => "JSON5"

def LoadError.toError : LoadError → Error
  | format p .noExtension => .config (p ++ ": no extension to pick a format from")
  | format p (.unsupported ext) => .config (p ++ ": unsupported format '" ++ ext ++ "'")
  | file fault => .file fault
  | malformed origin f => .config (origin.text ++ ": not a table of settings in " ++ f.name)
  | problem origin p => .config (origin.text ++ ": " ++ p.message)

def Format.parse? : Format → String → Option (List (String × Tree))
  | yaml => Yaml.parse?
  | toml => Toml.parse?
  | json => JsonText.parse?
  | ini => Ini.parse?
  | ron => Ron.parse?
  | json5 => Json5.parse?

/-- The fields at the root with a layer of settings put over them, each at the place its name writes. -/
def layer (fields : List (String × Tree)) (settings : List (String × Tree)) : List (String × Tree) :=
  settings.foldl (fun fields setting => (Place.ofName setting.1).set setting.2 fields) fields

/-- What the names of variables with settings start with. -/
def overrideMark : String := "wisp__"

/-- The name of a setting in the rest of a variable's name: two underscores part its steps. -/
def settingName : List Char → List Char
  | [] => []
  | '_' :: '_' :: rest => '.' :: settingName rest
  | c :: rest => c :: settingName rest

def override? (entry : String × String) : Option (String × Tree) :=
  let name := (Text.lowercase entry.1).toList
  let mark := overrideMark.toList
  if mark.isPrefixOf name then
    some (String.ofList (settingName (name.drop mark.length)), .text .environment entry.2)
  else none

def overrides (env : Environment) : List (String × Tree) :=
  env.filterMap override?

def ofLayers (env : Environment) (origin : Origin) (format : Format) (text : String)
    (above : List (String × Tree)) : Except LoadError Config :=
  match format.parse? (substitute env text) with
  | none => .error (.malformed origin format)
  | some fields =>
    match ofFields (layer (layer [] (Tree.lowerFields fields)) above) with
    | .error problem => .error (.problem origin problem)
    | .ok config => .ok config.clamped

def ofText (env : Environment) (format : Format) (text : String) : Except LoadError Config :=
  ofLayers env .inline format text []

/-- The settings in a file with those of the environment over them; `read` gives the bytes of a
file. -/
def load (env : Environment) (read : String → Except FileFault (List UInt8)) (path : String) :
    Except LoadError Config :=
  match Format.ofPath path with
  | .error error => .error (.format path error)
  | .ok format =>
    match read path with
    | .error fault => .error (.file fault)
    | .ok bytes =>
      match Text.Utf8.decode? bytes with
      | none => .error (.file .notText)
      | some text => ofLayers env (.path path) format text (overrides env)

end LispHost.Config
