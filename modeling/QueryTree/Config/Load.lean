import QueryTree.Config.Basic
import QueryTree.Toml.Parser

/-!
# Loading a configuration

The settings stand in two sections of a TOML document.  What is not set keeps its standard value,
and so does everything if there is no file.

## Main definitions

* `Config.ofTable`: the settings in a document.
* `Config.ofDocument`: the settings in the text of a document.
* `Config.load`: the configuration in a file.
-/

namespace QueryTree

/-- A configuration with the file that it comes from and the warnings for it. -/
structure LoadedConfig where
  config : Config
  source : Option Location
  warnings : List ConfigWarning
deriving DecidableEq, Repr

/-- The value of a name in a section.  A section that is no table is searched for the name in its
own way, and it is an error to find it there. -/
def Toml.Value.setting? (name : Text) : Toml.Value → Except ShapeError (Option Toml.Value)
  | .table t => .ok (Toml.Table.find? t name)
  | .string t => if Text.occursIn name t then .error .text else .ok none
  | .array vs =>
    if vs.any (fun | .string t => t = name | _ => false) then .error .array else .ok none
  | .integer _ => .error (.plain .integer)
  | .float _ => .error (.plain .float)
  | .boolean _ => .error (.plain .boolean)
  | .dateTime _ => .error (.plain .dateTime)
  | .date _ => .error (.plain .date)
  | .time _ => .error (.plain .time)

namespace Config

/-- The value that a document has for a setting. -/
def settingIn (s : SettingName) (document : Toml.Table) :
    Except ConfigFailure (Option Toml.Value) :=
  match Toml.Table.find? document s.table with
  | none => .ok none
  | some v => (v.setting? s.name).mapError .shape

/-- The truth value that a document has for a setting, or else a standard one. -/
def booleanIn (s : SettingName) (standard : Bool) (document : Toml.Table) :
    Except ConfigFailure Bool := do
  match ← settingIn s document with
  | none => return standard
  | some (.boolean b) => return b
  | some _ => throw (.refused (.invalid s .notBoolean))

/-- The text that a document has for a setting, or else a standard one. -/
def textIn (s : SettingName) (standard : Text) (document : Toml.Table) :
    Except ConfigFailure Text := do
  match ← settingIn s document with
  | none => return standard
  | some (.string t) => return t
  | some _ => throw (.refused (.invalid s .notText))

/-- The settings in a document. -/
def ofTable (document : Toml.Table) : Except ConfigFailure Config := do
  let standard : Config := {}
  let coloredOutput ← booleanIn .coloredOutput standard.coloredOutput document
  let lowercase ← booleanIn .lowercase standard.lowercase document
  let stripPattern ← textIn .stripPattern standard.stripPattern document
  return ⟨coloredOutput, lowercase, stripPattern⟩

/-- The settings in the text of a document; `source` is where the text comes from. -/
def ofDocument (source : Location) (t : Text) : Except ConfigFailure Config :=
  match Toml.parse t with
  | .error e => .error (.refused (.malformed source e))
  | .ok document => ofTable document

/-- The configuration in the file at a place, or the standard one if nothing is there. -/
def loadAt (d : Disk) (source : Location) : Except ConfigFailure LoadedConfig := do
  match d.find? source with
  | none =>
    let standard : Config := {}
    let warnings ← standard.validate
    return ⟨standard, none, .missing source :: warnings⟩
  | some _ =>
    let content ← (d.read source).mapError .disk
    let t ← content.decode.mapError .undecodable
    let config ← ofDocument source t
    let warnings ← config.validate
    return ⟨config, some source, warnings⟩

/-- The place that a path leads to, its tilde expanded. -/
def place (d : Disk) (path : Path) : Except NoHome Location :=
  (path.expandHome (.ofLocation d.home)).map fun p => p.resolve d.workingDirectory

/-- The configuration in a file, which is the default one if none is named. -/
def load (d : Disk) (path : Option Path) : Except ConfigFailure LoadedConfig := do
  let source ← (place d (path.getD (defaultPath d))).mapError .noHome
  loadAt d source

end Config
end QueryTree
