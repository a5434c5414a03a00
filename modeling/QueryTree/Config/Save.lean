import QueryTree.Config.Basic
import QueryTree.Toml.Printer

/-!
# Saving a configuration

The colour setting is always written, the others only if they are not standard.

## Main definitions

* `Config.document`: the text of a configuration.
* `Config.save`: the configuration written to a file.
-/

namespace QueryTree.Config

/-- The settings of the normalizer that are not standard. -/
def normalizerSettings (c : Config) : List (Text × Toml.Setting) :=
  let standard : Config := {}
  (if c.lowercase then [] else [(SettingName.lowercase.name, .boolean false)])
    ++ (if c.stripPattern = standard.stripPattern then []
      else [(SettingName.stripPattern.name, .string c.stripPattern)])

/-- The sections of a configuration. -/
def sections (c : Config) : List Toml.Section :=
  ⟨SettingName.coloredOutput.table, [(SettingName.coloredOutput.name, .boolean c.coloredOutput)]⟩
    :: (match c.normalizerSettings with
      | [] => []
      | settings => [⟨SettingName.lowercase.table, settings⟩])

/-- The text of a configuration. -/
def document (c : Config) : Text := Toml.writeSections c.sections

/-- The path at which a configuration is saved: the one that is named, or else the one that it
comes from, or else the default one. -/
def savePath (d : Disk) (source path : Option Path) : Path :=
  (path.or source).getD (defaultPath d)

/-- The disk after a configuration was written to a file, with the path that was written. -/
def save (c : Config) (d : Disk) (source path : Option Path) :
    Except ConfigFailure (Path × Disk) := do
  let path ← ((savePath d source path).expandHome (.ofLocation d.home)).mapError .noHome
  let d ← (d.makeDirectories path.parent).mapError .disk
  let d ← (d.write path (.text c.document)).mapError .disk
  return (path, d)

end QueryTree.Config
