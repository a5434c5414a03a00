import QueryTree.Session.Parse
import QueryTree.Config.Load
import QueryTree.Config.Save

/-!
# The command that writes a configuration file

## Main definitions

* `Action.initConfig`: writes a file with the standard settings.
-/

namespace QueryTree.Action

/-- Writes a file with the standard settings; a file that is there already is overwritten only if
`force` holds. -/
def initConfig (ctx : Context) (force : Bool) (output : Option Path) : Action Unit := do
  let s ← get
  match Config.place s.disk (output.getD (Config.defaultPath s.disk)) with
  | .error e => fail (.config (.noHome e))
  | .ok target =>
    let path := Path.ofLocation target
    if (s.disk.find? target).isSome && !force then
      complain ("Config file already exists: ".toList ++ path.text)
        "Use --force to overwrite".toList
    else
      match Config.save {} s.disk none (some path) with
      | .error (.disk e) => complain ("Failed to write config: ".toList ++ e.message) []
      | .error e => fail (.config e)
      | .ok (written, disk) =>
        set { s with disk := disk }
        if ctx.isTalkative then
          printing (Terminal.success ("Created config file: ".toList ++ written.text))

end QueryTree.Action
