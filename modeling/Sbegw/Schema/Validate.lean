import Sbegw.Schema.Services
import Sbegw.Schema.Wifi
import Sbegw.Schema.Default

/-!
# Validation of a whole document
-/

namespace Sbegw.Schema

open EditM

/-- `check(cfg.setdefault(name, {}), cfg)` with a check that reads the document as it stands. -/
def checkSection (name : String) (bad : Json → Exn) (check : Obj → EditM Unit) : EditM Unit := do
  let cfg ← self
  within name [] bad (check cfg)

/-- The sections in the order they are checked. -/
def validateSections (caps : Capabilities) : EditM Unit := do
  checkSection "system" (fun _ => .attribute) fun _ => validateSystem
  checkSection "ports" (fun _ => .attribute) validatePorts
  checkSection "networks" badNetworks validateNetworks
  checkSection "wans" (fun _ => .attribute) validateWans
  checkSection "firewall" (fun _ => .attribute) fun _ => validateFirewall
  checkSection "nat" (fun _ => .attribute) validateNat
  checkSection "routing" (fun _ => .attribute) fun _ => validateRouting
  checkSection "qos" (fun _ => notObject "qos") validateQos
  checkSection "dns" (fun _ => notObject "dns") fun _ => validateDns
  checkSection "dpi" (fun _ => notObject "dpi") validateDpi
  checkSection "controller" (fun _ => notObject "controller") fun _ => validateController
  checkSection "wifi" (fun _ => .attribute) (validateWifi caps)
  checkSection "users" (fun _ => .attribute) fun _ => validateUsers

/-- `validate(cfg, capabilities=caps)`: the normalised document and the warnings. -/
def validate (caps : Capabilities) (cfg : Obj) : Except Exn (Obj × List String) :=
  match validateSections caps cfg [] with
  | .ok (_, cfg', w) => .ok (cfg', w)
  | .error e => .error e

/-- The default document passes its own check as it stands. -/
theorem validate_defaultEntries :
    validate Capabilities.empty defaultEntries = .ok (defaultEntries, []) := by
  decide +kernel

end Sbegw.Schema
