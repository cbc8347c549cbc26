import FirewallExporter.Area.Collector

/-!
# Firmware

Pending updates and reboots, and the versions of the system. The reboot flags are known only after
an update check; until then, and when their text is no integer, they are -1.
-/

namespace FirewallExporter.Firmware

open Json

/-! ## The record -/

/-- The reply. -/
structure Reply where
  lastCheck : String
  needsReboot : String
  osVersion : String
  productId : String
  productVersion : String
  productAbi : String
  newPackages : List Value
  upgradePackages : List Value
  upgradeNeedsReboot : String

/-- The flag about upgrades stands two levels down. -/
def productShape : Shape String :=
  .record
    (.cons "product_check"
      (.record (.cons "upgrade_needs_reboot" .text .nil) fun (flag, ()) ↦ flag) .nil)
    fun (flag, ()) ↦ flag

def shape : Shape Reply :=
  .record
    (.cons "last_check" .text <| .cons "needs_reboot" .text <| .cons "os_version" .text <|
      .cons "product_id" .text <| .cons "product_version" .text <| .cons "product_abi" .text <|
      .cons "new_packages" (.list .free) <| .cons "upgrade_packages" (.list .free) <|
      .cons "product" productShape .nil)
    fun (lastCheck, needsReboot, osVersion, productId, productVersion, productAbi, newPackages,
        upgradePackages, upgradeNeedsReboot, ()) ↦
      { lastCheck, needsReboot, osVersion, productId, productVersion, productAbi, newPackages,
        upgradePackages, upgradeNeedsReboot }

structure Record where
  lastCheck : String
  needsReboot : Int
  newPackages : Nat
  osVersion : String
  productAbi : String
  productId : String
  productVersion : String
  upgradePackages : Nat
  upgradeNeedsReboot : Int
deriving DecidableEq, Repr

/-- A flag as it stands after the update check `lastCheck`. -/
def flag (lastCheck text : String) : Int :=
  if lastCheck = "" then -1
  else match parseInt text with
    | .ok n => n
    | .error _ => -1

def Reply.record (r : Reply) : Record where
  lastCheck := r.lastCheck
  needsReboot := flag r.lastCheck r.needsReboot
  newPackages := r.newPackages.length
  osVersion := r.osVersion
  productAbi := r.productAbi
  productId := r.productId
  productVersion := r.productVersion
  upgradePackages := r.upgradePackages.length
  upgradeNeedsReboot := flag r.lastCheck r.upgradeNeedsReboot

def query : Query Record := .ofShape .firmware .get none shape fun r ↦ .ok r.record

/-! ## The metrics -/

def name : String := "firmware"

/-- A metric with a label of its own name. -/
def metric (own help : String) : Descriptor := .gauge name own help [own]

/-- The numbers, shown as value and as label. -/
def numbers : List (Descriptor × (Record → Int)) :=
  [(metric "needs_reboot" "opnsense would like to be rebooted", Record.needsReboot),
    (metric "upgrade_needs_reboot" "upgrade involves reboot", Record.upgradeNeedsReboot),
    (metric "new_packages" "new packages", fun r ↦ r.newPackages),
    (metric "upgrade_packages" "upgrade packages", fun r ↦ r.upgradePackages)]

/-- The texts, shown as label of the value 1. -/
def texts : List (Descriptor × (Record → String)) :=
  [(metric "last_check" "last check for upgrade", Record.lastCheck),
    (metric "os_version" "Version of this opnSense", Record.osVersion),
    (metric "product_abi" "Product ABI of this opnSense", Record.productAbi),
    (metric "product_id" "Product ID of this opnSense", Record.productId),
    (metric "product_version" "Product Version of this opnSense", Record.productVersion)]

def emissions (monitored : String) (r : Record) : List Emission :=
  (numbers.map fun (d, value) ↦ ⟨d, Double.ofInt (value r), [toString (value r), monitored]⟩) ++
    texts.map fun (d, text) ↦ ⟨d, Double.ofNat 1, [text r, monitored]⟩

def collector : Collector :=
  .ofQuery name (numbers.map Prod.fst ++ texts.map Prod.fst) query emissions

end FirewallExporter.Firmware
