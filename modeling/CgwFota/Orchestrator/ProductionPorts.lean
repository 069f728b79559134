import CgwFota.Inventory.State
import CgwFota.Orchestrator.World

/-!
# The inventory as it is collected in the vehicle

The list of ECUs goes into the request and, as a text, into the digest next to it.

## Main definitions

* `canon`: the text that is hashed, ECU by ECU in the order they were collected
* `collectInventory`: the port, with the assembler and the hash as parameters

## Main result

* `canon_eq_iff`: two lists have one text exactly if the texts of their ECUs, put one behind the
  other, are the same
-/
namespace CgwFota

open Inventory (EcuVersionEntry VehicleSoftwareSnapshot)

/-- An ECU as the request has it. -/
def ecuVersion (e : EcuVersionEntry) : EcuVersion :=
  { ecuId := e.ecu_id
    hardwarePartNumber := e.hw_version.getD ""
    softwarePartNumber := e.part_number.getD ""
    swVersion := e.sw_version.getD "" }

/-- What is streamed for an ECU. -/
def ecuText (e : EcuVersionEntry) : String :=
  e.ecu_id ++ "|" ++ e.hw_version.getD "" ++ "|" ++ e.part_number.getD "" ++ "|" ++
    e.sw_version.getD "" ++ ";"

def canon (ecus : List EcuVersionEntry) : String :=
  ecus.foldl (fun canon e => canon ++ ecuText e) ""

/-- The assembler may be missing, and it may fail to assemble a snapshot. -/
def collectInventory (sha256_hex : String → String) (fotaMasterVersion : String)
    (assembler : Option (Option VehicleSoftwareSnapshot)) (mode : InventoryMode) :
    CollectedInventory :=
  match assembler with
  | none | some none => { fotaMasterVersion }
  | some (some snap) =>
    let ecus := if mode = .full then snap.ecu_list else []
    { fotaMasterVersion
      baselineCode := snap.baseline_id.getD ""
      inventoryRevision := snap.snapshot_seq.toNat
      ecuList := ecus.map ecuVersion
      ecuListDigest := { algorithm := "sha-256", valueHex := sha256_hex (canon ecus) } }

theorem toList_ecuText (e : EcuVersionEntry) :
    (ecuText e).toList = e.ecu_id.toList ++ ['|'] ++ ((e.hw_version.getD "").toList ++ ['|'] ++
      ((e.part_number.getD "").toList ++ ['|'] ++ ((e.sw_version.getD "").toList ++ [';']))) := by
  simp [ecuText]

theorem toList_canon (ecus : List EcuVersionEntry) :
    (canon ecus).toList = ecus.flatMap fun e => (ecuText e).toList := by
  have step : ∀ text : String, (ecus.foldl (fun canon e => canon ++ ecuText e) text).toList =
      text.toList ++ ecus.flatMap fun e => (ecuText e).toList := by
    induction ecus with
    | nil => simp
    | cons e rest ih =>
      intro text
      rw [List.foldl_cons, ih, String.toList_append, List.flatMap_cons, List.append_assoc]
  exact step ""

theorem canon_eq_iff (xs ys : List EcuVersionEntry) :
    canon xs = canon ys ↔
      (xs.flatMap fun e => (ecuText e).toList) = ys.flatMap fun e => (ecuText e).toList := by
  rw [← toList_canon, ← toList_canon, String.toList_inj]

end CgwFota
