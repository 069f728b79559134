import CgwFota.Data.Delimited
import CgwFota.Orchestrator.ProductionPorts

/-!
# What the digest of the ECU list identifies

The digested text has the ECUs in the order of their collection, a missing value as an empty one,
and separators that may occur in the values. Only the empty list and a list of one ECU whose values
leave no doubt have a text of their own.

## Main definitions

* `SameDigest`: whatever the hash is, it is taken of the same text.
* `Rearranged`: the ECU lists are rearrangements of each other.
* `ClearList`: nothing at all, or one ECU whose values leave no doubt.
* `Separated`: the values of an ECU end where their separators are.

## Main results

* `ecuListDigest_identifies_iff`: the digest identifies a list exactly if it is clear, and tells the
  values in their order where the separators can be found.
* `ecuListDigest_ordered`: two ECUs in another order are digested differently.

## Proof strategy

For each doubt there is another list with the same text: an empty value for a missing one, a bar
moved over, two ECUs merged into one with a long name. For clear values the bars of the text are
counted, and the values are read off between them.
-/
namespace CgwFota

open Delimited
open Inventory (EcuVersionEntry VehicleSoftwareSnapshot)

/-- The values of an ECU that the digest is about. -/
def identity (e : EcuVersionEntry) : String × Option String × Option String × Option String :=
  (e.ecu_id, e.hw_version, e.part_number, e.sw_version)

/-- The values with nothing for the missing ones. -/
def shown (e : EcuVersionEntry) : String × String × String × String :=
  (e.ecu_id, e.hw_version.getD "", e.part_number.getD "", e.sw_version.getD "")

/-- Whatever the hash is, it is taken of the same text. -/
def SameDigest (s t : VehicleSoftwareSnapshot) : Prop :=
  ∀ sha256_hex fotaMasterVersion,
    (collectInventory sha256_hex fotaMasterVersion (some (some s)) .full).ecuListDigest =
      (collectInventory sha256_hex fotaMasterVersion (some (some t)) .full).ecuListDigest

/-- The same ECUs, in whatever order. -/
def Rearranged (s t : VehicleSoftwareSnapshot) : Prop :=
  (s.ecu_list.map identity).Perm (t.ecu_list.map identity)

variable {s t : VehicleSoftwareSnapshot} {e f : EcuVersionEntry} {o : Option String}

theorem sameDigest_iff : SameDigest s t ↔ canon s.ecu_list = canon t.ecu_list := by
  constructor
  · intro same
    exact congrArg Digest.valueHex (same id "")
  · intro same sha256_hex version
    simp [collectInventory, same]

/-! ### Doubtful lists -/

/-- A value that is there, with neither nothing in it nor a bar. -/
def Clear (o : Option String) : Prop := ∃ v, o = some v ∧ v ≠ "" ∧ '|' ∉ v.toList

/-- An ECU with four values, none of which can be read differently. -/
structure ClearEntry (e : EcuVersionEntry) : Prop where
  ecu_id : '|' ∉ e.ecu_id.toList
  hw_version : Clear e.hw_version
  part_number : Clear e.part_number
  sw_version : Clear e.sw_version

/-- Nothing at all, or one clear ECU. -/
def ClearList (ecus : List EcuVersionEntry) : Prop := ecus = [] ∨ ∃ e, ecus = [e] ∧ ClearEntry e

theorem blank_twin (blank : o.getD "" = "") : ∃ other, other ≠ o ∧ other.getD "" = o.getD "" := by
  cases o with
  | none => exact ⟨some "", by simp, rfl⟩
  | some v =>
    cases blank
    exact ⟨none, by simp, rfl⟩

/-- A value with a bar is two shorter ones around it. -/
theorem bar_splits {v : String} (bar : '|' ∈ v.toList) :
    ∃ a b, v = a ++ "|" ++ b ∧ a ≠ v ∧ b ≠ v := by
  obtain ⟨as, bs, split⟩ := List.append_of_mem bar
  have whole : v = String.ofList as ++ "|" ++ String.ofList bs := by
    apply String.toList_inj.mp
    simp [split]
  refine ⟨_, _, whole, ?_, ?_⟩
  · intro same
    have lengths := congrArg (·.toList.length) (same.trans whole)
    simp at lengths
  · intro same
    have lengths := congrArg (·.toList.length) (same.trans whole)
    simp at lengths
    omega

theorem clear_of (present : o.getD "" ≠ "") (free : '|' ∉ (o.getD "").toList) : Clear o := by
  cases o with
  | none => exact absurd rfl present
  | some v => exact ⟨v, rfl, present, free⟩

/-- If no other ECU has its text, an ECU has four clear values. -/
theorem clearEntry_of_unique (unique : ∀ f, ecuText f = ecuText e → identity f = identity e) :
    ClearEntry e := by
  -- A missing value and an empty one give the same text.
  have hardware : e.hw_version.getD "" ≠ "" := by
    intro blank
    obtain ⟨other, differs, same⟩ := blank_twin blank
    have equal := unique { e with hw_version := other } (by simp [ecuText, same])
    exact differs (congrArg (·.2.1) equal)
  have part : e.part_number.getD "" ≠ "" := by
    intro blank
    obtain ⟨other, differs, same⟩ := blank_twin blank
    have equal := unique { e with part_number := other } (by simp [ecuText, same])
    exact differs (congrArg (·.2.2.1) equal)
  have software : e.sw_version.getD "" ≠ "" := by
    intro blank
    obtain ⟨other, differs, same⟩ := blank_twin blank
    have equal := unique { e with sw_version := other } (by simp [ecuText, same])
    exact differs (congrArg (·.2.2.2) equal)
  -- A bar within a value moves to the one before or behind it.
  refine ⟨?_, clear_of hardware ?_, clear_of part ?_, clear_of software ?_⟩
  -- a bar in the name
  · intro bar
    obtain ⟨a, b, whole, shorter, -⟩ := bar_splits bar
    have equal := unique
      { e with ecu_id := a, hw_version := some (b ++ "|" ++ e.hw_version.getD "") }
      (by simp [ecuText, whole, String.append_assoc])
    exact shorter (congrArg (·.1) equal)
  -- a bar in the hardware version
  · intro bar
    obtain ⟨a, b, whole, shorter, -⟩ := bar_splits bar
    have equal := unique
      { e with hw_version := some a, part_number := some (b ++ "|" ++ e.part_number.getD "") }
      (by simp [ecuText, whole, String.append_assoc])
    exact shorter (congrArg (·.2.1.getD "") equal)
  -- a bar in the part number
  · intro bar
    obtain ⟨a, b, whole, shorter, -⟩ := bar_splits bar
    have equal := unique
      { e with part_number := some a, sw_version := some (b ++ "|" ++ e.sw_version.getD "") }
      (by simp [ecuText, whole, String.append_assoc])
    exact shorter (congrArg (·.2.2.1.getD "") equal)
  -- a bar in the software version
  · intro bar
    obtain ⟨a, b, whole, -, shorter⟩ := bar_splits bar
    have equal := unique
      { e with part_number := some (e.part_number.getD "" ++ "|" ++ a), sw_version := some b }
      (by simp [ecuText, whole, String.append_assoc])
    exact shorter (congrArg (·.2.2.2.getD "") equal)

/-- Two ECUs have the text of one with a long name. -/
theorem canon_merged (e f : EcuVersionEntry) (rest : List EcuVersionEntry) :
    canon ({ f with ecu_id := ecuText e ++ f.ecu_id } :: rest) = canon (e :: f :: rest) := by
  rw [canon_eq_iff]
  simp [toList_ecuText]

/-! ### Clear lists -/

/-- Values that end where their separators are. -/
structure Separated (e : EcuVersionEntry) : Prop where
  ecu_id : '|' ∉ e.ecu_id.toList
  hw_version : '|' ∉ (e.hw_version.getD "").toList
  part_number : '|' ∉ (e.part_number.getD "").toList
  sw_version : ';' ∉ (e.sw_version.getD "").toList

abbrev Chars := List Char

/-- Three values, each with its bar. -/
def barred (f : Chars × Chars × Chars) : Chars :=
  f.1 ++ ['|'] ++ (f.2.1 ++ ['|'] ++ (f.2.2 ++ ['|']))

theorem selfDelimiting_barred :
    SelfDelimiting (fun f => '|' ∉ f.1 ∧ '|' ∉ f.2.1 ∧ '|' ∉ f.2.2) barred :=
  (selfDelimiting_terminated '|').append
    ((selfDelimiting_terminated '|').append (selfDelimiting_terminated '|'))

/-- The values as characters, the last one apart. -/
def chars (f : String × String × String × String) : (Chars × Chars × Chars) × Chars :=
  ((f.1.toList, f.2.1.toList, f.2.2.1.toList), f.2.2.2.toList)

theorem chars_injective (f g : String × String × String × String) (same : chars f = chars g) :
    f = g := by
  obtain ⟨a, b, c, d⟩ := f
  obtain ⟨a', b', c', d'⟩ := g
  simpa [chars, String.toList_inj, and_assoc] using same

theorem toList_ecuText_eq (e : EcuVersionEntry) :
    (ecuText e).toList = barred (chars (shown e)).1 ++ ((chars (shown e)).2 ++ [';']) := by
  simp [toList_ecuText, barred, chars, shown]

theorem ecuText_ne_nil (e : EcuVersionEntry) : (ecuText e).toList ≠ [] := by
  simp [toList_ecuText]

/-- Where the separators can be found, the text tells the values in their order. -/
theorem sameDigest_separated (here : ∀ e ∈ s.ecu_list, Separated e)
    (there : ∀ e ∈ t.ecu_list, Separated e) :
    SameDigest s t ↔ s.ecu_list.map shown = t.ecu_list.map shown := by
  have self := (selfDelimiting_barred.append (selfDelimiting_terminated ';')).comap chars
    chars_injective
  -- neither bars in the first three values nor a semicolon in the last
  have free : ∀ {ecus : List EcuVersionEntry}, (∀ e ∈ ecus, Separated e) →
      ∀ f ∈ ecus.map shown, ('|' ∉ (chars f).1.1 ∧ '|' ∉ (chars f).1.2.1 ∧ '|' ∉ (chars f).1.2.2) ∧
        ';' ∉ (chars f).2 := by
    intro ecus separated f member
    obtain ⟨e, present, rfl⟩ := List.mem_map.mp member
    obtain ⟨ecu_id, hw_version, part_number, sw_version⟩ := separated e present
    exact ⟨⟨ecu_id, hw_version, part_number⟩, sw_version⟩
  have texts : ∀ ecus : List EcuVersionEntry, (ecus.flatMap fun e => (ecuText e).toList) =
      (ecus.map shown).flatMap fun f => barred (chars f).1 ++ ((chars f).2 ++ [';']) := by
    intro ecus
    rw [List.flatMap_map]
    exact congrArg ecus.flatMap (funext toList_ecuText_eq)
  rw [sameDigest_iff, canon_eq_iff, texts, texts]
  constructor
  · exact self.flatMap_injective (fun f => by simp) (free here) (free there)
  · intro same
    rw [same]

theorem count_ecuText (e : EcuVersionEntry) :
    (ecuText e).toList.count '|' = e.ecu_id.toList.count '|' +
      (e.hw_version.getD "").toList.count '|' + (e.part_number.getD "").toList.count '|' +
      (e.sw_version.getD "").toList.count '|' + 3 := by
  simp [toList_ecuText, List.count_append]
  omega

theorem Clear.free (clear : Clear o) : '|' ∉ (o.getD "").toList := by
  obtain ⟨v, rfl, -, free⟩ := clear
  exact free

theorem Clear.same (clear : Clear o) {other : Option String} (same : other.getD "" = o.getD "") :
    other = o := by
  obtain ⟨v, rfl, present, -⟩ := clear
  cases other with
  | none => exact absurd same.symm present
  | some w => exact congrArg some same

/-- The text of one clear ECU is that of no other one. -/
theorem ClearEntry.unique (clear : ClearEntry e) (same : ecuText f = ecuText e) :
    identity f = identity e := by
  -- a clear ECU has three bars, so the other one has none in its values
  have bars : (ecuText e).toList.count '|' = 3 := by
    rw [count_ecuText, List.count_eq_zero.mpr clear.ecu_id,
      List.count_eq_zero.mpr clear.hw_version.free, List.count_eq_zero.mpr clear.part_number.free,
      List.count_eq_zero.mpr clear.sw_version.free]
  rw [← same, count_ecuText] at bars
  have text := congrArg String.toList same
  rw [toList_ecuText_eq, toList_ecuText_eq] at text
  have ecu_id : '|' ∉ f.ecu_id.toList := List.count_eq_zero.mp (by omega)
  have hw_version : '|' ∉ (f.hw_version.getD "").toList := List.count_eq_zero.mp (by omega)
  have part_number : '|' ∉ (f.part_number.getD "").toList := List.count_eq_zero.mp (by omega)
  obtain ⟨first, rest⟩ := selfDelimiting_barred _ _ _ _ ⟨ecu_id, hw_version, part_number⟩
    ⟨clear.ecu_id, clear.hw_version.free, clear.part_number.free⟩ text
  have equal := chars_injective _ _ (Prod.ext first (List.append_cancel_right rest))
  simp only [shown, Prod.mk.injEq] at equal
  obtain ⟨ecu_id, hw_version, part_number, sw_version⟩ := equal
  simp only [identity, Prod.mk.injEq]
  exact ⟨ecu_id, clear.hw_version.same hw_version, clear.part_number.same part_number,
    clear.sw_version.same sw_version⟩

theorem ecuText_of_identity (same : identity e = identity f) : ecuText e = ecuText f := by
  simp only [identity, Prod.mk.injEq] at same
  obtain ⟨ecu_id, hw_version, part_number, sw_version⟩ := same
  simp only [ecuText, ecu_id, hw_version, part_number, sw_version]

theorem canon_nil_iff {ecus : List EcuVersionEntry} : canon [] = canon ecus ↔ ecus = [] := by
  rw [canon_eq_iff]
  cases ecus with
  | nil => simp
  | cons e rest => simp [ecuText_ne_nil e]

/-- A list with this text has no ECU more. -/
theorem ClearEntry.alone (clear : ClearEntry e) {ecus : List EcuVersionEntry}
    (same : canon [e] = canon ecus) : ∃ f, ecus = [f] ∧ ecuText f = ecuText e := by
  rw [canon_eq_iff, List.flatMap_singleton] at same
  cases ecus with
  | nil => exact absurd same (ecuText_ne_nil e)
  | cons f rest =>
    -- one ECU, or too many bars
    cases rest with
    | nil =>
      rw [List.flatMap_singleton] at same
      exact ⟨f, rfl, (String.toList_inj.mp same).symm⟩
    | cons g rest =>
      have counts := congrArg (List.count '|') same
      rw [count_ecuText, List.count_eq_zero.mpr clear.ecu_id,
        List.count_eq_zero.mpr clear.hw_version.free, List.count_eq_zero.mpr clear.part_number.free,
        List.count_eq_zero.mpr clear.sw_version.free, List.flatMap_cons, List.flatMap_cons,
        List.count_append, List.count_append, count_ecuText, count_ecuText] at counts
      omega

/-! ### Main result -/

/-- A list has a digest of its own exactly if it is empty or has one clear ECU. Without separators
in the values the digest tells the values in the order of the ECUs, with nothing for missing ones.
-/
theorem ecuListDigest_identifies_iff (s : VehicleSoftwareSnapshot) :
    ((∀ t, SameDigest s t ↔ Rearranged s t) ↔ ClearList s.ecu_list) ∧
    ∀ t, (∀ e ∈ s.ecu_list, Separated e) → (∀ e ∈ t.ecu_list, Separated e) →
      (SameDigest s t ↔ s.ecu_list.map shown = t.ecu_list.map shown) := by
  refine ⟨⟨?_, ?_⟩, fun t here there => sameDigest_separated here there⟩
  -- from the digest to the list
  · intro identifies
    cases ecus : s.ecu_list with
    | nil => exact .inl rfl
    | cons e rest =>
      -- one ECU: any other one with its text has its values
      cases rest with
      | nil =>
        refine .inr ⟨e, rfl, clearEntry_of_unique fun f same => ?_⟩
        have perm := (identifies { s with ecu_list := [f] }).mp
          (sameDigest_iff.mpr (by simp [ecus, canon, same]))
        simpa [Rearranged, ecus, eq_comm] using perm
      -- two ECUs: there is a list of one with their text
      | cons f rest =>
        have perm := (identifies
          { s with ecu_list := { f with ecu_id := ecuText e ++ f.ecu_id } :: rest }).mp
          (sameDigest_iff.mpr (by rw [ecus, canon_merged]))
        have lengths := perm.length_eq
        simp [ecus] at lengths
  -- and from the list to the digest
  · rintro (empty | ⟨e, single, clear⟩) t
    · rw [sameDigest_iff, Rearranged, empty, canon_nil_iff]
      simp [List.nil_perm]
    · rw [sameDigest_iff, Rearranged, single]
      constructor
      · intro same
        obtain ⟨f, whole, text⟩ := clear.alone same
        rw [whole]
        simp [clear.unique text]
      · intro perm
        obtain ⟨f, whole, same⟩ := List.map_eq_singleton_iff.mp (List.singleton_perm.mp perm).symm
        rw [whole]
        simp [canon, ecuText_of_identity same]

def ecuOf (id software : String) : EcuVersionEntry :=
  { ecu_id := id, hw_version := some "H", part_number := some "P", sw_version := some software }

/-- The same two ECUs, collected in another order, are digested differently. -/
theorem ecuListDigest_ordered :
    ¬∀ s t : VehicleSoftwareSnapshot, SameDigest s t ↔ Rearranged s t := by
  intro identifies
  have same := (identifies { ecu_list := [ecuOf "GW" "1", ecuOf "BMS" "2"] }
    { ecu_list := [ecuOf "BMS" "2", ecuOf "GW" "1"] }).mpr (by unfold Rearranged; decide)
  exact absurd (sameDigest_iff.mp same) (by decide)

end CgwFota
