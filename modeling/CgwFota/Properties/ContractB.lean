import CgwFota.Config.GenericTransport
import CgwFota.Properties.ConfigAccepted

/-!
# Which address contract B gets

The address comes from ids that the configuration declares and is refused where they are missing,
taken by contract A or of another version. No id is ever made up.

## Main definitions

* `TboxGenericTransportAddress.Written`: the service of the registry with the configured ids.
* `Asked`: the configuration is accepted, asks for contract B and declares ids.
* `Refuses`: why there is no address, one case for each reason.

## Main result

* `contractBAddress_exact`: for every snapshot, what `from` and `resolveTboxGenericTransport` decide
  together, in all three outcomes.

## Proof strategy

Of the checks of the resolver only the conflict and the version are still open after `from`:
`resolve_ranged` shows that the others repeat checks of `from`. With that, what is made of an
accepted configuration is a short chain of conditions, which each of the three outcomes inverts.
-/
namespace CgwFota.Config

def methodConflict : ConfigError :=
  .fotaConfig ("fota.someip.generic_transport.method_id conflicts with local " ++
    "Registry allocation (TBOX_METHOD_REPORT_SOFTWARE_INVENTORY, contract A)")

def versionMismatch : ConfigError :=
  .fotaConfig "fota.someip.generic_transport.interface_major mismatch: expected 1"

/-- Ids within the ranges that `from` checks. -/
structure GenericTransportSpec.Ranged (spec : GenericTransportSpec) : Prop where
  method : 1 ≤ spec.methodId.toNat ∧ spec.methodId.toNat ≤ 0x7FFF
  event : 0x8000 ≤ spec.eventId.toNat ∧ spec.eventId.toNat ≤ 0xFFFE
  eventgroup : 1 ≤ spec.eventgroupId.toNat ∧ spec.eventgroupId.toNat ≤ 0xFFFE

def GenericTransportSpec.address (spec : GenericTransportSpec) : TboxGenericTransportAddress :=
  { method := spec.methodId
    event := spec.eventId
    eventgroup := spec.eventgroupId
    interfaceVersion := ⟨spec.interfaceMajor.toUInt8, 0⟩ }

theorem ne_of_toNat {x y : UInt16} (apart : x.toNat ≠ y.toNat) : x ≠ y := by
  rintro rfl
  exact apart rfl

/-- Of ids in their ranges only the conflict and the version are left to be refused. -/
theorem resolve_ranged {spec : GenericTransportSpec} (ranged : spec.Ranged) :
    resolveTboxGenericTransport spec =
      if spec.methodId = 1 then .error methodConflict
      else if spec.interfaceMajor = 1 then .ok (some spec.address)
      else .error versionMismatch := by
  obtain ⟨⟨methodLo, methodHi⟩, ⟨eventLo, eventHi⟩, ⟨groupLo, groupHi⟩⟩ := ranged
  -- every range excludes zero and the reserved ends
  have method : spec.methodId ≠ 0 := ne_of_toNat (by simp; omega)
  have event : spec.eventId ≠ 0 := ne_of_toNat (by simp; omega)
  have eventgroup : spec.eventgroupId ≠ 0 := ne_of_toNat (by simp; omega)
  have methodTop : ¬0x7FFF < spec.methodId := by
    simp only [UInt16.lt_iff_toNat_lt]
    simp; omega
  have methodLast : spec.methodId ≠ 0xFFFF := ne_of_toNat (by simp; omega)
  have eventLow : ¬spec.eventId < 0x8000 := by
    simp only [UInt16.lt_iff_toNat_lt]
    simp; omega
  have eventLast : spec.eventId ≠ 0xFFFF := ne_of_toNat (by simp; omega)
  have groupLast : spec.eventgroupId ≠ 0xFFFF := ne_of_toNat (by simp; omega)
  -- what is left to be decided: the conflict, and then the version
  by_cases conflict : spec.methodId = 1
  · simp [resolveTboxGenericTransport, GenericTransportSpec.anyDeclared,
      conflictsWithLocalAllocations, TBOX_METHOD_REPORT_SOFTWARE_INVENTORY, conflict, event,
      eventgroup, eventLow, eventLast, groupLast, methodConflict]
  · by_cases major : spec.interfaceMajor = 1
    · simp [resolveTboxGenericTransport, GenericTransportSpec.anyDeclared,
        conflictsWithLocalAllocations, TBOX_METHOD_REPORT_SOFTWARE_INVENTORY, conflict, method,
        event, eventgroup, methodTop, methodLast, eventLow, eventLast, groupLast, major,
        TboxGenericTransportAddress.fullyAllocated, GenericTransportSpec.address]
      rfl
    · simp [resolveTboxGenericTransport, GenericTransportSpec.anyDeclared,
        conflictsWithLocalAllocations, TBOX_METHOD_REPORT_SOFTWARE_INVENTORY, conflict, method,
        event, eventgroup, methodTop, methodLast, eventLow, eventLast, groupLast, major,
        versionMismatch]

/-! ### Accepted configurations -/

section Accepted

variable {s : ConfigSnapshot} {c : FotaConfig}

theorem checks_generic (passed : ∀ k ∈ checks, k.Passes s) :
    ∀ k ∈ genericTransportChecks, k.Passes s := by
  simp only [checks, List.forall_mem_append] at passed
  obtain ⟨⟨⟨-, passed⟩, -⟩, -⟩ := passed.1
  exact passed

/-- In an accepted configuration the declared ids are in their ranges. -/
theorem ranged_of_accepted (passed : ∀ k ∈ checks, k.Passes s)
    (written : c.genericTransport.Written s) (declared : Declared s) :
    c.genericTransport.Ranged := by
  have passed := checks_generic passed
  simp only [genericTransportChecks, List.forall_mem_cons, Check.Passes] at passed
  obtain ⟨-, -, -, -, -, -, method, event, eventgroup, -⟩ := passed
  obtain ⟨methodLo, methodHi⟩ := method declared
  obtain ⟨eventLo, eventHi⟩ := event declared
  obtain ⟨groupLo, groupHi⟩ := eventgroup declared
  rw [Int64.le_iff_toInt_le] at methodLo methodHi eventLo eventHi groupLo groupHi
  obtain ⟨methodId, eventId, eventgroupId, -⟩ := written
  rw [← methodId] at methodLo methodHi
  rw [← eventId] at eventLo eventHi
  rw [← eventgroupId] at groupLo groupHi
  exact
    { method := ⟨Int.ofNat_le.mp methodLo, Int.ofNat_le.mp methodHi⟩
      event := ⟨Int.ofNat_le.mp eventLo, Int.ofNat_le.mp eventHi⟩
      eventgroup := ⟨Int.ofNat_le.mp groupLo, Int.ofNat_le.mp groupHi⟩ }

/-- Where no ids are declared the resolver finds none. -/
theorem undeclared_resolves (written : c.genericTransport.Written s) (undeclared : ¬Declared s) :
    resolveTboxGenericTransport c.genericTransport = .ok none := by
  simp only [Declared, not_or, not_not] at undeclared
  obtain ⟨method, event, eventgroup⟩ := undeclared
  obtain ⟨methodId, eventId, eventgroupId, -⟩ := written
  rw [method] at methodId
  rw [event] at eventId
  rw [eventgroup] at eventgroupId
  have method : c.genericTransport.methodId = 0 := UInt16.toNat_inj.mp (Int.ofNat_inj.mp methodId)
  have event : c.genericTransport.eventId = 0 := UInt16.toNat_inj.mp (Int.ofNat_inj.mp eventId)
  have eventgroup : c.genericTransport.eventgroupId = 0 :=
    UInt16.toNat_inj.mp (Int.ofNat_inj.mp eventgroupId)
  simp [resolveTboxGenericTransport, GenericTransportSpec.anyDeclared, method, event, eventgroup]

/-- The method is that of contract A exactly if it is configured so. -/
theorem methodId_one_iff (written : c.genericTransport.Written s) :
    c.genericTransport.methodId = 1 ↔ Number.methodId.value s = 1 := by
  have same := written.methodId
  constructor
  · intro one
    rw [one] at same
    exact Int64.toInt_inj.mp same.symm
  · intro one
    rw [one] at same
    exact UInt16.toNat_inj.mp (Int.ofNat_inj.mp same)

/-- The version is the one that is spoken exactly if it is configured so. -/
theorem interfaceMajor_one_iff (written : c.genericTransport.Written s) (declared : Declared s) :
    c.genericTransport.interfaceMajor = 1 ↔ Number.interfaceMajor.value s = 1 := by
  have same := written.interfaceMajor
  rw [if_pos declared] at same
  constructor
  · intro one
    rw [one] at same
    exact Int64.toInt_inj.mp same.symm
  · intro one
    rw [one] at same
    exact UInt32.toNat_inj.mp (Int.ofNat_inj.mp same)

/-- What is made of an accepted configuration: a switch, then the ids, the conflict, the version. -/
theorem contractBAddress_accepted (read : FotaConfig.fromSnapshot s = .ok c) :
    contractBAddress s =
      if valueOf s.bool "fota.cloud.enabled" true then
        if Declared s then
          if Number.methodId.value s = 1 then .error (.registry methodConflict)
          else if Number.interfaceMajor.value s = 1 then .ok (some c.genericTransport.address)
          else .error (.registry versionMismatch)
        else .error .unallocated
      else .ok none := by
  obtain ⟨passed, written⟩ := fromSnapshot_ok_iff.mp read
  unfold contractBAddress
  simp only [read, written.cloud.enabled]
  split
  -- contract B is asked for
  next =>
    by_cases declared : Declared s
    · simp only [resolve_ranged (ranged_of_accepted passed written.genericTransport declared),
        methodId_one_iff written.genericTransport,
        interfaceMajor_one_iff written.genericTransport declared, if_pos declared]
      by_cases conflict : Number.methodId.value s = 1
      · simp only [if_pos conflict]
      · by_cases major : Number.interfaceMajor.value s = 1
        · simp only [if_neg conflict, if_pos major]
        · simp only [if_neg conflict, if_neg major]
    -- without ids the resolver comes back empty-handed, which is refused
    · simp only [undeclared_resolves written.genericTransport declared, if_neg declared]
  -- it is not asked for
  next => rfl

end Accepted

/-! ### The law -/

/-- The address that is written: the service of the registry, with the ids of the configuration. -/
structure TboxGenericTransportAddress.Written (s : ConfigSnapshot)
    (a : TboxGenericTransportAddress) : Prop where
  service : a.service = 0x6101
  instanceId : a.instanceId = 0x0001
  method : (a.method.toNat : Int) = (Number.methodId.value s).toInt
  event : (a.event.toNat : Int) = (Number.eventId.value s).toInt
  eventgroup : (a.eventgroup.toNat : Int) = (Number.eventgroupId.value s).toInt
  interfaceVersion : a.interfaceVersion = ⟨1, 0⟩

/-- The configuration is accepted, asks for contract B and declares ids. -/
structure Asked (s : ConfigSnapshot) : Prop where
  passed : ∀ k ∈ checks, k.Passes s
  enabled : valueOf s.bool "fota.cloud.enabled" true = true
  declared : Declared s

/-- Why there is no address: the first check of `from` that fails, or else the first finding of the
resolver. -/
inductive Refuses (s : ConfigSnapshot) : Refusal → Prop
  | config {before after : List Check} {k : Check} {e : ConfigError}
      (split : checks = before ++ k :: after) (passed : ∀ b ∈ before, b.Passes s)
      (failed : k.Fails s e) : Refuses s (.config e)
  | unallocated (passed : ∀ k ∈ checks, k.Passes s)
      (enabled : valueOf s.bool "fota.cloud.enabled" true = true) (undeclared : ¬Declared s) :
      Refuses s .unallocated
  | conflict (asked : Asked s) (taken : Number.methodId.value s = 1) :
      Refuses s (.registry methodConflict)
  | version (asked : Asked s) (free : Number.methodId.value s ≠ 1)
      (other : Number.interfaceMajor.value s ≠ 1) : Refuses s (.registry versionMismatch)

section Law

variable {s : ConfigSnapshot} {c : FotaConfig}

/-- The address of an accepted configuration is the one that is written. -/
theorem address_written (written : c.genericTransport.Written s) (declared : Declared s)
    (major : Number.interfaceMajor.value s = 1) :
    c.genericTransport.address.Written s := by
  have one := (interfaceMajor_one_iff written declared).mpr major
  exact
    { service := rfl
      instanceId := rfl
      method := written.methodId
      event := written.eventId
      eventgroup := written.eventgroupId
      interfaceVersion := by simp [GenericTransportSpec.address, one] }

theorem TboxGenericTransportAddress.Written.unique {a a' : TboxGenericTransportAddress}
    (one : a.Written s) (other : a'.Written s) : a = a' := by
  obtain ⟨_, _, _, _, _, _⟩ := a
  obtain ⟨_, _, _, _, _, _⟩ := a'
  congr
  · exact one.service.trans other.service.symm
  · exact one.instanceId.trans other.instanceId.symm
  · exact UInt16.toNat_inj.mp (Int.ofNat_inj.mp (one.method.trans other.method.symm))
  · exact UInt16.toNat_inj.mp (Int.ofNat_inj.mp (one.event.trans other.event.symm))
  · exact UInt16.toNat_inj.mp (Int.ofNat_inj.mp (one.eventgroup.trans other.eventgroup.symm))
  · exact one.interfaceVersion.trans other.interfaceVersion.symm

theorem read_of_passed (passed : ∀ k ∈ checks, k.Passes s) :
    ∃ c, FotaConfig.fromSnapshot s = .ok c := by
  obtain ⟨c, chain, -⟩ := fromSnapshot_verdict s
  refine ⟨c, ?_⟩
  rw [chain, Verdict.ok_iff, List.forall_mem_map]
  exact ⟨fun k member => k.error_none_iff.mpr (passed k member), rfl⟩

theorem contractBAddress_unread {e : ConfigError} (unread : FotaConfig.fromSnapshot s = .error e) :
    contractBAddress s = .error (.config e) := by
  unfold contractBAddress
  rw [unread]

/-- An address comes of exactly the configurations that ask for one, without conflict and of this
version. -/
theorem contractBAddress_some_iff {a : TboxGenericTransportAddress} :
    contractBAddress s = .ok (some a) ↔ Asked s ∧ Number.methodId.value s ≠ 1 ∧
      Number.interfaceMajor.value s = 1 ∧ a.Written s := by
  constructor
  · intro resolved
    cases read : FotaConfig.fromSnapshot s with
    -- not accepted: no address
    | error e =>
      rw [contractBAddress_unread read] at resolved
      cases resolved
    | ok c =>
      obtain ⟨passed, written⟩ := fromSnapshot_ok_iff.mp read
      rw [contractBAddress_accepted read] at resolved
      split at resolved
      -- accepted, and contract B is asked for
      next enabled =>
        split at resolved
        next declared =>
          split at resolved
          next => cases resolved
          next free =>
            split at resolved
            next major =>
              cases resolved
              exact ⟨⟨passed, enabled, declared⟩, free, major,
                address_written written.genericTransport declared major⟩
            next => cases resolved
        next => cases resolved
      next => cases resolved
  -- and a configuration like that is accepted and resolves
  · rintro ⟨asked, free, major, same⟩
    obtain ⟨c, read⟩ := read_of_passed asked.passed
    have written := (fromSnapshot_ok_iff.mp read).2.genericTransport
    rw [contractBAddress_accepted read, if_pos asked.enabled, if_pos asked.declared, if_neg free,
      if_pos major, (address_written written asked.declared major).unique same]

/-- No address is asked for exactly if the configuration is accepted and disables contract B. -/
theorem contractBAddress_none_iff :
    contractBAddress s = .ok none ↔
      (∀ k ∈ checks, k.Passes s) ∧ valueOf s.bool "fota.cloud.enabled" true = false := by
  constructor
  · intro skipped
    cases read : FotaConfig.fromSnapshot s with
    | error e =>
      rw [contractBAddress_unread read] at skipped
      cases skipped
    | ok c =>
      refine ⟨(fromSnapshot_ok_iff.mp read).1, ?_⟩
      rw [contractBAddress_accepted read] at skipped
      by_contra enabled
      rw [if_pos (Bool.not_eq_false _ ▸ enabled)] at skipped
      split at skipped
      next =>
        split at skipped
        next => cases skipped
        next => split at skipped <;> cases skipped
      next => cases skipped
  · rintro ⟨passed, disabled⟩
    obtain ⟨c, read⟩ := read_of_passed passed
    rw [contractBAddress_accepted read, disabled, if_neg Bool.false_ne_true]

/-- The refusal is the first thing that is wrong. -/
theorem contractBAddress_error_iff {why : Refusal} :
    contractBAddress s = .error why ↔ Refuses s why := by
  constructor
  · intro refused
    cases read : FotaConfig.fromSnapshot s with
    -- `from` refuses, with the first check that fails
    | error e =>
      rw [contractBAddress_unread read] at refused
      cases refused
      obtain ⟨before, k, after, split, passed, failed⟩ := fromSnapshot_error_iff.mp read
      exact .config split passed failed
    | ok c =>
      have passed := (fromSnapshot_ok_iff.mp read).1
      rw [contractBAddress_accepted read] at refused
      split at refused
      next enabled =>
        split at refused
        next declared =>
          split at refused
          -- the method is taken
          next taken =>
            cases refused
            exact .conflict ⟨passed, enabled, declared⟩ taken
          next free =>
            split at refused
            next => cases refused
            -- the version is another one
            next other =>
              cases refused
              exact .version ⟨passed, enabled, declared⟩ free other
        -- there are no ids
        next undeclared =>
          cases refused
          exact .unallocated passed enabled undeclared
      next => cases refused
  · intro refuses
    -- and each of the reasons refuses
    cases refuses with
    | config split passed failed =>
      exact contractBAddress_unread (fromSnapshot_error_iff.mpr ⟨_, _, _, split, passed, failed⟩)
    | unallocated passed enabled undeclared =>
      obtain ⟨c, read⟩ := read_of_passed passed
      rw [contractBAddress_accepted read, if_pos enabled, if_neg undeclared]
    | conflict asked taken =>
      obtain ⟨c, read⟩ := read_of_passed asked.passed
      rw [contractBAddress_accepted read, if_pos asked.enabled, if_pos asked.declared, if_pos taken]
    | version asked free other =>
      obtain ⟨c, read⟩ := read_of_passed asked.passed
      rw [contractBAddress_accepted read, if_pos asked.enabled, if_pos asked.declared, if_neg free,
        if_neg other]

/-- `from` and the resolver settle on exactly the address that an accepted configuration declares,
where it is not that of contract A and is of the version that is spoken. They ask for none exactly
where an accepted configuration disables contract B. Without ids, with such a conflict or with
another version they refuse, and the refusal says which it was. -/
theorem contractBAddress_exact (s : ConfigSnapshot) :
    (∀ a, contractBAddress s = .ok (some a) ↔ Asked s ∧ Number.methodId.value s ≠ 1 ∧
      Number.interfaceMajor.value s = 1 ∧ a.Written s) ∧
    (contractBAddress s = .ok none ↔
      (∀ k ∈ checks, k.Passes s) ∧ valueOf s.bool "fota.cloud.enabled" true = false) ∧
    (∀ why, contractBAddress s = .error why ↔ Refuses s why) :=
  ⟨fun _ => contractBAddress_some_iff, contractBAddress_none_iff,
    fun _ => contractBAddress_error_iff⟩

end Law

end CgwFota.Config
