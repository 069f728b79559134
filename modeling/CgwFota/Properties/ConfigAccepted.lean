import CgwFota.Config.Checks
import CgwFota.Data.FixedWidth

/-!
# What configuration is accepted

`from` and its table of checks agree on what is accepted, on what is read from it, and on which
error is thrown where it is not.

## Main definitions

* `Check.error`: the error of one check, if it fails.
* `specWritten`: what is read of the ids that are declared.

## Main results

* `fromSnapshot_ok_iff`: a snapshot is accepted exactly where every check passes, and what is read
  is what is written.
* `fromSnapshot_error_iff`: the error is that of the first check which fails.
* `fromSnapshot_exact`: both together.

## Proof strategy

Each function of the source is a chain of checks with a value at its end, a `verdict`. The chains of
the sections are put together by `bind_eq`, with one lemma for a section; the two results are then
those of a verdict in general, and that what is written is unique.
-/
namespace CgwFota.Config

open Verdict (bind_eq)

/-! ### The checks, run -/

section Errors

variable {α : Type} (s : ConfigSnapshot)

/-- A value that cannot be read is an error of the configuration. -/
def readError (get : String → Except String (Option α)) (key : String) : Option ConfigError :=
  match get key with
  | .error message => some (.config message)
  | .ok _ => none

/-- The sections of the earlier contract are refused as a whole. -/
def legacyError : Option ConfigError :=
  if s.has "fota.ota" then
    some (.fotaConfig "fota.ota.* is legacy; use fota.cloud.* (CGW-FOTA-DSN-CR-011)")
  else none

instance (n : Number) : Decidable (n.Within s) := inferInstanceAs (Decidable (_ ∧ _))

/-- The error of one check. -/
def Check.error : Check → Option ConfigError
  | .sect name allowed => ((s.keys name).find? (· ∉ allowed)).map
      fun k => .fotaConfig ("unknown config key: " ++ name ++ "." ++ k)
  | .number n => (readError s.int64 n.key).or (if n.Within s then none else some (n.outside s))
  | .whole n => readError s.int64 n.key
  | .flag key => readError s.bool key
  | .text key => readError s.string key
  | .allocation =>
    if Declared s ∧ (Number.methodId.value s = 0 ∨ Number.eventId.value s = 0 ∨
        Number.eventgroupId.value s = 0) then
      some (.fotaConfig partialAllocation)
    else none
  | .allocated n => if Declared s ∧ ¬n.Within s then some (n.outside s) else none
  | .legacy => legacyError s
  | .mock =>
    if valueOf s.bool "fota.mock.enabled" false then
      some (.fotaConfig ("fota.mock.enabled=true rejected in production build " ++
        "(FOTA_ENABLE_TEST_DOUBLES not defined)"))
    else none

end Errors

section Run

variable {α : Type} {s : ConfigSnapshot} {get : String → Except String (Option α)} {key : String}
  {e : ConfigError}

theorem readError_none_iff : readError get key = none ↔ Readable get key := by
  unfold readError Readable
  cases get key with
  | error message => simp
  | ok value => simp

theorem readError_some_iff :
    readError get key = some e ↔ ∃ message, get key = .error message ∧ .config message = e := by
  unfold readError
  cases get key with
  | error message => simp
  | ok value => simp

/-- A check has no error exactly if it passes. -/
theorem Check.error_none_iff (k : Check) : k.error s = none ↔ k.Passes s := by
  cases k with
  | sect name allowed => simp [Check.error, Check.Passes]
  | number n =>
    simp only [Check.error, Check.Passes, Option.or_eq_none_iff, readError_none_iff]
    simp
  | whole n => exact readError_none_iff
  | flag key => exact readError_none_iff
  | text key => exact readError_none_iff
  | allocation =>
    simp only [Check.error, Check.Passes]
    split <;> simp <;> tauto
  | allocated n =>
    simp only [Check.error, Check.Passes]
    split <;> simp <;> tauto
  | legacy => simp [Check.error, Check.Passes, legacyError]
  | mock =>
    simp only [Check.error, Check.Passes]
    split
    next on => simp [on]
    next off => simpa using off

/-- A check has an error exactly if it fails with it. -/
theorem Check.error_some_iff (k : Check) : k.error s = some e ↔ k.Fails s e := by
  constructor
  · intro failed
    -- each kind of check has its ways to fail: the first that the function comes to is the one
    cases k with
    | sect name allowed =>
      obtain ⟨k, found, rfl⟩ := Option.map_eq_some_iff.mp failed
      obtain ⟨unknown, before, after, split, known⟩ := List.find?_eq_some_iff_append.mp found
      exact .unknown split (by simpa using known) (by simpa using unknown)
    | number n =>
      -- a number that cannot be read has no range
      rcases Option.or_eq_some_iff.mp failed with failed | ⟨read, outside⟩
      · obtain ⟨message, unread, rfl⟩ := readError_some_iff.mp failed
        exact .notNumber unread
      · split at outside
        next => cases outside
        next outer =>
          cases outside
          exact .range (readError_none_iff.mp read) outer
    | whole n =>
      obtain ⟨message, unread, rfl⟩ := readError_some_iff.mp failed
      exact .notWhole unread
    | flag key =>
      obtain ⟨message, unread, rfl⟩ := readError_some_iff.mp failed
      exact .notFlag unread
    | text key =>
      obtain ⟨message, unread, rfl⟩ := readError_some_iff.mp failed
      exact .notText unread
    | allocation =>
      simp only [Check.error] at failed
      split at failed
      next absent =>
        cases failed
        exact .incomplete absent.1 absent.2
      next => cases failed
    | allocated n =>
      simp only [Check.error] at failed
      split at failed
      next outer =>
        cases failed
        exact .idRange outer.1 outer.2
      next => cases failed
    | legacy =>
      simp only [Check.error, legacyError] at failed
      split at failed
      next present =>
        cases failed
        exact .legacy present
      next => cases failed
    | mock =>
      simp only [Check.error] at failed
      split at failed
      next on =>
        cases failed
        exact .mock on
      next => cases failed
  -- and every way to fail is the first where it applies
  · intro failed
    cases failed with
    | @unknown name allowed before after k found known unknown =>
      have first : (s.keys name).find? (· ∉ allowed) = some k :=
        List.find?_eq_some_iff_append.mpr
          ⟨by simpa using unknown, before, after, found, by simpa using known⟩
      simp only [Check.error, first, Option.map_some]
    | notNumber read => simp only [Check.error, readError, read, Option.some_or]
    | range read outside =>
      simp only [Check.error, readError_none_iff.mpr read, Option.none_or, if_neg outside]
    | notWhole read => simp only [Check.error, readError, read]
    | notFlag read => simp only [Check.error, readError, read]
    | notText read => simp only [Check.error, readError, read]
    | incomplete declared absent => simp only [Check.error, if_pos (And.intro declared absent)]
    | idRange declared outside => simp only [Check.error, if_pos (And.intro declared outside)]
    | legacy present => simp only [Check.error, legacyError, if_pos present]
    | mock enabled => simp only [Check.error, if_pos enabled]

end Run

/-! ### The functions, as chains of checks -/

section Chains

variable {α : Type} {s : ConfigSnapshot}

theorem getOr_verdict (get : String → Except String (Option α)) (key : String) (fallback : α) :
    getOr get key fallback = verdict [readError get key] (valueOf get key fallback) := by
  unfold getOr readError valueOf
  cases get key with
  | error message => rfl
  | ok value => rfl

theorem rejectUnknown_verdict (name : String) (allowed : List String) :
    rejectUnknown s name allowed = verdict [(Check.sect name allowed).error s] () := by
  unfold rejectUnknown
  simp only [Check.error]
  cases (s.keys name).find? (· ∉ allowed) with
  | none => rfl
  | some k => rfl

/-- The range is one check, on a number that was read. -/
theorem requireRange_verdict (n : Number) :
    requireRange n.key (n.value s) n.lo n.hi =
      verdict [if n.Within s then none else some (n.outside s)] () := by
  unfold requireRange
  split
  -- outside one of the bounds
  next outside =>
    rw [if_neg]
    · rfl
    · rintro ⟨lower, upper⟩
      rcases outside with below | above
      · exact Int64.not_le.mpr below lower
      · exact Int64.not_le.mpr above upper
  -- inside both
  next inside =>
    rw [not_or, Int64.not_lt, Int64.not_lt] at inside
    rw [if_pos (show n.Within s from inside)]
    rfl

/-- A bounded number is one check of two parts: that it is a number, and that it is in its range. -/
theorem getInRange_verdict (n : Number) :
    getInRange s n.key n.fallback n.lo n.hi =
      verdict [(Check.number n).error s] (n.value s) := by
  have chain : getInRange s n.key n.fallback n.lo n.hi = verdict _ (n.value s) :=
    bind_eq (getOr_verdict s.int64 n.key n.fallback)
      (bind_eq (requireRange_verdict n) Verdict.pure_eq)
  rw [chain]
  unfold verdict
  simp only [Check.error]
  cases readError s.int64 n.key with
  | none => cases (if n.Within s then none else some (n.outside s)) <;> rfl
  | some e => rfl

end Chains

/-! ### The sections -/

section Sections

variable (s : ConfigSnapshot)

theorem Number.toNat_toUInt64 {n : Number} (inside : n.Within s) (positive : 0 ≤ n.lo) :
    ((n.value s).toUInt64.toNat : Int) = (n.value s).toInt :=
  FixedWidth.toUInt64_exact (Int64.le_trans positive inside.1)

/-- A bounded number fits into 32 bits. -/
theorem Number.toNat_toUInt32 {n : Number} (inside : n.Within s) (positive : 0 ≤ n.lo)
    (small : n.hi ≤ 4294967295) :
    ((n.value s).toUInt64.toUInt32.toNat : Int) = (n.value s).toInt := by
  refine (FixedWidth.toUInt32_exact_iff (Int64.le_trans positive inside.1)).mpr ?_
  exact Int64.le_iff_toInt_le.mp (Int64.le_trans inside.2 small)

theorem Number.toNat_toUInt16 {n : Number} (inside : n.Within s) (positive : 0 ≤ n.lo)
    (small : n.hi ≤ 65535) :
    ((n.value s).toUInt64.toUInt16.toNat : Int) = (n.value s).toInt := by
  have value := n.toNat_toUInt64 s inside positive
  have bound := Int64.le_iff_toInt_le.mp (Int64.le_trans inside.2 small)
  rw [show (65535 : Int64).toInt = 65535 from rfl] at bound
  rw [UInt64.toNat_toUInt16]
  omega

/-- The inventory section is its checks, and a configuration that passes them is what is written. -/
theorem inventoryFrom_verdict :
    ∃ c, inventoryFrom s = verdict (inventoryChecks.map (Check.error s)) c ∧
      ((∀ k ∈ inventoryChecks, k.Passes s) → c.Written s) := by
  have chain : inventoryFrom s = verdict _ _ :=
    bind_eq (rejectUnknown_verdict _ _) <|
    bind_eq (getOr_verdict _ _ _) <|
    bind_eq (getInRange_verdict .minReportInterval) <|
    bind_eq (getInRange_verdict .maxPendingRequests) <|
    bind_eq (getInRange_verdict .dedupeMaxEntries) <|
    bind_eq (getInRange_verdict .dedupeTtl) Verdict.pure_eq
  refine ⟨_, chain, fun passed => ?_⟩
  simp only [inventoryChecks, List.forall_mem_cons] at passed
  obtain ⟨-, -, minInterval, maxPending, maxEntries, ttl, -⟩ := passed
  exact
    { changeDetectionEnabled := rfl
      minReportInterval := rfl
      maxPendingRequests := Number.toNat_toUInt32 s maxPending.2 (by decide) (by decide)
      dedupeMaxEntries := Number.toNat_toUInt32 s maxEntries.2 (by decide) (by decide)
      dedupeTtlMs := rfl }

/-- The diagnosis section is read as its checks say. -/
theorem diagFrom_verdict :
    ∃ c, diagFrom s = verdict (diagChecks.map (Check.error s)) c ∧
      ((∀ k ∈ diagChecks, k.Passes s) → c.Written s) := by
  have chain : diagFrom s = verdict _ _ :=
    bind_eq (rejectUnknown_verdict _ _) <|
    bind_eq (getInRange_verdict .collectTimeout) <|
    bind_eq (getInRange_verdict .retryMaxAttempts) <|
    bind_eq (getInRange_verdict .retryBackoff) Verdict.pure_eq
  refine ⟨_, chain, fun passed => ?_⟩
  simp only [diagChecks, List.forall_mem_cons] at passed
  obtain ⟨-, -, attempts, -⟩ := passed
  exact
    { diagCollectTimeout := rfl
      maxAttempts := Number.toNat_toUInt32 s attempts.2 (by decide) (by decide)
      backoff := rfl }

/-- The transport section is read as its checks say. -/
theorem transportFrom_verdict :
    ∃ c, transportFrom s = verdict (transportChecks.map (Check.error s)) c ∧
      ((∀ k ∈ transportChecks, k.Passes s) → c.Written s) := by
  have chain : transportFrom s = verdict _ _ :=
    bind_eq (rejectUnknown_verdict _ _) <|
    bind_eq (getInRange_verdict .exchangeTimeout) <|
    bind_eq (getInRange_verdict .maxEnvelopeBytes) <|
    bind_eq (getInRange_verdict .maxPayloadBytes) <|
    bind_eq (getInRange_verdict .maxInFlight) <|
    bind_eq (getInRange_verdict .downlinkQueueCapacity) <|
    bind_eq (getInRange_verdict .downlinkWorkers) <|
    bind_eq (getInRange_verdict .inFlightTtl) <|
    bind_eq (getInRange_verdict .availabilityWait) Verdict.pure_eq
  refine ⟨_, chain, fun passed => ?_⟩
  simp only [transportChecks, List.forall_mem_cons] at passed
  obtain ⟨-, -, envelope, payload, inFlight, capacity, workers, -, -, -⟩ := passed
  exact
    { exchangeTimeout := rfl
      maxEnvelopeBytes := Number.toNat_toUInt64 s envelope.2 (by decide)
      maxPayloadBytes := Number.toNat_toUInt64 s payload.2 (by decide)
      maxInFlight := Number.toNat_toUInt64 s inFlight.2 (by decide)
      downlinkQueueCapacity := Number.toNat_toUInt64 s capacity.2 (by decide)
      downlinkWorkers := Number.toNat_toUInt64 s workers.2 (by decide)
      inFlightTtl := rfl
      availabilityWait := rfl }

/-- The cloud section is read as its checks say. -/
theorem cloudFrom_verdict :
    ∃ c, cloudFrom s = verdict (cloudChecks.map (Check.error s)) c ∧
      ((∀ k ∈ cloudChecks, k.Passes s) → c.Written s) := by
  have chain : cloudFrom s = verdict _ _ :=
    bind_eq (rejectUnknown_verdict _ _) <|
    bind_eq (getOr_verdict _ _ _) <|
    bind_eq (getOr_verdict _ _ _) <|
    bind_eq (getInRange_verdict .taskCheckInterval) <|
    bind_eq (getOr_verdict _ _ _) <|
    bind_eq (getInRange_verdict .eventOutboxMax) <|
    bind_eq (getInRange_verdict .eventBatchMax) <|
    bind_eq (getInRange_verdict .controlAckTimeout) <|
    bind_eq (getInRange_verdict .cloudCallTimeout) Verdict.pure_eq
  refine ⟨_, chain, fun passed => ?_⟩
  simp only [cloudChecks, List.forall_mem_cons] at passed
  obtain ⟨-, -, -, -, -, outboxMax, batchMax, -, -, -⟩ := passed
  exact
    { enabled := rfl
      protocolVersion := rfl
      taskCheckInterval := rfl
      reconcileOnStart := rfl
      eventOutboxMax := Number.toNat_toUInt32 s outboxMax.2 (by decide) (by decide)
      eventBatchMax := Number.toNat_toUInt32 s batchMax.2 (by decide) (by decide)
      controlAckTimeout := rfl
      cloudCallTimeout := rfl }

theorem rejectLegacy_verdict : rejectLegacy s = verdict [Check.legacy.error s] () := by
  unfold rejectLegacy
  simp only [Check.error, legacyError]
  split <;> rfl

/-- What is read of the ids that are declared. -/
def specWritten : GenericTransportSpec :=
  if Declared s then
    { methodId := (Number.methodId.value s).toUInt64.toUInt16
      eventId := (Number.eventId.value s).toUInt64.toUInt16
      eventgroupId := (Number.eventgroupId.value s).toUInt64.toUInt16
      interfaceMajor := (Number.interfaceMajor.value s).toUInt64.toUInt32 }
  else {}

theorem allocated_error {n : Number} (declared : Declared s) :
    (Check.allocated n).error s = if n.Within s then none else some (n.outside s) := by
  by_cases inside : n.Within s <;> simp [Check.error, declared, inside]

/-- The ids that are declared are checked together first, and then one by one. -/
theorem allocation_verdict :
    (if Number.methodId.value s ≠ 0 ∨ Number.eventId.value s ≠ 0 ∨
        Number.eventgroupId.value s ≠ 0 then
      if Number.methodId.value s = 0 ∨ Number.eventId.value s = 0 ∨
          Number.eventgroupId.value s = 0 then
        throw (.fotaConfig partialAllocation)
      else do
        requireRange Number.methodId.key (Number.methodId.value s) 1 0x7FFF
        requireRange Number.eventId.key (Number.eventId.value s) 0x8000 0xFFFE
        requireRange Number.eventgroupId.key (Number.eventgroupId.value s) 1 0xFFFE
        requireRange Number.interfaceMajor.key (Number.interfaceMajor.value s) 1 0xFF
        return {
          methodId := (Number.methodId.value s).toUInt64.toUInt16
          eventId := (Number.eventId.value s).toUInt64.toUInt16
          eventgroupId := (Number.eventgroupId.value s).toUInt64.toUInt16
          interfaceMajor := (Number.interfaceMajor.value s).toUInt64.toUInt32 }
    else return {} : Result GenericTransportSpec) =
      verdict ([.allocation, .allocated .methodId, .allocated .eventId, .allocated .eventgroupId,
        .allocated .interfaceMajor].map (Check.error s)) (specWritten s) := by
  -- with an id declared all of them have to be there
  by_cases declared : Declared s
  · simp only [List.map_cons, allocated_error s declared, List.map_nil, specWritten, declared,
      if_true]
    rw [if_pos (show _ ∨ _ ∨ _ from declared)]
    split
    next absent =>
      simp only [Check.error, if_pos (And.intro declared absent)]
      rfl
    next complete =>
      simp only [Check.error, if_neg (fun both => complete (And.right both))]
      exact bind_eq (requireRange_verdict .methodId) <|
        bind_eq (requireRange_verdict .eventId) <|
        bind_eq (requireRange_verdict .eventgroupId) <|
        bind_eq (requireRange_verdict .interfaceMajor) Verdict.pure_eq
  -- with none declared there is nothing to check
  · rw [if_neg (show ¬(_ ∨ _ ∨ _) from declared)]
    simp only [List.map_cons, List.map_nil, Check.error, specWritten, declared, false_and, if_false]
    rfl

/-- The section of the generic transport is its checks, and where no ids are declared it reads as
none. -/
theorem genericTransportFrom_verdict :
    ∃ c, genericTransportFrom s = verdict (genericTransportChecks.map (Check.error s)) c ∧
      ((∀ k ∈ genericTransportChecks, k.Passes s) → c.Written s) := by
  have chain : genericTransportFrom s = verdict _ _ :=
    bind_eq (rejectUnknown_verdict _ _) <|
    bind_eq (getOr_verdict _ _ _) <|
    bind_eq (getOr_verdict _ _ _) <|
    bind_eq (getOr_verdict _ _ _) <|
    bind_eq (getOr_verdict _ _ _) (allocation_verdict s)
  refine ⟨_, chain, fun passed => ?_⟩
  simp only [genericTransportChecks, List.forall_mem_cons, Check.Passes] at passed
  obtain ⟨-, -, -, -, -, -, method, event, eventgroup, major, -⟩ := passed
  unfold specWritten
  -- declared: the ranges make the conversions exact
  by_cases declared : Declared s
  · rw [if_pos declared]
    constructor
    case methodId => exact Number.toNat_toUInt16 s (method declared) (by decide) (by decide)
    case eventId => exact Number.toNat_toUInt16 s (event declared) (by decide) (by decide)
    case eventgroupId => exact Number.toNat_toUInt16 s (eventgroup declared) (by decide) (by decide)
    case interfaceMajor =>
      rw [if_pos declared]
      exact Number.toNat_toUInt32 s (major declared) (by decide) (by decide)
  -- not declared: everything is zero
  · rw [if_neg declared]
    have absent := declared
    simp only [Declared, not_or, not_not] at absent
    obtain ⟨method, event, eventgroup⟩ := absent
    constructor
    case methodId => rw [method]; rfl
    case eventId => rw [event]; rfl
    case eventgroupId => rw [eventgroup]; rfl
    case interfaceMajor => rw [if_neg declared]; rfl

/-- The section of the test doubles is its checks; that they are off is the last one. -/
theorem mockFrom_verdict :
    ∃ c, mockFrom s = verdict (mockChecks.map (Check.error s)) c ∧
      ((∀ k ∈ mockChecks, k.Passes s) → c.Written s) := by
  let c : MockConfig :=
    { enabled := valueOf s.bool "fota.mock.enabled" false
      scenarioPath := valueOf s.string "fota.mock.scenario_path" ""
      virtualClock := valueOf s.bool "fota.mock.virtual_clock" false }
  have last : (if valueOf s.bool "fota.mock.enabled" false then
      throw (.fotaConfig ("fota.mock.enabled=true rejected in production build " ++
        "(FOTA_ENABLE_TEST_DOUBLES not defined)"))
    else return c : Result MockConfig) = verdict [Check.mock.error s] c := by
    simp only [Check.error]
    split <;> rfl
  have chain : mockFrom s = verdict _ c :=
    bind_eq (rejectUnknown_verdict _ _) <|
    bind_eq (getOr_verdict _ _ _) <|
    bind_eq (getOr_verdict _ _ _) <|
    bind_eq (getOr_verdict _ _ _) last
  refine ⟨c, chain, fun passed => ?_⟩
  simp only [mockChecks, List.forall_mem_cons, Check.Passes] at passed
  obtain ⟨-, -, -, -, off, -⟩ := passed
  exact ⟨off, rfl, rfl⟩

/-- The whole configuration is the table of checks. -/
theorem fromSnapshot_verdict :
    ∃ c, FotaConfig.fromSnapshot s = verdict (checks.map (Check.error s)) c ∧
      ((∀ k ∈ checks, k.Passes s) → c.Written s) := by
  obtain ⟨inventory, inventoryRead, inventoryWritten⟩ := inventoryFrom_verdict s
  obtain ⟨diag, diagRead, diagWritten⟩ := diagFrom_verdict s
  obtain ⟨transport, transportRead, transportWritten⟩ := transportFrom_verdict s
  obtain ⟨spec, specRead, specWritten⟩ := genericTransportFrom_verdict s
  obtain ⟨cloud, cloudRead, cloudWritten⟩ := cloudFrom_verdict s
  obtain ⟨mock, mockRead, mockWritten⟩ := mockFrom_verdict s
  have chain : FotaConfig.fromSnapshot s = verdict _ _ :=
    bind_eq (rejectUnknown_verdict _ _) <|
    bind_eq inventoryRead <|
    bind_eq (getOr_verdict _ _ _) <|
    bind_eq diagRead <|
    bind_eq (rejectUnknown_verdict _ _) <|
    bind_eq transportRead <|
    bind_eq specRead <|
    bind_eq (rejectLegacy_verdict s) <|
    bind_eq cloudRead <|
    bind_eq mockRead Verdict.pure_eq
  refine ⟨_, chain, fun passed => ?_⟩
  simp only [checks, List.forall_mem_append] at passed
  obtain ⟨⟨⟨⟨⟨⟨⟨⟨⟨-, inventory⟩, -⟩, diag⟩, -⟩, transport⟩, spec⟩, -⟩, cloud⟩, mock⟩ := passed
  exact
    { inventory := inventoryWritten inventory
      diag := diagWritten diag
      transport := transportWritten transport
      genericTransport := specWritten spec
      cloud := cloudWritten cloud
      mock := mockWritten mock
      storeRoot := rfl }

end Sections

/-! ### The law -/

section Law

variable {s : ConfigSnapshot}

/-- What is written determines the inventory section. -/
theorem InventoryConfig.Written.unique {c c' : InventoryConfig} (one : c.Written s)
    (other : c'.Written s) : c = c' := by
  obtain ⟨_, _, _, _, _⟩ := c
  obtain ⟨_, _, _, _, _⟩ := c'
  obtain ⟨changes, interval, pending, entries, ttl⟩ := one
  obtain ⟨changes', interval', pending', entries', ttl'⟩ := other
  congr
  · exact changes.trans changes'.symm
  · exact interval.trans interval'.symm
  · exact UInt32.toNat_inj.mp (Int.ofNat_inj.mp (pending.trans pending'.symm))
  · exact UInt32.toNat_inj.mp (Int.ofNat_inj.mp (entries.trans entries'.symm))
  · exact ttl.trans ttl'.symm

theorem DiagConfig.Written.unique {c c' : DiagConfig} (one : c.Written s)
    (other : c'.Written s) : c = c' := by
  obtain ⟨_, _, _⟩ := c
  obtain ⟨_, _, _⟩ := c'
  obtain ⟨timeout, attempts, backoff⟩ := one
  obtain ⟨timeout', attempts', backoff'⟩ := other
  congr
  · exact timeout.trans timeout'.symm
  · exact UInt32.toNat_inj.mp (Int.ofNat_inj.mp (attempts.trans attempts'.symm))
  · exact backoff.trans backoff'.symm

/-- What is written determines the transport section. -/
theorem TransportConfig.Written.unique {c c' : TransportConfig} (one : c.Written s)
    (other : c'.Written s) : c = c' := by
  obtain ⟨⟨_, _, _, _, _, _⟩, _, _⟩ := c
  obtain ⟨⟨_, _, _, _, _, _⟩, _, _⟩ := c'
  obtain ⟨exchange, envelope, payload, inFlight, capacity, workers, ttl, wait⟩ := one
  obtain ⟨exchange', envelope', payload', inFlight', capacity', workers', ttl', wait'⟩ := other
  congr
  · exact exchange.trans exchange'.symm
  · exact Int.ofNat_inj.mp (envelope.trans envelope'.symm)
  · exact Int.ofNat_inj.mp (payload.trans payload'.symm)
  · exact Int.ofNat_inj.mp (inFlight.trans inFlight'.symm)
  · exact Int.ofNat_inj.mp (capacity.trans capacity'.symm)
  · exact Int.ofNat_inj.mp (workers.trans workers'.symm)
  · exact ttl.trans ttl'.symm
  · exact wait.trans wait'.symm

theorem GenericTransportSpec.Written.unique {c c' : GenericTransportSpec} (one : c.Written s)
    (other : c'.Written s) : c = c' := by
  obtain ⟨_, _, _, _⟩ := c
  obtain ⟨_, _, _, _⟩ := c'
  obtain ⟨method, event, eventgroup, major⟩ := one
  obtain ⟨method', event', eventgroup', major'⟩ := other
  congr
  · exact UInt16.toNat_inj.mp (Int.ofNat_inj.mp (method.trans method'.symm))
  · exact UInt16.toNat_inj.mp (Int.ofNat_inj.mp (event.trans event'.symm))
  · exact UInt16.toNat_inj.mp (Int.ofNat_inj.mp (eventgroup.trans eventgroup'.symm))
  · exact UInt32.toNat_inj.mp (Int.ofNat_inj.mp (major.trans major'.symm))

/-- What is written determines the cloud section. -/
theorem CloudConfig.Written.unique {c c' : CloudConfig} (one : c.Written s)
    (other : c'.Written s) : c = c' := by
  obtain ⟨_, _, _, _, _, _, _, _⟩ := c
  obtain ⟨_, _, _, _, _, _, _, _⟩ := c'
  obtain ⟨enabled, version, check, reconcile, outbox, batch, ack, call⟩ := one
  obtain ⟨enabled', version', check', reconcile', outbox', batch', ack', call'⟩ := other
  congr
  · exact enabled.trans enabled'.symm
  · exact version.trans version'.symm
  · exact check.trans check'.symm
  · exact reconcile.trans reconcile'.symm
  · exact UInt32.toNat_inj.mp (Int.ofNat_inj.mp (outbox.trans outbox'.symm))
  · exact UInt32.toNat_inj.mp (Int.ofNat_inj.mp (batch.trans batch'.symm))
  · exact ack.trans ack'.symm
  · exact call.trans call'.symm

/-- What is written determines the section of the test doubles. -/
theorem MockConfig.Written.unique {c c' : MockConfig} (one : c.Written s)
    (other : c'.Written s) : c = c' := by
  obtain ⟨_, _, _⟩ := c
  obtain ⟨_, _, _⟩ := c'
  obtain ⟨enabled, path, clock⟩ := one
  obtain ⟨enabled', path', clock'⟩ := other
  congr
  · exact enabled.trans enabled'.symm
  · exact path.trans path'.symm
  · exact clock.trans clock'.symm

/-- A snapshot determines its configuration. -/
theorem FotaConfig.Written.unique {c c' : FotaConfig} (one : c.Written s) (other : c'.Written s) :
    c = c' := by
  obtain ⟨_, _, _, _, _, _, _⟩ := c
  obtain ⟨_, _, _, _, _, _, _⟩ := c'
  congr
  · exact one.inventory.unique other.inventory
  · exact one.diag.unique other.diag
  · exact one.transport.unique other.transport
  · exact one.genericTransport.unique other.genericTransport
  · exact one.cloud.unique other.cloud
  · exact one.mock.unique other.mock
  · exact one.storeRoot.trans other.storeRoot.symm

/-- A snapshot is accepted exactly if every check passes, with exactly what is written. -/
theorem fromSnapshot_ok_iff {c : FotaConfig} :
    FotaConfig.fromSnapshot s = .ok c ↔ (∀ k ∈ checks, k.Passes s) ∧ c.Written s := by
  obtain ⟨read, chain, written⟩ := fromSnapshot_verdict s
  rw [chain, Verdict.ok_iff, List.forall_mem_map]
  simp only [Check.error_none_iff]
  constructor
  · rintro ⟨passed, rfl⟩
    exact ⟨passed, written passed⟩
  · rintro ⟨passed, same⟩
    exact ⟨passed, (written passed).unique same⟩

/-- Where the checks do not all pass, the error is that of the first of the table which fails. -/
theorem fromSnapshot_error_iff {e : ConfigError} :
    FotaConfig.fromSnapshot s = .error e ↔ ∃ before k after,
      checks = before ++ k :: after ∧ (∀ b ∈ before, b.Passes s) ∧ k.Fails s e := by
  obtain ⟨read, chain, -⟩ := fromSnapshot_verdict s
  rw [chain, Verdict.error_iff]
  simp only [List.map_eq_append_iff, List.map_eq_cons_iff]
  constructor
  · rintro ⟨_, _, ⟨before, rest, split, rfl, k, after, rfl, failed, rfl⟩, passed⟩
    simp only [List.forall_mem_map, Check.error_none_iff] at passed
    exact ⟨before, k, after, split, passed, k.error_some_iff.mp failed⟩
  · rintro ⟨before, k, after, split, passed, failed⟩
    refine ⟨before.map (Check.error s), after.map (Check.error s), ?_, ?_⟩
    · exact ⟨before, k :: after, split, rfl, k, after, rfl, k.error_some_iff.mpr failed, rfl⟩
    · simpa only [List.forall_mem_map, Check.error_none_iff] using passed

/-- `from` is its table: exactly the snapshots that pass every check are accepted, each field is
then the number, the flag or the text that is written or its default, and otherwise the first check
that fails determines the error. -/
theorem fromSnapshot_exact (s : ConfigSnapshot) :
    (∀ c, FotaConfig.fromSnapshot s = .ok c ↔ (∀ k ∈ checks, k.Passes s) ∧ c.Written s) ∧
    (∀ e, FotaConfig.fromSnapshot s = .error e ↔ ∃ before k after,
      checks = before ++ k :: after ∧ (∀ b ∈ before, b.Passes s) ∧ k.Fails s e) :=
  ⟨fun _ => fromSnapshot_ok_iff, fun _ => fromSnapshot_error_iff⟩

end Law

end CgwFota.Config
