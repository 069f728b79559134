import CgwFota.Config.FotaConfig
import CgwFota.Data.FixedWidth
import CgwFota.Inventory.Recovery
import CgwFota.Transport.CloudCalls

/-!
# Configured times in computations

Most times are accepted up to the largest 64-bit number, and used in sums with the clock and in
conversions to 32 bits.

## Main definitions

* `startWaitMs`, `stopWaitMs`, `throttleInterval`, `retryBackoff`: what is computed of them.
* `ClockReading`: a reading of the clock, up to 2^53 milliseconds.
* `TimesExact`: every computation yields the mathematical value, whatever the clock shows.
* `TimesFit`: each time leaves room for what is computed with it.

## Main results

* `times_exact_iff`: of every accepted configuration, the one holds exactly if the other does.
* `throttle_interval_truncated`: a throttle interval is accepted of which nothing is left.

## Proof strategy

A sum with the clock is exact for every reading exactly if it is for the latest one, which turns the
laws for all readings into one bound each. What remains is one lemma for a computation, and
arithmetic.
-/
namespace CgwFota.Config

open FixedWidth
open Inventory (ActiveJobState LastSuccessState completedEntry)
open Transport (ExchangeOptions exchangeTimeout transportContext)

/-! ### The computations -/

/-- `waitMs` in `start`. -/
def startWaitMs (cfg : TransportConfig) : Int32 := cfg.availabilityWait.toInt32

/-- `waitMs` in `stop`. -/
def stopWaitMs (cfg : TransportConfig) : Int32 := cfg.exchangeTimeout.toInt32 + 1000

/-- What `main` sets as the throttle interval of the assembler. -/
def throttleInterval (c : FotaConfig) : UInt32 := c.minReportInterval.toUInt64.toUInt32

/-- What `main` sets as its retry backoff. -/
def retryBackoff (c : FotaConfig) : UInt32 := c.diagRetry.backoff.toUInt64.toUInt32

/-- The configuration `main` makes for the orchestrator. -/
def orchestratorConfig (c : FotaConfig) : FotaOrchestratorConfig :=
  { deviceId := "cgw-fota"
    vin := ""
    cloudCallTimeout := c.cloud.cloudCallTimeout.toInt.toNat
    eventOutboxMax := c.cloud.eventOutboxMax }

/-! ### The law -/

/-- From 0 to 2^53 milliseconds. -/
def ClockReading (now : Int64) : Prop := 0 ≤ now.toInt ∧ now.toInt ≤ 9007199254740992

/-- Whatever the clock shows, every computation with a configured time yields the mathematical
value. -/
structure TimesExact (c : FotaConfig) : Prop where
  exchange : ∀ now opts, ClockReading now →
    (now + exchangeTimeout opts c.transport.toSomeIpTransportConfig).toInt =
      now.toInt + (exchangeTimeout opts c.transport.toSomeIpTransportConfig).toInt
  resolveDeadline : ∀ now (ctx : CallContext), ClockReading now →
    ctx.timeout = (orchestratorConfig c).cloudCallTimeout →
    ((transportContext ctx).resolveDeadline now).toInt = now.toInt + ctx.timeout
  reconcileCompleted : ∀ job lastSuccess, ClockReading lastSuccess.completedAt →
    c.dedupeTtlMs > 0 → (completedEntry job lastSuccess c.dedupeTtlMs).expiresAt.toInt =
      lastSuccess.completedAt.toInt + c.dedupeTtlMs.toInt
  start : (startWaitMs c.transport).toInt = c.transport.availabilityWait.toInt
  stop : (stopWaitMs c.transport).toInt = c.transport.exchangeTimeout.toInt + 1000
  throttle : (throttleInterval c).toNat = c.minReportInterval.toInt
  backoff : (retryBackoff c).toNat = c.diagRetry.backoff.toInt

/-- Each configured time leaves room for what is computed with it. -/
structure TimesFit (c : FotaConfig) : Prop where
  exchangeTimeout : c.transport.exchangeTimeout.toInt ≤ 2147482647
  cloudCallTimeout : c.cloud.cloudCallTimeout.toInt ≤ 9214364837600034815
  dedupeTtlMs : c.dedupeTtlMs.toInt ≤ 9214364837600034815
  availabilityWait : c.transport.availabilityWait.toInt ≤ 2147483647
  minReportInterval : c.minReportInterval.toInt ≤ 4294967295
  backoff : c.diagRetry.backoff.toInt ≤ 4294967295

/-! ### Sums with the clock -/

section Times

variable {c : FotaConfig} {now span : Int64}

/-- The latest reading of the clock. -/
def latest : Int64 := 9007199254740992

theorem clockReading_latest : ClockReading latest := ⟨by decide, by decide⟩

/-- A span that is not negative may be added to every reading exactly if it may be added to the
latest one. -/
theorem sums_exact_iff (positive : 0 ≤ span) :
    (∀ now, ClockReading now → (now + span).toInt = now.toInt + span.toInt) ↔
      span.toInt ≤ 9214364837600034815 := by
  have positive := Int64.le_iff_toInt_le.mp positive
  rw [Int64.toInt_zero] at positive
  constructor
  -- the latest reading decides
  · intro sums
    have last := add_exact_iff.mp (sums latest clockReading_latest)
    have value : latest.toInt = 9007199254740992 := rfl
    omega
  -- and the others are below it
  · rintro fits now ⟨lower, upper⟩
    exact add_exact_iff.mpr (by omega)

/-- The timeout of an exchange is at most the configured one, and may be just that. -/
theorem exchangeTimeout_range {cfg : Transport.SomeIpTransportConfig} (opts : ExchangeOptions)
    (positive : 1 ≤ cfg.exchangeTimeout) :
    0 ≤ exchangeTimeout opts cfg ∧ exchangeTimeout opts cfg ≤ cfg.exchangeTimeout := by
  have positive := Int64.le_iff_toInt_le.mp positive
  rw [Int64.toInt_one] at positive
  unfold exchangeTimeout
  simp only [Int64.le_iff_toInt_le, Int64.lt_iff_toInt_lt, Int64.toInt_zero]
  split <;> split <;> omega

/-- The timeout of a call comes out of the configuration unchanged. -/
theorem transportContext_timeout {ctx : CallContext} (accepted : TimesAccepted c)
    (timeout : ctx.timeout = (orchestratorConfig c).cloudCallTimeout) :
    (transportContext ctx).timeout = c.cloud.cloudCallTimeout ∧
      (ctx.timeout : Int) = c.cloud.cloudCallTimeout.toInt := by
  have positive := Int64.le_iff_toInt_le.mp accepted.cloudCallTimeout
  rw [Int64.toInt_one] at positive
  have value : (ctx.timeout : Int) = c.cloud.cloudCallTimeout.toInt := by
    rw [timeout]
    exact Int.toNat_of_nonneg (by omega)
  refine ⟨Int64.toInt_inj.mp ?_, value⟩
  show (Int64.ofNat ctx.timeout).toInt = _
  have bound := Int64.toInt_lt c.cloud.cloudCallTimeout
  rw [Int64.toInt_ofNat_of_lt (by omega), value]

/-! ### The single computations -/

/-- `TimesExact.exchange` on its own: the configured timeout may be any the caller asks for. -/
theorem exchange_exact_iff {cfg : Transport.SomeIpTransportConfig}
    (positive : 1 ≤ cfg.exchangeTimeout) :
    (∀ now opts, ClockReading now → (now + exchangeTimeout opts cfg).toInt =
        now.toInt + (exchangeTimeout opts cfg).toInt) ↔
      cfg.exchangeTimeout.toInt ≤ 9214364837600034815 := by
  -- the timeout a caller asks for is replaced by the configured one where that is shorter
  have whole : exchangeTimeout { timeout := 0 } cfg = cfg.exchangeTimeout := by
    have above : ¬cfg.exchangeTimeout < 0 :=
      Int64.not_lt.mpr (Int64.le_trans (by decide) positive)
    unfold exchangeTimeout
    simp only [if_neg above, Int64.le_refl, if_true]
  constructor
  · intro sums
    refine (sums_exact_iff (Int64.le_trans (by decide) positive)).mp fun now reading => ?_
    have sum := sums now { timeout := 0 } reading
    rwa [whole] at sum
  · intro fits now opts reading
    obtain ⟨lower, upper⟩ := exchangeTimeout_range opts positive
    have upper := Int64.le_iff_toInt_le.mp upper
    exact (sums_exact_iff lower).mpr (by omega) now reading

/-- A deadline is exact for every clock exactly if the call timeout leaves room. -/
theorem resolveDeadline_exact_iff (accepted : TimesAccepted c) :
    (∀ now (ctx : CallContext), ClockReading now →
      ctx.timeout = (orchestratorConfig c).cloudCallTimeout →
      ((transportContext ctx).resolveDeadline now).toInt = now.toInt + ctx.timeout) ↔
      c.cloud.cloudCallTimeout.toInt ≤ 9214364837600034815 := by
  have positive : 0 ≤ c.cloud.cloudCallTimeout :=
    Int64.le_trans (by decide) accepted.cloudCallTimeout
  rw [← sums_exact_iff positive]
  -- an empty call context has the configured timeout
  constructor
  · intro deadlines now reading
    have deadline := deadlines now
      { timeout := (orchestratorConfig c).cloudCallTimeout } reading rfl
    obtain ⟨same, value⟩ := @transportContext_timeout c
      { timeout := (orchestratorConfig c).cloudCallTimeout } accepted rfl
    rw [value] at deadline
    rw [← same]
    exact deadline.trans (by rw [same])
  · intro sums now ctx reading timeout
    obtain ⟨same, value⟩ := transportContext_timeout accepted timeout
    rw [value, ← sums now reading, ← same]
    -- The orchestrator sets no deadline, so that it is always computed.
    rfl

/-- An expiry is exact for every completion time exactly if the lifetime leaves room. -/
theorem expiresAt_exact_iff (positive : 0 ≤ c.dedupeTtlMs) :
    (∀ job lastSuccess, ClockReading lastSuccess.completedAt → c.dedupeTtlMs > 0 →
      (completedEntry job lastSuccess c.dedupeTtlMs).expiresAt.toInt =
        lastSuccess.completedAt.toInt + c.dedupeTtlMs.toInt) ↔
      c.dedupeTtlMs.toInt ≤ 9214364837600034815 := by
  have summed : ∀ (job : ActiveJobState) (lastSuccess : LastSuccessState), c.dedupeTtlMs > 0 →
      (completedEntry job lastSuccess c.dedupeTtlMs).expiresAt =
        lastSuccess.completedAt + c.dedupeTtlMs := fun _ _ above => if_pos above
  constructor
  · intro expiries
    -- the lifetime is zero or can be added to every completion time
    by_cases above : c.dedupeTtlMs > 0
    · refine (sums_exact_iff positive).mp fun now reading => ?_
      have expiry := expiries {} { completedAt := now } reading above
      rwa [summed _ _ above] at expiry
    · have zero := Int64.le_iff_toInt_le.mp (Int64.not_lt.mp above)
      rw [Int64.toInt_zero] at zero
      omega
  · intro fits job lastSuccess reading above
    rw [summed _ _ above]
    exact (sums_exact_iff positive).mpr fits _ reading

end Times

/-- Of every configuration that is accepted: all computations with its times are exact, whatever the
clock shows, exactly if each of the times leaves room for them. -/
theorem times_exact_iff (s : ConfigSnapshot) (c : FotaConfig)
    (accepted : FotaConfig.fromSnapshot s = .ok c) : TimesExact c ↔ TimesFit c := by
  have times := timesAccepted_of_fromSnapshot accepted
  have exchange := Int64.le_iff_toInt_le.mp times.exchangeTimeout
  have wait := Int64.le_iff_toInt_le.mp times.availabilityWait
  rw [Int64.toInt_one] at exchange wait
  -- each law gives its bound
  constructor
  · intro law
    constructor
    · have sum := (toInt32_add_exact_iff (y := 1000)).mp law.stop
      have thousand : (1000 : Int32).toInt = 1000 := rfl
      omega
    · exact (resolveDeadline_exact_iff times).mp law.resolveDeadline
    · exact (expiresAt_exact_iff times.dedupeTtlMs).mp law.reconcileCompleted
    · exact (toInt32_exact_iff.mp law.start).2
    · exact (toUInt32_exact_iff times.minReportInterval).mp law.throttle
    · exact (toUInt32_exact_iff times.backoff).mp law.backoff
  -- each bound gives its law; the two casts to 32 bits of `stop` are one
  · intro fit
    have stop := fit.exchangeTimeout
    constructor
    · exact (exchange_exact_iff times.exchangeTimeout).mpr (by omega)
    · exact (resolveDeadline_exact_iff times).mpr fit.cloudCallTimeout
    · exact (expiresAt_exact_iff times.dedupeTtlMs).mpr fit.dedupeTtlMs
    · exact toInt32_exact_iff.mpr ⟨by omega, fit.availabilityWait⟩
    · have thousand : (1000 : Int32).toInt = 1000 := rfl
      exact (toInt32_add_exact_iff (y := 1000)).mpr (by omega)
    · exact (toUInt32_exact_iff times.minReportInterval).mpr fit.minReportInterval
    · exact (toUInt32_exact_iff times.backoff).mpr fit.backoff

/-- A snapshot with these numbers and nothing else. -/
def numbersOnly (int64 : String → Option Int64) : ConfigSnapshot where
  has _ := false
  keys _ := []
  bool _ := .ok none
  int64 key := .ok (int64 key)
  string _ := .ok none

/-- The defaults leave room. -/
theorem default_times_exact :
    ∃ c, FotaConfig.fromSnapshot (numbersOnly fun _ => none) = .ok c ∧ TimesExact c := by
  refine ⟨_, rfl, (times_exact_iff (numbersOnly fun _ => none) _ rfl).mpr ?_⟩
  constructor <;> decide

/-- A throttle interval of 2^32 milliseconds is accepted, and none is left of it. -/
theorem throttle_interval_truncated :
    ∃ c, FotaConfig.fromSnapshot (numbersOnly fun key =>
        if key = "fota.inventory.min_report_interval_ms" then some 4294967296 else none) = .ok c ∧
      c.minReportInterval = 4294967296 ∧ throttleInterval c = 0 ∧ ¬TimesExact c := by
  refine ⟨_, rfl, rfl, rfl, fun law => ?_⟩
  have throttle := law.throttle
  revert throttle
  decide

end CgwFota.Config
