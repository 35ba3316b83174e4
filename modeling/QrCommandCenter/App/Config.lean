import Mathlib.Data.Rat.Defs
import Mathlib.Algebra.Order.Ring.Rat
import QrCommandCenter.Lib.Table
import QrCommandCenter.Domain.Classroom

/-!
# The configuration of the scraper

`ScraperConfig` and `validateScraperConfig` of `internal/app/config.go`, and what `internal/app/bootstrap.go` derives from
them.

* `ScraperConfig` : the values, with the defaults of `loadScraperConfig`;
* `validateScraperConfig` : the ranges a process accepts at start;
* `ScraperConfig.permitTTL` : the lifetime of a host permit.
-/

namespace QrCommandCenter
open Domain Table

/-- `ScraperConfig`, with the defaults of the environment variables. -/
structure ScraperConfig where
  enabled : Bool := false
  snapshotReadsEnabled : Bool := false
  host : String := "warwick.humantix.cloud"
  baselineRequestsPerSecond : ℚ := 1
  burst : Int := 1
  baselineConcurrency : Int := 2
  leaseDuration : Duration := 2 * minute
  fetchTimeout : Duration := 30 * second
  permitGrace : Duration := 10 * second
  commitGrace : Duration := 15 * second
  tickLimit : Int := 50
  claimPrefetchFactor : Int := 2
  responseBodyLimit : Int := 16777216
  canonicalPayloadLimit : Int := 16777216
  snapshotRetention : Duration := 720 * hour
  runRetention : Duration := 720 * hour
  httpTraceSampleRate : ℚ := 1 / 100
deriving DecidableEq, Repr

inductive ConfigError where
  | invalid (message : String)
  /-- `SCRAPER_LEASE_DURATION must be at least fetch timeout + permit grace + commit grace (%s)` -/
  | leaseTooShort (required : Duration)
deriving DecidableEq, Repr

def validateScraperConfig (config : ScraperConfig) : Except ConfigError Unit :=
  let minPayload : Int := 1048576
  let maxPayload : Int := 52428800
  let minRetention := 24 * hour
  let maxRetention := 2160 * hour
  let requiredLease := config.fetchTimeout + config.permitGrace + config.commitGrace
  if config.snapshotReadsEnabled && !config.enabled then
    .error (.invalid "SNAPSHOT_READS_ENABLED requires SCRAPER_ENABLED")
  else if config.baselineRequestsPerSecond < 1 / 4 ∨ 5 < config.baselineRequestsPerSecond then
    .error (.invalid "SCRAPER_REQUESTS_PER_SECOND must be between 0.25 and 5")
  else if config.burst < 1 ∨ 5 < config.burst then
    .error (.invalid "SCRAPER_BURST must be between 1 and 5")
  else if config.baselineConcurrency < 1 ∨ 4 < config.baselineConcurrency then
    .error (.invalid "SCRAPER_MAX_CONCURRENCY must be between 1 and 4")
  else if config.leaseDuration < 30 * second ∨ 10 * minute < config.leaseDuration then
    .error (.invalid "SCRAPER_LEASE_DURATION must be between 30s and 10m")
  else if config.fetchTimeout < 5 * second ∨ minute < config.fetchTimeout then
    .error (.invalid "SCRAPER_FETCH_TIMEOUT must be between 5s and 60s")
  else if config.permitGrace < second ∨ minute < config.permitGrace then
    .error (.invalid "SCRAPER_PERMIT_GRACE must be between 1s and 60s")
  else if config.commitGrace < 0 ∨ minute < config.commitGrace then
    .error (.invalid "SCRAPER_COMMIT_GRACE must be between 0s and 60s")
  else if config.tickLimit < 1 ∨ 500 < config.tickLimit then
    .error (.invalid "SCRAPER_TICK_LIMIT must be between 1 and 500")
  else if config.claimPrefetchFactor < 1 ∨ 4 < config.claimPrefetchFactor then
    .error (.invalid "SCRAPER_CLAIM_PREFETCH_FACTOR must be between 1 and 4")
  else if config.responseBodyLimit < minPayload ∨ maxPayload < config.responseBodyLimit then
    .error (.invalid "SCRAPER_RESPONSE_BODY_LIMIT must be between 1MiB and 50MiB")
  else if config.canonicalPayloadLimit < minPayload ∨ maxPayload < config.canonicalPayloadLimit then
    .error (.invalid "SCRAPER_CANONICAL_PAYLOAD_LIMIT must be between 1MiB and 50MiB")
  else if config.responseBodyLimit * 2 < config.canonicalPayloadLimit then
    .error (.invalid "SCRAPER_CANONICAL_PAYLOAD_LIMIT exceeds the safe response expansion limit")
  else if config.snapshotRetention < minRetention ∨ maxRetention < config.snapshotRetention then
    .error (.invalid "SCRAPER_SNAPSHOT_RETENTION must be between 24h and 2160h")
  else if config.runRetention < minRetention ∨ maxRetention < config.runRetention then
    .error (.invalid "SCRAPER_RUN_RETENTION must be between 24h and 2160h")
  else if config.httpTraceSampleRate < 0 ∨ 1 < config.httpTraceSampleRate then
    .error (.invalid "SCRAPER_HTTPTRACE_SAMPLE_RATE must be between 0 and 1")
  else if config.leaseDuration < requiredLease then .error (.leaseTooShort requiredLease)
  else .ok ()

def ScraperConfig.permitTTL (config : ScraperConfig) : Duration := config.fetchTimeout + config.permitGrace

theorem validateScraperConfig_ok {config : ScraperConfig} (h : validateScraperConfig config = .ok ()) :
    (5 * second ≤ config.fetchTimeout ∧ config.fetchTimeout ≤ minute) ∧
      (second ≤ config.permitGrace ∧ config.permitGrace ≤ minute) ∧
      (30 * second ≤ config.leaseDuration ∧ config.leaseDuration ≤ 10 * minute) := by
  obtain ⟨-, h⟩ := ite_error_eq_ok.mp h
  obtain ⟨-, h⟩ := ite_error_eq_ok.mp h
  obtain ⟨-, h⟩ := ite_error_eq_ok.mp h
  obtain ⟨-, h⟩ := ite_error_eq_ok.mp h
  obtain ⟨hlease, h⟩ := ite_error_eq_ok.mp h
  obtain ⟨hfetch, h⟩ := ite_error_eq_ok.mp h
  obtain ⟨hgrace, -⟩ := ite_error_eq_ok.mp h
  rw [not_or, not_lt, not_lt] at hlease hfetch hgrace
  exact ⟨hfetch, hgrace, hlease⟩

end QrCommandCenter
