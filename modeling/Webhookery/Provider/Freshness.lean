import Mathlib.Algebra.Order.Group.Abs
import Mathlib.Algebra.Order.Group.Int
import Webhookery.Provider.Credentials

/-!
# Freshness of timestamps

The verifiers compare the age of a timestamp with their window. `Sub` saturates and the least duration is its own
negative, so that a timestamp far enough ahead of the clock has a negative age, which no window excludes.
-/

namespace Webhookery.Provider

open Go Verifier

/-- A clock in the years from 1970 to 2262. -/
def InYears (now : Time) : Prop :=
  daysFromEpoch 1970 1 1 * 86400 * second ≤ now ∧ now < daysFromEpoch 2263 1 1 * 86400 * second

/-- The exact distance of a timestamp in seconds from the clock is at most a duration. -/
def Near (now : Time) (sec : Int) (d : Duration) : Prop := |now - sec * second| ≤ d

/-- The age of a timestamp is its distance when the difference is a duration. -/
theorem age_eq_abs {now ts : Int} (h : |now - ts| ≤ maxInt64) : Time.age now ts = |now - ts| := by
  obtain ⟨hlower, hupper⟩ := abs_le.mp h
  have hsub : Time.sub now ts = now - ts := by
    have hmin : minInt64 ≤ now - ts := (show minInt64 ≤ -maxInt64 by decide).trans hlower
    rw [Time.sub, min_eq_right hupper, max_eq_right hmin]
  have hneg : negInt64 (now - ts) = -(now - ts) := by
    simp only [negInt64, wrapInt64, maxInt64] at hlower hupper ⊢
    omega
  rw [Time.age, hsub, hneg]
  split
  case isTrue hneg => exact (abs_of_neg hneg).symm
  case isFalse hneg => exact (abs_of_nonneg (Int.not_lt.mp hneg)).symm

theorem unix_eq_mul {sec : Int} (hlower : minInt64 ≤ sec) (hupper : sec + Time.unixToInternal ≤ maxInt64) :
    Time.unix sec = sec * second := by
  have hwrap : wrapInt64 (sec + Time.unixToInternal) = sec + Time.unixToInternal := by
    simp only [wrapInt64, minInt64, maxInt64, Time.unixToInternal] at hlower hupper ⊢
    omega
  rw [Time.unix, hwrap, Int.add_sub_cancel]

theorem age_eq_of_near {now sec : Int} (hnow : InYears now) (hsec : minInt64 ≤ sec)
    (hnear : Near now sec maxInt64) : Time.age now (Time.unix sec) = |now - sec * second| := by
  have hunix : Time.unix sec = sec * second := by
    have hupper : now < 107016 * 86400 * second := hnow.2
    have hlower : -maxInt64 ≤ now - sec * second := (abs_le.mp hnear).1
    refine unix_eq_mul hsec ?_
    simp only [second, maxInt64, Time.unixToInternal] at hupper hlower ⊢
    omega
  rw [hunix, age_eq_abs hnear]

/-- The check of the age decides whether a timestamp is within the tolerance of Stripe's adapter. It does not where
the difference saturates. -/
def AgeDecides (now : Time) (sec : Int) : Prop :=
  Time.age now (Time.unix sec) ≤ 5 * minute ↔ Near now sec (5 * minute)

theorem ageDecides_of_near {now sec : Int} (hnow : InYears now) (hsec : minInt64 ≤ sec)
    (hnear : Near now sec maxInt64) : AgeDecides now sec := by
  rw [AgeDecides, age_eq_of_near hnow hsec hnear]
  rfl

/-- A timestamp that passes is as near as the tolerance says, unless the difference saturates. -/
theorem near_iff_of_age_le {now sec tolerance : Int} (hnow : InYears now) (hsec : minInt64 ≤ sec)
    (htolerance : tolerance ≤ maxInt64) (hage : Time.age now (Time.unix sec) ≤ tolerance) :
    Near now sec tolerance ↔ Near now sec maxInt64 := by
  refine ⟨fun h ↦ h.trans htolerance, fun hnear ↦ ?_⟩
  rwa [age_eq_of_near hnow hsec hnear] at hage

/-! ## Timestamps of declarative adapters -/

theorem le_foldl_decimal (cs : List Char) (n : Nat) : n ≤ cs.foldl (fun acc c ↦ acc * 10 + (c.toNat - 48)) n := by
  induction cs generalizing n with
  | nil => exact Nat.le_refl n
  | cons c _ ih => exact Nat.le_trans (by omega) (ih (n * 10 + (c.toNat - 48)))

/-- Below `2 ^ 63` the adapter's parser does not wrap around. -/
theorem foldl_wrapInt64 (cs : List Char) (n : Nat)
    (h : (cs.foldl (fun acc c ↦ acc * 10 + (c.toNat - 48)) n : Nat) ≤ maxInt64) :
    cs.foldl (fun out c ↦ wrapInt64 (out * 10 + (c.toNat - 48 : Nat))) (n : Int) =
      cs.foldl (fun acc c ↦ acc * 10 + (c.toNat - 48)) n := by
  induction cs generalizing n with
  | nil => rfl
  | cons c cs ih =>
    have hle : ((n * 10 + (c.toNat - 48) : Nat) : Int) ≤ maxInt64 :=
      (Int.ofNat_le.mpr (le_foldl_decimal cs _)).trans h
    have hwrap : wrapInt64 (n * 10 + (c.toNat - 48 : Nat)) = (n * 10 + (c.toNat - 48) : Nat) := by
      simp only [wrapInt64, maxInt64] at hle ⊢
      omega
    rw [List.foldl_cons, hwrap, ih _ h]
    rfl

/-- Digits are always read as some number. -/
theorem parseInt64_of_parseDigits {raw : String} {n : Nat} (h : parseDigits raw.toList = some n) :
    ∃ m, parseInt64 raw = some m ∧ ((n : Int) ≤ maxInt64 → m = n) := by
  unfold parseDigits at h
  obtain ⟨hall, hn⟩ := Option.ite_none_left_eq_some.mp h
  obtain rfl := Option.some.inj hn
  simp only [Bool.or_eq_true, not_or, List.isEmpty_iff, Bool.not_eq_true'] at hall
  refine ⟨_, if_neg ?_, foldl_wrapInt64 _ 0⟩
  simpa [not_or] using hall

/-- A number of 64 bits either has a sign or is made of digits. -/
theorem parseInt_cases {raw : String} {sec : Int} (h : parseInt raw = some sec) :
    (minInt64 ≤ sec ∧ sec ≤ maxInt64) ∧ ((∃ c cs, raw.toList = c :: cs ∧ isDigit c = false) ∨
      ∃ n : Nat, parseDigits raw.toList = some n ∧ n = sec) := by
  have hrange {value : Int} (h : (if minInt64 ≤ value ∧ value ≤ maxInt64 then some value else none) = some sec) :
      (minInt64 ≤ sec ∧ sec ≤ maxInt64) ∧ value = sec := by
    obtain ⟨hrange, hsec⟩ := Option.ite_none_right_eq_some.mp h
    obtain rfl := Option.some.inj hsec
    exact ⟨hrange, rfl⟩
  unfold parseInt at h
  split at h
  case h_1 rest hraw | h_2 rest hraw =>
    obtain ⟨_, -, hvalue⟩ := Option.bind_eq_some_iff.mp h
    exact ⟨(hrange hvalue).1, .inl ⟨_, rest, hraw, rfl⟩⟩
  case h_3 =>
    obtain ⟨_, hdigits, hvalue⟩ := Option.bind_eq_some_iff.mp h
    obtain ⟨n, hn, rfl⟩ := Option.map_eq_some_iff.mp hdigits
    exact ⟨(hrange hvalue).1, .inr ⟨n, hn, (hrange hvalue).2⟩⟩

/-- A numeric timestamp is read as the number that it spells. -/
theorem parseDeclarativeTimestamp_of_parseInt {raw : String} {sec : Int} {ts : Time}
    (hsec : parseInt (trimSpace raw) = some sec) (hts : parseDeclarativeTimestamp raw = some ts) :
    ts = Time.unix sec := by
  obtain ⟨hrange, ⟨c, cs, hraw, hc⟩ | ⟨n, hdigits, rfl⟩⟩ := parseInt_cases hsec
  · have hint : parseInt64 (trimSpace raw) = none := by simp [parseInt64, hraw, hc]
    have htake : takeDigits 4 (c :: cs) = none := by simp [takeDigits, hc]
    have htime : parseRFC3339 (trimSpace raw) = none := by
      rw [parseRFC3339, hraw, htake]
      rfl
    simp [parseDeclarativeTimestamp, hint, htime] at hts
  · obtain ⟨_, hint, hexact⟩ := parseInt64_of_parseDigits hdigits
    obtain rfl := hexact hrange.2
    simpa [parseDeclarativeTimestamp, hint] using hts.symm

/-- Digits are read as the number that they spell, and refused otherwise, exactly when that number has 64 bits. -/
theorem parseInt64_exact_iff {raw : String} {n : Nat} (h : parseDigits raw.toList = some n) :
    (parseInt64 raw = (if (n : Int) ≤ maxInt64 then some (n : Int) else none) ∧
      ∀ header ts, trimSpace header = raw → parseDeclarativeTimestamp header = some ts → ts = Time.unix n) ↔
    (n : Int) ≤ maxInt64 := by
  obtain ⟨m, hint, hexact⟩ := parseInt64_of_parseDigits h
  refine ⟨fun ⟨hsame, _⟩ ↦ by_contra fun hmax ↦ ?_, fun hmax ↦ ?_⟩
  · rw [hint, if_neg hmax] at hsame
    cases hsame
  · obtain rfl := hexact hmax
    refine ⟨by rw [hint, if_pos hmax], fun header ts hraw hts ↦ ?_⟩
    simpa [parseDeclarativeTimestamp, hraw, hint] using hts.symm

theorem recent_timestamp_exact : parseInt64 "1700000000" = some 1700000000 :=
  ((parseInt64_exact_iff (show parseDigits _ = some 1700000000 by decide +kernel)).mpr (by decide)).1

/-- A number of seconds far beyond 64 bits is read as a day of the year 2023. -/
theorem future_timestamp_wraps : parseDigits "18446744075409551616".toList = some 18446744075409551616 ∧
    parseInt64 "18446744075409551616" = some 1700000000 ∧
    parseDeclarativeTimestamp "18446744075409551616" = some (Time.unix 1700000000) := by
  decide +kernel

/-! ## Accepted requests -/

/-- Every message has the same keyed hash. -/
def oneHash : Crypto := ⟨fun _ ↦ [], fun _ _ ↦ [0]⟩

def stampedHeader (t : String) : VerifyTimestampedHMACInput :=
  ⟨[], [], "t=" ++ t ++ ",v1=00", 0, 5 * minute, "v1", encodingHex⟩

def stampedRequest (t : String) : VerifyInput where
  secret := []
  rawBody := []
  headers := [("X-Slack-Request-Timestamp", [t]), ("X-Slack-Signature", ["v0=00"])]
  now := 0
  wallClock := 0

/-- Slack's scheme as a definition. -/
def slackDefinition : DeclarativeDefinition where
  name := "slack"
  verification :=
    { type := "hmac_sha256", signatureHeader := "X-Slack-Signature", timestampHeader := "X-Slack-Request-Timestamp"
      signedPayload := "v0:" ++ timestampTemplate ++ ":" ++ rawBodyTemplate, signaturePrefix := "v0="
      replayWindowSeconds := 300 }

theorem mem_of_kvValue_ne {pairs : List (String × String)} (h : kvValue pairs key ≠ "") :
    (key, kvValue pairs key) ∈ pairs := by
  unfold kvValue at h ⊢
  cases hlookup : pairs.reverse.lookup key with
  | none => exact absurd (congrArg (Option.getD · "") hlookup) h
  | some _ =>
    obtain ⟨before, _, hpairs, -⟩ := List.lookup_eq_some_iff.mp hlookup
    rw [← List.mem_reverse, hpairs]
    exact List.mem_append_right before List.mem_cons_self

/-- A value is the signature that Stripe sends for a timestamp and the body. -/
def Signs (crypto : Crypto) (input : VerifyInput) (sec : Int) (value : String) : Prop :=
  hexDecode value = some (crypto.hmacSHA256 input.secret (timestampedPayload sec input.rawBody))

section Stripe

variable {crypto : Crypto} {input : VerifyInput} {entries : List (String × String)}
  (hmac : ∀ secret message, crypto.hmacSHA256 secret message ≠ [])
  (hentries : parseKVHeader (firstHeader input.headers "stripe-signature") = entries)
include hmac

theorem Signs.ne_empty (h : Signs crypto input sec value) : value ≠ "" := by
  rintro rfl
  exact hmac _ _ (Option.some.inj h).symm

include hentries

/-- Stripe's adapter checks the last `v1` entry. -/
theorem stripeVerify_iff_last :
    (stripeVerify crypto input).verified = true ↔ ∃ sec, parseInt (kvValue entries "t") = some sec ∧
      Time.age input.now (Time.unix sec) ≤ 5 * minute ∧ Signs crypto input sec (kvValue entries "v1") := by
  unfold stripeVerify
  dsimp only
  split
  case isTrue hempty =>
    rw [hempty] at hentries
    subst hentries
    exact iff_of_false nofun fun ⟨_, hsec, _⟩ ↦ absurd hsec nofun
  case isFalse =>
    constructor
    · intro h
      obtain ⟨sec, hsec, hage, hsignature⟩ := verifyTimestampedHMAC_valid h
      dsimp only at hsec hage hsignature
      rw [hentries] at hsec hsignature
      exact ⟨sec, hsec, hage (by decide), hsignature rfl⟩
    · rintro ⟨_, hsec, hage, hsigns⟩
      have hraw : kvValue entries "t" ≠ "" := fun hraw ↦ absurd (hraw ▸ hsec) nofun
      simp [verifyTimestampedHMAC, hentries, hraw, hsec, Int.not_lt.mpr hage, hsigns.ne_empty hmac,
        verifyHMACSHA256Hex_eq_true.mpr hsigns]

end Stripe

/-- A request with two signatures, as during the rotation of a secret. -/
def rotatedRequest (t first last : String) : VerifyInput where
  secret := []
  rawBody := []
  headers := [("Stripe-Signature", ["t=" ++ t ++ ",v1=" ++ first ++ ",v1=" ++ last])]
  now := 0
  wallClock := 0

end Webhookery.Provider
