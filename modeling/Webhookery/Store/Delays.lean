import Mathlib.Algebra.Order.Ring.Int
import Webhookery.Go.Canonical
import Webhookery.Store.Attempts
import Webhookery.Store.RetryPolicies

/-!
# Delays and seeds

A policy that was accepted doubles its delay without overflow until the maximum is reached, and the seed that a
delay is drawn with belongs to one list of parts.
-/

namespace Webhookery.Store

open Go

/-! ## Delays -/

/-- The policy of a request, with durations in place of seconds. -/
def CreateRetryPolicyRequest.policy (req : CreateRetryPolicyRequest) : Retry.Policy :=
  ⟨req.maxAttempts, wrapInt64 (req.maxDurationSeconds * second), wrapInt64 (req.initialDelaySeconds * second),
    wrapInt64 (req.maxDelaySeconds * second)⟩

theorem Retry.Policy.min_doubleDelay {p : Retry.Policy} {delay m : Int} (hm : p.maxDelay = m) (hpos : 0 < delay)
    (hle : delay ≤ m) (hday : m ≤ 86400000000000) (n : Nat) :
    min (p.doubleDelay n delay) p.maxDelay = min (delay * 2 ^ n) m := by
  induction n generalizing delay with
  | zero => rw [doubleDelay, pow_zero, mul_one, hm]
  | succ n ih =>
    have hwrap : wrapInt64 (delay * 2) = delay * 2 := by
      unfold wrapInt64
      omega
    rw [doubleDelay, hwrap, hm, pow_succ', ← mul_assoc]
    split
    case isTrue hmax =>
      have hle : m ≤ delay * 2 * 2 ^ n :=
        le_trans hmax (le_mul_of_one_le_right (by omega) (one_le_pow₀ (by decide)))
      rw [min_self, min_eq_right hle]
    case isFalse hmax =>
      have hmax : ¬m ≤ delay * 2 := hmax
      rw [← hm, ih (by omega) (by omega), hm]

/-- The delays of an accepted policy for any number of attempts: they are what exact integers give, nothing that the
loop computes wraps around, more attempts have longer delays, and the delay that is drawn is not longer. -/
theorem accepted_delays {req : CreateRetryPolicyRequest} (hvalid : validateRetryPolicy req = .ok ()) :
    (∀ n : Int, req.policy.delayCap n =
      min (req.initialDelaySeconds * second * 2 ^ n.toNat) (req.maxDelaySeconds * second)) ∧
    (∀ k : Nat, k = 0 ∨ req.policy.initialDelay * 2 ^ k < req.policy.maxDelay →
      wrapInt64 (req.policy.initialDelay * 2 ^ k * 2) = req.policy.initialDelay * 2 ^ k * 2) ∧
    (∀ m n : Int, m ≤ n → req.policy.delayCap m ≤ req.policy.delayCap n) ∧
    ∀ (crypto : Crypto) (n : Int) (seed : String), 0 ≤ req.policy.nextDeterministicDelay crypto n seed ∧
      req.policy.nextDeterministicDelay crypto n seed ≤ req.policy.delayCap n := by
  simp only [validateRetryPolicy, seq_eq_ok, requireMaxAttempts, requireMaxDuration, requireMaxDelay,
    requireRateLimit, requireBetween_eq_ok, require_eq_ok, decide_eq_true_eq] at hvalid
  obtain ⟨-, -, -, hinitial, hdelay, -⟩ := hvalid
  -- the seconds are few enough for nanoseconds
  have hwrap {n : Int} (hpos : 0 < n) (hday : n ≤ 86400) : wrapInt64 (n * second) = n * 1000000000 := by
    simp only [wrapInt64, second]
    omega
  obtain ⟨I, hI, hinitial⟩ : ∃ I : Int, req.policy.initialDelay = I ∧ I = req.initialDelaySeconds * 1000000000 :=
    ⟨_, hwrap (by omega) (by omega), rfl⟩
  obtain ⟨M, hM, hmax⟩ : ∃ M : Int, req.policy.maxDelay = M ∧ M = req.maxDelaySeconds * 1000000000 :=
    ⟨_, hwrap (by omega) (by omega), rfl⟩
  have hpow (n : Nat) : 0 < I * 2 ^ n := Int.mul_pos (by omega) (pow_pos (by decide) n)
  have hcap (n : Int) : req.policy.delayCap n = min (I * 2 ^ n.toNat) M := by
    rw [Retry.Policy.delayCap, hI]
    exact Retry.Policy.min_doubleDelay hM (by omega) (by omega) (by omega) n.toNat
  refine ⟨fun n ↦ ?_, fun k hk ↦ ?_, fun m n hmn ↦ ?_, fun crypto n seed ↦ ?_⟩
  · rw [hcap, hinitial, hmax]
    rfl
  · have hk : k = 0 ∨ I * 2 ^ k < M := by rwa [hI, hM] at hk
    have hpos := hpow k
    rw [hI, wrapInt64]
    rcases hk with rfl | hk <;> omega
  · rw [hcap, hcap]
    refine min_le_min_right M (Int.mul_le_mul_of_nonneg_left ?_ (by omega))
    exact pow_le_pow_right₀ (by decide) (Int.toNat_le_toNat hmn)
  · have hpos : 0 < min (I * 2 ^ n.toNat) M := lt_min (hpow _) (by omega)
    rw [Retry.Policy.nextDeterministicDelay, hcap, if_neg (not_le.mpr hpos)]
    exact ⟨Int.emod_nonneg _ (by omega), Int.lt_add_one_iff.mp (Int.emod_lt_of_pos _ (by omega))⟩

def hourlyRequest : CreateRetryPolicyRequest := ⟨"hourly", 12, 86400, 10, 3600, 0, "active"⟩

theorem hourly_delays : hourlyRequest.policy.delayCap (-1) = 10 * second ∧
    hourlyRequest.policy.delayCap 3 = 80 * second ∧ hourlyRequest.policy.delayCap 40 = 3600 * second := by
  obtain ⟨hcap, -⟩ := @accepted_delays hourlyRequest (by decide +kernel)
  exact ⟨(hcap (-1)).trans (by decide +kernel), (hcap 3).trans (by decide +kernel),
    (hcap 40).trans (by decide +kernel)⟩

/-! ## Seeds -/

theorem lengthPrefix_inj {m n : Nat} (hm : m < 2 ^ 64) (hn : n < 2 ^ 64) (h : lengthPrefix m = lengthPrefix n) :
    m = n := by
  simp only [lengthPrefix, List.map_cons, List.map_nil, List.cons.injEq, ← UInt8.toNat_inj, UInt8.toNat_ofNat'] at h
  omega

theorem flatMap_lengthPrefix_inj {parts parts' : List Bytes} (h : ∀ p ∈ parts, p.length < 2 ^ 64)
    (h' : ∀ p ∈ parts', p.length < 2 ^ 64) (hsame : parts.flatMap (fun p ↦ lengthPrefix p.length ++ p) =
      parts'.flatMap fun p ↦ lengthPrefix p.length ++ p) : parts = parts' := by
  induction parts generalizing parts' with
  | nil => cases parts' with
    | nil => rfl
    | cons => simp [lengthPrefix] at hsame
  | cons p _ ih => cases parts' with
    | nil => simp [lengthPrefix] at hsame
    | cons p' =>
      rw [List.forall_mem_cons] at h h'
      rw [List.flatMap_cons, List.flatMap_cons, List.append_assoc, List.append_assoc] at hsame
      obtain ⟨hlength, hsame⟩ := List.append_inj hsame rfl
      obtain ⟨rfl, hrest⟩ := List.append_inj hsame (lengthPrefix_inj h.1 h'.1 hlength)
      rw [ih h.2 h'.2 hrest]

def deliveryRetrySeed (crypto : Crypto) (tenantID deliveryID eventID endpointID : String) : String :=
  retrySeedOf crypto [tenantID, deliveryID, eventID, endpointID]

/-- The bytes that are hashed determine the parts, and a hash without collisions the parts of a seed. -/
theorem retrySeed_parts (crypto : Crypto) :
    (∀ parts parts' : List Bytes, (∀ p ∈ parts, p.length < 2 ^ 64) → (∀ p ∈ parts', p.length < 2 ^ 64) →
      parts.flatMap (fun p ↦ lengthPrefix p.length ++ p) = parts'.flatMap (fun p ↦ lengthPrefix p.length ++ p) →
      parts = parts') ∧ (Function.Injective crypto.sha256 →
    (∀ parts parts' : List String, (∀ p ∈ parts ++ parts', (bytesOf p).length < 2 ^ 64) →
      retrySeedOf crypto parts = retrySeedOf crypto parts' → parts = parts') ∧
    ∀ t d e p t' d' e' p' : String, (∀ s ∈ [t, d, e, p, t', d', e', p'], (bytesOf s).length < 2 ^ 64) →
      deliveryRetrySeed crypto t d e p = deliveryRetrySeed crypto t' d' e' p' → (t, d, e, p) = (t', d', e', p')) := by
  refine ⟨fun parts parts' h h' hsame ↦ flatMap_lengthPrefix_inj h h' hsame, fun hsha ↦ ?_⟩
  have hseed (parts parts' : List String) (h : ∀ p ∈ parts ++ parts', (bytesOf p).length < 2 ^ 64)
      (hsame : retrySeedOf crypto parts = retrySeedOf crypto parts') : parts = parts' := by
    have hhash := hsha (hexEncode_injective ((String.append_right_inj _).mp hsame))
    have hbytes : Function.Injective bytesOf := utf8Encode_injective.comp fun _ _ ↦ String.ext
    rw [List.forall_mem_append] at h
    refine hbytes.list_map (flatMap_lengthPrefix_inj ?_ ?_ ?_)
    · simpa using h.1
    · simpa using h.2
    · rwa [List.flatMap_map, List.flatMap_map]
  refine ⟨hseed, fun t d e p t' d' e' p' h hsame ↦ ?_⟩
  simpa using hseed _ _ h hsame

end Webhookery.Store
