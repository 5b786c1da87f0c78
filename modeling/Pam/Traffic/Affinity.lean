import Mathlib.Algebra.Order.Field.Basic
import Mathlib.Data.Nat.Count
import Mathlib.Tactic.NormNum
import Mathlib.Tactic.Ring
import Pam.Traffic.Ingress

namespace Pam.Traffic

open Nat

/-! The release that the proxy chooses for a request. -/

abbrev Bytes := List UInt8

structure HttpRequest where
  headers : List (String × Bytes)
  path : Bytes
  query : Option Bytes

inductive Release where
  | stable
  | candidate
  deriving DecidableEq

def HttpRequest.header (request : HttpRequest) (name : String) : Option Bytes :=
  (request.headers.find? fun header => header.1 == name).map Prod.snd

def toStr (value : Bytes) : Option Bytes :=
  if value.all fun byte => (32 ≤ byte && byte < 127) || byte == 9 then some value else none

def isBlank (byte : UInt8) : Bool := byte == 32 || byte == 9

def trim (text : Bytes) : Bytes := ((text.dropWhile isBlank).reverse.dropWhile isBlank).reverse

/-- `pam_affinity=` -/
def affinityKey : Bytes := [112, 97, 109, 95, 97, 102, 102, 105, 110, 105, 116, 121, 61]

def stripKey (part : Bytes) : Option Bytes :=
  if affinityKey.isPrefixOf part then some (part.drop affinityKey.length) else none

def cookieParts (cookie : Bytes) : List Bytes := (cookie.splitOn 59).map trim

/-- The affinity that the proxy finds: in the first cookie header, if that is
text, the first part with the key. -/
def HttpRequest.affinity (request : HttpRequest) : Option Bytes := do
  let value ← request.header "cookie"
  let cookie ← toStr value
  (cookieParts cookie).findSome? stripKey

def HttpRequest.CarriesAffinity (request : HttpRequest) (value : Bytes) : Prop :=
  ∃ header ∈ request.headers, header.1 = "cookie" ∧ affinityKey ++ value ∈ cookieParts header.2

section Buckets

-- `sha256` is the hash function, `addressText` prints an address.
variable (sha256 : Bytes → Fin 32 → UInt8) (addressText : IpAddr → Bytes)

def HttpRequest.hashed (request : HttpRequest) (peer : SocketAddr) : Bytes :=
  request.affinity.getD (addressText peer.ip) ++ request.path

def trafficBucket (request : HttpRequest) (peer : SocketAddr) : Nat :=
  let bytes := sha256 (request.hashed addressText peer)
  ((bytes 0).toNat * 256 + (bytes 1).toNat) % 10000

def Routed.release (routed : Routed) : Release :=
  if routed.candidate.isSome then .candidate else .stable

def chooseRelease (stored : StoredConfig) (request : HttpRequest) (peer : SocketAddr) : Release :=
  Routed.release ⟨stored, trafficBucket sha256 addressText request peer⟩

end Buckets

theorem trafficBucket_lt :
    trafficBucket sha256 addressText request peer < 10000 := mod_lt _ (succ_pos 9999)

theorem release_eq_candidate_iff {routed : Routed} : routed.release = .candidate ↔ ∃ candidate,
      routed.stored.config.candidate = some candidate ∧
        routed.bucket < routed.stored.config.candidateWeightBasisPoints := by
  unfold Routed.release Routed.candidate
  cases configured : routed.stored.config.candidate with
  | none => simp
  | some candidate =>
    by_cases below : routed.bucket < routed.stored.config.candidateWeightBasisPoints
    · simp [Option.filter]
    · simp [Option.filter]

theorem release_mono (same : raised.config.candidate = stored.config.candidate)
    (more : stored.config.candidateWeightBasisPoints ≤ raised.config.candidateWeightBasisPoints)
    (chosen : Routed.release ⟨stored, bucket⟩ = .candidate) :
    Routed.release ⟨raised, bucket⟩ = .candidate := by
  obtain ⟨candidate, configured, below⟩ := release_eq_candidate_iff.mp chosen
  exact release_eq_candidate_iff.mpr ⟨candidate, same.trans configured, lt_of_lt_of_le below more⟩

theorem release_of_weight_zero (zero : stored.config.candidateWeightBasisPoints = 0) :
    Routed.release ⟨stored, bucket⟩ = .stable := by
  cases chosen : Routed.release ⟨stored, bucket⟩ with
  | stable => rfl
  | candidate =>
    obtain ⟨_, _, below⟩ := release_eq_candidate_iff.mp chosen
    rw [zero] at below
    exact absurd below (not_lt_zero bucket)

theorem candidate_of_valid (valid : validateConfig config = .ok ())
    (weighted : config.candidateWeightBasisPoints ≠ 0) :
    ∃ candidate, config.candidate = some candidate := by
  cases configured : config.candidate with
  | some candidate => exact ⟨candidate, rfl⟩
  | none =>
    unfold validateConfig at valid
    split at valid
    · cases valid
    split at valid
    · cases valid
    split at valid
    · cases valid
    · next unweighted => exact absurd ⟨configured, weighted⟩ unweighted

theorem release_of_weight_full {bucket : Nat} (valid : validateConfig stored.config = .ok ())
    (full : stored.config.candidateWeightBasisPoints = 10000) (small : bucket < 10000) :
    Routed.release ⟨stored, bucket⟩ = .candidate := by
  have weighted : stored.config.candidateWeightBasisPoints ≠ 0 := by
    rw [full]
    exact succ_ne_zero 9999
  obtain ⟨candidate, configured⟩ := candidate_of_valid valid weighted
  refine release_eq_candidate_iff.mpr ⟨candidate, configured, ?_⟩
  rw [full]
  exact small

def canary : StoredConfig where
  config := {
    generation := 1
    listen := ⟨.v4 0x7F000001, 8080⟩
    stable := ⟨.v4 0x7F000001, 8081⟩
    candidate := some ⟨.v4 0x7F000001, 8082⟩
    candidateWeightBasisPoints := 1
    rolloutPhase := .evaluating
    rolloutDeadlineMillis := none
    lastRolloutDecision := none
    lastEvaluatedAtMillis := none
    lastEvaluatedCandidateRequests := none
    lastEvaluatedCandidateErrors := none }
  life := 1
  version := 1

def singledOut (text other : Bytes) (index : Fin 32) : UInt8 :=
  if other = text then 0 else if index = 0 then 39 else 15

theorem bucket_singledOut {text : Bytes} {request : HttpRequest} {peer : SocketAddr} :
    chooseRelease (singledOut text) addressText canary request peer =
      if request.hashed addressText peer = text then .candidate else .stable := by
  by_cases same : request.hashed addressText peer = text
  · rw [if_pos same]
    have bucket : trafficBucket (singledOut text) addressText request peer = 0 := by
      simp [trafficBucket, singledOut, same]
    rw [chooseRelease, bucket]
    rfl
  · rw [if_neg same]
    have bucket : trafficBucket (singledOut text) addressText request peer = 9999 := by
      simp [trafficBucket, singledOut, same]
    rw [chooseRelease, bucket]
    rfl

/-- The requests get the same release under every configuration, whatever the
hash function is. -/
def SameRelease (addressText : IpAddr → Bytes) (first : HttpRequest)
    (firstPeer : SocketAddr) (second : HttpRequest) (secondPeer : SocketAddr) : Prop :=
  ∀ sha256 stored, validateConfig stored.config = .ok () →
    chooseRelease sha256 addressText stored first firstPeer =
      chooseRelease sha256 addressText stored second secondPeer

theorem sameRelease_iff_hashed {firstPeer secondPeer : SocketAddr} :
    SameRelease addressText first firstPeer second secondPeer ↔
      first.hashed addressText firstPeer = second.hashed addressText secondPeer := by
  constructor
  · intro same
    have canaries := same (singledOut (first.hashed addressText firstPeer)) canary (by decide)
    rw [bucket_singledOut, bucket_singledOut, if_pos rfl] at canaries
    by_contra different
    rw [if_neg (Ne.symm different)] at canaries
    cases canaries
  · intro same sha256 stored _
    unfold chooseRelease trafficBucket
    rw [same]

/-- Requests share their release exactly if the same affinity, or address where
none is found, and path are hashed for them; the weight moves requests to the
candidate only, from none at 0 to all at 10000. -/
theorem rollout_affinity (addressText : IpAddr → Bytes) : (∀ first firstPeer second secondPeer,
      SameRelease addressText first firstPeer second secondPeer ↔
        first.affinity.getD (addressText firstPeer.ip) ++ first.path =
          second.affinity.getD (addressText secondPeer.ip) ++ second.path) ∧
    ∀ sha256 request peer (stored : StoredConfig), (∀ raised : StoredConfig,
        raised.config.candidate = stored.config.candidate →
        stored.config.candidateWeightBasisPoints ≤ raised.config.candidateWeightBasisPoints →
        chooseRelease sha256 addressText stored request peer = .candidate →
        chooseRelease sha256 addressText raised request peer = .candidate) ∧
      (stored.config.candidateWeightBasisPoints = 0 →
        chooseRelease sha256 addressText stored request peer = .stable) ∧
      (validateConfig stored.config = .ok () → stored.config.candidateWeightBasisPoints = 10000 →
        chooseRelease sha256 addressText stored request peer = .candidate) := by
  refine ⟨fun _ _ _ _ => sameRelease_iff_hashed, ?_⟩
  intro sha256 request peer stored
  exact ⟨fun _ => release_mono, release_of_weight_zero,
    fun valid full => release_of_weight_full valid full trafficBucket_lt⟩

def affineRequest (path : Bytes) (query : Option Bytes) : HttpRequest where
  headers := [("cookie", affinityKey ++ [118])]
  path := path
  query := query

def localPeer (port : BitVec 16) : SocketAddr := ⟨.v4 0x7F000001, port⟩

theorem affineRequests_together :
    SameRelease (fun _ => []) (affineRequest [47, 97] none) (localPeer 1)
        (affineRequest [47, 97] (some [120])) (localPeer 2) ∧
      (chooseRelease (singledOut [118, 47, 97]) (fun _ => []) canary
          (affineRequest [47, 97] none) (localPeer 1) = .candidate →
        chooseRelease (singledOut [118, 47, 97]) (fun _ => []) { canary with config :=
            { canary.config with candidateWeightBasisPoints := 10000 } }
          (affineRequest [47, 97] none) (localPeer 1) = .candidate) := by
  obtain ⟨affine, weights⟩ := rollout_affinity (fun _ => [])
  exact ⟨(affine _ _ _ _).mpr (by decide), (weights _ _ _ canary).1 _ rfl (by decide)⟩

/-- The path is hashed as well, so that the cookie keeps no release. -/
theorem affinity_lost_by_path : ¬ ∀ addressText first firstPeer second secondPeer value,
      first.CarriesAffinity value → second.CarriesAffinity value →
        SameRelease addressText first firstPeer second secondPeer := by
  intro always
  have same := always (fun _ => []) (affineRequest [47, 97] none) (localPeer 1)
    (affineRequest [47, 98] none) (localPeer 1) [118] ⟨_, List.mem_singleton_self _, rfl, by decide⟩
    ⟨_, List.mem_singleton_self _, rfl, by decide⟩
  rw [sameRelease_iff_hashed] at same
  exact absurd same (by decide)

/-- A digest, by the value of its first sixteen bits. -/
def digestOf (value : Nat) (_ : Bytes) (index : Fin 32) : UInt8 :=
  if index = 0 then .ofNat (value / 256) else .ofNat value

def candidateShare (addressText : IpAddr → Bytes) (stored : StoredConfig)
    (request : HttpRequest) (peer : SocketAddr) : ℚ := ((Finset.range 65536).filter fun value =>
    chooseRelease (digestOf value) addressText stored request peer = .candidate).card / 65536

theorem count_mod_lt (within : weight ≤ 10000) (bound : Nat) :
    count (fun value => value % 10000 < weight) bound =
      bound / 10000 * weight + min weight (bound % 10000) := by
  induction bound with
  | zero => simp
  | succ bound induction =>
    rw [count_succ]
    by_cases wraps : bound % 10000 = 9999
    · have quotient : (bound + 1) / 10000 = bound / 10000 + 1 := by omega
      rw [quotient, add_mul]
      split <;> omega
    have quotient : (bound + 1) / 10000 = bound / 10000 := by omega
    rw [quotient]
    split <;> omega

theorem chooseRelease_digestOf (configured : stored.config.candidate.isSome) {value : Nat}
    (small : value < 65536) :
    chooseRelease (digestOf value) addressText stored request peer = .candidate ↔
      value % 10000 < stored.config.candidateWeightBasisPoints := by
  have bucket : trafficBucket (digestOf value) addressText request peer = value % 10000 := by
    have second : (1 : Fin 32) ≠ 0 := by decide
    have whole : value / 256 % 2 ^ 8 * 256 + value % 2 ^ 8 = value := by omega
    simp only [trafficBucket, digestOf, if_true, if_neg second, UInt8.toNat_ofNat', whole]
  obtain ⟨candidate, isCandidate⟩ := Option.isSome_iff_exists.mp configured
  rw [chooseRelease, release_eq_candidate_iff, bucket]
  simp [isCandidate]

theorem candidateShare_eq (configured : stored.config.candidate.isSome)
    (within : stored.config.candidateWeightBasisPoints ≤ 10000) :
    candidateShare addressText stored request peer = (6 * stored.config.candidateWeightBasisPoints +
        min stored.config.candidateWeightBasisPoints 5536 : Nat) / 65536 := by
  have counted := count_mod_lt within 65536
  rw [count_eq_card_filter_range] at counted
  rw [candidateShare, Finset.filter_congr fun value small =>
    chooseRelease_digestOf configured (Finset.mem_range.mp small), counted]

/-- The modulus prefers the low buckets, so that only a weight next to either
end is met. -/
theorem candidateShare_close_iff (addressText : IpAddr → Bytes)
    (stored : StoredConfig) (request : HttpRequest) (peer : SocketAddr)
    (configured : stored.config.candidate.isSome)
    (within : stored.config.candidateWeightBasisPoints ≤ 10000) :
    |candidateShare addressText stored request peer -
        stored.config.candidateWeightBasisPoints / 10000| ≤ 1 / 10000 ↔
      stored.config.candidateWeightBasisPoints ≤ 14 ∨
        9989 ≤ stored.config.candidateWeightBasisPoints := by
  rw [candidateShare_eq configured within]
  generalize stored.config.candidateWeightBasisPoints = weight at within
  generalize counted : 6 * weight + min weight 5536 = count
  have scaled : (count / 65536 - weight / 10000 : ℚ) =
      ((10000 * count - 65536 * weight : ℤ) : ℚ) / 655360000 := by
    push_cast
    ring
  have bound : (1 / 10000 : ℚ) = ((65536 : ℤ) : ℚ) / 655360000 := by norm_num
  rw [scaled, bound, abs_div, abs_of_pos (by norm_num : (0 : ℚ) < 655360000),
    div_le_div_iff_of_pos_right (by norm_num), ← Int.cast_abs, Int.cast_le, abs_le]
  omega

theorem canary_share_close :
    |candidateShare (fun _ => []) canary (affineRequest [47] none)
      (localPeer 1) - (1 : Nat) / 10000| ≤ 1 / 10000 :=
  (candidateShare_close_iff _ canary _ _ rfl (by decide)).mpr (.inl (by decide))

def evenSplit : StoredConfig := { canary with
    config := { canary.config with candidateWeightBasisPoints := 5000 } }

theorem evenSplit_share_off : ¬ |candidateShare (fun _ => []) evenSplit (affineRequest [47] none)
      (localPeer 1) - 5000 / 10000| ≤ 1 / 10000 := by
  have share : candidateShare (fun _ => []) evenSplit (affineRequest [47] none)
      (localPeer 1) = (35000 : Nat) / 65536 := candidateShare_eq rfl (by decide)
  norm_num [share]

end Pam.Traffic
