import InfinityRadius.Core.RequestSigning

/-!
# Requests of the worker

`core/internal_auth.py`: how a request from the worker is signed and how the web process decides
that it is one.  A call reads the clock first and reaches Redis last, and other calls may get in
between.
-/

namespace InfinityRadius.InternalAuth

open Payload ReplayMemory RequestSigning

def defaultMaxSkewSeconds : ℤ := 90
def nonceKeyPrefix : String := "internal-auth-nonce:"
def nonceTtlSeconds : ℤ := 300

inductive Failure
  /-- `InternalAuthError`. -/
  | internalAuthError (text : String)
  /-- `TypeError` of `compare_digest`. -/
  | typeError
deriving DecidableEq

section Verify

variable {K : Type} [Field K] [LinearOrder K] [FloorRing K]

/-- The keys that `SET NX EX` keeps, each with the time it expires at. -/
abbrev Redis (K : Type) := Memory String K

/-- A call of `verify_internal_request`, with the times it reads the clock and reaches Redis. -/
structure Call (K : Type) where
  secret : String
  method : String
  path : String
  body : List UInt8
  timestamp : Option String
  nonce : Option String
  signature : Option String
  checkedAt : K
  claimedAt : K

/-- A call of `sign_internal_request`, with its clock and the bytes drawn for the nonce. -/
structure Signing (K : Type) where
  secret : String
  method : String
  path : String
  body : List UInt8
  now : K
  drawn : Fin 16 → UInt8

/-- `sign_internal_request`. -/
def signInternalRequest (digests : Digests) (signing : Signing K) : Option SignedRequestHeaders :=
  signedHeaders digests signing.secret signing.method signing.path signing.body signing.now
    signing.drawn

variable (digests : Digests) (maxSkewSeconds : ℤ)

/-- The checks of `verify_internal_request` before Redis is asked for the nonce. -/
def authenticate (call : Call K) : Except Failure String :=
  match call.timestamp, call.nonce, call.signature with
  | some timestamp, some nonce, some signature =>
    if timestamp.isEmpty || nonce.isEmpty || signature.isEmpty then
      .error (.internalAuthError "missing signature headers")
    else
      match int timestamp with
      | none => .error (.internalAuthError "invalid timestamp")
      | some requestTime =>
        if |truncate call.checkedAt - requestTime| > maxSkewSeconds then
          .error (.internalAuthError "timestamp outside tolerance")
        else
          let expectedSignature := sign digests call.secret
            (canonicalMessage digests timestamp nonce call.method call.path call.body)
          match compareDigest expectedSignature signature with
          | none => .error .typeError
          | some false => .error (.internalAuthError "signature mismatch")
          | some true => .ok nonce
  | _, _, _ => .error (.internalAuthError "missing signature headers")

/-- `verify_internal_request`. -/
def verifyInternalRequest (call : Call K) (redis : Redis K) : Except Failure Unit × Redis K :=
  match authenticate digests maxSkewSeconds call with
  | .error failure => (.error failure, redis)
  | .ok nonce =>
    let (claimed, redis) :=
      claim (nonceTtlSeconds : K) call.claimedAt (nonceKeyPrefix ++ nonce) redis
    (if claimed then .ok () else .error (.internalAuthError "nonce already used"), redis)

/-- What Redis keeps after the calls that reached it so far. -/
def redisAfter (redis : Redis K) (calls : List (Call K)) : Redis K :=
  calls.foldl (fun redis call => (verifyInternalRequest digests maxSkewSeconds call redis).2) redis

/-- The call passes when it reaches Redis after those. -/
def Accepted (redis : Redis K) (before : List (Call K)) (call : Call K) : Prop :=
  (verifyInternalRequest digests maxSkewSeconds call
    (redisAfter digests maxSkewSeconds redis before)).1 = .ok ()

/-- The signature is the one of the call's own message. -/
def SignatureMatches (call : Call K) : Prop :=
  ∃ timestamp nonce, call.timestamp = some timestamp ∧ call.nonce = some nonce ∧
    call.signature = some (sign digests call.secret
      (canonicalMessage digests timestamp nonce call.method call.path call.body))

/-- The timestamp is a number that close to the clock. -/
def Timely (call : Call K) : Prop :=
  ∃ timestamp stamp, call.timestamp = some timestamp ∧ int timestamp = some stamp ∧
    Fresh maxSkewSeconds call.checkedAt stamp

/-- The status and detail that `require_internal_auth` answers with, nothing where it lets the
request through.  Other failures are not its own. -/
def requireInternalAuth (internalWorkerWebHmacKey : Option String)
    (call : String → Call K) (redis : Redis K) : Except Failure (Option (ℕ × String)) × Redis K :=
  if given internalWorkerWebHmacKey then
    let (result, redis) := verifyInternalRequest digests maxSkewSeconds
      (call (internalWorkerWebHmacKey.getD "")) redis
    match result with
    | .ok () => (.ok none, redis)
    | .error (.internalAuthError _) => (.ok (some (401, "Unauthorized")), redis)
    | .error .typeError => (.error .typeError, redis)
  else (.ok (some (503, "Internal auth is not configured")), redis)

variable {digests maxSkewSeconds} {call : Call K} {nonce : String} {redis : Redis K}

theorem authenticate_ok (h : authenticate digests maxSkewSeconds call = .ok nonce) :
    SignatureMatches digests call ∧ Timely maxSkewSeconds call ∧ call.nonce = some nonce := by
  rw [authenticate] at h
  split at h
  · rename_i timestamp callNonce signature htimestamp hnonce hsignature
    split at h
    · cases h
    · split at h
      · cases h
      · rename_i stamp hstamp
        split at h
        · cases h
        · rename_i hfresh
          dsimp only at h
          split at h
          · cases h
          · cases h
          · rename_i hequal
            obtain rfl : callNonce = nonce := Except.ok.inj h
            obtain rfl := eq_of_compareDigest hequal
            exact ⟨⟨timestamp, callNonce, htimestamp, hnonce, hsignature⟩,
              ⟨timestamp, stamp, htimestamp, hstamp, not_lt.mp hfresh⟩, hnonce⟩
  · cases h

/-- A call passes where its checks do and Redis does not know its nonce. -/
theorem verifyInternalRequest_ok
    (h : (verifyInternalRequest digests maxSkewSeconds call redis).1 = .ok ()) :
    ∃ nonce, SignatureMatches digests call ∧ Timely maxSkewSeconds call ∧
      call.nonce = some nonce ∧
      (claim (nonceTtlSeconds : K) call.claimedAt (nonceKeyPrefix ++ nonce) redis).1 = true ∧
      (verifyInternalRequest digests maxSkewSeconds call redis).2 =
        (claim (nonceTtlSeconds : K) call.claimedAt (nonceKeyPrefix ++ nonce) redis).2 := by
  rw [verifyInternalRequest] at h ⊢
  cases hauthentic : authenticate digests maxSkewSeconds call with
  | error failure => rw [hauthentic] at h; cases h
  | ok nonce =>
    rw [hauthentic] at h
    obtain ⟨hmatches, htimely, hnonce⟩ := authenticate_ok hauthentic
    refine ⟨nonce, hmatches, htimely, hnonce, ?_, rfl⟩
    dsimp only at h
    split at h
    · assumption
    · cases h

/-- A call with a bad signature or a stale timestamp is refused before Redis is asked. -/
theorem verifyInternalRequest_refused
    (h : ¬SignatureMatches digests call ∨ ¬Timely maxSkewSeconds call) :
    (verifyInternalRequest digests maxSkewSeconds call redis).1 ≠ .ok () ∧
      (verifyInternalRequest digests maxSkewSeconds call redis).2 = redis := by
  rw [verifyInternalRequest]
  cases hauthentic : authenticate digests maxSkewSeconds call with
  | error failure =>
    constructor
    · intro hcontra
      cases hcontra
    · rfl
  | ok nonce =>
    obtain ⟨hmatches, htimely, -⟩ := authenticate_ok hauthentic
    cases h with
    | inl hbad => exact absurd hmatches hbad
    | inr hstale => exact absurd htimely hstale

/-- The route is open to nobody while no key is configured, and only to a call that verifies
with the key otherwise. -/
theorem requireInternalAuth_ok {internalWorkerWebHmacKey : Option String}
    {call : String → Call K} (h : (requireInternalAuth digests maxSkewSeconds
      internalWorkerWebHmacKey call redis).1 = .ok none) :
    ∃ secret, internalWorkerWebHmacKey = some secret ∧ secret ≠ "" ∧
      (verifyInternalRequest digests maxSkewSeconds (call secret) redis).1 = .ok () := by
  rw [requireInternalAuth] at h
  split at h
  · rename_i hgiven
    cases internalWorkerWebHmacKey with
    | none => cases hgiven
    | some secret =>
      have hsecret : secret ≠ "" := by simpa [given] using hgiven
      refine ⟨secret, rfl, hsecret, ?_⟩
      dsimp only [Option.getD_some] at h
      split at h
      · assumption
      · cases h
      · cases h
  · cases h

/-! ## Traces -/

variable (digests maxSkewSeconds)

/-- A message that was signed with the secret. -/
def Signing.message (signing : Signing K) : Option String :=
  (signInternalRequest digests signing).map fun headers =>
    canonicalMessage digests headers.timestamp headers.nonce signing.method signing.path
      signing.body

/-- HMAC idealised: a signature that matches was made with the secret, of that very message. -/
def Unforged (signings : List (Signing K)) (call : Call K) : Prop :=
  ∀ timestamp nonce, call.timestamp = some timestamp → call.nonce = some nonce →
    call.signature = some (sign digests call.secret
      (canonicalMessage digests timestamp nonce call.method call.path call.body)) →
    ∃ signing ∈ signings, signing.secret = call.secret ∧ signing.message digests =
      some (canonicalMessage digests timestamp nonce call.method call.path call.body)

/-- No body signed has the digest of another one received. -/
def CollisionFree (signings : List (Signing K)) (call : Call K) : Prop :=
  ∀ signing ∈ signings, digests.sha256 call.body = digests.sha256 signing.body →
    call.body = signing.body

/-- Neither the headers nor the path of the call break the line. -/
def Unbroken (call : Call K) : Prop :=
  (∀ timestamp, call.timestamp = some timestamp → '\n' ∉ timestamp.toList) ∧
    (∀ nonce, call.nonce = some nonce → '\n' ∉ nonce.toList) ∧ '\n' ∉ call.path.toList

/-- The call carries what was signed. -/
structure Carries (call : Call K) (signing : Signing K) : Prop where
  secret : call.secret = signing.secret
  method : upper call.method = upper signing.method
  path : call.path = signing.path
  body : call.body = signing.body
  timestamp : call.timestamp = str (truncate signing.now)
  nonce : call.nonce = some (tokenHex signing.drawn)

/-- The calls in the order they reach Redis.  Each does so at once, or as long after it has read
the clock as the tolerance leaves of the 300 seconds. -/
structure Arrivals (calls : List (Call K)) : Prop where
  ordered : calls.Pairwise fun earlier later => earlier.claimedAt ≤ later.claimedAt
  checked : ∀ call ∈ calls, call.checkedAt ≤ call.claimedAt
  prompt : ∀ call ∈ calls, call.claimedAt ≤ call.checkedAt + max 0 (298 - 2 * maxSkewSeconds : ℤ)

variable {digests maxSkewSeconds}

/-- A call whose signature matches carries what was signed. -/
theorem SignatureMatches.carries {signings : List (Signing K)}
    (h : SignatureMatches digests call) (hunforged : Unforged digests signings call)
    (hcollision : CollisionFree digests signings call) (hunbroken : Unbroken call)
    (hpaths : ∀ signing ∈ signings, '\n' ∉ signing.path.toList) :
    ∃ signing ∈ signings, Carries call signing := by
  obtain ⟨timestamp, nonce, htimestamp, hnonce, hsignature⟩ := h
  obtain ⟨signing, hmem, hsecret, hmessage⟩ := hunforged timestamp nonce htimestamp hnonce hsignature
  obtain ⟨headers, hheaders, hmessage⟩ := Option.map_eq_some_iff.mp hmessage
  have hsigned := signedHeaders_timestamp hheaders
  have hdrawn := signedHeaders_nonce hheaders
  obtain ⟨rfl, rfl, hmethod, hpath, hdigest⟩ := canonicalMessage_inj
    (newline_notMem_str hsigned) (hunbroken.1 timestamp htimestamp)
    (hdrawn ▸ newline_notMem_hexdigest _) (hunbroken.2.1 nonce hnonce)
    (hpaths signing hmem) hunbroken.2.2 hmessage
  exact ⟨signing, hmem, hsecret.symm, hmethod.symm, hpath.symm,
    hcollision signing hmem hdigest.symm, htimestamp.trans hsigned.symm, hdrawn ▸ hnonce⟩

theorem redisAfter_append (before : List (Call K)) :
    redisAfter digests maxSkewSeconds redis (before ++ [call]) =
      (verifyInternalRequest digests maxSkewSeconds call
        (redisAfter digests maxSkewSeconds redis before)).2 := by
  rw [redisAfter, List.foldl_append]
  rfl

/-- Redis keeps a key until its time has come. -/
theorem mem_redisAfter {key : String} {expiry : K} {calls : List (Call K)}
    (hmem : (key, expiry) ∈ redis) (hearlier : ∀ call ∈ calls, call.claimedAt < expiry) :
    (key, expiry) ∈ redisAfter digests maxSkewSeconds redis calls := by
  induction calls using List.reverseRecOn with
  | nil => exact hmem
  | append_singleton calls call ih =>
    have hkept := ih fun other hother => hearlier other (List.mem_append_left _ hother)
    have hlast := hearlier call (List.mem_append_right _ List.mem_cons_self)
    rw [redisAfter_append, verifyInternalRequest]
    cases authenticate digests maxSkewSeconds call with
    | error failure => exact hkept
    | ok nonce => exact mem_claim_of_lt hkept hlast

/-- Two calls that carry one signature are too close for Redis to forget the first. -/
theorem claimedAt_lt [IsStrictOrderedRing K] {calls : List (Call K)} {call call' : Call K}
    (hskew : 2 * maxSkewSeconds + 1 ≤ 300) (harrivals : Arrivals maxSkewSeconds calls)
    (hmem : call ∈ calls) (hmem' : call' ∈ calls) (htimely : Timely maxSkewSeconds call)
    (htimely' : Timely maxSkewSeconds call') (htimestamp : call.timestamp = call'.timestamp) :
    call'.claimedAt < call.claimedAt + (nonceTtlSeconds : K) := by
  obtain ⟨timestamp, stamp, hcall, hstamp, hfresh⟩ := htimely
  obtain ⟨timestamp', stamp', hcall', hstamp', hfresh'⟩ := htimely'
  obtain rfl : timestamp = timestamp' := by
    rw [hcall, hcall'] at htimestamp
    exact Option.some.inj htimestamp
  obtain rfl : stamp = stamp' := Option.some.inj (hstamp.symm.trans hstamp')
  have hwindow := hfresh.sub_lt hfresh'
  have hchecked := harrivals.checked call hmem
  have hprompt := harrivals.prompt call' hmem'
  have hslack : max 0 (298 - 2 * maxSkewSeconds) = 298 - 2 * maxSkewSeconds :=
    max_eq_right (by omega)
  rw [hslack] at hprompt
  push_cast [nonceTtlSeconds] at hprompt ⊢
  linarith

end Verify

/-! ## A request that is sent twice -/

def worker : Signing ℚ where
  secret := "hmac-key"
  method := "POST"
  path := "/api/v1/internal/disbursements/reconcile"
  body := []
  now := 1000
  drawn _ := 0

def received (time : ℚ) : Call ℚ where
  secret := "hmac-key"
  method := "POST"
  path := "/api/v1/internal/disbursements/reconcile"
  body := []
  timestamp := some "1000"
  nonce := some (tokenHex fun _ => 0)
  signature := some (sign plainDigests "hmac-key" (canonicalMessage plainDigests "1000"
    (tokenHex fun _ => 0) "POST" "/api/v1/internal/disbursements/reconcile" []))
  checkedAt := time
  claimedAt := time

theorem received_unforged (time : ℚ) : Unforged plainDigests [worker] (received time) := by
  intro timestamp nonce htimestamp hnonce _
  obtain rfl := Option.some.inj htimestamp
  obtain rfl := Option.some.inj hnonce
  exact ⟨worker, List.mem_cons_self, rfl, rfl⟩

theorem received_unbroken (time : ℚ) : Unbroken (received time) := by
  refine ⟨?_, ?_, (by decide : '\n' ∉ "/api/v1/internal/disbursements/reconcile".toList)⟩
  · rintro timestamp htimestamp
    obtain rfl := Option.some.inj htimestamp
    decide
  · rintro nonce hnonce
    obtain rfl := Option.some.inj hnonce
    exact newline_notMem_hexdigest _

theorem received_arrivals : Arrivals 90 [received 910, received 1090] where
  ordered := List.pairwise_pair.mpr (by decide)
  checked := by simp [received]
  prompt := by simp [received]

end InfinityRadius.InternalAuth
