import InfinityRadius.Core.RequestSigning
import Mathlib.Algebra.Order.Archimedean.Real.Basic
import Mathlib.Tactic.NormNum

/-!
# The agent's only authentication

`core/security.py` and `core/nonce_cache.py` of the network agent.  A request is judged at the
time it arrives; nothing but its nonce is kept, and that for `nonce_cache_ttl_seconds`.
-/

namespace InfinityRadius.NetworkAgent

open Payload ReplayMemory RequestSigning

structure NetworkAgentSettings where
  agentApiKeyCurrent : String
  agentApiKeyPrevious : Option String := none
  requestMaxSkewSeconds : ℤ := 300
  nonceCacheTtlSeconds : ℤ := 600

/-- `active_signing_keys`. -/
def NetworkAgentSettings.activeSigningKeys (settings : NetworkAgentSettings) : List String :=
  settings.agentApiKeyCurrent ::
    (settings.agentApiKeyPrevious.filter fun key => !key.isEmpty).toList

/-- `request.url`, of which `urlsplit` has dropped the line breaks. -/
structure Url where
  path : String
  query : String
  path_unbroken : '\n' ∉ path.toList
  query_unbroken : '\n' ∉ query.toList

structure Request where
  method : String
  url : Url
  body : List UInt8
  timestamp : Option String
  nonce : Option String
  signature : Option String

inductive Failure
  /-- `HTTPException` with status 401. -/
  | unauthorized (detail : String)
  /-- `TypeError` of `compare_digest`. -/
  | typeError
deriving DecidableEq

/-- The path that is signed. -/
def Url.signed (url : Url) : String :=
  if url.query.isEmpty then url.path else url.path ++ "?" ++ url.query

theorem Url.signed_unbroken (url : Url) : '\n' ∉ url.signed.toList := by
  rw [Url.signed]
  split
  · exact url.path_unbroken
  · rw [String.toList_append, String.toList_append]
    intro hmem
    rw [List.mem_append, List.mem_append] at hmem
    obtain (hpath | hmark) | hquery := hmem
    · exact url.path_unbroken hpath
    · exact absurd hmark (by decide)
    · exact url.query_unbroken hquery

/-- `_signature_is_valid`. -/
def signatureIsValid (digests : Digests) (message providedSignature : String) :
    List String → Except Failure Bool
  | [] => .ok false
  | key :: rest =>
    match compareDigest (sign digests key message) providedSignature with
    | none => .error .typeError
    | some true => .ok true
    | some false => signatureIsValid digests message providedSignature rest

theorem exists_key_of_signatureIsValid {digests : Digests} {message providedSignature : String}
    {keys : List String} (h : signatureIsValid digests message providedSignature keys = .ok true) :
    ∃ key ∈ keys, providedSignature = sign digests key message := by
  induction keys with
  | nil => cases h
  | cons key rest ih =>
    rw [signatureIsValid] at h
    split at h
    · cases h
    · rename_i hequal
      exact ⟨key, List.mem_cons_self, (eq_of_compareDigest hequal).symm⟩
    · obtain ⟨key', hmem, hsigned⟩ := ih h
      exact ⟨key', List.mem_cons_of_mem _ hmem, hsigned⟩

theorem signatureIsValid_of_mem {digests : Digests} {message key : String} {keys : List String}
    (hkey : key ∈ keys) :
    signatureIsValid digests message (sign digests key message) keys = .ok true := by
  induction keys with
  | nil => cases hkey
  | cons first rest ih =>
    have hcompare : compareDigest (sign digests first message) (sign digests key message) =
        some (decide (sign digests first message = sign digests key message)) :=
      compareDigest_hexdigest _ _
    rw [signatureIsValid, hcompare]
    by_cases hequal : sign digests first message = sign digests key message
    · rw [decide_eq_true hequal]
    · rw [decide_eq_false hequal]
      apply ih
      exact (List.mem_cons.mp hkey).resolve_left fun hfirst => hequal (hfirst ▸ rfl)

section Verify

variable {K : Type} [Field K] [LinearOrder K] [FloorRing K]

/-- The nonces seen, each with the monotonic time it expires at. -/
abbrev NonceCache (K : Type) := Memory String K

/-- `NonceCache.seen_before`. -/
def seenBefore (ttlSeconds now : K) (nonce : String) (cache : NonceCache K) :
    Bool × NonceCache K :=
  let (recorded, seen) := claim ttlSeconds now nonce cache
  (!recorded, seen)

variable (settings : NetworkAgentSettings) (digests : Digests)

/-- The checks of `verify_agent_signature` before the nonce is looked up, which they return. -/
def authenticate (now : K) (request : Request) : Except Failure String :=
  match request.timestamp, request.nonce, request.signature with
  | some timestamp, some nonce, some signature =>
    if timestamp.isEmpty || nonce.isEmpty || signature.isEmpty then
      .error (.unauthorized "Missing request signature headers")
    else
      match int timestamp with
      | none => .error (.unauthorized "Invalid timestamp")
      | some requestTime =>
        if |truncate now - requestTime| > settings.requestMaxSkewSeconds then
          .error (.unauthorized "Request timestamp outside allowed skew")
        else
          let message := canonicalMessage digests timestamp nonce request.method
            request.url.signed request.body
          match signatureIsValid digests message signature settings.activeSigningKeys with
          | .error failure => .error failure
          | .ok false => .error (.unauthorized "Invalid signature")
          | .ok true => .ok nonce
  | _, _, _ => .error (.unauthorized "Missing request signature headers")

/-- `verify_agent_signature` at a wall clock time.  The monotonic clock started at `boot`. -/
def verifyAgentSignature (boot now : K) (request : Request) (cache : NonceCache K) :
    Except Failure Unit × NonceCache K :=
  match authenticate settings digests now request with
  | .error failure => (.error failure, cache)
  | .ok nonce =>
    let (seen, cache) := seenBefore (settings.nonceCacheTtlSeconds : K) (now - boot) nonce cache
    (if seen then .error (.unauthorized "Nonce already used (replay)") else .ok (), cache)

/-- What the cache holds after the requests that arrived since the start. -/
def cacheAfter (boot : K) (arrivals : List (K × Request)) : NonceCache K :=
  arrivals.foldl (fun cache arrival =>
    (verifyAgentSignature settings digests boot arrival.1 arrival.2 cache).2) []

/-- The request is let through when it arrives after those. -/
def Accepted (boot : K) (before : List (K × Request)) (now : K) (request : Request) : Prop :=
  (verifyAgentSignature settings digests boot now request
    (cacheAfter settings digests boot before)).1 = .ok ()

/-- What a request carries that no time can refuse: all three headers, a number for a
timestamp and the signature of an active key. -/
structure Genuine (request : Request) (nonce : String) (stamp : ℤ) : Prop where
  nonce_eq : request.nonce = some nonce
  nonce_given : nonce ≠ ""
  signed : ∃ timestamp signature, request.timestamp = some timestamp ∧ timestamp ≠ "" ∧
    request.signature = some signature ∧ signature ≠ "" ∧ int timestamp = some stamp ∧
    signatureIsValid digests (canonicalMessage digests timestamp nonce request.method
      request.url.signed request.body) signature settings.activeSigningKeys = .ok true

variable {settings digests} {boot now : K} {request : Request} {nonce : String} {stamp : ℤ}
  {cache : NonceCache K}

theorem Genuine.stamp_unique {nonce' : String} {stamp' : ℤ}
    (h : Genuine settings digests request nonce stamp)
    (h' : Genuine settings digests request nonce' stamp') : nonce = nonce' ∧ stamp = stamp' := by
  obtain ⟨timestamp, signature, htimestamp, -, -, -, hstamp, -⟩ := h.signed
  obtain ⟨timestamp', signature', htimestamp', -, -, -, hstamp', -⟩ := h'.signed
  obtain rfl : timestamp = timestamp' := Option.some.inj (htimestamp.symm.trans htimestamp')
  exact ⟨Option.some.inj (h.nonce_eq.symm.trans h'.nonce_eq),
    Option.some.inj (hstamp.symm.trans hstamp')⟩

theorem authenticate_ok_iff : authenticate settings digests now request = .ok nonce ↔
    ∃ stamp, Genuine settings digests request nonce stamp ∧
      Fresh settings.requestMaxSkewSeconds now stamp := by
  constructor
  · intro h
    rw [authenticate] at h
    split at h
    · rename_i timestamp requestNonce signature htimestamp hnonce hsignature
      split at h
      · cases h
      · rename_i hgiven
        simp only [Bool.or_eq_true, String.isEmpty_iff, not_or] at hgiven
        split at h
        · cases h
        · rename_i stamp hstamp
          split at h
          · cases h
          · rename_i hfresh
            dsimp only at h
            split at h
            · cases h
            · cases h
            · rename_i hvalid
              obtain rfl : requestNonce = nonce := Except.ok.inj h
              exact ⟨stamp, ⟨hnonce, hgiven.1.2, timestamp, signature, htimestamp, hgiven.1.1,
                hsignature, hgiven.2, hstamp, hvalid⟩, not_lt.mp hfresh⟩
    · cases h
  · rintro ⟨stamp, ⟨hnonce, hnonceGiven, timestamp, signature, htimestamp, htimestampGiven,
      hsignature, hsignatureGiven, hstamp, hvalid⟩, hfresh⟩
    simp [authenticate, hnonce, htimestamp, hsignature, hnonceGiven, htimestampGiven,
      hsignatureGiven, hstamp, hvalid, not_lt.mpr hfresh]

/-- A request is let through where it is genuine and fresh and its nonce is not remembered. -/
theorem verifyAgentSignature_ok_iff :
    (verifyAgentSignature settings digests boot now request cache).1 = .ok () ↔
      ∃ nonce stamp, Genuine settings digests request nonce stamp ∧
        Fresh settings.requestMaxSkewSeconds now stamp ∧
        (claim (settings.nonceCacheTtlSeconds : K) (now - boot) nonce cache).1 = true := by
  rw [verifyAgentSignature]
  cases hauthentic : authenticate settings digests now request with
  | error failure =>
    constructor
    · intro h
      cases h
    · rintro ⟨nonce, stamp, hgenuine, hfresh, -⟩
      rw [authenticate_ok_iff.mpr ⟨stamp, hgenuine, hfresh⟩] at hauthentic
      cases hauthentic
  | ok nonce =>
    obtain ⟨stamp, hgenuine, hfresh⟩ := authenticate_ok_iff.mp hauthentic
    have hseen : (if (seenBefore (settings.nonceCacheTtlSeconds : K) (now - boot) nonce cache).1
        then Except.error (Failure.unauthorized "Nonce already used (replay)") else .ok ()) =
          .ok () ↔ (claim (settings.nonceCacheTtlSeconds : K) (now - boot) nonce cache).1 = true := by
      cases hclaim : (claim (settings.nonceCacheTtlSeconds : K) (now - boot) nonce cache).1 with
      | false => simp [seenBefore, hclaim]
      | true => simp [seenBefore, hclaim]
    rw [hseen]
    constructor
    · exact fun h => ⟨nonce, stamp, hgenuine, hfresh, h⟩
    · rintro ⟨nonce', stamp', hgenuine', -, h⟩
      exact (hgenuine.stamp_unique hgenuine').1 ▸ h

/-- A genuine and fresh request is claimed by its nonce. -/
theorem Genuine.recorded (h : Genuine settings digests request nonce stamp)
    (hfresh : Fresh settings.requestMaxSkewSeconds now stamp) :
    (verifyAgentSignature settings digests boot now request cache).2 =
      (claim (settings.nonceCacheTtlSeconds : K) (now - boot) nonce cache).2 := by
  rw [verifyAgentSignature, authenticate_ok_iff.mpr ⟨stamp, h, hfresh⟩]
  rfl

/-- What the request leaves in the cache: its nonce, where it got as far as the cache. -/
theorem verifyAgentSignature_cache (settings : NetworkAgentSettings) (digests : Digests)
    (boot now : K) (request : Request) (cache : NonceCache K) :
    (verifyAgentSignature settings digests boot now request cache).2 = cache ∨
    ∃ nonce stamp, Genuine settings digests request nonce stamp ∧
      Fresh settings.requestMaxSkewSeconds now stamp ∧
      (verifyAgentSignature settings digests boot now request cache).2 =
        (claim (settings.nonceCacheTtlSeconds : K) (now - boot) nonce cache).2 := by
  rw [verifyAgentSignature]
  cases hauthentic : authenticate settings digests now request with
  | error failure => exact .inl rfl
  | ok nonce =>
    obtain ⟨stamp, hgenuine, hfresh⟩ := authenticate_ok_iff.mp hauthentic
    exact .inr ⟨nonce, stamp, hgenuine, hfresh, rfl⟩

/-! ## Runs -/

theorem cacheAfter_append (arrivals : List (K × Request)) :
    cacheAfter settings digests boot (arrivals ++ [(now, request)]) =
      (verifyAgentSignature settings digests boot now request
        (cacheAfter settings digests boot arrivals)).2 := by
  rw [cacheAfter, List.foldl_append]
  rfl

/-- The arrivals of a run in the order of their times. -/
def Timed (arrivals : List (K × Request)) : Prop :=
  arrivals.Pairwise fun earlier later => earlier.1 ≤ later.1

/-- A nonce that was recorded stays so until its time has come. -/
theorem mem_verifyAgentSignature {expiry : K} (hmem : (nonce, expiry) ∈ cache)
    (hearlier : now - boot < expiry) :
    (nonce, expiry) ∈ (verifyAgentSignature settings digests boot now request cache).2 := by
  obtain hcache | ⟨nonce', stamp, -, -, hcache⟩ :=
    verifyAgentSignature_cache settings digests boot now request cache
  · rwa [hcache]
  · rw [hcache]
    exact mem_claim_of_lt hmem hearlier

/-- A nonce that is recorded was so before, or the request with it was let through. -/
theorem mem_of_mem_verifyAgentSignature {expiry : K}
    (hmem : (nonce, expiry) ∈ (verifyAgentSignature settings digests boot now request cache).2) :
    (nonce, expiry) ∈ cache ∨ request.nonce = some nonce ∧
      (verifyAgentSignature settings digests boot now request cache).1 = .ok () := by
  obtain hcache | ⟨nonce', stamp, hgenuine, hfresh, hcache⟩ :=
    verifyAgentSignature_cache settings digests boot now request cache
  · exact .inl (hcache ▸ hmem)
  · rw [hcache] at hmem
    cases mem_of_mem_claim hmem with
    | inl hkept => exact .inl hkept
    | inr hnew =>
      obtain ⟨hclaimed, rfl⟩ := hnew
      exact .inr ⟨hgenuine.nonce_eq,
        verifyAgentSignature_ok_iff.mpr ⟨nonce, stamp, hgenuine, hfresh, hclaimed⟩⟩

theorem mem_cacheAfter {before between : List (K × Request)} {expiry : K}
    (hmem : (nonce, expiry) ∈ cacheAfter settings digests boot before)
    (hearlier : ∀ arrival ∈ between, arrival.1 - boot < expiry) :
    (nonce, expiry) ∈ cacheAfter settings digests boot (before ++ between) := by
  induction between using List.reverseRecOn with
  | nil => rwa [List.append_nil]
  | append_singleton between arrival ih =>
    rw [← List.append_assoc, cacheAfter_append]
    apply mem_verifyAgentSignature
    · exact ih fun other hother => hearlier other (List.mem_append_left _ hother)
    · exact hearlier arrival (List.mem_append_right _ List.mem_cons_self)

/-- Whatever is recorded was let through with that nonce. -/
theorem accepted_of_mem_cacheAfter {arrivals : List (K × Request)} {expiry : K}
    (hmem : (nonce, expiry) ∈ cacheAfter settings digests boot arrivals) :
    ∃ before time request after, arrivals = before ++ (time, request) :: after ∧
      request.nonce = some nonce ∧ Accepted settings digests boot before time request := by
  induction arrivals using List.reverseRecOn with
  | nil => cases hmem
  | append_singleton arrivals arrival ih =>
    rw [cacheAfter_append] at hmem
    cases mem_of_mem_verifyAgentSignature hmem with
    | inl hkept =>
      obtain ⟨before, time, request, after, rfl, hnonce, haccepted⟩ := ih hkept
      exact ⟨before, time, request, after ++ [arrival], by simp, hnonce, haccepted⟩
    | inr hnew => exact ⟨arrivals, arrival.1, arrival.2, [], rfl, hnew⟩

variable (settings digests)

/-- In no run is the request let through at both times. -/
def NeverReplayed (boot : K) (request : Request) (first second : K) : Prop :=
  ∀ before between : List (K × Request),
    Timed (before ++ (first, request) :: between ++ [(second, request)]) →
    ¬(Accepted settings digests boot before first request ∧
      Accepted settings digests boot (before ++ (first, request) :: between) second request)

/-- The request is genuine and fresh at both times, and its nonce is forgotten by the second. -/
def Replayable (request : Request) (first second : K) : Prop :=
  first ≤ second ∧ first + settings.nonceCacheTtlSeconds ≤ second ∧
    ∃ nonce stamp, Genuine settings digests request nonce stamp ∧
      Fresh settings.requestMaxSkewSeconds first stamp ∧
      Fresh settings.requestMaxSkewSeconds second stamp

variable {settings digests} {first second : K}

/-- With nothing else arriving, such a request is let through twice. -/
theorem Replayable.accepted [IsStrictOrderedRing K]
    (h : Replayable settings digests request first second) :
    Accepted settings digests boot [] first request ∧
      Accepted settings digests boot [(first, request)] second request := by
  obtain ⟨-, hforgotten, nonce, stamp, hgenuine, hfirst, hsecond⟩ := h
  have hclaim : claim (settings.nonceCacheTtlSeconds : K) (first - boot) nonce [] =
      (true, [(nonce, first - boot + settings.nonceCacheTtlSeconds)]) := rfl
  have hcache : cacheAfter settings digests boot [(first, request)] =
      [(nonce, first - boot + settings.nonceCacheTtlSeconds)] :=
    hgenuine.recorded hfirst
  constructor
  · exact verifyAgentSignature_ok_iff.mpr ⟨nonce, stamp, hgenuine, hfirst, congrArg Prod.fst hclaim⟩
  · refine verifyAgentSignature_ok_iff.mpr ⟨nonce, stamp, hgenuine, hsecond, ?_⟩
    rw [hcache, claim_accepted_iff]
    intro expiry hexpiry
    obtain ⟨-, rfl⟩ := Prod.mk.inj (List.mem_singleton.mp hexpiry)
    linarith

/-- A request is never let through at two times just where it cannot outlive its nonce. -/
theorem neverReplayed_iff [IsStrictOrderedRing K] :
    NeverReplayed settings digests boot request first second ↔
      ¬Replayable settings digests request first second := by
  constructor
  · intro hnever hreplayable
    apply hnever [] []
    · exact List.pairwise_pair.mpr hreplayable.1
    · exact hreplayable.accepted
  · rintro hnot before between htimed ⟨hfirst, hsecond⟩
    obtain ⟨nonce, stamp, hgenuine, hfreshFirst, hclaimed⟩ := verifyAgentSignature_ok_iff.mp hfirst
    obtain ⟨nonce', stamp', hgenuine', hfreshSecond, hagain⟩ :=
      verifyAgentSignature_ok_iff.mp hsecond
    obtain ⟨rfl, rfl⟩ := hgenuine.stamp_unique hgenuine'
    obtain ⟨hbefore, hlast⟩ : Timed (before ++ (first, request) :: between) ∧
        ∀ arrival ∈ before ++ (first, request) :: between, arrival.1 ≤ second := by
      simpa [Timed, List.pairwise_append] using List.pairwise_append.mp htimed
    have hle : first ≤ second := hlast (first, request) (by simp)
    by_cases hforgotten : first + settings.nonceCacheTtlSeconds ≤ second
    · exact hnot ⟨hle, hforgotten, nonce, stamp, hgenuine, hfreshFirst, hfreshSecond⟩
    · -- Whatever arrives in between comes too early to make the agent forget the nonce.
      have hmem : (nonce, first - boot + settings.nonceCacheTtlSeconds) ∈
          cacheAfter settings digests boot (before ++ [(first, request)]) := by
        rw [cacheAfter_append, hgenuine.recorded hfreshFirst]
        exact mem_claim hclaimed
      have hkept : (nonce, first - boot + settings.nonceCacheTtlSeconds) ∈
          cacheAfter settings digests boot (before ++ [(first, request)] ++ between) := by
        apply mem_cacheAfter hmem
        intro arrival harrival
        have harrivalLe := hlast arrival (by simp [harrival])
        linarith
      rw [List.append_assoc, List.singleton_append] at hkept
      have hexpired := claim_accepted_iff.mp hagain _ hkept
      linarith

/-- Twice the skew and two seconds more would do. -/
theorem not_replayable_of_ttl [IsStrictOrderedRing K]
    (httl : 2 * settings.requestMaxSkewSeconds + 2 ≤ settings.nonceCacheTtlSeconds) :
    ¬Replayable settings digests request first second := by
  rintro ⟨-, hforgotten, nonce, stamp, -, hfirst, hsecond⟩
  have hwindow := hfirst.sub_lt hsecond
  have hcast : (2 * settings.requestMaxSkewSeconds + 2 : K) ≤ settings.nonceCacheTtlSeconds := by
    exact_mod_cast httl
  linarith

end Verify

/-! ## A request at the edge -/

def plainSettings : NetworkAgentSettings where
  agentApiKeyCurrent := "current"

/-- A ping that was signed at 1000. -/
def ping : Request where
  method := "GET"
  url := ⟨"/radius/ping", "", by decide, by decide⟩
  body := []
  timestamp := some "1000"
  nonce := some "5f"
  signature := some (sign plainDigests "current"
    (canonicalMessage plainDigests "1000" "5f" "GET" "/radius/ping" []))

theorem ping_genuine : Genuine plainSettings plainDigests ping "5f" 1000 where
  nonce_eq := rfl
  nonce_given := by decide
  signed := ⟨"1000", _, rfl, by decide, rfl, by decide, by decide, by decide⟩

theorem truncate_ofNat (n : ℕ) : truncate (n : ℝ) = n := by
  simp [truncate]

theorem ping_never_replayed :
    NeverReplayed plainSettings plainDigests (0 : ℝ) ping 700 1299 := by
  apply neverReplayed_iff.mpr
  rintro ⟨-, hforgotten, -⟩
  have httl : plainSettings.nonceCacheTtlSeconds = 600 := rfl
  rw [httl] at hforgotten
  norm_num at hforgotten

/-- The first arrival is the earliest that is fresh, the second the latest. -/
theorem ping_replayed : ¬NeverReplayed plainSettings plainDigests (0 : ℝ) ping 700 1300 := by
  have hreplayable : Replayable plainSettings plainDigests ping (700 : ℝ) 1300 := by
    refine ⟨by norm_num, by norm_num [plainSettings], "5f", 1000, ping_genuine, ?_, ?_⟩
    · have htruncate : truncate (700 : ℝ) = 700 := truncate_ofNat 700
      rw [Fresh, htruncate]
      decide
    · have htruncate : truncate (1300 : ℝ) = 1300 := truncate_ofNat 1300
      rw [Fresh, htruncate]
      decide
  intro hnever
  apply hnever [] []
  · exact List.pairwise_pair.mpr hreplayable.1
  · exact hreplayable.accepted

end InfinityRadius.NetworkAgent
