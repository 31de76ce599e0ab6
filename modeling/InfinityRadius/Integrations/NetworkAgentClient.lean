import InfinityRadius.NetworkAgent.Security

/-!
# The agent's caller

`integrations/network_agent`: what each method of the client sends and how it is signed.  The
agent verifies with a copy of the signing code of its own, so that the two have to agree on
every request there is.
-/

namespace InfinityRadius.NetworkAgentClient

open Payload ReplayMemory RequestSigning NetworkAgent

/-! ## Bodies -/

/-- A UUID by its bytes. -/
abbrev Uuid := Fin 16 → UInt8

/-- `str(uuid)`. -/
def Uuid.text (uuid : Uuid) : String :=
  let digits := (hexdigest (List.ofFn uuid)).toList
  String.ofList (digits.take 8 ++ '-' :: (digits.drop 8).take 4 ++ '-' :: (digits.drop 12).take 4 ++
    '-' :: (digits.drop 16).take 4 ++ '-' :: digits.drop 20)

/-- What the bodies of the client hold. -/
inductive Value
  | null
  | int (n : ℤ)
  | str (text : String)

def unicodeEscape (n : ℕ) : List Char :=
  backslash :: 'u' :: (hexByte (n / 256) ++ hexByte (n % 256))

/-- One character inside `json.dumps(text)`, which is ASCII. -/
def escapeChar (c : Char) : List Char :=
  if c = '"' ∨ c = backslash then [backslash, c]
  else if c.toNat = 0x0a then [backslash, 'n']
  else if c.toNat = 0x0d then [backslash, 'r']
  else if c.toNat = 0x09 then [backslash, 't']
  else if c.toNat = 0x0c then [backslash, 'f']
  else if c.toNat = 0x08 then [backslash, 'b']
  else if 0x20 ≤ c.toNat ∧ c.toNat ≤ 0x7e then [c]
  else if c.toNat < 0x10000 then unicodeEscape c.toNat
  else
    unicodeEscape (0xd800 + (c.toNat - 0x10000) / 0x400) ++
      unicodeEscape (0xdc00 + (c.toNat - 0x10000) % 0x400)

def dumpsText (text : String) : String :=
  String.ofList ('"' :: (text.toList.flatMap escapeChar ++ ['"']))

def Value.dumps : Value → Option String
  | .null => some "null"
  | .int n => RequestSigning.str n
  | .str text => some (dumpsText text)

/-- `json.dumps(json_body)`, nothing where it raises `ValueError`. -/
def dumps (jsonBody : List (String × Value)) : Option String := do
  let fields ← jsonBody.mapM fun field => do
    return dumpsText field.1 ++ ": " ++ (← field.2.dumps)
  return "\x7b" ++ ", ".intercalate fields ++ "\x7d"

/-! ## Methods -/

/-- The arguments of `_request`. -/
structure Outgoing where
  method : String
  path : String
  jsonBody : Option (List (String × Value)) := none

/-- The calls of the client's methods. -/
inductive Call
  | testConnection (routerId : Uuid)
  | getIdentity (routerId : Uuid)
  | getResource (routerId : Uuid)
  | getActiveHotspotSessions (routerId : Uuid)
  | disconnectHotspotUser (routerId : Uuid) (sessionId : String)
  | getInterfaces (routerId : Uuid)
  | getRadiusStatus (routerId : Uuid)
  | radiusPing
  | syncRadiusPackageGroup (packageId : Uuid) (downloadSpeedKbps uploadSpeedKbps
      sessionTimeoutSeconds : Option ℤ) (simultaneousSessions : ℤ)
  | provisionRadiusUser (username : String) (packageId : Uuid) (password : String)
  | revokeRadiusUser (username : String)
  | diagnosticPing

def routerPath (routerId : Uuid) (resource : String) : String :=
  "/routers/" ++ routerId.text ++ resource

def optInt (value : Option ℤ) : Value := value.elim .null .int

def Call.outgoing : Call → Outgoing
  | testConnection routerId => { method := "POST", path := routerPath routerId "/test" }
  | getIdentity routerId => { method := "GET", path := routerPath routerId "/identity" }
  | getResource routerId => { method := "GET", path := routerPath routerId "/resource" }
  | getActiveHotspotSessions routerId =>
    { method := "GET", path := routerPath routerId "/hotspot/active" }
  | disconnectHotspotUser routerId sessionId =>
    { method := "POST", path := routerPath routerId "/hotspot/disconnect",
      jsonBody := some [("session_id", .str sessionId)] }
  | getInterfaces routerId => { method := "GET", path := routerPath routerId "/interfaces" }
  | getRadiusStatus routerId => { method := "GET", path := routerPath routerId "/radius-status" }
  | radiusPing => { method := "GET", path := "/radius/ping" }
  | syncRadiusPackageGroup packageId downloadSpeedKbps uploadSpeedKbps sessionTimeoutSeconds
      simultaneousSessions =>
    { method := "POST", path := "/radius/package-group",
      jsonBody := some
        [("package_id", .str packageId.text),
          ("download_speed_kbps", optInt downloadSpeedKbps),
          ("upload_speed_kbps", optInt uploadSpeedKbps),
          ("session_timeout_seconds", optInt sessionTimeoutSeconds),
          ("simultaneous_sessions", .int simultaneousSessions)] }
  | provisionRadiusUser username packageId password =>
    { method := "POST", path := "/radius/user",
      jsonBody := some
        [("username", .str username), ("package_id", .str packageId.text),
          ("password", .str password)] }
  | revokeRadiusUser username =>
    { method := "POST", path := "/radius/user/revoke",
      jsonBody := some [("username", .str username)] }
  | diagnosticPing =>
    { method := "GET", path := "/routers/00000000-0000-0000-0000-000000000000/identity" }

/-- The bytes sent, nothing where the body has no text. -/
def Outgoing.body (outgoing : Outgoing) : Option (List UInt8) :=
  match outgoing.jsonBody with
  | some jsonBody => (dumps jsonBody).map encode
  | none => some []

/-! ## Paths -/

/-- A character of a path that a server reads as it was sent. -/
def plainChar (c : Char) : Bool := c ≠ '\n' && c ≠ '?'

theorem plainChar_of_all {text : String} (h : text.toList.all plainChar = true) :
    ∀ c ∈ text.toList, plainChar c = true := List.all_eq_true.mp h

theorem plainChar_hexdigest {bytes : List UInt8} :
    ∀ c ∈ (hexdigest bytes).toList, plainChar c = true := by
  intro c hmem
  have hplain : "0123456789abcdef".toList.all plainChar = true := by decide
  exact plainChar_of_all hplain c (hexdigest_isHex hmem)

theorem plainChar_uuid (uuid : Uuid) : ∀ c ∈ uuid.text.toList, plainChar c = true := by
  have htake : ∀ m n, ∀ c ∈ ((hexdigest (List.ofFn uuid)).toList.drop m).take n,
      plainChar c = true :=
    fun m n c hmem => plainChar_hexdigest c (List.mem_of_mem_drop (List.mem_of_mem_take hmem))
  have hdash : plainChar '-' = true := by decide
  simp only [Uuid.text, String.toList_ofList, List.forall_mem_append, List.forall_mem_cons]
  exact ⟨⟨⟨⟨fun c hmem => htake 0 8 c (by simpa using hmem), hdash, htake 8 4⟩, hdash, htake 12 4⟩,
    hdash, htake 16 4⟩, hdash, fun c hmem => plainChar_hexdigest c (List.mem_of_mem_drop hmem)⟩

theorem plainChar_routerPath (routerId : Uuid) {resource : String}
    (h : resource.toList.all plainChar = true) :
    ∀ c ∈ (routerPath routerId resource).toList, plainChar c = true := by
  rw [routerPath, String.toList_append, String.toList_append, List.forall_mem_append,
    List.forall_mem_append]
  exact ⟨⟨plainChar_of_all (by decide), plainChar_uuid routerId⟩, plainChar_of_all h⟩

theorem plainChar_outgoing (call : Call) : ∀ c ∈ call.outgoing.path.toList, plainChar c = true := by
  cases call with
  | testConnection routerId => exact plainChar_routerPath routerId (by decide)
  | getIdentity routerId => exact plainChar_routerPath routerId (by decide)
  | getResource routerId => exact plainChar_routerPath routerId (by decide)
  | getActiveHotspotSessions routerId => exact plainChar_routerPath routerId (by decide)
  | disconnectHotspotUser routerId sessionId => exact plainChar_routerPath routerId (by decide)
  | getInterfaces routerId => exact plainChar_routerPath routerId (by decide)
  | getRadiusStatus routerId => exact plainChar_routerPath routerId (by decide)
  | radiusPing => exact plainChar_of_all (by decide)
  | syncRadiusPackageGroup => exact @plainChar_of_all "/radius/package-group" (by decide)
  | provisionRadiusUser => exact @plainChar_of_all "/radius/user" (by decide)
  | revokeRadiusUser => exact @plainChar_of_all "/radius/user/revoke" (by decide)
  | diagnosticPing => exact plainChar_of_all (by decide)

theorem outgoing_unbroken (call : Call) : '\n' ∉ call.outgoing.path.toList :=
  fun hmem => absurd (plainChar_outgoing call _ hmem) (by decide)

theorem noQuery_unbroken : '\n' ∉ "".toList := by decide

theorem outgoing_unqueried (call : Call) : '?' ∉ call.outgoing.path.toList :=
  fun hmem => absurd (plainChar_outgoing call _ hmem) (by decide)

/-! ## Sending -/

/-- A client that was configured.  Its base URL has no path part. -/
structure Client where
  apiKey : String
  apiKey_given : apiKey ≠ ""

section Send

variable {K : Type} [Field K] [LinearOrder K] [FloorRing K]

/-- `sign_request`. -/
def signRequest (digests : Digests) (apiKey method path : String) (body : List UInt8) (now : K)
    (drawn : Fin 16 → UInt8) : Option SignedRequestHeaders :=
  signedHeaders digests apiKey method path body now drawn

/-- A call of a method: the client, its clock and the bytes drawn for the nonce. -/
structure Sending (K : Type) where
  client : Client
  call : Call
  now : K
  drawn : Fin 16 → UInt8

/-- `_request`: what the agent receives, nothing where no request is sent. -/
def Sending.request (digests : Digests) (sending : Sending K) : Option Request := do
  let body ← sending.call.outgoing.body
  let headers ← signRequest digests sending.client.apiKey sending.call.outgoing.method
    sending.call.outgoing.path body sending.now sending.drawn
  return {
    method := sending.call.outgoing.method
    url := ⟨sending.call.outgoing.path, "", outgoing_unbroken _, noQuery_unbroken⟩
    body
    timestamp := some headers.timestamp
    nonce := some headers.nonce
    signature := some headers.signature }

variable {settings : NetworkAgentSettings} {digests : Digests} {boot arrived : K}
  {sending : Sending K} {request : Request}

/-- A request is the call, and the headers a signature of it. -/
theorem Sending.request_eq (h : sending.request digests = some request) :
    ∃ timestamp, str (truncate sending.now) = some timestamp ∧
      sending.call.outgoing.body = some request.body ∧
      request.method = sending.call.outgoing.method ∧
      request.url.path = sending.call.outgoing.path ∧ request.url.query = "" ∧
      request.timestamp = some timestamp ∧ request.nonce = some (tokenHex sending.drawn) ∧
      request.signature = some (sign digests sending.client.apiKey
        (canonicalMessage digests timestamp (tokenHex sending.drawn) request.method
          sending.call.outgoing.path request.body)) := by
  simp only [Sending.request, Option.bind_eq_bind, Option.bind_eq_some_iff, Option.pure_def,
    Option.some.injEq] at h
  obtain ⟨body, hbody, headers, hheaders, rfl⟩ := h
  refine ⟨headers.timestamp, signedHeaders_timestamp hheaders, hbody, rfl, rfl, rfl, rfl, ?_, ?_⟩
  · rw [← signedHeaders_nonce hheaders]
  · rw [← signedHeaders_nonce hheaders, signedHeaders_signature hheaders]

/-- A call is genuine to an agent that knows the client's key. -/
theorem Sending.genuine (h : sending.request digests = some request)
    (hkey : sending.client.apiKey ∈ settings.activeSigningKeys) :
    Genuine settings digests request (tokenHex sending.drawn) (truncate sending.now) := by
  obtain ⟨timestamp, hstamp, -, -, hpath, hquery, htimestamp, hnonce, hsignature⟩ :=
    Sending.request_eq h
  have hsigned : request.url.signed = sending.call.outgoing.path := by
    rw [Url.signed, hquery, hpath]
    rfl
  refine ⟨hnonce, tokenHex_ne_empty _, timestamp, _, htimestamp, str_ne_empty hstamp, hsignature,
    sign_ne_empty _ _ _, int_of_str hstamp, ?_⟩
  rw [hsigned]
  exact signatureIsValid_of_mem hkey

/-- The agent's keys are the ones a client was given. -/
theorem mem_activeSigningKeys {client : Client}
    (h : client.apiKey = settings.agentApiKeyCurrent ∨
      settings.agentApiKeyPrevious = some client.apiKey) :
    client.apiKey ∈ settings.activeSigningKeys := by
  rw [NetworkAgentSettings.activeSigningKeys, List.mem_cons]
  cases h with
  | inl hcurrent => exact .inl hcurrent
  | inr hprevious =>
    right
    rw [hprevious, Option.mem_toList, Option.filter_some]
    simp [client.apiKey_given]

variable (settings digests)

/-- The nonce was on no request that the agent has let through. -/
def Unused (boot : K) (arrivals : List (K × Request)) (nonce : Option String) : Prop :=
  ∀ before time request after, arrivals = before ++ (time, request) :: after →
    Accepted settings digests boot before time request → request.nonce ≠ nonce

/-- The request carries what the call was signed for. -/
structure Carries (request : Request) (sending : Sending K) : Prop where
  method : upper request.method = upper sending.call.outgoing.method
  path : request.url.path = sending.call.outgoing.path
  query : request.url.query = ""
  body : sending.call.outgoing.body = some request.body
  timestamp : request.timestamp = str (truncate sending.now)
  nonce : request.nonce = some (tokenHex sending.drawn)

/-- What a call signs, nothing where no request is sent. -/
def Sending.message (sending : Sending K) : Option String := do
  let body ← sending.call.outgoing.body
  let timestamp ← str (truncate sending.now)
  return canonicalMessage digests timestamp (tokenHex sending.drawn) sending.call.outgoing.method
    sending.call.outgoing.path body

/-- HMAC idealised: a signature that an active key verifies was made with that key, of that
very message. -/
def Unforged (sendings : List (Sending K)) (request : Request) : Prop :=
  ∀ key ∈ settings.activeSigningKeys, ∀ timestamp nonce,
    request.timestamp = some timestamp → request.nonce = some nonce →
    request.signature = some (sign digests key (canonicalMessage digests timestamp nonce
      request.method request.url.signed request.body)) →
    ∃ sending ∈ sendings, sending.client.apiKey = key ∧
      sending.message digests = some (canonicalMessage digests timestamp nonce request.method
        request.url.signed request.body)

/-- No body sent has the digest of another one received. -/
def CollisionFree (sendings : List (Sending K)) (request : Request) : Prop :=
  ∀ sending ∈ sendings, ∀ body, sending.call.outgoing.body = some body →
    digests.sha256 request.body = digests.sha256 body → request.body = body

/-- No header of the request breaks the line. -/
def Unbroken (request : Request) : Prop :=
  (∀ timestamp, request.timestamp = some timestamp → '\n' ∉ timestamp.toList) ∧
    ∀ nonce, request.nonce = some nonce → '\n' ∉ nonce.toList

variable {settings digests}

/-- A call that arrives within the skew, with a nonce the agent has not let through, is let
through. -/
theorem Sending.accepted {before : List (K × Request)}
    (h : sending.request digests = some request)
    (hkey : sending.client.apiKey ∈ settings.activeSigningKeys)
    (hfresh : Fresh settings.requestMaxSkewSeconds arrived (truncate sending.now))
    (hunused : Unused settings digests boot before request.nonce) :
    Accepted settings digests boot before arrived request := by
  have hgenuine := Sending.genuine h hkey
  rw [Accepted, verifyAgentSignature_ok_iff]
  refine ⟨tokenHex sending.drawn, truncate sending.now, hgenuine, hfresh, ?_⟩
  rw [claim_accepted_iff]
  intro expiry hmem
  obtain ⟨earlier, time, other, after, rfl, hnonce, haccepted⟩ := accepted_of_mem_cacheAfter hmem
  exact absurd (hnonce.trans hgenuine.nonce_eq.symm) (hunused _ _ _ _ rfl haccepted)

/-- A request that verifies carries a call that was signed. -/
theorem Genuine.carries {sendings : List (Sending K)} {nonce : String} {stamp : ℤ}
    (h : Genuine settings digests request nonce stamp)
    (hunforged : Unforged settings digests sendings request)
    (hcollision : CollisionFree digests sendings request) (hunbroken : Unbroken request) :
    ∃ sending ∈ sendings, Carries request sending := by
  obtain ⟨timestamp, signature, htimestamp, -, hsignature, -, -, hvalid⟩ := h.signed
  obtain ⟨key, hkey, rfl⟩ := exists_key_of_signatureIsValid hvalid
  obtain ⟨sending, hmem, -, hmessage⟩ :=
    hunforged key hkey timestamp nonce htimestamp h.nonce_eq hsignature
  simp only [Sending.message, Option.bind_eq_bind, Option.bind_eq_some_iff, Option.pure_def,
    Option.some.injEq] at hmessage
  obtain ⟨body, hbody, sentTimestamp, hsentTimestamp, hmessage⟩ := hmessage
  obtain ⟨rfl, rfl, hmethod, hpath, hdigest⟩ := canonicalMessage_inj
    (newline_notMem_str hsentTimestamp) (hunbroken.1 timestamp htimestamp)
    (newline_notMem_hexdigest _) (hunbroken.2 nonce h.nonce_eq)
    (outgoing_unbroken _) request.url.signed_unbroken hmessage
  -- The path sent has no query, so neither has the one received.
  have hquery : request.url.query = "" := by
    by_contra hquery
    have hsigned : request.url.signed = request.url.path ++ "?" ++ request.url.query := by
      rw [Url.signed, if_neg (by simpa using hquery)]
    apply outgoing_unqueried sending.call
    rw [hpath, hsigned, String.toList_append, String.toList_append]
    simp
  have hpathEq : request.url.path = sending.call.outgoing.path := by
    rw [hpath, Url.signed, hquery]
    rfl
  refine ⟨sending, hmem, hmethod.symm, hpathEq, hquery, ?_, ?_, h.nonce_eq⟩
  · rw [hcollision sending hmem body hbody hdigest.symm, hbody]
  · rw [htimestamp, hsentTimestamp]

/-- Both halves of the scheme: what a client sends with a key of the agent is let through on
its first arrival, and what is let through carries what a client sent. -/
theorem signing_agrees (settings : NetworkAgentSettings) (digests : Digests) (boot : K)
    (before : List (K × Request)) (arrived : K) (request : Request) :
    (∀ sending : Sending K, sending.request digests = some request →
      (sending.client.apiKey = settings.agentApiKeyCurrent ∨
        settings.agentApiKeyPrevious = some sending.client.apiKey) →
      Fresh settings.requestMaxSkewSeconds arrived (truncate sending.now) →
      Unused settings digests boot before request.nonce →
      Accepted settings digests boot before arrived request) ∧
    (∀ sendings : List (Sending K), Unforged settings digests sendings request →
      CollisionFree digests sendings request → Unbroken request →
      Accepted settings digests boot before arrived request →
      ∃ sending ∈ sendings, Carries request sending) := by
  constructor
  · intro sending hsent hkey hfresh hunused
    exact Sending.accepted hsent (mem_activeSigningKeys hkey) hfresh hunused
  · intro sendings hunforged hcollision hunbroken haccepted
    obtain ⟨nonce, stamp, hgenuine, -, -⟩ := verifyAgentSignature_ok_iff.mp haccepted
    exact Genuine.carries hgenuine hunforged hcollision hunbroken

end Send

/-! ## A ping -/

def pinging : Sending ℚ where
  client := ⟨"current", by decide⟩
  call := .radiusPing
  now := 1000
  drawn _ := 0

def pinged : Request where
  method := "GET"
  url := ⟨"/radius/ping", "", outgoing_unbroken .radiusPing, noQuery_unbroken⟩
  body := []
  timestamp := some "1000"
  nonce := some (tokenHex fun _ => 0)
  signature := some (sign plainDigests "current"
    (canonicalMessage plainDigests "1000" (tokenHex fun _ => 0) "GET" "/radius/ping" []))

theorem pinged_agrees : Accepted plainSettings plainDigests (0 : ℚ) [] 1100 pinged ∧
    ∃ sending ∈ [pinging], Carries pinged sending := by
  have hsent : pinging.request plainDigests = some pinged := by rfl
  have hagrees := signing_agrees plainSettings plainDigests (0 : ℚ) [] 1100 pinged
  have haccepted : Accepted plainSettings plainDigests (0 : ℚ) [] 1100 pinged := by
    refine hagrees.1 pinging hsent (.inl rfl) (by decide) ?_
    rintro before time request after happend
    simp at happend
  refine ⟨haccepted, hagrees.2 [pinging] ?_ ?_ ⟨?_, ?_⟩ haccepted⟩
  · intro key hkey timestamp nonce htimestamp hnonce _
    obtain rfl := Option.some.inj htimestamp
    obtain rfl := Option.some.inj hnonce
    exact ⟨pinging, List.mem_cons_self, (List.mem_singleton.mp hkey).symm, rfl⟩
  · intro sending hmem body hbody _
    rw [List.mem_singleton.mp hmem] at hbody
    exact Option.some.inj hbody
  · rintro timestamp htimestamp
    obtain rfl := Option.some.inj htimestamp
    decide
  · rintro nonce hnonce
    obtain rfl := Option.some.inj hnonce
    exact newline_notMem_hexdigest _

end InfinityRadius.NetworkAgentClient
