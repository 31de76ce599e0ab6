import InfinityRadius.Core.RequestSigning

/-!
# Signed webhooks

`integrations/selcom_collection/signing.py`: how an inbound webhook of Selcom Collection is
verified.  The signing string is Selcom's own: it joins names and values with `=` and `&` and
escapes neither, and the webhook declares itself which of its fields are signed.  A signature
therefore binds the string, and the fields as far as the string tells them apart.
-/

namespace InfinityRadius.Integrations.SelcomCollection

open Payload RequestSigning

/-! ## The signing string -/

/-- `canonical_signing_string`. -/
def canonicalSigningString (timestamp : String) (fields : List (String × String)) : String :=
  "&".intercalate
    (("timestamp=" ++ timestamp) :: fields.map fun field => field.1 ++ "=" ++ field.2)

/-- No separator of the signing string is in the timestamp, the names or the values; the values
may hold `=`, since the first one ends the name. -/
structure Plain (timestamp : String) (fields : List (String × String)) : Prop where
  timestamp : '&' ∉ timestamp.toList
  names : ∀ field ∈ fields, '&' ∉ field.1.toList ∧ '=' ∉ field.1.toList
  values : ∀ field ∈ fields, '&' ∉ field.2.toList

/-- The characters of one part of the signing string. -/
def partChars (field : String × String) : List Char := field.1.toList ++ '=' :: field.2.toList

theorem toList_canonicalSigningString (timestamp : String) (fields : List (String × String)) :
    (canonicalSigningString timestamp fields).toList =
      ['&'].intercalate (partChars ("timestamp", timestamp) :: fields.map partChars) := by
  rw [canonicalSigningString, String.toList_intercalate, List.map_cons, List.map_map]
  congr 2
  · rw [partChars, String.toList_append]
    have hname : "timestamp=".toList = "timestamp".toList ++ ['='] := rfl
    rw [hname, List.append_assoc, List.singleton_append]
  · apply List.map_congr_left
    intro field _
    rw [Function.comp_apply, partChars, String.toList_append, String.toList_append]
    simp

theorem partChars_inj {field field' : String × String} (hname : '=' ∉ field.1.toList)
    (hname' : '=' ∉ field'.1.toList) (h : partChars field = partChars field') :
    field = field' := by
  obtain ⟨hnames, hvalues⟩ := append_cons_inj_left hname hname' h
  exact Prod.ext (String.toList_inj.mp hnames) (String.toList_inj.mp hvalues)

theorem Plain.notMem {timestamp : String} {fields : List (String × String)}
    (h : Plain timestamp fields) :
    ∀ part ∈ partChars ("timestamp", timestamp) :: fields.map partChars, '&' ∉ part := by
  have hpart : ∀ field : String × String, '&' ∉ field.1.toList → '&' ∉ field.2.toList →
      '&' ∉ partChars field := by
    intro field hname hvalue hmem
    rcases List.mem_append.mp hmem with hmem | hmem
    · exact hname hmem
    · exact hvalue ((List.mem_cons.mp hmem).resolve_left (by decide))
  intro part hmem
  rcases List.mem_cons.mp hmem with rfl | hmem
  · have hname : '&' ∉ "timestamp".toList := by decide
    exact hpart _ hname h.timestamp
  · obtain ⟨field, hfield, rfl⟩ := List.mem_map.mp hmem
    exact hpart field (h.names field hfield).1 (h.values field hfield)

theorem map_partChars_inj {fields fields' : List (String × String)}
    (hnames : ∀ field ∈ fields, '=' ∉ field.1.toList)
    (hnames' : ∀ field ∈ fields', '=' ∉ field.1.toList)
    (h : fields.map partChars = fields'.map partChars) : fields = fields' := by
  induction fields generalizing fields' with
  | nil => exact (List.map_eq_nil_iff.mp h.symm).symm
  | cons field rest ih =>
    cases fields' with
    | nil => cases h
    | cons field' rest' =>
      obtain ⟨hfield, hrest⟩ := List.cons.inj h
      rw [partChars_inj (hnames field List.mem_cons_self) (hnames' field' List.mem_cons_self) hfield,
        ih (fun other hother => hnames other (List.mem_cons_of_mem _ hother))
          (fun other hother => hnames' other (List.mem_cons_of_mem _ hother)) hrest]

/-- Without separators in them, the signing string tells the timestamp and the fields. -/
theorem canonicalSigningString_inj {timestamp timestamp' : String}
    {fields fields' : List (String × String)} (hplain : Plain timestamp fields)
    (hplain' : Plain timestamp' fields')
    (h : canonicalSigningString timestamp fields = canonicalSigningString timestamp' fields') :
    timestamp = timestamp' ∧ fields = fields' := by
  have hchars := congrArg String.toList h
  rw [toList_canonicalSigningString, toList_canonicalSigningString] at hchars
  have hparts := congrArg (List.splitOn '&') hchars
  rw [List.splitOn_intercalate '&' hplain.notMem (List.cons_ne_nil _ _),
    List.splitOn_intercalate '&' hplain'.notMem (List.cons_ne_nil _ _)] at hparts
  obtain ⟨hstamp, hfields⟩ := List.cons.inj hparts
  have hname : '=' ∉ "timestamp".toList := by decide
  have hstamps := partChars_inj hname hname hstamp
  exact ⟨congrArg Prod.snd hstamps,
    map_partChars_inj (fun field hfield => (hplain.names field hfield).2)
      (fun field hfield => (hplain'.names field hfield).2) hfields⟩

/-! ## Verification -/

/-- `str.lower()` of one character.  Characters outside ASCII are listed only where their lower
case has an ASCII letter. -/
def lowerChar (c : Char) : List Char :=
  if 'A' ≤ c ∧ c ≤ 'Z' then [Char.ofNat (c.toNat + 32)]
  else if c.toNat = 0x212a then ['k']
  else if c.toNat = 0x130 then ['i', Char.ofNat 0x307]
  else [c]

def lower (text : String) : String := String.ofList (text.toList.flatMap lowerChar)

/-- A `datetime`: what its clock shows, in microseconds, and its offset from UTC if it has one. -/
structure DateTime where
  clock : ℤ
  utcoffset : Option ℤ

/-- The moment, a `datetime` without an offset being taken for UTC. -/
def DateTime.moment (time : DateTime) : ℤ := time.clock - time.utcoffset.getD 0

/-- A call of `verify_webhook_request`, with the time it reads the clock. -/
structure WebhookRequest where
  apiKey : String
  digestMethod : String
  apiSecret : Option String
  headers : List (String × String)
  bodyFields : List (String × String)
  maxSkewSeconds : ℤ
  now : ℤ

inductive VerificationFailure
  /-- `SelcomCollectionWebhookVerificationError`. -/
  | webhookVerification (detail : String)
  /-- `TypeError` of `compare_digest`. -/
  | typeError
deriving DecidableEq

/-- `repr` of an optional text. -/
def reprOpt : Option String → String
  | some text => reprText text
  | none => "None"

/-- `repr` of a list of texts. -/
def reprList (texts : List String) : String := "[" ++ ", ".intercalate (texts.map reprText) ++ "]"

namespace WebhookRequest

/-- `headers_lower.get(name.lower())`. -/
def header (request : WebhookRequest) (name : String) : Option String :=
  (request.headers.reverse.find? fun item => lower item.1 == lower name).map Prod.snd

/-- The value of a field of the body. -/
def value (request : WebhookRequest) (name : String) : Option String :=
  (request.bodyFields.find? fun field => field.1 == name).map Prod.snd

/-- The fields a list of names stands for, in the order the names come up first. -/
def ordered (request : WebhookRequest) (names : List String) : List (String × String) :=
  names.eraseDups.map fun name => (name, (request.value name).getD "")

end WebhookRequest

/-- The names a `Signed-Fields` header lists. -/
def signedFieldNames (listed : String) : List String :=
  ((listed.toList.splitOn ',').map fun name => strip (String.ofList name)).filter
    fun name => !name.isEmpty

section Verify

variable (digests : Digests)

/-- `base64.b64encode` of some bytes. -/
def base64Bytes (bytes : List UInt8) : String :=
  String.ofList (base64Chars (bytes.map UInt8.toNat))

/-- `_digest_hs256`. -/
def digestHs256 (apiSecret message : String) : String :=
  base64Bytes (digests.hmac (encode apiSecret) (encode message))

/-- `compute_digest_for_verification`, or the text of its `SelcomCollectionAPIError`. -/
def computeDigestForVerification (request : WebhookRequest) (timestamp : String)
    (names : List String) : Except String String :=
  let message := canonicalSigningString timestamp (request.ordered names)
  if request.digestMethod = "HS256" then
    if given request.apiSecret then
      .ok (digestHs256 digests (request.apiSecret.getD "") message)
    else .error "HS256 verification requires api_secret"
  else if request.digestMethod = "RS256" then
    .error "RS256 webhook verification is not implemented — Selcom has not published a public key for this; see docs/architecture.md's Collection section."
  else .error ("Unsupported digest method: " ++ reprText request.digestMethod)

/-- The comparison of a text that may be missing or empty. -/
def matchesExpected (received : Option String) (expected : String) : Option Bool :=
  if given received then compareDigest (received.getD "") expected else some false

variable (fromisoformat : String → Option DateTime)

/-- The checks of the digest, once the headers were found. -/
def verifyDigest (request : WebhookRequest) (timestamp digest listed : String) :
    Except VerificationFailure Unit :=
  let names := signedFieldNames listed
  let missing := names.filter fun name => !(request.value name).isSome
  if missing ≠ [] then
    .error (.webhookVerification
      ("Signed-Fields references field(s) not present in body: " ++ reprList missing))
  else
    match computeDigestForVerification digests request timestamp names with
    | .error text => .error (.webhookVerification text)
    | .ok expectedDigest =>
      match compareDigest expectedDigest digest with
      | none => .error .typeError
      | some false => .error (.webhookVerification "Digest did not match")
      | some true => .ok ()

/-- The checks of the timestamp and the digest. -/
def verifySigned (request : WebhookRequest) (timestamp digest listed : String) :
    Except VerificationFailure Unit :=
  match fromisoformat timestamp with
  | none => .error (.webhookVerification "Unparseable Timestamp header")
  | some requestTime =>
    if |request.now - requestTime.moment| > request.maxSkewSeconds * 1000000 then
      .error (.webhookVerification "Timestamp outside tolerance")
    else verifyDigest digests request timestamp digest listed

/-- `verify_webhook_request`. -/
def verifyWebhookRequest (request : WebhookRequest) : Except VerificationFailure Unit :=
  match matchesExpected (request.header "Authorization") ("SELCOM " ++ base64 request.apiKey) with
  | none => .error .typeError
  | some false => .error (.webhookVerification "Authorization header did not match")
  | some true =>
    let received := request.header "Digest-Method"
    if received ≠ some request.digestMethod then
      .error (.webhookVerification ("Digest-Method " ++ reprOpt received
        ++ " does not match configured " ++ reprText request.digestMethod))
    else
      let timestamp := request.header "Timestamp"
      let digest := request.header "Digest"
      let listed := request.header "Signed-Fields"
      if given timestamp && given digest && given listed then
        verifySigned digests fromisoformat request (timestamp.getD "") (digest.getD "")
          (listed.getD "")
      else .error (.webhookVerification "Missing Timestamp/Digest/Signed-Fields")

/-! ## What an accepted webhook shows -/

/-- The digest is the one of the signing string the webhook itself describes. -/
structure Verified (request : WebhookRequest) (timestamp listed secret : String) : Prop where
  stamped : request.header "Timestamp" = some timestamp
  lists : request.header "Signed-Fields" = some listed
  keyed : request.apiSecret = some secret
  carried : ∀ name ∈ signedFieldNames listed, (request.value name).isSome = true
  digest : request.header "Digest" = some (digestHs256 digests secret
    (canonicalSigningString timestamp (request.ordered (signedFieldNames listed))))

variable {digests fromisoformat} {request : WebhookRequest} {timestamp digest listed : String}

theorem exists_of_given {text : Option String} (h : given text = true) :
    ∃ value, text = some value ∧ value ≠ "" := by
  cases text with
  | none => cases h
  | some value => exact ⟨value, rfl, by simpa [given] using h⟩

theorem computeDigestForVerification_ok {names : List String} {expected : String}
    (h : computeDigestForVerification digests request timestamp names = .ok expected) :
    ∃ secret, request.apiSecret = some secret ∧
      expected = digestHs256 digests secret
        (canonicalSigningString timestamp (request.ordered names)) := by
  rw [computeDigestForVerification] at h
  split at h
  · split at h
    · rename_i hgiven
      obtain ⟨secret, hsecret, -⟩ := exists_of_given hgiven
      use secret, hsecret
      rw [hsecret] at h
      exact (Except.ok.inj h).symm
    · cases h
  · split at h
    · cases h
    · cases h

theorem verifyDigest_ok (h : verifyDigest digests request timestamp digest listed = .ok ()) :
    ∃ secret, request.apiSecret = some secret ∧
      (∀ name ∈ signedFieldNames listed, (request.value name).isSome = true) ∧
      digest = digestHs256 digests secret
        (canonicalSigningString timestamp (request.ordered (signedFieldNames listed))) := by
  rw [verifyDigest] at h
  split at h
  · cases h
  · rename_i hmissing
    split at h
    · cases h
    · rename_i expected hexpected
      obtain ⟨secret, hsecret, rfl⟩ := computeDigestForVerification_ok hexpected
      refine ⟨secret, hsecret, ?_, ?_⟩
      · have hnone := List.filter_eq_nil_iff.mp (not_not.mp hmissing)
        intro name hname
        exact Option.isSome_iff_ne_none.mpr (by simpa using hnone name hname)
      · split at h
        · cases h
        · cases h
        · rename_i hequal
          exact (eq_of_compareDigest hequal).symm

theorem verifyWebhookRequest_ok
    (h : verifyWebhookRequest digests fromisoformat request = .ok ()) :
    ∃ timestamp listed secret, Verified digests request timestamp listed secret := by
  rw [verifyWebhookRequest] at h
  split at h
  · cases h
  · cases h
  dsimp only at h
  split at h
  · cases h
  split at h
  · rename_i hgiven
    simp only [Bool.and_eq_true] at hgiven
    obtain ⟨⟨htimestamp, hdigest⟩, hlisted⟩ := hgiven
    obtain ⟨timestamp, htimestamp, -⟩ := exists_of_given htimestamp
    obtain ⟨digest, hdigest, -⟩ := exists_of_given hdigest
    obtain ⟨listed, hlisted, -⟩ := exists_of_given hlisted
    rw [htimestamp, hdigest, hlisted, verifySigned] at h
    split at h
    · cases h
    split at h
    · cases h
    obtain ⟨secret, hsecret, hcarried, hequal⟩ := verifyDigest_ok h
    rw [Option.getD_some, Option.getD_some] at hequal
    exact ⟨timestamp, listed, secret, htimestamp, hlisted, hsecret, hcarried, hequal ▸ hdigest⟩
  · cases h

theorem isAscii_base64Digit (n : ℕ) : (base64Digit n).isAscii = true := by
  rw [base64Digit, List.getD_eq_getElem?_getD]
  cases hdigit : ("ABCDEFGHIJKLMNOPQRSTUVWXYZabcdefghijklmnopqrstuvwxyz0123456789+/".toList)[n]? with
  | none => rfl
  | some c =>
    have hascii : "ABCDEFGHIJKLMNOPQRSTUVWXYZabcdefghijklmnopqrstuvwxyz0123456789+/".toList.all
        Char.isAscii = true := by decide
    exact List.all_eq_true.mp hascii c (List.mem_of_getElem? hdigit)

theorem isAscii_base64Chars (codes : List ℕ) : (base64Chars codes).all Char.isAscii = true := by
  fun_induction base64Chars codes <;> simp_all [isAscii_base64Digit] <;> decide

theorem isAscii_base64 (text : String) : (base64 text).toList.all Char.isAscii = true := by
  rw [base64, String.toList_ofList]
  exact isAscii_base64Chars _

theorem isAscii_digestHs256 (digests : Digests) (apiSecret message : String) :
    (digestHs256 digests apiSecret message).toList.all Char.isAscii = true := by
  rw [digestHs256, base64Bytes, String.toList_ofList]
  exact isAscii_base64Chars _

theorem digestHs256_ne_empty (digests : Digests) (apiSecret message : String) :
    digestHs256 digests apiSecret message ≠ "" := by
  intro hempty
  have hlength := digests.hmac_length (encode apiSecret) (encode message)
  have hchars := congrArg String.toList hempty
  rw [digestHs256, base64Bytes, String.toList_ofList] at hchars
  match hbytes : digests.hmac (encode apiSecret) (encode message) with
  | [] | [_] | [_, _] => simp [hbytes] at hlength
  | _ :: _ :: _ :: _ =>
    rw [hbytes] at hchars
    cases hchars

theorem compareDigest_self {text : String} (h : text.toList.all Char.isAscii = true) :
    compareDigest text text = some true := by
  rw [compareDigest, h]
  simp

/-- What is verified in time and under the right key passes. -/
theorem verifyWebhookRequest_of_verified {secret : String} {time : DateTime}
    (hverified : Verified digests request timestamp listed secret)
    (hauthorization : request.header "Authorization" = some ("SELCOM " ++ base64 request.apiKey))
    (hreceived : request.header "Digest-Method" = some request.digestMethod)
    (hmethod : request.digestMethod = "HS256") (hsecret : secret ≠ "") (hlisted : listed ≠ "")
    (htimestamp : timestamp ≠ "") (htime : fromisoformat timestamp = some time)
    (hfresh : |request.now - time.moment| ≤ request.maxSkewSeconds * 1000000) :
    verifyWebhookRequest digests fromisoformat request = .ok () := by
  have hgiven : ∀ text : String, text ≠ "" → given (some text) = true :=
    fun text h => by simpa [given] using h
  have hmatches : matchesExpected (some ("SELCOM " ++ base64 request.apiKey))
      ("SELCOM " ++ base64 request.apiKey) = some true := by
    rw [matchesExpected, if_pos (hgiven _ (by simp)), Option.getD_some]
    apply compareDigest_self
    rw [String.toList_append, List.all_append, isAscii_base64]
    rfl
  have hexpected : computeDigestForVerification digests request timestamp
      (signedFieldNames listed) = .ok (digestHs256 digests secret
        (canonicalSigningString timestamp (request.ordered (signedFieldNames listed)))) := by
    rw [computeDigestForVerification, if_pos hmethod, hverified.keyed, if_pos (hgiven _ hsecret)]
    rfl
  have hmissing : (signedFieldNames listed).filter
      (fun name => !(request.value name).isSome) = [] := by
    apply List.filter_eq_nil_iff.mpr
    intro name hname
    simp [hverified.carried name hname]
  rw [verifyWebhookRequest, hauthorization, hmatches]
  dsimp only
  rw [if_neg (not_not.mpr hreceived), hverified.stamped, hverified.digest, hverified.lists,
    hgiven _ htimestamp, hgiven _ (digestHs256_ne_empty _ _ _), hgiven _ hlisted]
  rw [Bool.and_self, Bool.and_self, if_pos rfl, Option.getD_some, Option.getD_some,
    Option.getD_some, verifySigned, htime]
  dsimp only
  rw [if_neg (not_lt.mpr hfresh), verifyDigest, if_neg (not_not.mpr hmissing), hexpected]
  dsimp only
  rw [compareDigest_self (isAscii_digestHs256 _ _ _)]

/-! ## What a signature binds -/

/-- A timestamp and fields that were signed. -/
structure Signing where
  timestamp : String
  fields : List (String × String)

def Signing.text (signing : Signing) : String :=
  canonicalSigningString signing.timestamp signing.fields

abbrev Signing.IsPlain (signing : Signing) : Prop := Plain signing.timestamp signing.fields

/-- What a webhook presents as signed. -/
def WebhookRequest.presented (request : WebhookRequest) (timestamp listed : String) : Signing :=
  ⟨timestamp, request.ordered (signedFieldNames listed)⟩

variable (digests) in
/-- HMAC idealised: a digest that matches what its webhook presents was made with the secret, of
that very text. -/
def Unforged (signings : List Signing) (request : WebhookRequest) : Prop :=
  ∀ timestamp listed secret, request.header "Timestamp" = some timestamp →
    request.header "Signed-Fields" = some listed → request.apiSecret = some secret →
    request.header "Digest" =
      some (digestHs256 digests secret (request.presented timestamp listed).text) →
    ∃ signing ∈ signings, signing.text = (request.presented timestamp listed).text

/-- An accepted webhook presents a text that was signed, and carries every field it lists; where
neither what it presents nor what was signed holds a separator, that is what was signed. -/
theorem accepted_binds {signings : List Signing}
    (haccepted : verifyWebhookRequest digests fromisoformat request = .ok ())
    (hunforged : Unforged digests signings request) :
    ∃ timestamp listed, request.header "Timestamp" = some timestamp ∧
      request.header "Signed-Fields" = some listed ∧
      (∀ name ∈ signedFieldNames listed, (request.value name).isSome = true) ∧
      ∃ signing ∈ signings, signing.text = (request.presented timestamp listed).text ∧
        (signing.IsPlain → (request.presented timestamp listed).IsPlain →
          signing = request.presented timestamp listed) := by
  obtain ⟨timestamp, listed, secret, hverified⟩ := verifyWebhookRequest_ok haccepted
  obtain ⟨signing, hsigning, htext⟩ := hunforged timestamp listed secret hverified.stamped
    hverified.lists hverified.keyed hverified.digest
  refine ⟨timestamp, listed, hverified.stamped, hverified.lists, hverified.carried, signing,
    hsigning, htext, fun hplain hplain' => ?_⟩
  obtain ⟨htimestamp, hfields⟩ := canonicalSigningString_inj hplain hplain' htext
  rw [Signing.mk.injEq]
  exact ⟨htimestamp, hfields⟩

end Verify

/-! ## A webhook that is presented again -/

/-- `fromisoformat` of the one timestamp the samples carry. -/
def sampleIsoformat (text : String) : Option DateTime :=
  if text = "2026-01-01T00:00:00+00:00" then some ⟨1767225600000000, some 0⟩ else none

/-- What Selcom signed: the result of an order. -/
def signedResult : Signing where
  timestamp := "2026-01-01T00:00:00+00:00"
  fields := [("resultcode", "000"), ("order_id", "INF-1")]

/-- A webhook with the digest of that result. -/
def carrying (listed : String) (bodyFields : List (String × String)) : WebhookRequest where
  apiKey := "key"
  digestMethod := "HS256"
  apiSecret := some "secret"
  headers := [("authorization", "SELCOM " ++ base64 "key"),
    ("timestamp", "2026-01-01T00:00:00+00:00"), ("digest-method", "HS256"),
    ("digest", digestHs256 plainDigests "secret" signedResult.text), ("signed-fields", listed)]
  bodyFields
  maxSkewSeconds := 300
  now := 1767225610000000

/-- The result as Selcom sent it. -/
def genuine : WebhookRequest :=
  carrying "resultcode,order_id" [("resultcode", "000"), ("order_id", "INF-1")]

/-- The same digest, the order being another and out of the signed part. -/
def relisted : WebhookRequest :=
  carrying "resultcode" [("resultcode", "000&order_id=INF-1"), ("order_id", "INF-2")]

theorem lowerNames : lower "Authorization" = "authorization" ∧
    lower "Digest-Method" = "digest-method" ∧ lower "Timestamp" = "timestamp" ∧
    lower "Digest" = "digest" ∧ lower "Signed-Fields" = "signed-fields" ∧
    lower "authorization" = "authorization" ∧ lower "digest-method" = "digest-method" ∧
    lower "timestamp" = "timestamp" ∧ lower "digest" = "digest" ∧
    lower "signed-fields" = "signed-fields" := by
  decide +kernel

/-- A webhook with the digest of the result is accepted where it presents the same text. -/
theorem carrying_accepted {listed : String} {bodyFields : List (String × String)}
    (hlisted : listed ≠ "")
    (hcarried : (signedFieldNames listed).all
      (fun name => ((carrying listed bodyFields).value name).isSome) = true)
    (htext : ((carrying listed bodyFields).presented "2026-01-01T00:00:00+00:00" listed).text =
      signedResult.text) :
    verifyWebhookRequest plainDigests sampleIsoformat (carrying listed bodyFields) = .ok () := by
  have hverified : Verified plainDigests (carrying listed bodyFields) "2026-01-01T00:00:00+00:00"
      listed "secret" := by
    constructor
    · simp [WebhookRequest.header, carrying, List.find?, lowerNames]
    · simp [WebhookRequest.header, carrying, lowerNames]
    · rfl
    · exact List.all_eq_true.mp hcarried
    · have htext : canonicalSigningString "2026-01-01T00:00:00+00:00"
          ((carrying listed bodyFields).ordered (signedFieldNames listed)) =
            signedResult.text := htext
      rw [htext]
      simp [WebhookRequest.header, carrying, List.find?, lowerNames]
  have htime : sampleIsoformat "2026-01-01T00:00:00+00:00" =
    some ⟨1767225600000000, some 0⟩ := rfl
  apply verifyWebhookRequest_of_verified hverified _ _ rfl (by decide) hlisted (by decide) htime
  · change |(1767225610000000 : ℤ) - (1767225600000000 - 0)| ≤ 300 * 1000000
    decide
  · simp [WebhookRequest.header, carrying, List.find?, lowerNames]
  · simp [WebhookRequest.header, carrying, List.find?, lowerNames]

theorem carrying_unforged (listed : String) (bodyFields : List (String × String))
    (htext : ((carrying listed bodyFields).presented "2026-01-01T00:00:00+00:00" listed).text =
      signedResult.text) : Unforged plainDigests [signedResult] (carrying listed bodyFields) := by
  intro timestamp listed' secret hstamped hlists _ _
  have htimestamp : (carrying listed bodyFields).header "Timestamp" =
      some "2026-01-01T00:00:00+00:00" := by
    simp [WebhookRequest.header, carrying, List.find?, lowerNames]
  have hsigned : (carrying listed bodyFields).header "Signed-Fields" = some listed := by
    simp [WebhookRequest.header, carrying, lowerNames]
  obtain rfl := Option.some.inj (htimestamp.symm.trans hstamped)
  obtain rfl := Option.some.inj (hsigned.symm.trans hlists)
  exact ⟨signedResult, List.mem_cons_self, htext.symm⟩

/-- The result as Selcom sent it presents what was signed. -/
theorem genuine_binds : ∃ timestamp listed, genuine.header "Timestamp" = some timestamp ∧
    genuine.header "Signed-Fields" = some listed ∧
    (∀ name ∈ signedFieldNames listed, (genuine.value name).isSome = true) ∧
    ∃ signing ∈ [signedResult], signing.text = (genuine.presented timestamp listed).text ∧
      (signing.IsPlain → (genuine.presented timestamp listed).IsPlain →
        signing = genuine.presented timestamp listed) := by
  have htext : (genuine.presented "2026-01-01T00:00:00+00:00" "resultcode,order_id").text =
      signedResult.text := by
    decide +kernel
  exact accepted_binds (carrying_accepted (by decide) (by decide +kernel) htext)
    (carrying_unforged _ _ htext)

/-- With the same digest, another body is accepted whose order is not the one that was signed. -/
theorem relisted_accepted :
    verifyWebhookRequest plainDigests sampleIsoformat relisted = .ok () ∧
      Unforged plainDigests [signedResult] relisted ∧
      relisted.header "Signed-Fields" = some "resultcode" ∧
      relisted.value "order_id" = some "INF-2" ∧
      ∀ timestamp, signedResult.fields ≠ (relisted.presented timestamp "resultcode").fields := by
  have htext : (relisted.presented "2026-01-01T00:00:00+00:00" "resultcode").text =
      signedResult.text := by
    decide +kernel
  refine ⟨carrying_accepted (by decide) (by decide +kernel) htext, carrying_unforged _ _ htext,
    ?_, by decide, fun timestamp => ?_⟩
  · simp [relisted, WebhookRequest.header, carrying, lowerNames]
  · change signedResult.fields ≠ relisted.ordered (signedFieldNames "resultcode")
    decide +kernel

end InfinityRadius.Integrations.SelcomCollection
