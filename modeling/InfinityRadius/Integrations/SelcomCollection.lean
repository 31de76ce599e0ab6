import InfinityRadius.Services.Wallet

/-!
# The Selcom Collection client

`integrations/selcom_collection`: the configuration checks, the three endpoints of
Mobile Checkout and the response models their JSON has to fit.
-/

namespace InfinityRadius.Integrations.SelcomCollection

open Amounts Payload Program Models Services

/-! ## Configuration -/

def supportedDigestMethods : List String := ["HS256", "RS256"]

def isConfigured (settings : Settings) : Bool :=
  given settings.selcomCollectionBaseUrl && given settings.selcomCollectionApiKey &&
    given settings.selcomCollectionVendor &&
    if settings.selcomCollectionDigestMethod = some "HS256" then
      given settings.selcomCollectionApiSecret
    else if settings.selcomCollectionDigestMethod = some "RS256" then
      decide (settings.selcomCollectionPrivateKey ≠ .unset)
    else false

/-- `selcom_collection_config_from_settings`, which decodes the private key. -/
def configFromSettings (settings : Settings) : Tx Unit :=
  Prog.require (settings.selcomCollectionPrivateKey ≠ .notBase64)
    (.selcomCollection (.notConfigured
      "SELCOM_COLLECTION_PRIVATE_KEY_B64 is not valid base64-encoded PEM text"))

def requireConfigured (settings : Settings) : Tx Unit := do
  Prog.require (settings.selcomCollectionDigestMethod.all supportedDigestMethods.contains = true)
    (.selcomCollection (.notConfigured
      ("SELCOM_COLLECTION_DIGEST_METHOD="
        ++ reprText (settings.selcomCollectionDigestMethod.getD "")
        ++ " is not supported — must be HS256 or RS256.")))
  Prog.require (isConfigured settings = true) (.selcomCollection (.notConfigured
    "Selcom Collection is not configured. Set SELCOM_COLLECTION_BASE_URL, SELCOM_COLLECTION_API_KEY, SELCOM_COLLECTION_VENDOR, SELCOM_COLLECTION_DIGEST_METHOD, and exactly one of SELCOM_COLLECTION_API_SECRET (HS256) / SELCOM_COLLECTION_PRIVATE_KEY_B64 (RS256) on Railway."))

/-- `SelcomCollectionClient(selcom_collection_config_from_settings())`. -/
def newClient (settings : Settings) : Tx Unit := do
  configFromSettings settings
  requireConfigured settings

/-- `sign_request`, which loads the private key only for `RS256`. -/
def signRequest (settings : Settings) : Tx Unit :=
  if settings.selcomCollectionDigestMethod = some "RS256" then
    match settings.selcomCollectionPrivateKey with
    | .notPem => throw (.valueError "Could not deserialize key data")
    | .notRsa => throw (.selcomCollection
        (.api "Configured Selcom Collection private key is not an RSA key" none))
    | _ => pure ()
  else pure ()

/-! ## Requests -/

/-- `_parse`, and the wrapping of an `HTTPError`. -/
def parse : HttpResult → Except SelcomCollectionError Json
  | .transportError detail => .error (.transport ("Selcom Collection request failed: " ++ detail))
  | .response statusCode none =>
    .error (.api "Selcom Collection returned a non-JSON response" (some statusCode))
  | .response statusCode (some body) =>
    if 400 ≤ statusCode then
      .error (.api ("Selcom Collection returned " ++ toString statusCode) (some statusCode))
    else .ok body

/-- The result of `model_validate` on a parsed answer. -/
def validated {α : Type} (model : Validator α) (answer : HttpResult) : Except Failure α :=
  match parse answer with
  | .error e => .error (.selcomCollection e)
  | .ok body =>
    match model body with
    | some response => .ok response
    | none => .error .pydanticValidation

/-- `_get` or `_post`, then `model_validate`. -/
def call {α : Type} (settings : Settings) (model : Validator α) (request : Request) :
    Tx α := do
  signRequest settings
  let answer ← sendRequest request
  match validated model answer with
  | .ok response => pure response
  | .error e => throw e

/-- `try: request except SelcomCollectionError`. -/
def attempt {α : Type} (request : Tx α) : Tx (Except SelcomCollectionError α) :=
  tryCatch (do let response ← request; pure (.ok response)) fun failure =>
    match failure with
    | .selcomCollection error => pure (.error error)
    | other => throw other

def wholeTzsAmount (amount : Decimal) : Tx String :=
  if amount.den = 1 then pure (toString amount.num)
  else throw (.valueError
    ("Selcom Collection amount must be a whole number of TZS, got " ++ decimalText amount))

/-! ## Response models -/

/-- `_normalize_data_list`. -/
def normalizeDataList : Json → List (List (String × Json))
  | .obj fields => [fields]
  | .arr items => items.filterMap fun item =>
    match item with
    | .obj fields => some fields
    | _ => none
  | _ => []

/-- `list[Model]` behind `_normalize_data_list`. -/
def dataList {α : Type} (model : List (String × Json) → Option α) : Validator (List α) :=
  fun value => (normalizeDataList value).mapM model

structure CreateOrderData where
  gatewayBuyerUuid : Option String
  paymentToken : Option String
  qr : Option String
  paymentGatewayUrl : Option String

structure CreateOrderMinimalResponse where
  reference : Option String
  resultcode : Option String
  result : Option String
  message : Option String
  data : List CreateOrderData

def createOrderData (fields : List (String × Json)) : Option CreateOrderData := do
  let gatewayBuyerUuid ← field fields ["gateway_buyer_uuid"] none optStr
  let paymentToken ← field fields ["payment_token"] none optStr
  let qr ← field fields ["qr"] none optStr
  let paymentGatewayUrl ← field fields ["payment_gateway_url"] none optStr
  pure { gatewayBuyerUuid, paymentToken, qr, paymentGatewayUrl }

def createOrderMinimalResponse : Validator CreateOrderMinimalResponse :=
  modelValidate fun fields => do
    let reference ← field fields ["reference"] none optStr
    let resultcode ← field fields ["resultcode"] none optStr
    let result ← field fields ["result"] none optStr
    let message ← field fields ["message"] none optStr
    let data ← field fields ["data"] [] (dataList createOrderData)
    pure { reference, resultcode, result, message, data }

structure WalletPaymentResponse where
  reference : Option String
  resultcode : Option String
  result : Option String
  message : Option String
  data : List (List (String × Json))

def walletPaymentResponse : Validator WalletPaymentResponse :=
  modelValidate fun fields => do
    let reference ← field fields ["reference"] none optStr
    let resultcode ← field fields ["resultcode"] none optStr
    let result ← field fields ["result"] none optStr
    let message ← field fields ["message"] none optStr
    let data ← field fields ["data"] [] (dataList some)
    pure { reference, resultcode, result, message, data }

structure OrderStatusData where
  orderId : Option String
  creationDate : Option String
  amount : Option Decimal
  paymentStatus : Option String
  transid : Option String
  channel : Option String
  reference : Option String
  phone : Option String
  currency : Option String

structure OrderStatusResponse where
  reference : Option String
  resultcode : Option String
  result : Option String
  message : Option String
  data : List OrderStatusData

/-- `_accept_msisdn_alias`. -/
def acceptMsisdnAlias (fields : List (String × Json)) : List (String × Json) :=
  match lookup fields "msisdn" with
  | some msisdn =>
    if !(lookup fields "phone").any Json.truthy && msisdn.truthy then
      fields ++ [("phone", msisdn)]
    else fields
  | none => fields

def orderStatusData (fields : List (String × Json)) : Option OrderStatusData := do
  let fields := acceptMsisdnAlias fields
  let orderId ← field fields ["order_id"] none optStr
  let creationDate ← field fields ["creation_date"] none optStr
  let amount ← field fields ["amount"] none optDecimal
  let paymentStatus ← field fields ["payment_status"] none optStr
  let transid ← field fields ["transid"] none optStr
  let channel ← field fields ["channel"] none optStr
  let reference ← field fields ["reference"] none optStr
  let phone ← field fields ["phone"] none optStr
  let currency ← field fields ["currency"] none optStr
  pure { orderId, creationDate, amount, paymentStatus, transid, channel, reference, phone,
         currency }

def orderStatusResponse : Validator OrderStatusResponse :=
  modelValidate fun fields => do
    let reference ← field fields ["reference"] none optStr
    let resultcode ← field fields ["resultcode"] none optStr
    let result ← field fields ["result"] none optStr
    let message ← field fields ["message"] none optStr
    let data ← field fields ["data"] [] (dataList orderStatusData)
    pure { reference, resultcode, result, message, data }

def OrderStatusResponse.first (response : OrderStatusResponse) : Option OrderStatusData :=
  response.data.head?

structure WebhookPayload where
  transid : Option String
  orderId : Option String
  reference : Option String
  result : Option String
  resultcode : Option String
  paymentStatus : Option String
  channel : Option String
  amount : Option Decimal
  phone : Option String

def webhookPayload : Validator WebhookPayload :=
  modelValidate fun fields => do
    let transid ← field fields ["transid"] none optStr
    let orderId ← field fields ["order_id"] none optStr
    let reference ← field fields ["reference"] none optStr
    let result ← field fields ["result"] none optStr
    let resultcode ← field fields ["resultcode"] none optStr
    let paymentStatus ← field fields ["payment_status"] none optStr
    let channel ← field fields ["channel"] none optStr
    let amount ← field fields ["amount"] none optDecimal
    let phone ← field fields ["phone"] none optStr
    pure { transid, orderId, reference, result, resultcode, paymentStatus, channel, amount,
           phone }

/-! ## Endpoints -/

section Endpoints

variable (settings : Settings)

def createOrderMinimal (orderId buyerEmail buyerName buyerPhone : String) (amount : Decimal)
    (currency : String) (noOfItems : ℕ) (webhookUrlB64 merchantRemarks : Option String) :
    Tx CreateOrderMinimalResponse := do
  let amount ← wholeTzsAmount amount
  call settings createOrderMinimalResponse
    (.createOrderMinimal (settings.selcomCollectionVendor.getD "") orderId buyerEmail buyerName
      buyerPhone amount currency noOfItems webhookUrlB64 merchantRemarks)

def walletPayment (transid orderId msisdn : String) : Tx WalletPaymentResponse :=
  call settings walletPaymentResponse (.walletPayment transid orderId msisdn)

def orderStatus (orderId : String) : Tx OrderStatusResponse :=
  call settings orderStatusResponse (.orderStatus orderId)

end Endpoints

/-! ## Rules -/

/-- The settings let a request be signed. -/
def Signs (settings : Settings) : Prop :=
  settings.selcomCollectionDigestMethod = some "RS256" →
    settings.selcomCollectionPrivateKey ≠ .notPem ∧ settings.selcomCollectionPrivateKey ≠ .notRsa

instance (settings : Settings) : Decidable (Signs settings) :=
  inferInstanceAs (Decidable (_ → _))

section Rules

open Sql

variable {aside : Table → Bool} {α : Type} {raises : Failure → PlatformWorld → Prop}
  {world : PlatformWorld} {settings : Settings}

theorem always_newClient {returns : Unit → PlatformWorld → Prop}
    (hreturns : isConfigured settings = true → returns () world)
    (hraises : ∀ e, raises (.selcomCollection e) world) :
    Always aside returns raises (newClient settings) world := by
  refine always_bind.mpr (always_require (fun _ => ?_) (fun _ => hraises _))
  refine always_bind.mpr (always_require (fun _ => ?_) (fun _ => hraises _))
  exact always_require hreturns (fun _ => hraises _)

theorem always_signRequest {returns : Unit → PlatformWorld → Prop}
    (hsigned : Signs settings → returns () world)
    (hunsigned : ¬Signs settings → ∀ e, raises e world) :
    Always aside returns raises (signRequest settings) world := by
  unfold signRequest
  split
  · rename_i hdigest
    split
    · rename_i hkey
      exact hunsigned (fun h => (h hdigest).1 hkey) _
    · rename_i hkey
      exact hunsigned (fun h => (h hdigest).2 hkey) _
    · rename_i hpem hrsa
      exact hsigned fun _ => ⟨hpem, hrsa⟩
  · rename_i hdigest
    exact hsigned fun h => absurd h hdigest

theorem always_call {model : Validator α} {request : Request}
    {returns : α → PlatformWorld → Prop}
    (hsent : Signs settings → ∀ answer,
      match validated model answer with
      | .ok response => returns response
          { world with sent := world.sent ++ [(request, answer)] }
      | .error e => raises e { world with sent := world.sent ++ [(request, answer)] })
    (hunsent : ¬Signs settings → ∀ e, raises e world) :
    Always aside returns raises (call settings model request) world := by
  refine always_bind.mpr (always_signRequest (fun hsigns => ?_) hunsent)
  refine always_bind.mpr (always_sendRequest.mpr fun answer => ?_)
  have h := hsent hsigns answer
  cases hvalidated : validated model answer with
  | ok response => rwa [hvalidated] at h
  | error e => rwa [hvalidated] at h

/-- An answer raises what `parse` says of it, or fails its model. -/
theorem validated_error {model : Validator α} {answer : HttpResult} {failure : Failure}
    (h : validated model answer = .error failure) :
    (∃ error, parse answer = .error error ∧ failure = .selcomCollection error) ∨
      failure = .pydanticValidation := by
  unfold validated at h
  split at h
  · rename_i error hparse
    exact Or.inl ⟨error, hparse, (Except.error.inj h).symm⟩
  · split at h
    · cases h
    · exact Or.inr (Except.error.inj h).symm

/-- A request whose Selcom errors are handled. -/
theorem always_attempt {model : Validator α} {request : Request}
    {returns : Except SelcomCollectionError α → PlatformWorld → Prop}
    (hvalid : Signs settings → ∀ answer response, validated model answer = .ok response →
      returns (.ok response) { world with sent := world.sent ++ [(request, answer)] })
    (hrefused : Signs settings → ∀ answer error, parse answer = .error error →
      returns (.error error) { world with sent := world.sent ++ [(request, answer)] })
    (hinvalid : Signs settings → ∀ answer,
      raises .pydanticValidation { world with sent := world.sent ++ [(request, answer)] })
    (hunsigned : ¬Signs settings →
      (∀ error, returns (.error error) world) ∧ ∀ e, raises e world) :
    Always aside returns raises (attempt (call settings model request)) world := by
  apply always_tryCatch.mpr
  apply always_bind.mpr
  apply always_call
  · intro hsigns answer
    cases hvalidated : validated model answer with
    | ok response => exact hvalid hsigns answer response hvalidated
    | error failure =>
      rcases validated_error hvalidated with ⟨error, hparse, rfl⟩ | rfl
      · exact hrefused hsigns answer error hparse
      · exact hinvalid hsigns answer
  · intro hsigns e
    cases e with
    | selcomCollection error => exact (hunsigned hsigns).1 error
    | _ => exact (hunsigned hsigns).2 _

end Rules

end InfinityRadius.Integrations.SelcomCollection
