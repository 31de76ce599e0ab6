import InfinityRadius.Models.Repository

/-!
# The Selcom Business client

`integrations/selcom_business`: the configuration checks, the three endpoints a
payout uses, the response models their JSON has to fit, and what a result code
is taken to mean.
-/

namespace InfinityRadius.Integrations.SelcomBusiness

open Amounts Payload Program Models

/-! ## Configuration -/

def selcomEnvironmentValue : SelcomEnvironment → String
  | .sandbox => "sandbox"
  | .production => "production"

def isConfigured (settings : Settings) : Bool :=
  settings.selcomBusinessBaseUrl.any (fun url => !url.text.isEmpty) &&
    given settings.selcomBusinessApiKey &&
    decide (settings.selcomBusinessPrivateKey ≠ .unset)

/-- `base_url_matches_environment`. -/
def baseUrlMatchesEnvironment (settings : Settings) : Bool :=
  match settings.selcomBusinessBaseUrl with
  | none => true
  | some url =>
    url.text.isEmpty ||
      match settings.selcomBusinessEnvironment with
      | .sandbox => decide ("sandbox".toList <:+: url.hostname.toList)
      | .production => url.hostname == "api.selcom.business"

/-- `selcom_business_config_from_settings`, which decodes the private key. -/
def configFromSettings (settings : Settings) : Tx Unit :=
  Prog.require (settings.selcomBusinessPrivateKey ≠ .notBase64) (.selcomBusiness (.notConfigured
    "SELCOM_BUSINESS_PRIVATE_KEY_B64 is not valid base64-encoded PEM text"))

def requireConfigured (settings : Settings) : Tx Unit := do
  Prog.require (isConfigured settings = true) (.selcomBusiness (.notConfigured
    "Selcom Business API is not configured. Set SELCOM_BUSINESS_BASE_URL, SELCOM_BUSINESS_API_KEY, and SELCOM_BUSINESS_PRIVATE_KEY_B64 on Railway."))
  Prog.require (baseUrlMatchesEnvironment settings = true) (.selcomBusiness (.misconfigured
    ("SELCOM_BUSINESS_BASE_URL does not match SELCOM_BUSINESS_ENVIRONMENT='"
      ++ selcomEnvironmentValue settings.selcomBusinessEnvironment
      ++ "' — refusing to send any request until this is corrected. This platform never sends sandbox credentials to a production URL or vice versa.")))

/-- `_load_private_key`, when a request is signed. -/
def signRequest (settings : Settings) : Tx Unit :=
  match settings.selcomBusinessPrivateKey with
  | .notPem => throw (.valueError "Could not deserialize key data")
  | .notRsa => throw (.selcomBusiness
      (.api "Configured Selcom Business private key is not an RSA key" none))
  | _ => pure ()

/-! ## Requests -/

/-- `_parse`, and the wrapping of an `HTTPError`. -/
def parse : HttpResult → Except SelcomBusinessError Json
  | .transportError detail => .error (.transport ("Selcom Business request failed: " ++ detail))
  | .response statusCode none =>
    .error (.api "Selcom Business returned a non-JSON response" (some statusCode))
  | .response statusCode (some body) =>
    if 500 ≤ statusCode then
      .error (.api ("Selcom Business returned " ++ toString statusCode) (some statusCode))
    else .ok body

/-- The result of `model_validate` on a parsed answer. -/
def validated {α : Type} (model : Validator α) (answer : HttpResult) : Except Failure α :=
  match parse answer with
  | .error e => .error (.selcomBusiness e)
  | .ok body =>
    match model body with
    | some response => .ok response
    | none => .error .pydanticValidation

theorem validated_error {α : Type} {model : Validator α} {answer : HttpResult} {e : Failure}
    (h : validated model answer = .error e) :
    (∃ message, e = .selcomBusiness (.transport message)) ∨
    (∃ message statusCode, e = .selcomBusiness (.api message statusCode)) ∨
    e = .pydanticValidation := by
  unfold validated parse at h
  rcases answer with detail | ⟨status, _ | body⟩
  · exact Or.inl ⟨_, (Except.error.inj h).symm⟩
  · exact Or.inr (Or.inl ⟨_, _, (Except.error.inj h).symm⟩)
  · by_cases hstatus : 500 ≤ status
    · simp only [hstatus, if_true] at h
      exact Or.inr (Or.inl ⟨_, _, (Except.error.inj h).symm⟩)
    · simp only [hstatus, if_false] at h
      split at h
      · cases h
      · exact Or.inr (Or.inr (Except.error.inj h).symm)

theorem transportError_of_validated {α : Type} {model : Validator α} {answer : HttpResult}
    {message : String} (h : validated model answer = .error (.selcomBusiness (.transport message))) :
    ∃ detail, answer = .transportError detail := by
  unfold validated parse at h
  rcases answer with detail | ⟨status, _ | body⟩
  · exact ⟨detail, rfl⟩
  · simp at h
  · by_cases hstatus : 500 ≤ status
    · simp [hstatus] at h
    · simp only [hstatus, if_false] at h
      split at h <;> simp at h

theorem storable_apiMessage {α : Type} {model : Validator α} {answer : HttpResult}
    {message : String} {statusCode : Option ℕ}
    (h : validated model answer = .error (.selcomBusiness (.api message statusCode))) :
    storable message = true := by
  unfold validated parse at h
  rcases answer with detail | ⟨status, _ | body⟩
  · simp at h
  · simp only [Except.error.injEq, Failure.selcomBusiness.injEq,
      SelcomBusinessError.api.injEq] at h
    rw [← h.1]
    decide +kernel
  · by_cases hstatus : 500 ≤ status
    · simp only [hstatus, if_true, Except.error.injEq, Failure.selcomBusiness.injEq,
        SelcomBusinessError.api.injEq] at h
      rw [← h.1, storable_append, storable_toString, Bool.and_true]
      decide +kernel
    · simp only [hstatus, if_false] at h
      split at h <;> simp at h

/-- `_get` or `_post`, then `model_validate`. -/
def call {α : Type} (settings : Settings) (model : Validator α) (request : Request) :
    Tx α := do
  requireConfigured settings
  signRequest settings
  let answer ← sendRequest request
  match validated model answer with
  | .ok response => pure response
  | .error e => throw e

/-- `try: request except SelcomBusinessError`. -/
def attempt {α : Type} (request : Tx α) : Tx (Except SelcomBusinessError α) :=
  tryCatch (do let response ← request; pure (.ok response)) fun failure =>
    match failure with
    | .selcomBusiness error => pure (.error error)
    | other => throw other

/-! ### Rules -/

/-- The settings let a request be signed and sent. -/
def Ready (settings : Settings) : Prop :=
  isConfigured settings = true ∧ baseUrlMatchesEnvironment settings = true ∧
    settings.selcomBusinessPrivateKey = .rsa

section Rules

open Sql

variable {aside : Table → Bool} {α : Type} {raises : Failure → PlatformWorld → Prop}
  {world : PlatformWorld} {settings : Settings}

theorem always_call {model : Validator α} {request : Request}
    {returns : α → PlatformWorld → Prop}
    (hdecoded : settings.selcomBusinessPrivateKey ≠ .notBase64)
    (hsent : Ready settings → ∀ answer,
      match validated model answer with
      | .ok response => returns response
          { world with sent := world.sent ++ [(request, answer)] }
      | .error e => raises e { world with sent := world.sent ++ [(request, answer)] })
    (hunsent : ¬Ready settings →
      ∀ e, (∀ message, e ≠ .selcomBusiness (.transport message)) → raises e world) :
    Always aside returns raises (call settings model request) world := by
  unfold call requireConfigured
  refine always_bind.mpr (always_bind.mpr (always_require (fun hconfigured => ?_)
    (fun h => hunsent (fun h' => h h'.1) _ fun _ => by simp)))
  refine always_require (fun hmatches => ?_)
    (fun h => hunsent (fun h' => h h'.2.1) _ fun _ => by simp)
  refine always_bind.mpr ?_
  cases hkey : settings.selcomBusinessPrivateKey with
  | rsa =>
    simp only [signRequest, hkey, always_pure]
    refine always_bind.mpr (always_sendRequest.mpr fun answer => ?_)
    have h := hsent ⟨hconfigured, hmatches, hkey⟩ answer
    cases hvalidated : validated model answer with
    | ok response => rwa [hvalidated] at h
    | error e => rwa [hvalidated] at h
  | unset =>
    have hunset : isConfigured settings = false := by
      simp only [isConfigured, hkey, ne_eq, not_true_eq_false, decide_false, Bool.and_false]
    rw [hunset] at hconfigured
    cases hconfigured
  | notBase64 => exact absurd hkey hdecoded
  | notPem =>
    simp only [signRequest, hkey]
    exact hunsent (fun h => by rw [h.2.2] at hkey; cases hkey) _ fun _ => by simp
  | notRsa =>
    simp only [signRequest, hkey]
    exact hunsent (fun h => by rw [h.2.2] at hkey; cases hkey) _ fun _ => by simp

theorem always_configFromSettings {returns : Unit → PlatformWorld → Prop}
    (hdecoded : settings.selcomBusinessPrivateKey ≠ .notBase64 → returns () world)
    (hundecoded : settings.selcomBusinessPrivateKey = .notBase64 → ∀ e, raises e world) :
    Always aside returns raises (configFromSettings settings) world :=
  always_require hdecoded fun h => hundecoded (not_not.mp h) _

theorem always_attempt {model : Validator α} {request : Request}
    {returns : Except SelcomBusinessError α → PlatformWorld → Prop}
    (hdecoded : settings.selcomBusinessPrivateKey ≠ .notBase64)
    (hsent : Ready settings → ∀ answer,
      match validated model answer with
      | .ok response => returns (.ok response)
          { world with sent := world.sent ++ [(request, answer)] }
      | .error (.selcomBusiness error) => returns (.error error)
          { world with sent := world.sent ++ [(request, answer)] }
      | .error e => raises e { world with sent := world.sent ++ [(request, answer)] })
    (hunsent : ¬Ready settings →
      (∀ error, (∀ message, error ≠ .transport message) → returns (.error error) world) ∧
        ∀ e, raises e world) :
    Always aside returns raises (attempt (call settings model request)) world := by
  refine always_tryCatch.mpr (always_bind.mpr (always_call hdecoded
    (fun hready answer => ?_) (fun hready e hunsendable => ?_)))
  · have h := hsent hready answer
    cases hvalidated : validated model answer with
    | ok response =>
      rw [hvalidated] at h
      exact h
    | error e =>
      rw [hvalidated] at h
      cases e <;> exact h
  · cases e with
    | selcomBusiness error =>
      exact (hunsent hready).1 error fun message h => hunsendable message (congrArg _ h)
    | _ => exact (hunsent hready).2 _

end Rules

/-! ## Response models -/

/-- `_empty_list_to_none`. -/
def emptyListToNone : Json → Json
  | .arr [] => .null
  | value => value

structure AccountLookupData where
  accountName : Option String
  operator : Option String
  charges : List Json
  totalCharges : Option Decimal
  categoryCode : Option String

structure AccountLookupResponse where
  success : Bool
  result : Option String
  resultcode : Option String
  transId : Option String
  message : Option String
  data : Option AccountLookupData

def accountLookupData (fields : List (String × Json)) : Option AccountLookupData := do
  let accountName ← field fields ["accountName", "account_name"] none optStr
  let operator ← field fields ["operator"] none optStr
  let charges ← field fields ["charges"] [] anyList
  let totalCharges ← field fields ["totalCharges", "total_charges"] none optDecimal
  let categoryCode ← field fields ["categoryCode", "category_code"] none optStr
  pure { accountName, operator, charges, totalCharges, categoryCode }

def accountLookupResponse : Validator AccountLookupResponse :=
  modelValidate fun fields => do
    let success ← required fields "success" bool
    let result ← field fields ["result"] none optStr
    let resultcode ← field fields ["resultcode"] none optStr
    let transId ← field fields ["transId", "trans_id"] none optStr
    let message ← field fields ["message"] none optStr
    let data ← field fields ["data"] none fun value =>
      optModel accountLookupData (emptyListToNone value)
    pure { success, result, resultcode, transId, message, data }

structure TransactionProcessData where
  transId : Option String
  selcomReceipt : Option String
  status : Option String
  amount : Option Decimal
  currency : Option String

structure TransactionProcessResponse where
  success : Bool
  result : Option String
  resultcode : Option String
  message : Option String
  data : Option TransactionProcessData

def transactionProcessData (fields : List (String × Json)) :
    Option TransactionProcessData := do
  let transId ← field fields ["trans_id"] none optStr
  let selcomReceipt ← field fields ["selcom_receipt"] none optStr
  let status ← field fields ["status"] none optStr
  let amount ← field fields ["amount"] none optDecimal
  let currency ← field fields ["currency"] none optStr
  pure { transId, selcomReceipt, status, amount, currency }

def transactionProcessResponse : Validator TransactionProcessResponse :=
  modelValidate fun fields => do
    let success ← required fields "success" bool
    let result ← field fields ["result"] none optStr
    let resultcode ← field fields ["resultcode"] none optStr
    let message ← field fields ["message"] none optStr
    let data ← field fields ["data"] none fun value =>
      optModel transactionProcessData (emptyListToNone value)
    pure { success, result, resultcode, message, data }

structure TransactionQueryData where
  transId : Option String
  status : Option String
  amount : Option Decimal
  currency : Option String
  selcomReceipt : Option String
  transDatetime : Option String
  senderAccount : Option String
  senderName : Option String

structure TransactionQueryResponse where
  success : Bool
  result : Option String
  resultcode : Option String
  message : Option String
  data : Option TransactionQueryData

def transactionQueryData (fields : List (String × Json)) : Option TransactionQueryData := do
  let transId ← field fields ["transId", "trans_id"] none optStr
  let status ← field fields ["status"] none optStr
  let amount ← field fields ["amount"] none optDecimal
  let currency ← field fields ["currency"] none optStr
  let selcomReceipt ← field fields ["selcomReceipt", "selcom_receipt"] none optStr
  let transDatetime ← field fields ["transDatetime", "trans_datetime"] none optStr
  let senderAccount ← field fields ["senderAccount", "sender_account"] none optStr
  let senderName ← field fields ["senderName", "sender_name"] none optStr
  pure { transId, status, amount, currency, selcomReceipt, transDatetime, senderAccount,
         senderName }

def transactionQueryResponse : Validator TransactionQueryResponse :=
  modelValidate fun fields => do
    let success ← required fields "success" bool
    let result ← field fields ["result"] none optStr
    let resultcode ← field fields ["resultcode"] none optStr
    let message ← field fields ["message"] none optStr
    let data ← field fields ["data"] none fun value =>
      optModel transactionQueryData (emptyListToNone value)
    pure { success, result, resultcode, message, data }

/-! ## Endpoints -/

section Endpoints

variable (settings : Settings)

def accountLookup (bank account transId : String) (amount : Option Decimal) :
    Tx AccountLookupResponse :=
  call settings accountLookupResponse (.accountLookup bank account transId amount)

def transactionProcess (transId recipientFiCode recipientAccount recipientName : String)
    (amount : Decimal) (purpose : String) (remarks : Option String) :
    Tx TransactionProcessResponse :=
  call settings transactionProcessResponse
    (.transactionProcess transId recipientFiCode recipientAccount recipientName amount
      purpose remarks)

def transactionQuery (transId : String) : Tx TransactionQueryResponse :=
  call settings transactionQueryResponse (.transactionQuery transId)

end Endpoints

/-! ## Result codes -/

inductive SelcomResultOutcome
  | success | inprogress | ambiguous | fail
deriving DecidableEq

structure SelcomResultCode where
  outcome : SelcomResultOutcome
  resultcode : String
  message : Option String

/-- `_SUCCESS_CODES`, `_INPROGRESS_CODES` and `_AMBIGUOUS_CODES`; every other
code, a blank one included, is a failure. -/
def outcomeOfCode (code : String) : SelcomResultOutcome :=
  if ["000"].contains code then .success
  else if ["111", "927"].contains code then .inprogress
  else if ["999"].contains code then .ambiguous
  else .fail

def interpretResultcode (resultcode message : Option String) : SelcomResultCode :=
  let code := strip (resultcode.getD "")
  { outcome := outcomeOfCode code, resultcode := code, message }

theorem interpretResultcode_resultcode (resultcode message : Option String) :
    (interpretResultcode resultcode message).resultcode = strip (resultcode.getD "") := by
  simp only [interpretResultcode]

theorem interpretResultcode_outcome (resultcode message : Option String) :
    (interpretResultcode resultcode message).outcome =
      outcomeOfCode (strip (resultcode.getD "")) := by
  simp only [interpretResultcode]

/-- `money_from_provider` of a field that pydantic has already made a `Decimal`. -/
def moneyFromProvider (value : Option Decimal) : Option Decimal := value

end InfinityRadius.Integrations.SelcomBusiness
