import InfinityRadius.Core.Sql
import InfinityRadius.Models.Finance

/-!
# The platform around the services

Settings, the requests sent to Selcom and the exceptions services raise.
-/

namespace InfinityRadius.Models

open Amounts Database Payload Program Sql

/-! ## Settings -/

inductive SelcomEnvironment
  | sandbox | production
deriving DecidableEq

/-- `SELCOM_*_PRIVATE_KEY_B64` after decoding and loading it. -/
inductive PrivateKey
  | unset
  | notBase64
  | notPem
  | notRsa
  | rsa
deriving DecidableEq

/-- `CAPTIVE_INTENT_TOKEN_SIGNING_KEY`, and whether it is a Fernet key. -/
inductive IntentKey
  | unset
  | notFernet
  | fernet
deriving DecidableEq

/-- A configured base URL, with the host `urlparse` finds in it. -/
structure BaseUrl where
  text : String
  hostname : String

structure Settings where
  selcomDisbursementEnabled : Bool
  selcomBusinessEnvironment : SelcomEnvironment
  selcomBusinessBaseUrl : Option BaseUrl
  selcomBusinessApiKey : Option String
  selcomBusinessPrivateKey : PrivateKey
  selcomProductionPayoutsEnabled : Bool
  selcomWithdrawalApprovalThresholdTzs : Decimal
  withdrawalMinAmountTzs : Option Decimal
  withdrawalMaxSingleAmountTzs : Option Decimal
  withdrawalDailyLimitTzs : Option Decimal
  withdrawalDailyCountLimit : Option ℤ
  otpVerificationSecret : Option String
  withdrawalOtpTtlSeconds : ℤ
  withdrawalOtpMaxAttempts : ℤ
  withdrawalOtpResendCooldownSeconds : ℤ
  withdrawalOtpMaxSends : ℤ
  superAdminReviewEmail : Option String
  publicApiDomain : Option String
  apiV1Prefix : String
  selcomCollectionEnabled : Bool
  selcomCollectionProductionEnabled : Bool
  selcomCollectionBaseUrl : Option String
  selcomCollectionApiKey : Option String
  selcomCollectionApiSecret : Option String
  selcomCollectionPrivateKey : PrivateKey
  selcomCollectionDigestMethod : Option String
  selcomCollectionVendor : Option String
  selcomCollectionPendingReviewMinutes : ℤ
  /-- whether `TRANSACTION_TOKEN_SIGNING_KEY` is a Fernet key -/
  transactionTokenKeyIsFernet : Bool
  captiveIntentTokenSigningKey : IntentKey
  captiveIntentTokenTtlSeconds : ℤ
  secretsEncryptionKey : String
  networkAgentBaseUrl : Option String
  networkAgentApiKey : Option String
  radiusDatabaseUrl : Option String

/-! ## Other systems -/

/-- How the RADIUS database is reached. -/
inductive RadiusTransport
  | networkAgent | directDatabase
deriving DecidableEq

def RadiusTransport.value : RadiusTransport → String
  | networkAgent => "network_agent"
  | directDatabase => "direct_database"

/-- The requests sent to other systems: the first three to the Selcom Business API, the next
three to Mobile Checkout, the last two to the RADIUS database. -/
inductive Request
  | accountLookup (bank account transId : String) (amount : Option Decimal)
  | transactionProcess (transId recipientFiCode recipientAccount recipientName : String)
      (amount : Decimal) (purpose : String) (remarks : Option String)
  | transactionQuery (transId : String)
  | createOrderMinimal (vendor orderId buyerEmail buyerName buyerPhone amount currency : String)
      (noOfItems : ℕ) (webhook merchantRemarks : Option String)
  | walletPayment (transid orderId msisdn : String)
  | orderStatus (orderId : String)
  | syncPackageGroup (transport : RadiusTransport) (packageId : ℕ)
      (downloadSpeedKbps uploadSpeedKbps sessionTimeoutSeconds : Option ℤ)
      (simultaneousSessions : ℤ)
  | provisionUser (transport : RadiusTransport) (username : String) (packageId : ℕ)
      (password : String)

/-- What `httpx` gives back: an `HTTPError`, or a response with its status and
its body, `none` where the body is not JSON.  A database that is written directly fails
with a `transportError`. -/
inductive HttpResult
  | transportError (detail : String)
  | response (statusCode : ℕ) (body : Option Json)

/-- What stays the same throughout one operation. -/
structure Runtime where
  settings : Settings
  /-- the hexadecimal HMAC-SHA256 of a message under a key -/
  hmacSha256 : String → String → String
  /-- the time of the database transaction, PostgreSQL's `now()` -/
  transactionTime : Timestamp
  /-- the session of an intent token that is neither forged nor too old -/
  intentSession : String → Option ℕ
  /-- the transaction of a genuine transaction token -/
  tokenTransaction : String → Option ℕ

inductive CallbackCheck
  | verified
  | refused
  | raised

/-- The draws an operation makes from its runtime.  `captiveLimiter` is the
dimension over its limit, if any; `responseText` the body of the last answer;
`roleCodes` the roles of a user. -/
inductive Ask
  | now
  | uuidHex
  | randomCode
  | customerNumber
  | sendEmail (recipient : String)
  | captiveLimiter (sessionId : ℕ) (phone : String) (routerId : ℕ)
  | nonce
  | intentToken (sessionId : ℕ)
  | fernetToken (transactionId : ℕ)
  | verifyWebhook (headers : List (String × String)) (payload : Json)
  | responseText
  | roleCodes (userId : ℕ)

abbrev Answer : Ask → Type
  | .now => Timestamp
  | .uuidHex => String
  | .randomCode => String
  | .customerNumber => String
  | .sendEmail _ => Bool
  | .captiveLimiter _ _ _ => Option String
  | .nonce => String
  | .intentToken _ => String
  | .fernetToken _ => String
  | .verifyWebhook _ _ => CallbackCheck
  | .responseText => String
  | .roleCodes _ => List String

/-- Everything outside the database that varies during one operation. -/
abbrev Outside := Env Ask Answer HttpResult

/-- An outside that answers everything alike. -/
def silentOutside : Outside where
  answer
    | _, .now => 0
    | _, .uuidHex => ""
    | _, .randomCode => ""
    | _, .customerNumber => ""
    | _, .sendEmail _ => true
    | _, .captiveLimiter _ _ _ => none
    | _, .nonce => ""
    | _, .intentToken _ => ""
    | _, .fernetToken _ => ""
    | _, .verifyWebhook _ _ => .verified
    | _, .responseText => ""
    | _, .roleCodes _ => []
  respond _ := .transportError ""

/-! ## Exceptions -/

inductive SelcomBusinessError
  | notConfigured (message : String)
  | misconfigured (message : String)
  | transport (message : String)
  | api (message : String) (statusCode : Option ℕ)
deriving DecidableEq

def SelcomBusinessError.message : SelcomBusinessError → String
  | notConfigured message | misconfigured message | transport message => message
  | api message _ => message

inductive SelcomCollectionError
  | notConfigured (message : String)
  | transport (message : String)
  | api (message : String) (statusCode : Option ℕ)
deriving DecidableEq

def SelcomCollectionError.message : SelcomCollectionError → String
  | notConfigured message | transport message => message
  | api message _ => message

/-- The exceptions an operation can end with.  `database` stands for every error
of the database driver. -/
inductive Failure
  | http (statusCode : ℕ) (detail : String)
  | notFound (message : String)
  | conflict (message : String)
  | domainValidation (message : String)
  | rateLimited (message : String) (retryAfterSeconds : ℤ)
  | runtimeError (message : String)
  | valueError (message : String)
  | attributeError (message : String)
  | typeError (message : String)
  | memoryError
  | pydanticValidation
  | invalidOperation
  | multipleResultsFound
  | noResultFound
  | database
  | selcomBusiness (error : SelcomBusinessError)
  | selcomCollection (error : SelcomCollectionError)
  | captiveSession (message : String)
  | selcomPaymentFlowMismatch (message : String)
  | networkAgent (message : String)
  | radiusUnavailable (message : String)
  | activationFailed (reason : String)
deriving DecidableEq

end InfinityRadius.Models
