import InfinityRadius.Core.Phone
import Mathlib.Data.List.Infix

/-!
# Registration

`OnboardingService.register` between the local database and Supabase, whose account comes first.
Every await can return, raise or be cancelled, and a request or a commit that does not return
may have been carried out all the same.
-/

namespace InfinityRadius.Services.OnboardingRegistration

open Phone

/-! ## What the world does -/

inductive Ending
  | returned | raised | cancelled
deriving DecidableEq

/-- What leaves the service; `except Exception` lets a cancellation through. -/
inductive Raised
  | conflict (message : String)
  | domainValidation (message : String)
  | supabaseAdmin (message : String)
  | other
  | cancelled
deriving DecidableEq

/-- The rows of a tenant. -/
inductive LocalRow
  | tenant (tenantId : ℕ) (status : String)
  | profile (tenantId ownerId : ℕ) (status : String)
  | profileRole (tenantId ownerId roleId : ℕ)
  | verification (tenantId : ℕ) (status : String)
  | settings (tenantId : ℕ)
  | featureFlags (tenantId : ℕ)
  | wallet (tenantId : ℕ)
  | auditLog (tenantId : ℕ) (action : String)
  | emailEvent (tenantId : ℕ) (recipient emailType status : String)
deriving DecidableEq

def LocalRow.tenantId : LocalRow → ℕ
  | tenant tenantId _ | profile tenantId _ _ | profileRole tenantId _ _ | verification tenantId _
  | settings tenantId | featureFlags tenantId | wallet tenantId | auditLog tenantId _
  | emailEvent tenantId _ _ _ => tenantId

/-- The database with the rows of the open transaction, the accounts at Supabase, and the
requests to delete one with whether they were carried out. -/
structure World where
  committed : List LocalRow
  written : List LocalRow
  accounts : List ℕ
  deletions : List (ℕ × Bool)

/-- The answer to `create_user`: none, an error with what `_safe_error` makes of it, or a body
with the account's id, if it can be read. -/
inductive Answer
  | unanswered (ending : Ending) (h : ending ≠ .returned)
  | refused (message : Option String)
  | accepted (id : Option ℕ)

/-- The account Supabase made, and its answer, which does not lie about it. -/
structure Creation where
  account : Option ℕ
  answer : Answer
  honest : ∀ id, answer = .accepted (some id) → account = some id

/-- A commit that returns was carried out. -/
structure Commit where
  ending : Ending
  applied : Bool
  honest : ending = .returned → applied = true

/-- `delete_user` returns whatever status Supabase answers. -/
structure Deletion where
  ending : Ending
  applied : Bool

/-- The awaits of `_create_local_records`. -/
inductive RecordStep
  | flushTenant | loadProfile | loadRole | loadWallet | insertWallet | auditTenant | auditProfile
deriving DecidableEq

structure EmailSendResult where
  sent : Bool

/-- What happens to one call of `register`. -/
structure Env where
  lookup : Ending
  emailInUse : Bool
  secretKeyConfigured : Bool
  createUser : Creation
  tenantId : ℕ
  profileExists : Bool
  ownerRole : Option ℕ
  recordStep : RecordStep → Ending
  commit : Commit
  deleteUser : Deletion
  generateLink : Except Raised String
  sendVerification : Except Raised EmailSendResult
  verificationCommit : Commit
  sendAdmin : Except Raised EmailSendResult
  adminCommit : Commit

structure Registration where
  workEmail : String
  phone : String
  businessPhone : String
  authorizedContactPhone : Option String

structure OnboardingResult where
  tenantId : ℕ
  ownerId : ℕ

/-! ## The service -/

abbrev Onboarding (α : Type) := World → Except Raised α × World

namespace Onboarding

def pure {α : Type} (a : α) : Onboarding α := fun world => (.ok a, world)

def throw {α : Type} (raised : Raised) : Onboarding α := fun world => (.error raised, world)

def bind {α β : Type} (x : Onboarding α) (f : α → Onboarding β) : Onboarding β := fun world =>
  match x world with
  | (.ok a, world') => f a world'
  | (.error raised, world') => (.error raised, world')

def tryCatch {α : Type} (x : Onboarding α) (handler : Raised → Onboarding α) : Onboarding α :=
  fun world =>
    match x world with
    | (.ok a, world') => (.ok a, world')
    | (.error raised, world') => handler raised world'

end Onboarding

instance : Monad Onboarding where
  pure := Onboarding.pure
  bind := Onboarding.bind

instance : MonadExcept Raised Onboarding where
  throw := Onboarding.throw
  tryCatch := Onboarding.tryCatch

def modify (change : World → World) : Onboarding Unit := fun world => (.ok (), change world)

def await : Ending → Onboarding Unit
  | .returned => pure ()
  | .raised => throw .other
  | .cancelled => throw .cancelled

def ofExcept {α : Type} : Except Raised α → Onboarding α
  | .ok a => pure a
  | .error raised => throw raised

def require (condition : Bool) (raised : Raised) : Onboarding Unit :=
  if condition then pure () else throw raised

def orRaise {α : Type} (value : Option α) (raised : Raised) : Onboarding α :=
  match value with
  | some a => pure a
  | none => throw raised

def write (row : LocalRow) : Onboarding Unit :=
  modify fun world => { world with written := world.written ++ [row] }

def commit (fate : Commit) : Onboarding Unit := do
  modify fun world =>
    if fate.applied then { world with committed := world.committed ++ world.written, written := [] }
    else world
  await fate.ending

def rollback : Onboarding Unit := modify fun world => { world with written := [] }

section Service

variable (env : Env) (payload : Registration)

/-- `normalize_tz_phone`, with its `ValueError` as it is raised again. -/
def requirePhone (raw : String) : Onboarding String :=
  orRaise (normalizeTzPhone raw) (.domainValidation (invalidPhone raw))

def checkPhones : Onboarding Unit := do
  let _ ← requirePhone payload.phone
  let _ ← requirePhone payload.businessPhone
  match payload.authorizedContactPhone.filter fun phone => !phone.isEmpty with
  | some phone => do
    let _ ← requirePhone phone
    pure ()
  | none => pure ()

def requireSecretKey : Onboarding Unit :=
  require env.secretKeyConfigured (.supabaseAdmin
    "SUPABASE_SECRET_KEY is not configured — cannot create Supabase Auth users.")

def createUser : Onboarding ℕ := do
  requireSecretKey env
  modify fun world => { world with accounts := world.accounts ++ env.createUser.account.toList }
  match env.createUser.answer with
  | .unanswered ending _ => do
    await ending
    throw .other
  | .refused (some message) => throw (.supabaseAdmin ("Supabase user creation failed: " ++ message))
  | .refused none => throw .other
  | .accepted none => throw .other
  | .accepted (some id) => pure id

def deleteUser (id : ℕ) : Onboarding Unit := do
  requireSecretKey env
  modify fun world =>
    { world with
      accounts := if env.deleteUser.applied then world.accounts.filter (· ≠ id) else world.accounts
      deletions := world.deletions ++ [(id, env.deleteUser.applied)] }
  await env.deleteUser.ending

/-- `"already" in message or "exists" in message`. -/
def saysExists (message : String) : Bool :=
  decide ("already".toList <:+: message.toLower.toList) ||
    decide ("exists".toList <:+: message.toLower.toList)

def createAccount : Onboarding ℕ :=
  tryCatch (createUser env) fun
    | .supabaseAdmin message =>
      if saysExists message then throw (.conflict "An account with this email already exists")
      else throw (.domainValidation ("Could not create account: " ++ message))
    | raised => throw raised

def createLocalRecords (ownerId : ℕ) : Onboarding OnboardingResult := do
  write (.tenant env.tenantId "PENDING_VERIFICATION")
  await (env.recordStep .flushTenant)
  await (env.recordStep .loadProfile)
  require env.profileExists
    (.domainValidation "Account provisioning did not complete — please contact support")
  write (.profile env.tenantId ownerId "active")
  await (env.recordStep .loadRole)
  let ownerRoleId ← orRaise env.ownerRole
    (.domainValidation "TENANT_OWNER role is not seeded — contact support")
  write (.profileRole env.tenantId ownerId ownerRoleId)
  write (.verification env.tenantId "PENDING_VERIFICATION")
  write (.settings env.tenantId)
  write (.featureFlags env.tenantId)
  await (env.recordStep .loadWallet)
  write (.wallet env.tenantId)
  await (env.recordStep .insertWallet)
  write (.auditLog env.tenantId "TENANT_REGISTERED")
  await (env.recordStep .auditTenant)
  write (.auditLog env.tenantId "PROFILE_CREATED")
  await (env.recordStep .auditProfile)
  pure ⟨env.tenantId, ownerId⟩

def sendVerificationEmail : Onboarding Bool :=
  match env.generateLink with
  | .error (.supabaseAdmin _) => do
    write (.emailEvent env.tenantId payload.workEmail "VERIFY_EMAIL" "FAILED")
    commit env.verificationCommit
    pure false
  | .error raised => throw raised
  | .ok _ => do
    let result ← ofExcept env.sendVerification
    write (.emailEvent env.tenantId payload.workEmail "VERIFY_EMAIL"
      (if result.sent then "SENT" else "FAILED"))
    write (.auditLog env.tenantId "EMAIL_VERIFICATION_SENT")
    commit env.verificationCommit
    pure result.sent

def sendOnboardingEmails : Onboarding Unit := do
  let _ ← sendVerificationEmail env payload
  let result ← ofExcept env.sendAdmin
  write (.emailEvent env.tenantId "super-admin-review" "NEW_TENANT_ADMIN_ALERT"
    (if result.sent then "SENT" else "FAILED"))
  commit env.adminCommit

/-- The compensation: roll back, delete the account, raise again. -/
def compensate (ownerId : ℕ) (raised : Raised) : Onboarding OnboardingResult := do
  rollback
  tryCatch (deleteUser env ownerId) fun
    | .supabaseAdmin _ => pure ()
    | cleanup => throw cleanup
  throw raised

/-- The local records and their commit; `except Exception` compensates. -/
def recordTenant (ownerId : ℕ) : Onboarding OnboardingResult :=
  tryCatch
    (do
      let result ← createLocalRecords env ownerId
      commit env.commit
      pure result)
    fun
      | .cancelled => throw .cancelled
      | raised => compensate env ownerId raised

def register : Onboarding OnboardingResult := do
  await env.lookup
  require (!env.emailInUse) (.conflict "An account with this email already exists")
  checkPhones payload
  let ownerId ← createAccount env
  let result ← recordTenant env ownerId
  sendOnboardingEmails env payload
  pure result

end Service

end InfinityRadius.Services.OnboardingRegistration
