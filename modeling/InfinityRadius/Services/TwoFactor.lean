import InfinityRadius.Models.Repository

/-!
# Withdrawal verification codes

`services/two_factor.py`: a six-digit code is stored as a keyed hash, expires,
and can be guessed wrong a limited number of times.
-/

namespace InfinityRadius.Services

open Program Models

def microsPerSecond : ℤ := 1000000

namespace TwoFactorService

variable (runtime : Runtime)

def otpSecret : Tx String :=
  match runtime.settings.otpVerificationSecret with
  | none => throw refusal
  | some secret => if secret.isEmpty then throw refusal else pure secret
where
  refusal : Failure := .domainValidation
    "Withdrawal verification is not available right now — please contact support."

def hashCode (withdrawalId : ℕ) (code : String) : Tx String := do
  let secret ← otpSecret runtime
  pure (runtime.hmacSha256 secret (toString withdrawalId ++ ":" ++ code))

def issueChallenge (withdrawal : Withdrawal) (sentToEmail : String) :
    Tx (Withdrawal × String) := do
  let code ← issue (.ask .randomCode)
  let hash ← hashCode runtime withdrawal.id code
  let time ← now
  let withdrawal ← updateWithdrawal withdrawal fun w =>
    { w with
      twoFactorCodeHash := some hash
      twoFactorExpiresAt :=
        some (time + runtime.settings.withdrawalOtpTtlSeconds * microsPerSecond)
      twoFactorAttempts := 0
      twoFactorConfirmedAt := none
      otpSentToEmail := some sentToEmail }
  pure (withdrawal, code)

def isExhausted (withdrawal : Withdrawal) : Tx Bool := do
  if runtime.settings.withdrawalOtpMaxAttempts ≤ withdrawal.twoFactorAttempts then
    pure true
  else
    match withdrawal.twoFactorExpiresAt with
    | none => pure true
    | some expiresAt => do
      let time ← now
      pure (decide (expiresAt < time))

/-- The withdrawal is returned with the attempt recorded on it. -/
def verify (withdrawal : Withdrawal) (code : String) (currentEmail : Option String) :
    Tx (Withdrawal × Bool) := do
  match withdrawal.twoFactorCodeHash with
  | none => pure (withdrawal, false)
  | some hash => do
    let exhausted ← isExhausted runtime withdrawal
    if exhausted then pure (withdrawal, false)
    else if currentEmail.isSome ∧ withdrawal.otpSentToEmail ≠ currentEmail then
      pure (withdrawal, false)
    else do
      let candidate ← hashCode runtime withdrawal.id code
      if candidate = hash then do
        let time ← now
        let withdrawal ← updateWithdrawal withdrawal fun w =>
          { w with twoFactorConfirmedAt := some time }
        pure (withdrawal, true)
      else do
        let withdrawal ← updateWithdrawal withdrawal fun w =>
          { w with twoFactorAttempts := w.twoFactorAttempts + 1 }
        pure (withdrawal, false)

end TwoFactorService

end InfinityRadius.Services
