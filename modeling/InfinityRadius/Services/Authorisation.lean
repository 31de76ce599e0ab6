import InfinityRadius.Services.EventLog

/-!
# Authorised submission

What must have happened before a transfer is requested: the requester confirmed it
with the code issued last, and where its amount was above the threshold it waited for
a review after that.
-/

namespace InfinityRadius.Services.PayoutService

open Amounts Database Payload Program Sql Models Integrations.SelcomBusiness

/-- The steps of a run, from its start. -/
abbrev Steps := List (PayoutStep logTables)

/-! ## The past of a withdrawal -/

/-- The step was committed and issued the code: the withdrawal stores its hash, and the
time it expires, as the step left them. -/
structure Issues (issuer : Step) (world : PlatformWorld) (w : Withdrawal) (code : String) :
    Prop where
  operation : (∃ tenantId actorId, issuer.operation = .resendOtp tenantId w.id actorId) ∨
    ∃ tenantId actorId destinationId amount,
      issuer.operation = .requestWithdrawal tenantId actorId destinationId amount
  committed : issuer.result world = .ok ()
  hash : ∃ secret, issuer.runtime.settings.otpVerificationSecret = some secret ∧
    w.twoFactorCodeHash =
      some (issuer.runtime.hmacSha256 secret (toString w.id ++ ":" ++ code))
  stored : ∃ v ∈ (issuer.next world).db.rows .withdrawals, v.id = w.id ∧
    challenge v = challenge w

/-- The step is no committed resend for the withdrawal. -/
def NotReissued (withdrawalId : ℕ) (step : PayoutStep logTables) (world : PlatformWorld) :
    Prop :=
  ∀ own tenantId actorId, step = .operation own →
    own.operation = .resendOtp tenantId withdrawalId actorId → own.result world ≠ .ok ()

/-- The code is the one issued last for the withdrawal. -/
def LatestIssue (start : PlatformWorld) (steps : Steps) (w : Withdrawal) (issuer : Step)
    (code : String) : Prop :=
  Runs.Since PayoutStep.next
    (fun first step => step = .operation issuer ∧ Issues issuer (runPayouts first start) w code)
    (NotReissued w.id) steps start

/-- No two codes of the withdrawal have the same hash. -/
def TellsApart (checker issuer : Runtime) (withdrawalId : ℕ) : Prop :=
  ∀ secret secret', checker.settings.otpVerificationSecret = some secret →
    issuer.settings.otpVerificationSecret = some secret' → ∀ code code',
      checker.hmacSha256 secret (toString withdrawalId ++ ":" ++ code) =
        issuer.hmacSha256 secret' (toString withdrawalId ++ ":" ++ code') → code = code'

/-- The requester confirms the withdrawal with the code issued last, in time and before
the attempts ran out. -/
def Confirmation (start : PlatformWorld) (steps : Steps) (own : Step) (w : Withdrawal) : Prop :=
  ∃ tenantId actorId code, own.operation = .confirmTwoFactor tenantId w.id actorId code ∧
    w.requestedBy = some actorId ∧ w.status = .draft ∧
    (∃ time, Accepted own.runtime w code time) ∧
    ∃ issuer issued, LatestIssue start steps w issuer issued ∧
      (TellsApart own.runtime issuer.runtime w.id → code = issued)

/-- A confirmation of the withdrawal moved it to `PENDING_APPROVAL`. -/
def ConfirmedForReview (start : PlatformWorld) (steps : Steps) (w : Withdrawal) : Prop :=
  Runs.Since PayoutStep.next
    (fun first step => ∃ own, step = .operation own ∧
      (∃ v ∈ (runPayouts first start).db.rows .withdrawals, v.id = w.id ∧
        Confirmation start first own v) ∧
      ∃ v ∈ (own.next (runPayouts first start)).db.rows .withdrawals, v.id = w.id ∧
        v.status = .pendingApproval)
    (fun _ _ => True) steps start

/-- The withdrawal was requested in a step of the run whose threshold and whose amount
satisfy the relation. -/
def RequestedFor (start : PlatformWorld) (steps : Steps) (w : Withdrawal)
    (relation : Decimal → Decimal → Prop) : Prop :=
  Runs.Since PayoutStep.next
    (fun first step => ∃ own tenantId actorId destinationId amount, step = .operation own ∧
      own.operation = .requestWithdrawal tenantId actorId destinationId amount ∧
      (∀ v ∈ (runPayouts first start).db.rows .withdrawals, v.id ≠ w.id) ∧
      (∃ v ∈ (own.next (runPayouts first start)).db.rows .withdrawals, v.id = w.id) ∧
      w.tenantId = tenantId ∧ w.requestedBy = some actorId ∧ w.amount = toNumeric amount ∧
      relation own.runtime.settings.selcomWithdrawalApprovalThresholdTzs amount)
    (fun _ _ => True) steps start

/-- What the steps before tell about a withdrawal. -/
structure History (start : PlatformWorld) (steps : Steps) (w : Withdrawal) : Prop where
  requested : RequestedFor start steps w
    fun threshold amount => w.approvalRequired = decide (threshold < amount)
  issued : ∃ issuer code, LatestIssue start steps w issuer code
  confirmed : w.status = .pendingApproval → ConfirmedForReview start steps w
  authorised : Authorised w

/-! ## Steps -/

variable {start world : PlatformWorld} {steps : Steps} {w w' : Withdrawal}

theorem runPayouts_concat (steps : Steps) (step : PayoutStep logTables) :
    runPayouts (steps ++ [step]) start = step.next (runPayouts steps start) :=
  Runs.run_concat steps step start

theorem authorised_of_draft (hdraft : w.status = .draft) : Authorised w where
  confirmed hne := absurd hdraft hne
  reviewed _ hne := absurd hdraft hne

/-- A committed resend rewrote the withdrawal with a new code. -/
theorem Step.reissued {own : Step} {tenantId withdrawalId actorId : ℕ}
    (hoperation : own.operation = .resendOtp tenantId withdrawalId actorId)
    (hresult : own.result world = .ok ()) :
    Reissued own.runtime withdrawalId ⟨world.db, []⟩
      ⟨(own.next world).db, own.exchanges world.db⟩ := by
  have haside : ∀ t : Table, (fun _ => false) t = true → t = .paymentWebhooks :=
    fun _ h => by cases h
  obtain ⟨operation, runtime, outside⟩ := own
  obtain rfl : operation = .resendOtp tenantId withdrawalId actorId := hoperation
  have hprogram : Always (fun _ => false) (fun _ => Reissued runtime withdrawalId ⟨world.db, []⟩)
      (fun _ => Unsent ⟨world.db, []⟩)
      (Step.program ⟨.resendOtp tenantId withdrawalId actorId, runtime, outside⟩)
      ⟨world.db, []⟩ :=
    always_bind.mpr ((resendOtp_always haside).mono (fun _ _ h => h) fun _ _ h => h)
  rcases Step.next_cases hprogram with ⟨db, hnext, -, h⟩ | ⟨e, db, -, hraised, -⟩
  · rw [hnext]
    exact h
  · rw [hresult] at hraised
    cases hraised

section Extend

variable {step : PayoutStep logTables}

/-- What is known of a withdrawal's request stays known. -/
theorem RequestedFor.concat (step : PayoutStep logTables) {relation : Decimal → Decimal → Prop}
    (hsame : w.SameRequest w') (h : RequestedFor start steps w relation) :
    RequestedFor start (steps ++ [step]) w' relation := by
  refine (Runs.Since.concat h trivial).mono ?_
  rintro first past ⟨own, tenantId, actorId, destinationId, amount, hpast, hoperation, hfresh,
    ⟨v, hv, hid⟩, htenant, hactor, hamount, hrelation⟩
  refine ⟨own, tenantId, actorId, destinationId, amount, hpast, hoperation, ?_, ?_, ?_, ?_, ?_,
    hrelation⟩
  · rw [hsame.id]
    exact hfresh
  · exact ⟨v, hv, hid.trans hsame.id.symm⟩
  · rw [hsame.tenantId]
    exact htenant
  · rw [hsame.requestedBy]
    exact hactor
  · rw [hsame.amount]
    exact hamount

theorem ConfirmedForReview.concat (hsame : w.SameRequest w')
    (h : ConfirmedForReview start steps w) : ConfirmedForReview start (steps ++ [step]) w' := by
  refine (Runs.Since.concat h trivial).mono ?_
  rintro first past ⟨own, hpast, ⟨v, hv, hid, hconfirmation⟩, v', hv', hid', hstatus⟩
  exact ⟨own, hpast, ⟨v, hv, hid.trans hsame.id.symm, hconfirmation⟩, v', hv',
    hid'.trans hsame.id.symm, hstatus⟩

/-- Where no code was issued since, the code issued last still is. -/
theorem LatestIssue.concat {issuer : Step} {code : String} (hsame : w.SameRequest w')
    (hchallenge : challenge w' = challenge w) (h : LatestIssue start steps w issuer code)
    (hstep : NotReissued w.id step (runPayouts steps start)) :
    LatestIssue start (steps ++ [step]) w' issuer code := by
  rw [LatestIssue, hsame.id]
  refine (Runs.Since.concat h hstep).mono ?_
  rintro first past ⟨hpast, hissues⟩
  refine ⟨hpast, ?_⟩
  have hhash : w'.twoFactorCodeHash = w.twoFactorCodeHash := congrArg Prod.fst hchallenge
  constructor
  · rw [hsame.id]
    exact hissues.operation
  · exact hissues.committed
  · rw [hsame.id, hhash]
    exact hissues.hash
  · rw [hsame.id, hchallenge]
    exact hissues.stored

/-- A committed resend leaves the withdrawal with the code it issued. -/
theorem latestIssue_of_resend {own : Step} {tenantId actorId : ℕ}
    (hoperation : own.operation = .resendOtp tenantId w'.id actorId)
    (hresult : own.result (runPayouts steps start) = .ok ())
    (hw' : w' ∈ (own.next (runPayouts steps start)).db.rows .withdrawals) :
    ∃ code, LatestIssue start (steps ++ [.operation own]) w' own code := by
  obtain ⟨-, v, hv, hid, -, v', code, hissued, hreplaced⟩ := Step.reissued hoperation hresult
  have hmem : v' ∈ (own.next (runPayouts steps start)).db.rows .withdrawals :=
    Db.Replaced.mem hreplaced hv hissued.same.id.symm
  obtain rfl := (own.next (runPayouts steps start)).db.id_injOn (t := .withdrawals) hmem hw'
    (hissued.same.id.trans hid)
  obtain ⟨secret, hsecret, hhash⟩ := hissued.hash
  rw [← hissued.same.id] at hhash
  exact ⟨code, Runs.Since.last ⟨rfl, Or.inl ⟨tenantId, actorId, hoperation⟩, hresult,
    ⟨secret, hsecret, hhash⟩, v', hw', rfl, rfl⟩⟩

/-- The code issued last for a withdrawal after a step. -/
theorem PayoutStep.Became.latestIssue (hsame : w.SameRequest w')
    (h : step.Became (runPayouts steps start) w w')
    (hw' : w' ∈ (step.next (runPayouts steps start)).db.rows .withdrawals)
    (hissued : ∃ issuer code, LatestIssue start steps w issuer code) :
    ∃ issuer code, LatestIssue start (steps ++ [step]) w' issuer code := by
  by_cases hstep : NotReissued w.id step (runPayouts steps start)
  · obtain ⟨issuer, code, hissued⟩ := hissued
    refine ⟨issuer, code, hissued.concat hsame ?_ hstep⟩
    cases h with
    | same h => rw [h]
    | reissued hown hresult hoperation _ _ => exact absurd hresult (hstep _ _ _ hown hoperation)
    | handled _ _ _ h =>
      obtain ⟨wallets, entries, h⟩ := h.effect
      exact h.challenge
  · simp only [NotReissued, not_forall, not_not] at hstep
    obtain ⟨own, tenantId, actorId, rfl, hoperation, hresult⟩ := hstep
    rw [← hsame.id] at hoperation
    exact ⟨own, latestIssue_of_resend hoperation hresult hw'⟩

theorem History.confirmation {own : Step} {toStatus : WithdrawalStatus}
    (h : History start steps w) {tenantId withdrawalId actorId : ℕ} {code : String}
    (hoperation : own.operation = .confirmTwoFactor tenantId withdrawalId actorId code)
    (hconfirms : Confirms own.runtime tenantId withdrawalId actorId code w toStatus) :
    Confirmation start steps own w := by
  obtain ⟨issuer, issued, hlatest⟩ := h.issued
  obtain rfl := hconfirms.id
  obtain ⟨time, haccepted⟩ := hconfirms.accepted
  refine ⟨tenantId, actorId, code, hoperation, hconfirms.requestedBy, hconfirms.status,
    ⟨time, haccepted⟩, issuer, issued, hlatest, fun htells => ?_⟩
  obtain ⟨first, step, rest, -, ⟨-, hissues⟩, -⟩ := hlatest
  obtain ⟨secret, hsecret, hhash⟩ := haccepted.hash
  obtain ⟨secret', hsecret', hhash'⟩ := hissues.hash
  exact htells secret secret' hsecret hsecret' code issued
    (Option.some.inj (hhash.symm.trans hhash'))

/-- What an operation is granted for `PENDING_APPROVAL` is a confirmation. -/
theorem History.of_granted {own : Step} {toStatus : WithdrawalStatus}
    (h : History start steps w) (hgranted : own.operation.Grants own.runtime w toStatus) :
    (Confirmation start steps own w ∧
      toStatus = if w.approvalRequired = true then .pendingApproval else .approved) ∨
    ∃ actorId notes, own.operation = .approveWithdrawal w.id actorId notes ∧
      w.status = .pendingApproval ∧ toStatus = .approved := by
  cases hoperation : own.operation with
  | confirmTwoFactor tenantId withdrawalId actorId code =>
    rw [hoperation] at hgranted
    exact Or.inl ⟨h.confirmation hoperation hgranted, hgranted.toStatus⟩
  | approveWithdrawal withdrawalId actorId notes =>
    rw [hoperation] at hgranted
    obtain rfl := hgranted.id
    exact Or.inr ⟨actorId, notes, rfl, hgranted.status, hgranted.toStatus⟩
  | _ =>
    rw [hoperation] at hgranted
    exact hgranted.elim

/-- A step extends the history of the withdrawals that were there before it. -/
theorem History.concat (hw : w ∈ (runPayouts steps start).db.rows .withdrawals)
    (h : History start steps w) (hsame : w.SameRequest w')
    (hbecame : step.Became (runPayouts steps start) w w')
    (hw' : w' ∈ (step.next (runPayouts steps start)).db.rows .withdrawals) :
    History start (steps ++ [step]) w' := by
  constructor
  case requested =>
    have hrequested := h.requested.concat step hsame
    rw [← hsame.approvalRequired] at hrequested
    exact hrequested
  case issued => exact hbecame.latestIssue hsame hw' h.issued
  case confirmed =>
    intro hpending
    have hkept : w.status = .pendingApproval →
        ConfirmedForReview start (steps ++ [step]) w' :=
      fun hstatus => (h.confirmed hstatus).concat hsame
    cases hbecame with
    | same heq => exact hkept (heq ▸ hpending)
    | reissued _ _ _ hdraft hissued =>
      rw [hissued.status, hdraft] at hpending
      cases hpending
    | handled _ hgranted _ _ =>
      rcases hgranted (by rw [hpending]; decide) with hstatus | ⟨own, rfl, hown⟩
      · exact hkept (hstatus.symm.trans hpending)
      · rw [hpending] at hown
        rcases h.of_granted hown with ⟨hconfirmation, -⟩ | ⟨_, _, -, -, habsurd⟩
        · exact Runs.Since.last ⟨own, rfl, ⟨w, hw, hsame.id.symm, hconfirmation⟩, w', hw', rfl,
            hpending⟩
        · cases habsurd
  case authorised =>
    cases hbecame with
    | same heq => exact heq ▸ h.authorised
    | reissued _ _ _ hdraft hissued => exact authorised_of_draft (hissued.status.trans hdraft)
    | handled _ _ _ hhandled =>
      obtain ⟨wallets, entries, heffect⟩ := hhandled.effect
      exact heffect.authorised h.authorised

/-- A committed request starts the history of its withdrawal. -/
theorem History.of_request {own : Step} {tenantId actorId destinationId : ℕ} {amount : Decimal}
    {wallet wallet' : TenantWallet} (hresult : own.result (runPayouts steps start) = .ok ())
    (hoperation : own.operation = .requestWithdrawal tenantId actorId destinationId amount)
    (h : RequestedAs own.runtime tenantId actorId amount ⟨(runPayouts steps start).db, []⟩
      ⟨(own.next (runPayouts steps start)).db, own.exchanges (runPayouts steps start).db⟩ w
      wallet wallet') : History start (steps ++ [.operation own]) w := by
  have hw : w ∈ (own.next (runPayouts steps start)).db.rows .withdrawals := by
    have hrows : (own.next (runPayouts steps start)).db.rows .withdrawals = _ := h.withdrawals
    rw [hrows]
    exact List.mem_append_right _ List.mem_cons_self
  constructor
  case requested =>
    exact Runs.Since.last ⟨own, tenantId, actorId, destinationId, amount, rfl, hoperation,
      h.fresh, ⟨w, hw, rfl⟩, h.tenantId, h.requestedBy, h.amount, h.approvalRequired⟩
  case issued =>
    obtain ⟨draft, code, hissued⟩ := h.issued
    obtain ⟨secret, hsecret, hhash⟩ := hissued.hash
    rw [← hissued.same.id] at hhash
    exact ⟨own, code, Runs.Since.last ⟨rfl,
      Or.inr ⟨tenantId, actorId, destinationId, amount, hoperation⟩, hresult,
      ⟨secret, hsecret, hhash⟩, w, hw, rfl, rfl⟩⟩
  case confirmed =>
    intro hpending
    rw [h.status] at hpending
    cases hpending
  case authorised => exact authorised_of_draft h.status

end Extend

/-! ## Runs -/

/-- Every withdrawal of a run that starts with none has its history in the run. -/
theorem history_of_run (hstart : start.db.rows .withdrawals = []) (steps : Steps) :
    ∀ w ∈ (runPayouts steps start).db.rows .withdrawals, History start steps w := by
  induction steps using List.reverseRecOn with
  | nil =>
    intro w hw
    have hw : w ∈ start.db.rows .withdrawals := hw
    rw [hstart] at hw
    cases hw
  | append_singleton steps step ih =>
    intro w' hw'
    rw [runPayouts_concat] at hw'
    rcases step.came (by decide) hw' with ⟨w, hw, hsame, hbecame⟩ |
      ⟨own, tenantId, actorId, destinationId, amount, wallet, wallet', rfl, hresult, hoperation,
        h⟩
    · exact (ih w hw).concat hw hsame hbecame hw'
    · exact History.of_request hresult hoperation h

/-- An operation that requests a transfer was granted to. -/
theorem Step.granted {own : Step} {key : String}
    (h : transfers (own.exchanges world.db) key ≠ 0) :
    ∃ w ∈ world.db.rows .withdrawals, w.idempotencyKey = key ∧
      own.operation.Grants own.runtime w .approved := by
  rcases own.next_outcome world with ⟨db, -, -, houtcome⟩ | ⟨e, -, -, db, habandoned⟩
  · obtain ⟨w, hw, hkey, -, hgranted, -⟩ := houtcome.sent h
    exact ⟨w, hw, hkey, hgranted⟩
  · rcases habandoned with hunsent | ⟨v, -, query, hqueried⟩ |
      ⟨w, hw, -, hgranted, submitted, middle, lookup, process, queries, hsent, -⟩
    · exact absurd (hunsent.transfers key) h
    · have hqueried : own.exchanges world.db = [(.transactionQuery v.idempotencyKey, query)] :=
        hqueried
      rw [hqueried] at h
      exact absurd rfl h
    · refine ⟨w, hw, ?_, hgranted⟩
      by_contra hne
      exact h (by rw [hsent.transfers, if_neg hne])

theorem PayoutStep.transfers_eq_zero {step : PayoutStep logTables} {key : String}
    (h : ∀ own, step ≠ .operation own) : transfers (step.exchanges world.db) key = 0 := by
  cases step with
  | operation own => exact absurd rfl (h own)
  | disbursementResult withdrawalId providerSucceeded providerReference detail outside =>
    have hnone : Sql.exchanges outside (applyDisbursementResult withdrawalId providerSucceeded
        providerReference detail) world.db = [] :=
      exchanges_of_always outside (fun sent => sent = [])
        (applyDisbursementResult_always.mono (fun _ _ h => h.2) fun _ _ h => h)
    rw [PayoutStep.exchanges, hnone]
    rfl
  | elsewhere _ _ => rfl

/-- The request of the sample withdrawal. -/
def sampleRequest : Steps := [.operation requestStep]

end InfinityRadius.Services.PayoutService
