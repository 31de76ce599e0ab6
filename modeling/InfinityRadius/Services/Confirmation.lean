import InfinityRadius.Services.Submission

/-!
# Confirmation, review and reconciliation

What the operations that reach Selcom leave behind when they return, and what
they have sent by then when they raise.
-/

namespace InfinityRadius.Services.PayoutService

open Amounts Database Payload Program Sql Models Integrations.SelcomBusiness

/-- The code is the one whose hash the withdrawal stores, presented in time and before
the attempts ran out. -/
structure Accepted (runtime : Runtime) (w : Withdrawal) (code : String) (time : Timestamp) :
    Prop where
  hash : ∃ secret, runtime.settings.otpVerificationSecret = some secret ∧
    w.twoFactorCodeHash = some (runtime.hmacSha256 secret (toString w.id ++ ":" ++ code))
  attempts : (w.twoFactorAttempts : ℤ) < runtime.settings.withdrawalOtpMaxAttempts
  expires : ∃ expiresAt, w.twoFactorExpiresAt = some expiresAt ∧ time ≤ expiresAt

/-- What `confirm_two_factor` checks before it moves the withdrawal to a status. -/
structure Confirms (runtime : Runtime) (tenantId withdrawalId actorId : ℕ) (code : String)
    (w : Withdrawal) (toStatus : WithdrawalStatus) : Prop where
  id : w.id = withdrawalId
  tenantId : w.tenantId = tenantId
  requestedBy : w.requestedBy = some actorId
  status : w.status = .draft
  toStatus : toStatus = if w.approvalRequired = true then .pendingApproval else .approved
  accepted : ∃ time, Accepted runtime w code time

/-- What `approve_withdrawal` checks. -/
structure Approves (withdrawalId : ℕ) (w : Withdrawal) (toStatus : WithdrawalStatus) :
    Prop where
  id : w.id = withdrawalId
  status : w.status = .pendingApproval
  toStatus : toStatus = .approved

/-- The statuses an operation can be granted to move a withdrawal to. -/
abbrev Grants := Withdrawal → WithdrawalStatus → Prop

/-- No transfer was requested: the withdrawal keeps its status, is moved forward as
granted, or is closed with its reservation released. -/
def Unsubmitted (grants : Grants) (w : Withdrawal) (db : PlatformDb) (w' : Withdrawal)
    (db' : PlatformDb) : Prop :=
  (w'.status = w.status ∧ Effect db db' w w' id []) ∨
  (w'.status ∈ [.pendingApproval, .approved] ∧ grants w w'.status ∧ Effect db db' w w' id []) ∨
  (w'.status.closed = true ∧ Moved WalletService.released w db w' db' [])

/-- An operation on a withdrawal not submitted before returned, and requested its
transfer or not. -/
def Advanced (settings : Settings) (grants : Grants) (world world' : PlatformWorld) : Prop :=
  ∃ w ∈ world.db.rows .withdrawals, w.status ∈ [.draft, .pendingApproval] ∧ ∃ w',
    (Unsent world world' ∧ Unsubmitted grants w world.db w' world'.db ∧
      (w'.status = .approved → Unanswered settings w world world')) ∨
    (grants w .approved ∧ ∃ submitted db lookup process queries,
      Sent world w submitted db lookup process queries world'.sent ∧
      Settled submitted db process queries w' world'.db)

/-- One transfer was queried. -/
def Queried (world world' : PlatformWorld) : Prop :=
  ∃ w ∈ world.db.rows .withdrawals, ∃ query,
    world'.sent = world.sent ++ [(.transactionQuery w.idempotencyKey, query)]

/-- An operation raised: no transfer was requested, or its answers could not be kept. -/
def Abandoned (grants : Grants) (world world' : PlatformWorld) : Prop :=
  Unsent world world' ∨ Queried world world' ∨
  ∃ w ∈ world.db.rows .withdrawals, w.status ∈ [.draft, .pendingApproval] ∧
    grants w .approved ∧ ∃ submitted db lookup process queries,
      Sent world w submitted db lookup process queries world'.sent ∧
      Unkept submitted db process queries

/-- A code was drawn, and its hash stored with the time it expires. -/
structure Issued (runtime : Runtime) (w w' : Withdrawal) (code : String) : Prop where
  same : w.SameRequest w'
  status : w'.status = w.status
  hash : ∃ secret, runtime.settings.otpVerificationSecret = some secret ∧
    w'.twoFactorCodeHash = some (runtime.hmacSha256 secret (toString w.id ++ ":" ++ code))

/-- The withdrawal as a new code is stored. -/
def issuedAs (w : Withdrawal) (hash email : String) (expiresAt lastSentAt : Timestamp) :
    Withdrawal :=
  { w with
    twoFactorCodeHash := some hash
    twoFactorExpiresAt := some expiresAt
    twoFactorAttempts := 0
    twoFactorConfirmedAt := none
    otpSentToEmail := some email
    otpLastSentAt := some lastSentAt
    otpSendCount := w.otpSendCount + 1 }

/-- A request returned: the withdrawal `w` in `DRAFT` joined the others, its amount was
reserved, and a code was issued. -/
structure RequestedAs (runtime : Runtime) (tenantId actorId : ℕ) (amount : Decimal)
    (world world' : PlatformWorld) (w : Withdrawal) (wallet wallet' : TenantWallet) :
    Prop where
  unsent : Unsent world world'
  stored : wallet ∈ world.db.rows .tenantWallets
  tenant : wallet.tenantId = tenantId
  reserved : WalletService.reserved amount wallet = some wallet'
  wallets : world'.db.rows .tenantWallets =
    replaceRow schema .tenantWallets wallet' (world.db.rows .tenantWallets)
  positive : 0 < amount
  status : w.status = .draft
  tenantId : w.tenantId = tenantId
  requestedBy : w.requestedBy = some actorId
  approvalRequired : w.approvalRequired =
    decide (runtime.settings.selcomWithdrawalApprovalThresholdTzs < amount)
  issued : ∃ draft code, Issued runtime draft w code
  amount : w.amount = toNumeric amount
  withdrawals : world'.db.rows .withdrawals = world.db.rows .withdrawals ++ [w]
  fresh : ∀ v ∈ world.db.rows .withdrawals, v.id ≠ w.id
  events : ∃ event : WithdrawalEvent, event.tenantId = w.tenantId ∧
    event.withdrawalId = w.id ∧ event.fromStatus = none ∧ event.toStatus = .draft ∧
    world'.db.rows .withdrawalEvents = world.db.rows .withdrawalEvents ++ [event]
  others : ∀ t, t ∉ [.withdrawals, .withdrawalEvents, .tenantWallets] →
    world'.db.rows t = world.db.rows t

def Requested (runtime : Runtime) (tenantId actorId : ℕ) (amount : Decimal)
    (world world' : PlatformWorld) : Prop :=
  ∃ w wallet wallet', RequestedAs runtime tenantId actorId amount world world' w wallet wallet'

/-- A new code was issued for a withdrawal in `DRAFT`. -/
def Reissued (runtime : Runtime) (withdrawalId : ℕ) (world world' : PlatformWorld) : Prop :=
  Unsent world world' ∧ ∃ w ∈ world.db.rows .withdrawals, w.id = withdrawalId ∧
    w.status = .draft ∧ ∃ w' code, Issued runtime w w' code ∧
      Db.Replaced .withdrawals w' world.db world'.db

/-- What `reverse_withdrawal` checks before it takes a payout back. -/
structure Reverses (tenantId withdrawalId : ℕ) (reason : String) (w : Withdrawal) : Prop where
  reason : strip reason ≠ ""
  id : w.id = withdrawalId
  tenantId : w.tenantId = tenantId
  status : w.status = .success

/-- A reversal returned: the payout of a successful withdrawal went back to its
wallet. -/
def Reversed (tenantId withdrawalId : ℕ) (reason : String) (world world' : PlatformWorld) :
    Prop :=
  Unsent world world' ∧ ∃ w ∈ world.db.rows .withdrawals,
    Reverses tenantId withdrawalId reason w ∧ ∃ w' entry, w'.status = .reversed ∧
      WalletService.IsDisbursementReversal w.tenantId w.amount (some w.id) entry ∧
      Moved WalletService.returned w world.db w' world'.db [entry]

variable {w w' : Withdrawal} {world : PlatformWorld} {db : PlatformDb}

theorem Unsent.of_sent_eq {world' : PlatformWorld} (h : world'.sent = world.sent) :
    Unsent world world' :=
  ⟨[], by rw [h, List.append_nil], by simp⟩

/-- A transfer sent after the row was rewritten is a transfer of the row. -/
theorem Sent.of_prior {submitted : Withdrawal} {middle : PlatformDb}
    {lookup process : HttpResult} {queries : List HttpResult}
    {sent : List (Request × HttpResult)} (heffect : Effect world.db middle w w' id [])
    (h : Sent ⟨middle, world.sent⟩ w' submitted db lookup process queries sent) :
    Sent world w submitted db lookup process queries sent where
  same := heffect.same.trans h.same
  status := h.status
  charge := h.charge
  effect := heffect.trans h.effect
  sent := by
    rw [← heffect.same.idempotencyKey]
    exact h.sent

theorem Unanswered.of_prior {settings : Settings} {middle : PlatformDb} {world' : PlatformWorld}
    (heffect : Effect world.db middle w w' id [])
    (h : Unanswered settings w' ⟨middle, world.sent⟩ world') :
    Unanswered settings w world world' := by
  obtain ⟨⟨henabled, hproduction, hdestination, hready⟩, hsent⟩ := h
  rw [heffect.others _ (by decide), heffect.same.destinationId, heffect.same.tenantId]
    at hdestination
  exact ⟨⟨henabled, hproduction, hdestination, hready⟩, hsent⟩

theorem NotSubmitted.of_prior {grants : Grants} {middle db' : PlatformDb} {final : Withdrawal}
    (hgranted : grants w .approved) (happroved : w'.status = .approved)
    (heffect : Effect db middle w w' id []) (h : NotSubmitted w' middle final db') :
    Unsubmitted grants w db final db' := by
  rcases h with ⟨rfl, rfl⟩ | ⟨-, hstatus, hmoved⟩
  · exact Or.inr (Or.inl ⟨by rw [happroved]; decide, happroved.symm ▸ hgranted, heffect⟩)
  · exact Or.inr (Or.inr ⟨by rw [hstatus]; rfl, hmoved.of_prior heffect⟩)

/-- However it was handled, the row of the withdrawal was rewritten. -/
theorem Unsubmitted.written {grants : Grants} {db' : PlatformDb}
    (h : Unsubmitted grants w db w' db') : w.SameRequest w' ∧
      db'.rows .withdrawals = replaceRow schema .withdrawals w' (db.rows .withdrawals) := by
  rcases h with ⟨-, heffect⟩ | ⟨-, -, heffect⟩ | ⟨-, wallet, wallet', hmoved⟩
  · exact ⟨heffect.same, heffect.withdrawals⟩
  · exact ⟨heffect.same, heffect.withdrawals⟩
  · exact ⟨hmoved.effect.same, hmoved.effect.withdrawals⟩

theorem Moved.trans {move : Decimal → TenantWallet → Option TenantWallet}
    {middle db' : PlatformDb} {final : Withdrawal} {entries : List LedgerEntry}
    (h : Moved move w db w' middle entries) (heffect : Effect middle db' w' final id []) :
    Moved move w db final db' entries := by
  obtain ⟨wallet, wallet', hmoved⟩ := h
  have hfinal := hmoved.effect.trans heffect
  rw [List.append_nil] at hfinal
  exact ⟨wallet, wallet', hmoved.stored, hmoved.tenant, hmoved.moved, hmoved.balances, hfinal⟩

section Rules

variable {aside : Table → Bool} (haside : ∀ t, aside t = true → t = .paymentWebhooks)
  {raises : Failure → PlatformWorld → Prop} {runtime : Runtime} {actorId : Option ℕ}

include haside

/-- Submission ends a confirmation and an approval alike. -/
theorem always_submitApproved {grants : Grants} {start : PlatformWorld}
    (hstart : w ∈ start.db.rows .withdrawals)
    (hstatus : w.status ∈ [.draft, .pendingApproval]) (hgranted : grants w .approved)
    (happroved : w'.status = .approved) (heffect : Effect start.db db w w' id []) :
    Always aside (fun _ => Advanced runtime.settings grants start)
      (fun _ => Abandoned grants start)
      (submitToSelcom runtime.settings w' actorId) ⟨db, start.sent⟩ := by
  refine (submitToSelcom_always haside (heffect.mem hstart)).mono ?_ ?_
  · rintro final world' (⟨hunsent, hnot, hunanswered⟩ |
      ⟨submitted, middle, lookup, process, queries, hsent, hsettled⟩)
    · exact ⟨w, hstart, hstatus, final, Or.inl ⟨hunsent,
        hnot.of_prior hgranted happroved heffect,
        fun h => (hunanswered happroved h).of_prior heffect⟩⟩
    · exact ⟨w, hstart, hstatus, final, Or.inr ⟨hgranted, submitted, middle, lookup, process,
        queries, hsent.of_prior heffect, hsettled⟩⟩
  · rintro e world' (hunsent | ⟨submitted, middle, lookup, process, queries, hsent, hunkept⟩)
    · exact Or.inl hunsent
    · exact Or.inr (Or.inr ⟨w, hstart, hstatus, hgranted, submitted, middle, lookup, process,
        queries, hsent.of_prior heffect, hunkept⟩)

omit haside in
theorem always_isExhausted {returns : Bool → PlatformWorld → Prop}
    (hexhausted : returns true world)
    (hopen : ∀ expiresAt time,
      (w.twoFactorAttempts : ℤ) < runtime.settings.withdrawalOtpMaxAttempts →
      w.twoFactorExpiresAt = some expiresAt → time ≤ expiresAt → returns false world) :
    Always aside returns raises (TwoFactorService.isExhausted runtime w) world := by
  unfold TwoFactorService.isExhausted
  split
  · exact hexhausted
  · rename_i hattempts
    split
    · exact hexhausted
    · rename_i expiresAt hexpires
      refine always_bind.mpr (always_now.mpr fun time => ?_)
      by_cases hlate : expiresAt < time
      · rw [decide_eq_true hlate]
        exact hexhausted
      · rw [decide_eq_false hlate]
        exact hopen expiresAt time (not_le.mp hattempts) hexpires (not_lt.mp hlate)

omit haside in
theorem always_hashCode {withdrawalId : ℕ} {code : String}
    {returns : String → PlatformWorld → Prop}
    (hreturns : ∀ secret, runtime.settings.otpVerificationSecret = some secret →
      returns (runtime.hmacSha256 secret (toString withdrawalId ++ ":" ++ code)) world)
    (hraises : ∀ e, raises e world) :
    Always aside returns raises (TwoFactorService.hashCode runtime withdrawalId code)
      world := by
  unfold TwoFactorService.hashCode TwoFactorService.otpSecret
  refine always_bind.mpr ?_
  split
  · exact hraises _
  · rename_i secret hsecret
    split
    · exact hraises _
    · exact hreturns secret hsecret

/-- A verification writes the attempt and nothing else. -/
theorem always_verify {code : String} {currentEmail : Option String}
    {returns : Withdrawal × Bool → PlatformWorld → Prop}
    (hw : w ∈ world.db.rows .withdrawals) (hdraft : w.status = .draft)
    (hrefused : ∀ w' db, w'.status = .draft → Effect world.db db w w' id [] →
      returns (w', false) { world with db })
    (hverified : ∀ w' db time, Accepted runtime w code time → w'.status = .draft →
      w'.twoFactorConfirmedAt.isSome = true → Effect world.db db w w' id [] →
      returns (w', true) { world with db })
    (hraises : ∀ e, raises e world) :
    Always aside returns raises
      (TwoFactorService.verify runtime w code currentEmail) world := by
  have hsame := hrefused w world.db hdraft (.refl hw)
  have hauthorised : ∀ w' : Withdrawal, w'.status = .draft → Authorised w' := by
    intro w' hstatus
    constructor
    · exact fun hne => absurd hstatus hne
    · exact fun _ hne => absurd hstatus hne
  unfold TwoFactorService.verify
  split
  · exact hsame
  rename_i hash hhash
  refine always_bind.mpr (always_isExhausted (by simpa using hsame)
    fun expiresAt time hattempts hexpires htime => ?_)
  rw [if_neg Bool.false_ne_true]
  split
  · exact hsame
  refine always_bind.mpr (always_hashCode (fun secret hsecret => ?_) hraises)
  split
  · rename_i hequal
    refine always_bind.mpr (always_now.mpr fun confirmedAt => ?_)
    refine always_bind.mpr (always_updateWithdrawal (not_aside haside (by decide)) hw
      (by constructor <;> rfl) (fun db _ hwritten => ?_) (fun _ => hraises _))
    exact hverified _ db time ⟨⟨secret, hsecret, by rw [hequal, hhash]⟩, hattempts,
      expiresAt, hexpires, htime⟩ hdraft rfl
      (.of_withdrawal w hwritten (by constructor <;> rfl) rfl rfl fun _ => hauthorised _ hdraft)
  · refine always_bind.mpr (always_updateWithdrawal (not_aside haside (by decide)) hw
      (by constructor <;> rfl) (fun db _ hwritten => ?_) (fun _ => hraises _))
    exact hrefused _ db hdraft
      (.of_written w hwritten (by constructor <;> rfl) rfl rfl rfl rfl)

/-- The lookup every operation on one withdrawal starts with. -/
theorem always_lockWithdrawal {α : Type} {returns : α → PlatformWorld → Prop}
    {tenantId : Option ℕ} {withdrawalId : ℕ} {next : Withdrawal → Tx α}
    (hfound : ∀ w ∈ world.db.rows .withdrawals, w.id = withdrawalId →
      ofTenant .withdrawals tenantId w = true →
      Always aside returns raises (next w) world)
    (hmissing : raises (.notFound "Withdrawal not found") world) :
    Always aside returns raises (do
      let found ← getByIdForUpdate .withdrawals tenantId withdrawalId
      let withdrawal ← Prog.orRaise found (.notFound "Withdrawal not found")
      next withdrawal) world :=
  always_bind.mpr (always_getByIdForUpdate (t := .withdrawals) (not_aside haside (by decide))
    (fun w hw htenant hid => always_bind.mpr (hfound w hw hid htenant)) fun _ => hmissing)

/-- The reservation of a withdrawal is released. -/
theorem always_release {returns : TenantWallet → PlatformWorld → Prop}
    (hw : w ∈ world.db.rows .withdrawals)
    (hreturns : ∀ wallet db, w ∈ db.rows .withdrawals →
      Moved WalletService.released w world.db w db [] → returns wallet { world with db })
    (hraises : ∀ e db, raises e { world with db }) :
    Always aside returns raises
      (WalletService.releaseReservation w.tenantId (ofNumeric w.amount)) world := by
  refine WalletService.always_releaseReservation (not_aside haside (by decide)) ?_
    (fun _ => hraises)
  intro wallet hwallet htenant wallet' db hreleased hreplaced
  refine hreturns wallet' db ?_
    ⟨wallet, wallet', hwallet, htenant, hreleased, by simp, .of_wallet hw hreplaced⟩
  rw [hreplaced.rows_of_ne (by decide)]
  exact hw

omit haside in
theorem tenantId_of_ofTenant {tenantId : ℕ}
    (h : ofTenant .withdrawals (some tenantId) w = true) : w.tenantId = tenantId := by
  simpa [ofTenant, rowTenant] using h

omit haside in
/-- A cancelled withdrawal needs no confirmation. -/
theorem authorised_cancelled : Authorised { w with status := .cancelled } where
  confirmed _ h := absurd rfl h
  reviewed _ _ h _ := absurd rfl h

theorem confirmTwoFactor_always {tenantId withdrawalId actorId : ℕ} {code : String} :
    Always aside
      (fun _ => Advanced runtime.settings (Confirms runtime tenantId withdrawalId actorId code)
        world)
      (fun _ => Abandoned (Confirms runtime tenantId withdrawalId actorId code) world)
      (confirmTwoFactor runtime tenantId withdrawalId actorId code) world := by
  have hunsent : ∀ db, Abandoned (Confirms runtime tenantId withdrawalId actorId code) world
      ⟨db, world.sent⟩ := fun db => Or.inl (Unsent.of_sent_eq rfl)
  refine always_lockWithdrawal haside (fun w hw hid hofTenant => ?_) (hunsent _)
  have htenant := tenantId_of_ofTenant hofTenant
  refine always_bind.mpr (always_require (fun hrequester => ?_) (fun _ => hunsent _))
  refine always_bind.mpr (always_require (fun hdraft => ?_) (fun _ => hunsent _))
  have hstatus : w.status ∈ [.draft, .pendingApproval] := by simp [hdraft]
  refine always_bind.mpr (always_getById_any (not_aside haside (by decide)) fun profile => ?_)
  refine always_bind.mpr (always_verify haside hw hdraft (fun checked db hchecked heffect => ?_)
    (fun checked db time haccepted hchecked hconfirmed heffect => ?_) (fun e => hunsent _))
  · have hstored := heffect.mem hw
    dsimp only
    rw [if_neg Bool.false_ne_true]
    have hkept : Advanced runtime.settings (Confirms runtime tenantId withdrawalId actorId code)
        world ⟨db, world.sent⟩ :=
      ⟨w, hw, hstatus, checked, Or.inl ⟨Unsent.of_sent_eq rfl,
        Or.inl ⟨hchecked.trans hdraft.symm, heffect⟩, fun h => by
          rw [hchecked] at h
          cases h⟩⟩
    refine always_bind.mpr (always_isExhausted ?_ fun _ _ _ _ _ => by simpa using hkept)
    rw [if_pos rfl]
    obtain rfl : checked.tenantId = tenantId := heffect.same.tenantId.trans htenant
    refine always_bind.mpr (always_release haside hstored (fun _ released hkept hmoved => ?_)
      (fun e final => hunsent final))
    refine always_bind.mpr (always_transition haside hkept (by rw [hchecked]; decide)
      (fun _ => authorised_cancelled) (fun final hfinal => ?_) (fun _ e final => hunsent final))
    exact ⟨w, hw, hstatus, _, Or.inl ⟨Unsent.of_sent_eq rfl,
      Or.inr (Or.inr ⟨rfl, (hmoved.trans hfinal).of_prior heffect⟩), fun h => by cases h⟩⟩
  · have hstored := heffect.mem hw
    have hrequired := heffect.same.approvalRequired
    dsimp only
    rw [if_pos rfl]
    by_cases happroval : checked.approvalRequired = true
    · rw [if_pos happroval]
      have hgranted : Confirms runtime tenantId withdrawalId actorId code w .pendingApproval :=
        ⟨hid, htenant, hrequester, hdraft, by rw [← hrequired, if_pos happroval], time,
          haccepted⟩
      refine always_bind.mpr (always_transition haside hstored (by rw [hchecked]; decide)
        (fun _ => ⟨fun _ _ => hconfirmed, fun _ _ _ h => absurd rfl h⟩)
        (fun final hfinal => ?_) (fun _ e final => hunsent final))
      have hadvanced : Advanced runtime.settings
          (Confirms runtime tenantId withdrawalId actorId code) world ⟨final, world.sent⟩ :=
        ⟨w, hw, hstatus, _, Or.inl ⟨Unsent.of_sent_eq rfl,
          Or.inr (Or.inl ⟨by simp, hgranted, heffect.trans hfinal⟩), fun h => by cases h⟩⟩
      unfold sendSuperAdminReviewEmail
      refine always_bind.mpr ?_
      split
      · exact hadvanced
      · split
        · exact hadvanced
        · exact fun _ _ hyields => hyields ▸ hadvanced
    · rw [if_neg happroval]
      have hgranted : Confirms runtime tenantId withdrawalId actorId code w .approved :=
        ⟨hid, htenant, hrequester, hdraft, by rw [← hrequired, if_neg happroval], time,
          haccepted⟩
      refine always_bind.mpr (always_transition haside hstored (by rw [hchecked]; decide)
        (fun _ => ⟨fun _ _ => hconfirmed, fun h => absurd h happroval⟩)
        (fun approved happroved => ?_) (fun _ e final => hunsent final))
      exact always_bind.mpr (always_submitApproved haside hw hstatus hgranted rfl
        (heffect.trans happroved))

theorem approveWithdrawal_always {withdrawalId actorId : ℕ} {notes : Option String} :
    Always aside (fun _ => Advanced runtime.settings (Approves withdrawalId) world)
      (fun _ => Abandoned (Approves withdrawalId) world)
      (approveWithdrawal runtime withdrawalId actorId notes) world := by
  have hunsent : ∀ db, Abandoned (Approves withdrawalId) world ⟨db, world.sent⟩ :=
    fun db => Or.inl (Unsent.of_sent_eq rfl)
  refine always_lockWithdrawal haside (fun w hw hid _ => ?_) (hunsent _)
  refine always_bind.mpr (always_require (fun hpending => ?_) (fun _ => hunsent _))
  have hstatus : w.status ∈ [.draft, .pendingApproval] := by simp [hpending]
  refine always_bind.mpr (always_now.mpr fun time => ?_)
  refine always_bind.mpr (always_updateWithdrawal (not_aside haside (by decide)) hw
    (by constructor <;> rfl) (fun reviewed _ hwritten => ?_) (fun _ => hunsent _))
  have heffect := Effect.of_withdrawal w hwritten (by constructor <;> rfl) rfl rfl
    fun h => ⟨h.confirmed, fun _ _ _ _ => rfl⟩
  refine always_bind.mpr (always_transition haside (heffect.mem hw)
    (by dsimp only; rw [hpending]; decide) (fun h => ⟨fun _ _ => ?_, fun _ _ _ _ => rfl⟩)
    (fun approved happroved => ?_) (fun _ e final => hunsent final))
  · apply h.confirmed <;> dsimp only <;> rw [hpending] <;> decide
  · exact always_submitApproved haside hw hstatus ⟨hid, hpending, rfl⟩ rfl
      (heffect.trans happroved)

theorem rejectWithdrawal_always {settings : Settings} {grants : Grants} {withdrawalId actorId : ℕ}
    {reason : String} :
    Always aside (fun _ => Advanced settings grants world) (fun _ => Unsent world)
      (rejectWithdrawal withdrawalId actorId reason) world := by
  have hunsent : ∀ db, Unsent world ⟨db, world.sent⟩ := fun db => Unsent.of_sent_eq rfl
  refine always_bind.mpr (always_require (fun _ => ?_) (fun _ => hunsent _))
  refine always_lockWithdrawal haside (fun w hw _ _ => ?_) (hunsent _)
  refine always_bind.mpr (always_require (fun hpending => ?_) (fun _ => hunsent _))
  refine always_bind.mpr (always_release haside hw (fun _ released hkept hmoved => ?_)
    (fun e final => hunsent final))
  refine always_bind.mpr (always_now.mpr fun reviewedAt => ?_)
  refine always_bind.mpr (always_now.mpr fun completedAt => ?_)
  refine always_bind.mpr (always_updateWithdrawal (not_aside haside (by decide)) hkept
    (by constructor <;> rfl) (fun reviewed _ hwritten => ?_) (fun _ => hunsent _))
  have heffect := Effect.of_withdrawal w hwritten (by constructor <;> rfl) rfl rfl
    fun h => ⟨h.confirmed, fun _ _ _ _ => rfl⟩
  refine always_transition haside (heffect.mem hkept) (by dsimp only; rw [hpending]; decide)
    (fun h => ⟨fun _ _ => ?_, fun _ _ _ _ => rfl⟩) (fun final hfinal => ?_)
    (fun _ e final => hunsent final)
  · apply h.confirmed <;> dsimp only <;> rw [hpending] <;> decide
  · exact ⟨w, hw, by simp [hpending], _, Or.inl ⟨hunsent _,
      Or.inr (Or.inr ⟨rfl, (hmoved.trans heffect).trans hfinal⟩), fun h => by cases h⟩⟩

theorem cancelWithdrawal_always {settings : Settings} {grants : Grants}
    {tenantId withdrawalId actorId : ℕ} {reason : Option String} :
    Always aside (fun _ => Advanced settings grants world) (fun _ => Unsent world)
      (cancelWithdrawal tenantId withdrawalId actorId reason) world := by
  have hunsent : ∀ db, Unsent world ⟨db, world.sent⟩ := fun db => Unsent.of_sent_eq rfl
  refine always_lockWithdrawal haside (fun w hw _ hofTenant => ?_) (hunsent _)
  obtain rfl := tenantId_of_ofTenant hofTenant
  refine always_bind.mpr (always_require (fun _ => ?_) (fun _ => hunsent _))
  refine always_bind.mpr (always_require (fun hopen => ?_) (fun _ => hunsent _))
  have hedge : WithdrawalStatus.cancelled ∈ successors w.status := by
    rcases hopen with h | h <;> rw [h] <;> decide
  refine always_bind.mpr (always_release haside hw (fun _ released hkept hmoved => ?_)
    (fun e final => hunsent final))
  refine always_bind.mpr (always_now.mpr fun time => ?_)
  refine always_bind.mpr (always_updateWithdrawal (not_aside haside (by decide)) hkept
    (by constructor <;> rfl) (fun stamped _ hwritten => ?_) (fun _ => hunsent _))
  have heffect := Effect.of_written w hwritten (by constructor <;> rfl) rfl rfl rfl rfl
  refine always_transition haside (heffect.mem hkept) hedge (fun _ => authorised_cancelled)
    (fun final hfinal => ?_) (fun _ e final => hunsent final)
  exact ⟨w, hw, by simpa using hopen, _, Or.inl ⟨hunsent _,
    Or.inr (Or.inr ⟨rfl, (hmoved.trans heffect).trans hfinal⟩), fun h => by cases h⟩⟩

/-! ## Codes -/

/-- A new code is stored, whether or not its mail is delivered. -/
theorem always_issuedAs {email : String} {returns : Withdrawal × Bool × ℤ → PlatformWorld → Prop}
    (hw : w ∈ world.db.rows .withdrawals)
    (hreturns : ∀ code secret expiresAt lastSentAt sent expiresIn db,
      runtime.settings.otpVerificationSecret = some secret →
      Db.Replaced .withdrawals
        (issuedAs w (runtime.hmacSha256 secret (toString w.id ++ ":" ++ code)) email expiresAt
          lastSentAt) world.db db →
      returns (issuedAs w (runtime.hmacSha256 secret (toString w.id ++ ":" ++ code)) email
        expiresAt lastSentAt, sent, expiresIn) { world with db })
    (hraises : ∀ e db, raises e { world with db }) :
    Always aside returns raises (issueAndSendOtp runtime w email) world := by
  refine always_bind.mpr (always_bind.mpr (always_ask.mpr fun code => ?_))
  refine always_bind.mpr (always_hashCode (fun secret hsecret => ?_)
    (fun e => hraises e world.db))
  refine always_bind.mpr (always_now.mpr fun time => ?_)
  refine always_bind.mpr (always_updateWithdrawal (not_aside haside (by decide)) hw
    (by constructor <;> rfl) (fun issued _ hissued => ?_) (fun _ => hraises _ world.db))
  refine always_bind.mpr (always_now.mpr fun sentAt => ?_)
  refine always_bind.mpr (always_updateWithdrawal (not_aside haside (by decide))
    (hissued.mem hw rfl) (by constructor <;> rfl) (fun counted _ hcounted => ?_)
    (fun _ => hraises _ issued))
  refine always_bind.mpr (always_ask.mpr fun sent => ?_)
  exact hreturns code secret _ sentAt sent _ counted hsecret (hissued.trans hcounted rfl)

theorem always_issueAndSendOtp {email : String}
    {returns : Withdrawal × Bool × ℤ → PlatformWorld → Prop}
    (hw : w ∈ world.db.rows .withdrawals)
    (hreturns : ∀ w' code sent expiresIn db, Issued runtime w w' code →
      Db.Replaced .withdrawals w' world.db db → returns (w', sent, expiresIn) { world with db })
    (hraises : ∀ e db, raises e { world with db }) :
    Always aside returns raises (issueAndSendOtp runtime w email) world := by
  apply always_issuedAs haside hw
  · intro code secret expiresAt lastSentAt sent expiresIn db hsecret hreplaced
    exact hreturns _ code sent expiresIn db
      ⟨by constructor <;> rfl, rfl, secret, hsecret, rfl⟩ hreplaced
  · exact hraises

omit haside in
theorem always_requireCooldown {settings : Settings} {returns : Unit → PlatformWorld → Prop}
    (hreturns : returns () world) (hraises : ∀ e, raises e world) :
    Always aside returns raises (requireCooldown settings w) world := by
  unfold requireCooldown
  split
  · exact hreturns
  · exact always_bind.mpr (always_now.mpr fun _ =>
      always_require (fun _ => hreturns) (fun _ => hraises _))

theorem always_resolveVerifiedEmail {tenantId actorId : ℕ}
    {returns : String → PlatformWorld → Prop} (hreturns : ∀ email, returns email world)
    (hraises : ∀ e, raises e world) :
    Always aside returns raises (resolveVerifiedEmail tenantId actorId) world := by
  refine always_bind.mpr (always_getById_any (not_aside haside (by decide)) fun profile => ?_)
  refine always_bind.mpr (always_selectOne_any (not_aside haside (by decide))
    (fun verification => ?_) hraises)
  split
  · split
    · exact hraises _
    · exact hreturns _
  · exact hraises _

theorem resendOtp_always {tenantId withdrawalId actorId : ℕ} :
    Always aside (fun _ => Reissued runtime withdrawalId world) (fun _ => Unsent world)
      (resendOtp runtime tenantId withdrawalId actorId) world := by
  have hunsent : ∀ db, Unsent world ⟨db, world.sent⟩ := fun db => Unsent.of_sent_eq rfl
  refine always_lockWithdrawal haside (fun w hw hid _ => ?_) (hunsent _)
  refine always_bind.mpr (always_require (fun _ => ?_) (fun _ => hunsent _))
  refine always_bind.mpr (always_require (fun hdraft => ?_) (fun _ => hunsent _))
  refine always_bind.mpr (always_require (fun _ => ?_) (fun _ => hunsent _))
  refine always_bind.mpr (always_requireCooldown ?_ (fun _ => hunsent _))
  refine always_bind.mpr (always_resolveVerifiedEmail haside (fun email => ?_)
    (fun _ => hunsent _))
  refine always_bind.mpr (always_issueAndSendOtp haside hw
    (fun w' code sent expiresIn db hissued hwritten => ?_) (fun _ => hunsent))
  exact ⟨hunsent db, w, hw, hid, hdraft, w', code, hissued, hwritten⟩

/-! ## Requests and reversals -/

theorem always_enforceWithdrawalLimits {settings : Settings} {tenantId : ℕ} {amount : Decimal}
    {returns : Unit → PlatformWorld → Prop} (hreturns : returns () world)
    (hraises : ∀ e, raises e world) :
    Always aside returns raises (enforceWithdrawalLimits settings tenantId amount) world := by
  refine always_bind.mpr (always_require (fun _ => ?_) (fun _ => hraises _))
  refine always_bind.mpr (always_require (fun _ => ?_) (fun _ => hraises _))
  split
  · exact hreturns
  refine always_bind.mpr (always_now.mpr fun time => ?_)
  refine always_bind.mpr (always_bind.mpr (always_scan (not_aside haside (by decide)) ?_))
  refine always_bind.mpr (always_require (fun _ => ?_) (fun _ => hraises _))
  exact always_require (fun _ => hreturns) (fun _ => hraises _)

omit haside in
/-- The last row of a table, rewritten. -/
theorem replaceRow_append {rows : List Withdrawal} (hid : w'.id = w.id)
    (hfresh : w.id = freshId schema .withdrawals rows) :
    replaceRow schema .withdrawals w' (rows ++ [w]) = rows ++ [w'] := by
  have hkept : ∀ old ∈ rows,
      (if rowId .withdrawals old = rowId .withdrawals w' then w' else old) = old := by
    intro old hold
    have hlt : old.id < freshId schema .withdrawals rows :=
      @id_lt_freshId Table Row schema Table.withdrawals old rows hold
    refine if_neg fun h => ?_
    have h : old.id = w'.id := h
    omega
  have hlast : (if rowId .withdrawals w = rowId .withdrawals w' then w' else w) = w' :=
    if_pos hid.symm
  simp only [replaceRow, List.map_append, List.map_congr_left hkept, List.map_id', List.map_cons,
    List.map_nil, hlast]

theorem requestWithdrawal_always {tenantId actorId destinationId : ℕ} {amount : Decimal} :
    Always aside (fun _ => Requested runtime tenantId actorId amount world)
      (fun _ => Unsent world)
      (requestWithdrawal runtime tenantId actorId destinationId amount) world := by
  have hunsent : ∀ db, Unsent world ⟨db, world.sent⟩ := fun db => Unsent.of_sent_eq rfl
  refine always_bind.mpr (always_require (fun hpositive => ?_) (fun _ => hunsent _))
  refine always_bind.mpr (always_getById_any (not_aside haside (by decide)) fun found => ?_)
  refine always_bind.mpr (always_orRaise (fun destination _ => ?_) (fun _ => hunsent _))
  refine always_bind.mpr (always_bind.mpr (always_bind.mpr
    (always_select (not_aside haside (by decide)) ?_)))
  refine always_bind.mpr (always_require (fun _ => ?_) (fun _ => hunsent _))
  refine always_bind.mpr (always_require (fun _ => ?_) (fun _ => hunsent _))
  refine always_bind.mpr (always_selectOne_any (not_aside haside (by decide)) (fun flags => ?_)
    (fun _ => hunsent _))
  refine always_bind.mpr (always_require (fun _ => ?_) (fun _ => hunsent _))
  refine always_bind.mpr (always_resolveVerifiedEmail haside (fun email => ?_)
    (fun _ => hunsent _))
  refine always_bind.mpr (always_enforceWithdrawalLimits haside ?_ (fun _ => hunsent _))
  refine always_bind.mpr (always_tryCatch.mpr (WalletService.always_reserveForWithdrawal
    (not_aside haside (by decide)) ?_ (fun e db => ?_)))
  · intro wallet hwallet htenant wallet' reserved hreserved hreplaced
    refine always_bind.mpr (always_uuidHex.mpr fun idempotencyKey => ?_)
    refine always_bind.mpr (always_create (not_aside haside (by decide))
      (fun w stored hw hid hstored => ?_) (fun _ => hunsent _))
    refine always_bind.mpr (always_createPlain (not_aside haside (by decide))
      (fun _ => rfl) (fun _ _ => rfl) (fun event logged hevent _ hlogged => ?_)
      (fun _ _ => hunsent _))
    have hkept : w ∈ logged.rows .withdrawals := by
      rw [hlogged.rows_of_ne (by decide)]
      exact hstored.mem
    refine always_bind.mpr (always_issueAndSendOtp haside hkept
      (fun w' code sent expiresIn final hissued hwritten => ?_) (fun _ => hunsent))
    have hwithdrawals : reserved.rows .withdrawals = world.db.rows .withdrawals :=
      hreplaced.rows_of_ne (by decide)
    have hsame := hissued.same
    have hfresh : w.id = freshId schema .withdrawals (world.db.rows .withdrawals) := by
      rw [← hwithdrawals]
      exact hid
    refine ⟨w', wallet, wallet', ?_⟩
    constructor
    case unsent => exact hunsent final
    case status => rw [hissued.status, hw]
    case tenantId => rw [hsame.tenantId, hw]
    case requestedBy => rw [hsame.requestedBy, hw]
    case approvalRequired => rw [hsame.approvalRequired, hw]
    case issued => exact ⟨w, code, hissued⟩
    case positive => exact hpositive
    case amount => rw [hsame.amount, hw]
    case withdrawals =>
      rw [hwritten.rows_self, hlogged.rows_of_ne (by decide), hstored.rows_self, hwithdrawals]
      exact replaceRow_append hsame.id hfresh
    case fresh =>
      intro v hv
      have hlt := @id_lt_freshId Table Row schema Table.withdrawals v _ hv
      rw [hsame.id, hfresh]
      exact Nat.ne_of_lt hlt
    case events =>
      refine ⟨event, ?_, by rw [hevent, hsame.id], by rw [hevent], by rw [hevent], ?_⟩
      · rw [hevent, hsame.tenantId, hw]
      rw [hwritten.rows_of_ne (by decide), hlogged.rows_self, hstored.rows_of_ne (by decide),
        hreplaced.rows_of_ne (by decide)]
    case stored => exact hwallet
    case tenant => exact htenant
    case reserved => exact hreserved
    case wallets =>
      rw [hwritten.rows_of_ne (by decide), hlogged.rows_of_ne (by decide),
        hstored.rows_of_ne (by decide), hreplaced.rows_self]
    case others =>
      intro t ht
      simp only [List.mem_cons, List.not_mem_nil, or_false, not_or] at ht
      rw [hwritten.rows_of_ne ht.1, hlogged.rows_of_ne ht.2.1, hstored.rows_of_ne ht.1,
        hreplaced.rows_of_ne ht.2.2]
  · cases e <;> exact hunsent db

theorem reverseWithdrawal_always {tenantId withdrawalId : ℕ} {reason : String} :
    Always aside (fun _ => Reversed tenantId withdrawalId reason world) (fun _ => Unsent world)
      (reverseWithdrawal tenantId withdrawalId actorId reason) world := by
  have hunsent : ∀ db, Unsent world ⟨db, world.sent⟩ := fun db => Unsent.of_sent_eq rfl
  refine always_bind.mpr (always_require (fun hreason => ?_) (fun _ => hunsent _))
  refine always_lockWithdrawal haside (fun w hw hid hofTenant => ?_) (hunsent _)
  obtain rfl := tenantId_of_ofTenant hofTenant
  refine always_bind.mpr (always_require (fun hsuccess => ?_) (fun _ => hunsent _))
  refine always_bind.mpr (WalletService.always_reverseDisbursement
    (not_aside haside (by decide)) (not_aside haside (by decide)) ?_ (fun _ => hunsent))
  intro wallet hwallet htenant wallet' entry moved db hreturned hreplaced hentry hbalance
    happended
  have hmoved : w ∈ moved.rows .withdrawals := by
    rw [hreplaced.rows_of_ne (by decide)]
    exact hw
  have hentered : w ∈ db.rows .withdrawals := by
    rw [happended.rows_of_ne (by decide)]
    exact hmoved
  rw [toNumeric_ofNumeric] at hentry
  have hback : Moved WalletService.returned w world.db w db [entry] :=
    ⟨wallet, wallet', hwallet, htenant, hreturned, by simpa using hbalance,
      (Effect.of_wallet hw hreplaced).trans (Effect.of_entry hmoved happended)⟩
  refine always_transition haside hentered (by rw [hsuccess]; decide) (fun h => ?_)
    (fun final hfinal => ?_) (fun _ e final => hunsent final)
  · apply h.transition <;> rw [hsuccess] <;> decide
  · exact ⟨hunsent _, w, hw, ⟨hreason, hid, rfl, hsuccess⟩, _, entry, rfl, hentry,
      hback.trans hfinal⟩

/-! ## Reconciliation -/

/-- The answer of a query leaves the withdrawal as `w'`. -/
def Resolved (w : Withdrawal) (db : PlatformDb) (query : HttpResult) (w' : Withdrawal)
    (db' : PlatformDb) : Prop :=
  match validated transactionQueryResponse query with
  | .ok response => Carried (decision w (queryResult w response)) w db w' db'
  | .error _ => w' = w ∧ db' = db

/-- A reconciliation returned: it left the database alone, or carried out what the
one query it sent was answered. -/
def Reconciled (world world' : PlatformWorld) : Prop :=
  world' = world ∨
  ∃ w ∈ world.db.rows .withdrawals, ∃ query w',
    world'.sent = world.sent ++ [(.transactionQuery w.idempotencyKey, query)] ∧
      Resolved w world.db query w' world'.db

theorem always_reconcile {grants : Grants} {w : Withdrawal} {settings : Settings}
    (hw : w ∈ world.db.rows .withdrawals) :
    Always aside (fun _ => Reconciled world) (fun _ => Abandoned grants world)
      (reconcileLocked settings w actorId) world := by
  refine always_reconcileLocked haside hw (fun query => ?_)
    (fun _ => ⟨Or.inl rfl, fun _ => Or.inl (.refl world)⟩)
  have hqueried : ∀ db, Abandoned grants world ⟨db, world.sent ++
      [(.transactionQuery w.idempotencyKey, query)]⟩ :=
    fun db => Or.inr (Or.inl ⟨w, hw, query, rfl⟩)
  cases hquery : validated transactionQueryResponse query with
  | ok response =>
    refine ⟨fun w' db hcarried => Or.inr ⟨w, hw, query, w', rfl, ?_⟩,
      fun _ e db => hqueried db⟩
    simpa only [Resolved, hquery]
  | error failure =>
    have hleft : Reconciled world
        { world with sent := world.sent ++ [(.transactionQuery w.idempotencyKey, query)] } :=
      Or.inr ⟨w, hw, query, w, rfl, by simp only [Resolved, hquery, and_self]⟩
    rcases validated_error hquery with ⟨message, rfl⟩ | ⟨message, statusCode, rfl⟩ | rfl
    · exact hleft
    · exact hleft
    · exact hqueried world.db

theorem reconcileWithdrawal_always {grants : Grants} {withdrawalId : ℕ} :
    Always aside (fun _ => Reconciled world) (fun _ => Abandoned grants world)
      (reconcileWithdrawal runtime withdrawalId) world :=
  always_lockWithdrawal haside (fun _ hw _ _ => always_reconcile haside hw)
    (Or.inl (.refl world))

theorem reconcileIfPending_always {grants : Grants} {withdrawalId : ℕ} :
    Always aside (fun _ => Reconciled world) (fun _ => Abandoned grants world)
      (reconcileIfPending runtime withdrawalId) world := by
  refine always_lockWithdrawal haside (fun w hw _ _ => ?_) (Or.inl (.refl world))
  split
  · exact Or.inl rfl
  · exact always_bind.mpr (always_reconcile haside hw)

end Rules

end InfinityRadius.Services.PayoutService
