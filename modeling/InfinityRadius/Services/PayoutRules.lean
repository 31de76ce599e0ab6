import InfinityRadius.Services.Payouts

/-!
# What the payout operations do

One rule for each step of a payout: the rows it writes when it returns, and the
only reasons for which it raises.
-/

namespace InfinityRadius.Services.PayoutService

open Amounts Database Payload Program Sql Models Integrations.SelcomBusiness

/-! ## Courses -/

/-- The edges of the withdrawal state machine. -/
def successors : WithdrawalStatus → List WithdrawalStatus
  | .draft => [.pendingApproval, .approved, .cancelled]
  | .pendingApproval => [.approved, .rejected, .cancelled]
  | .approved => [.processing, .failed]
  | .processing => [.success, .failed, .ambiguous]
  | .ambiguous => [.success, .failed, .ambiguous]
  | .success => [.reversed]
  | _ => []

/-- A path of the state machine, by its edges. -/
def Course : WithdrawalStatus → List (WithdrawalStatus × WithdrawalStatus) →
    WithdrawalStatus → Prop
  | fromStatus, [], toStatus => fromStatus = toStatus
  | fromStatus, edge :: rest, toStatus =>
    edge.1 = fromStatus ∧ edge.2 ∈ successors fromStatus ∧ Course edge.2 rest toStatus

theorem Course.append {first second third : WithdrawalStatus}
    {edges edges' : List (WithdrawalStatus × WithdrawalStatus)} (h : Course first edges second)
    (h' : Course second edges' third) : Course first (edges ++ edges') third := by
  induction edges generalizing first with
  | nil =>
    obtain rfl : first = second := h
    exact h'
  | cons edge rest ih => exact ⟨h.1, h.2.1, ih h.2.2⟩

/-- The events of a withdrawal that takes the edges. -/
def Logs (tenantId withdrawalId : ℕ) (edges : List (WithdrawalStatus × WithdrawalStatus))
    (events : List WithdrawalEvent) : Prop :=
  events.map (fun event =>
      (event.tenantId, event.withdrawalId, event.fromStatus, event.toStatus)) =
    edges.map fun edge => (tenantId, withdrawalId, some edge.1, edge.2)

theorem Logs.append {tenantId withdrawalId : ℕ}
    {edges edges' : List (WithdrawalStatus × WithdrawalStatus)}
    {events events' : List WithdrawalEvent} (h : Logs tenantId withdrawalId edges events)
    (h' : Logs tenantId withdrawalId edges' events') :
    Logs tenantId withdrawalId (edges ++ edges') (events ++ events') := by
  unfold Logs at *
  rw [List.map_append, List.map_append, h, h']

/-- Outside `DRAFT` and `CANCELLED` the code was confirmed, and where approval is
required a withdrawal past `PENDING_APPROVAL` was reviewed. -/
structure Authorised (w : Withdrawal) : Prop where
  confirmed : w.status ≠ .draft → w.status ≠ .cancelled → w.twoFactorConfirmedAt.isSome = true
  reviewed : w.approvalRequired = true → w.status ≠ .draft → w.status ≠ .cancelled →
    w.status ≠ .pendingApproval → w.reviewedBy.isSome = true

/-- An authorised withdrawal stays so once it is past review. -/
theorem Authorised.transition {w : Withdrawal} (toStatus : WithdrawalStatus)
    (hdraft : w.status ≠ .draft) (hcancelled : w.status ≠ .cancelled)
    (hpending : w.status ≠ .pendingApproval) (h : Authorised w) :
    Authorised { w with status := toStatus } where
  confirmed _ _ := h.confirmed hdraft hcancelled
  reviewed hrequired _ _ _ := h.reviewed hrequired hdraft hcancelled hpending

/-- What a result of the provider can still change is past review. -/
theorem Authorised.of_pending {w : Withdrawal} (toStatus : WithdrawalStatus)
    (hpending : w.status.pending = true) (h : Authorised w) :
    Authorised { w with status := toStatus } := by
  apply h.transition toStatus <;> intro hstatus <;> rw [hstatus] at hpending <;> cases hpending

theorem mem_successors_of_pending {fromStatus toStatus : WithdrawalStatus}
    (hpending : fromStatus.pending = true)
    (hto : toStatus ∈ [.success, .failed, .ambiguous]) : toStatus ∈ successors fromStatus := by
  cases fromStatus <;> first | exact hto | cases hpending

/-! ## Effects -/

/-- The hash a code is checked against, and the time until which it can be used. -/
def challenge (w : Withdrawal) : Option String × Option Timestamp :=
  (w.twoFactorCodeHash, w.twoFactorExpiresAt)

/-- `db'` is `db` after the withdrawal `w` was written as `w'` along a course of the
state machine, the wallets were changed by `wallets` and `entries` joined the ledger. -/
structure Effect (db db' : PlatformDb) (w w' : Withdrawal)
    (wallets : List TenantWallet → List TenantWallet) (entries : List LedgerEntry) :
    Prop where
  same : w.SameRequest w'
  withdrawals : db'.rows .withdrawals =
    replaceRow schema .withdrawals w' (db.rows .withdrawals)
  wallets : db'.rows .tenantWallets = wallets (db.rows .tenantWallets)
  ledger : db'.rows .ledgerEntries = db.rows .ledgerEntries ++ entries
  events : ∃ edges logged, Course w.status edges w'.status ∧ Logs w.tenantId w.id edges logged ∧
    db'.rows .withdrawalEvents = db.rows .withdrawalEvents ++ logged
  challenge : challenge w' = challenge w
  authorised : Authorised w → Authorised w'
  others : ∀ t, t ∉ [.withdrawals, .withdrawalEvents, .tenantWallets, .ledgerEntries] →
    db'.rows t = db.rows t

namespace Effect

variable {db db' db'' : PlatformDb} {w w' w'' : Withdrawal}
  {wallets wallets' : List TenantWallet → List TenantWallet}
  {entries entries' : List LedgerEntry}

theorem refl (hw : w ∈ db.rows .withdrawals) : Effect db db w w id [] where
  same := .refl w
  withdrawals := (db.replaceRow_of_mem hw).symm
  wallets := rfl
  ledger := (List.append_nil _).symm
  events := ⟨[], [], rfl, rfl, (List.append_nil _).symm⟩
  challenge := rfl
  authorised := id
  others _ _ := rfl

theorem trans (h : Effect db db' w w' wallets entries)
    (h' : Effect db' db'' w' w'' wallets' entries') :
    Effect db db'' w w'' (wallets' ∘ wallets) (entries ++ entries') where
  same := h.same.trans h'.same
  withdrawals := by
    rw [h'.withdrawals, h.withdrawals]
    exact replaceRow_replaceRow h'.same.id.symm
  wallets := by rw [h'.wallets, h.wallets, Function.comp_apply]
  ledger := by rw [h'.ledger, h.ledger, List.append_assoc]
  events := by
    obtain ⟨edges, logged, hcourse, hlogs, hevents⟩ := h.events
    obtain ⟨edges', logged', hcourse', hlogs', hevents'⟩ := h'.events
    rw [h.same.tenantId, h.same.id] at hlogs'
    refine ⟨edges ++ edges', logged ++ logged', hcourse.append hcourse', hlogs.append hlogs', ?_⟩
    rw [hevents', hevents, List.append_assoc]
  challenge := h'.challenge.trans h.challenge
  authorised := h'.authorised ∘ h.authorised
  others t ht := (h'.others t ht).trans (h.others t ht)

/-- The withdrawal keeps its status and its code. -/
theorem of_withdrawal (w : Withdrawal) (h : Db.Replaced .withdrawals w' db db')
    (hsame : w.SameRequest w') (hstatus : w'.status = w.status)
    (hchallenge : PayoutService.challenge w' = PayoutService.challenge w)
    (hauthorised : Authorised w → Authorised w') : Effect db db' w w' id [] where
  same := hsame
  withdrawals := h.rows_self
  wallets := h.rows_of_ne (by decide)
  ledger := by rw [h.rows_of_ne (by decide), List.append_nil]
  events := ⟨[], [], hstatus.symm, rfl, by rw [h.rows_of_ne (by decide), List.append_nil]⟩
  challenge := hchallenge
  authorised := hauthorised
  others t ht := h.rows_of_ne fun heq => ht (by simp [heq])

/-- The withdrawal keeps its status, its code, its confirmation and its review. -/
theorem of_written (w : Withdrawal) (h : Db.Replaced .withdrawals w' db db')
    (hsame : w.SameRequest w') (hstatus : w'.status = w.status)
    (hchallenge : PayoutService.challenge w' = PayoutService.challenge w)
    (hconfirmed : w'.twoFactorConfirmedAt = w.twoFactorConfirmedAt)
    (hreviewed : w'.reviewedBy = w.reviewedBy) : Effect db db' w w' id [] := by
  refine of_withdrawal w h hsame hstatus hchallenge fun hauthorised => ⟨?_, ?_⟩
  · rw [hstatus, hconfirmed]
    exact hauthorised.confirmed
  · rw [hstatus, hreviewed, hsame.approvalRequired]
    exact hauthorised.reviewed

/-- The withdrawal takes one edge, which is logged. -/
theorem of_transition {middle : PlatformDb} {event : WithdrawalEvent}
    (hsame : w.SameRequest w') (hedge : w'.status ∈ successors w.status)
    (hchallenge : PayoutService.challenge w' = PayoutService.challenge w)
    (hauthorised : Authorised w → Authorised w')
    (h : Db.Replaced .withdrawals w' db middle)
    (hevent : Logs w.tenantId w.id [(w.status, w'.status)] [event])
    (h' : Db.Appended .withdrawalEvents event middle db') :
    Effect db db' w w' id [] where
  same := hsame
  withdrawals := by rw [h'.rows_of_ne (by decide), h.rows_self]
  wallets := by
    rw [h'.rows_of_ne (by decide), h.rows_of_ne (by decide)]
    rfl
  ledger := by rw [h'.rows_of_ne (by decide), h.rows_of_ne (by decide), List.append_nil]
  events := ⟨[(w.status, w'.status)], [event], ⟨rfl, hedge, rfl⟩, hevent, by
    rw [h'.rows_self, h.rows_of_ne (by decide)]⟩
  challenge := hchallenge
  authorised := hauthorised
  others t ht := by
    have hwithdrawals : t ≠ .withdrawals := fun heq => ht (by simp [heq])
    have hevents : t ≠ .withdrawalEvents := fun heq => ht (by simp [heq])
    rw [h'.rows_of_ne hevents, h.rows_of_ne hwithdrawals]

theorem of_wallet (hw : w ∈ db.rows .withdrawals) {wallet : TenantWallet}
    (h : Db.Replaced .tenantWallets wallet db db') :
    Effect db db' w w (replaceRow schema .tenantWallets wallet) [] where
  same := .refl w
  withdrawals := by
    rw [h.rows_of_ne (by decide)]
    exact (db.replaceRow_of_mem hw).symm
  wallets := h.rows_self
  ledger := by rw [h.rows_of_ne (by decide), List.append_nil]
  events := ⟨[], [], rfl, rfl, by rw [h.rows_of_ne (by decide), List.append_nil]⟩
  challenge := rfl
  authorised := id
  others t ht := h.rows_of_ne fun heq => ht (by simp [heq])

theorem of_entry (hw : w ∈ db.rows .withdrawals) {entry : LedgerEntry}
    (h : Db.Appended .ledgerEntries entry db db') :
    Effect db db' w w id [entry] where
  same := .refl w
  withdrawals := by
    rw [h.rows_of_ne (by decide)]
    exact (db.replaceRow_of_mem hw).symm
  wallets := h.rows_of_ne (by decide)
  ledger := h.rows_self
  events := ⟨[], [], rfl, rfl, by rw [h.rows_of_ne (by decide), List.append_nil]⟩
  challenge := rfl
  authorised := id
  others t ht := h.rows_of_ne fun heq => ht (by simp [heq])

/-- The withdrawal as written is stored. -/
theorem mem (h : Effect db db' w w' wallets entries) (hw : w ∈ db.rows .withdrawals) :
    w' ∈ db'.rows .withdrawals := by
  rw [h.withdrawals]
  exact mem_replaceRow_self hw h.same.id.symm

end Effect

theorem rowValid_withdrawal {w : Withdrawal} {db : PlatformDb}
    (hw : w ∈ db.rows .withdrawals) : rowValid .withdrawals w = true :=
  db.valid .withdrawals w hw

theorem fits_amount {w : Withdrawal} {db : PlatformDb} (hw : w ∈ db.rows .withdrawals) :
    Numeric.fits w.amount = true := by
  have h := rowValid_withdrawal hw
  simp only [rowValid, amountsFit, Bool.and_eq_true, List.all_eq_true] at h
  exact h.1.1 _ List.mem_cons_self

/-- A row stays valid when what the provider reported is recorded on it. -/
theorem rowValid_reported {w : Withdrawal} {reference code message : Option String}
    {completedAt : Option Timestamp} (hw : rowValid .withdrawals w = true)
    (hreference : storableOpt reference = true) (hcode : storableOpt code = true)
    (hmessage : storableOpt message = true) :
    rowValid .withdrawals
      { w with
        providerReference := reference
        providerResultCode := code
        providerMessage := message
        completedAt } = true := by
  simp only [rowValid, textsStorable, List.all_cons, List.all_nil, Bool.and_eq_true,
    storableOpt_some] at hw
  simp only [rowValid, textsStorable, List.all_cons, List.all_nil, storableOpt_some, hw,
    hreference, hcode, hmessage, Bool.and_self]

/-! ## What a result decides -/

/-- The branch `_apply_provider_result` takes; a resolved withdrawal is left
alone. -/
inductive Decision
  | ignored
  | keep
  | mismatched (mismatch : Mismatch)
  | ambiguous
  | complete
  | fail

def decision (w : Withdrawal) (result : ProviderResult) : Decision :=
  if w.status.pending = false then .ignored
  else
    match (interpretResultcode result.resultcode result.message).outcome with
    | .success =>
      match resultMismatch w result with
      | some mismatch => .mismatched mismatch
      | none => .complete
    | .inprogress => .keep
    | .ambiguous => .ambiguous
    | .fail => .fail

/-- The withdrawal is written as `w'` and its amount moved by `move` in its tenant's
wallet. -/
structure MovedIn (move : Decimal → TenantWallet → Option TenantWallet) (w : Withdrawal)
    (db : PlatformDb) (w' : Withdrawal) (db' : PlatformDb) (entries : List LedgerEntry)
    (wallet wallet' : TenantWallet) : Prop where
  stored : wallet ∈ db.rows .tenantWallets
  tenant : wallet.tenantId = w.tenantId
  moved : move (ofNumeric w.amount) wallet = some wallet'
  balances : ∀ entry ∈ entries, entry.balanceAfter = entry.walletBucket.map (balance wallet')
  effect : Effect db db' w w' (replaceRow schema .tenantWallets wallet') entries

def Moved (move : Decimal → TenantWallet → Option TenantWallet) (w : Withdrawal)
    (db : PlatformDb) (w' : Withdrawal) (db' : PlatformDb) (entries : List LedgerEntry) :
    Prop :=
  ∃ wallet wallet', MovedIn move w db w' db' entries wallet wallet'

/-- The withdrawal and the database after a decision was carried out. -/
def Carried (decision : Decision) (w : Withdrawal) (db : PlatformDb) (w' : Withdrawal)
    (db' : PlatformDb) : Prop :=
  w.SameRequest w' ∧
    match decision with
    | .ignored => w' = w ∧ db' = db
    | .keep => w'.status = w.status ∧ Effect db db' w w' id []
    | .mismatched _ => w'.status = .ambiguous ∧ Effect db db' w w' id []
    | .ambiguous => w'.status = .ambiguous ∧ Effect db db' w w' id []
    | .complete => w'.status = .success ∧
        ∃ entry, WalletService.IsDisbursement w.tenantId w.amount (some w.id) entry ∧
          Moved WalletService.disbursed w db w' db' [entry]
    | .fail => w'.status = .failed ∧ Moved WalletService.released w db w' db' []

/-- What the database must allow for a result to be recorded: no NUL in the texts
it stores, and the wallet move it makes. -/
def Recordable (w : Withdrawal) (db : PlatformDb) (result : ProviderResult) : Prop :=
  match decision w result with
  | .ignored => True
  | .keep | .ambiguous => storableOpt result.message = true
  | .mismatched mismatch => storable mismatch.message = true
  | .complete => storableOpt result.message = true ∧ storable result.reference = true ∧
      WalletService.Movable WalletService.disbursed db w.tenantId (ofNumeric w.amount)
  | .fail => storableOpt result.message = true ∧
      storable (strip (result.resultcode.getD "")) = true ∧
      WalletService.Movable WalletService.released db w.tenantId (ofNumeric w.amount)

theorem outcomeOfCode_cases (code : String) :
    (outcomeOfCode code = .success ∧ code = "000") ∨
    (outcomeOfCode code = .inprogress ∧ (code = "111" ∨ code = "927")) ∨
    (outcomeOfCode code = .ambiguous ∧ code = "999") ∨
    (outcomeOfCode code = .fail ∧
      code ≠ "000" ∧ code ≠ "111" ∧ code ≠ "927" ∧ code ≠ "999") := by
  unfold outcomeOfCode
  by_cases hsuccess : code = "000"
  · simp [hsuccess]
  · by_cases hprogress : code = "111" ∨ code = "927"
    · rcases hprogress with rfl | rfl <;> decide
    · by_cases hambiguous : code = "999"
      · subst hambiguous
        decide
      · simp_all

theorem storable_mismatch_reason {w : Withdrawal} {result : ProviderResult}
    {mismatch : Mismatch} (h : resultMismatch w result = some mismatch) :
    storable mismatch.reason = true := by
  unfold resultMismatch at h
  split at h
  · obtain rfl := Option.some.inj h
    exact (by decide +kernel : storable
      "Provider-reported transId does not match this withdrawal's own" = true)
  · split at h
    · obtain rfl := Option.some.inj h
      exact (by decide +kernel : storable
        "Provider-reported currency does not match the withdrawal currency" = true)
    · split at h
      · cases h
      · split at h
        · cases h
        · obtain rfl := Option.some.inj h
          exact (by decide +kernel : storable
            "Provider-reported amount does not match the withdrawal amount" = true)

/-- The codes that are not failures can be stored. -/
theorem storable_code {code : String} (h : outcomeOfCode code ≠ .fail) :
    storable code = true := by
  rcases outcomeOfCode_cases code with ⟨-, rfl⟩ | ⟨-, rfl | rfl⟩ | ⟨-, rfl⟩ | ⟨hfail, -⟩
  · decide
  · decide
  · decide
  · decide
  · exact absurd hfail h

section Rules

variable {aside : Table → Bool} (haside : ∀ t, aside t = true → t = .paymentWebhooks)
  {returns : Withdrawal → PlatformWorld → Prop} {raises : Failure → PlatformWorld → Prop}
  {world : PlatformWorld} {w : Withdrawal}

include haside

theorem not_aside {t : Table} (ht : t ≠ .paymentWebhooks) : aside t = false :=
  Bool.eq_false_iff.mpr fun h => ht (haside t h)

theorem always_transition {toStatus : WithdrawalStatus} {actorId : Option ℕ}
    {reason : Option String} (hw : w ∈ world.db.rows .withdrawals)
    (hedge : toStatus ∈ successors w.status)
    (hauthorised : Authorised w → Authorised { w with status := toStatus })
    (hreturns : ∀ db, Effect world.db db w { w with status := toStatus } id [] →
      returns { w with status := toStatus } { world with db })
    (hraises : storableOpt reason = false → ∀ e db, raises e { world with db }) :
    Always aside returns raises (transition w toStatus actorId reason) world := by
  refine always_bind.mpr (always_updateWithdrawal (not_aside haside (by decide)) hw
    (by constructor <;> rfl) (fun middle _ hreplaced => ?_) (fun hinvalid => ?_))
  · refine always_bind.mpr (always_createPlain (not_aside haside (by decide))
      (fun _ => rfl) (fun _ _ => rfl) (fun event db hevent _ happended => ?_) (fun id hvalid => ?_))
    · refine hreturns db (.of_transition (by constructor <;> rfl) hedge rfl hauthorised hreplaced
        ?_ happended)
      rw [hevent]
      rfl
    · exact hraises (by simpa [rowValid, textsStorable] using hvalid) _ middle
  · have hvalid := rowValid_withdrawal hw
    rw [show rowValid .withdrawals { w with status := toStatus } =
      rowValid .withdrawals w from rfl, hvalid] at hinvalid
    cases hinvalid

theorem always_failWithdrawal {reason : String} {actorId : Option ℕ}
    (hw : w ∈ world.db.rows .withdrawals)
    (hfrom : w.status ∈ [.approved, .processing, .ambiguous])
    (hreturns : ∀ wallet ∈ world.db.rows .tenantWallets, wallet.tenantId = w.tenantId →
      ∀ wallet' time db,
        WalletService.released (ofNumeric w.amount) wallet = some wallet' →
        Effect world.db db w
          { w with
            failureReason := some reason
            completedAt := some time
            status := .failed }
          (replaceRow schema .tenantWallets wallet') [] →
        returns
          { w with
            failureReason := some reason
            completedAt := some time
            status := .failed }
          { world with db })
    (hraises : ¬(WalletService.Movable WalletService.released world.db w.tenantId
        (ofNumeric w.amount) ∧ storable reason = true) →
      ∀ e db, raises e { world with db }) :
    Always aside returns raises (failWithdrawal w reason actorId) world := by
  refine always_bind.mpr (WalletService.always_releaseReservation
    (not_aside haside (by decide)) ?_ (fun h => hraises fun h' => h h'.1))
  intro wallet hwallet htenant wallet' released hreleased hreplaced
  have hkept : w ∈ released.rows .withdrawals := by
    rw [hreplaced.rows_of_ne (by decide)]
    exact hw
  refine always_bind.mpr (always_now.mpr fun time => ?_)
  refine always_bind.mpr (always_updateWithdrawal (not_aside haside (by decide)) hkept
    (by constructor <;> rfl) (fun reasoned hvalid hwritten => ?_) (fun hinvalid => ?_))
  · have hedge : WithdrawalStatus.failed ∈ successors w.status := by
      revert hfrom
      cases w.status <;> decide
    refine always_transition haside (hwritten.mem hkept rfl) hedge (fun h => ?_)
      (fun db heffect => ?_) (fun h => ?_)
    · apply h.transition
      all_goals
        revert hfrom
        dsimp only
        cases w.status <;> decide
    · exact hreturns wallet hwallet htenant wallet' time db hreleased
        (((Effect.of_wallet hw hreplaced).trans (.of_written _ hwritten
          (by constructor <;> rfl) rfl rfl rfl rfl)).trans heffect)
    · exact hraises fun h' => Bool.eq_false_iff.mp h h'.2
  · refine hraises (fun h => ?_) _ released
    have hvalid := rowValid_withdrawal hw
    simp only [rowValid, textsStorable, List.all_cons, Bool.and_eq_true, List.all_nil,
      storableOpt_some] at hvalid
    simp only [rowValid, textsStorable, List.all_cons, List.all_nil, storableOpt_some, hvalid,
      h.2, Bool.and_self, Bool.true_eq_false] at hinvalid

/-- What the provider reported is recorded, unless a text of it has a NUL. -/
theorem always_recordResult {code : String} {message : Option String}
    (hw : w ∈ world.db.rows .withdrawals)
    (hreturns : ∀ db,
      Db.Replaced .withdrawals
        { w with providerResultCode := some code, providerMessage := message } world.db db →
      returns { w with providerResultCode := some code, providerMessage := message }
        { world with db })
    (hraises : ¬(storable code = true ∧ storableOpt message = true) →
      ∀ e db, raises e { world with db }) :
    Always aside returns raises
      (updateWithdrawal w fun w =>
        { w with providerResultCode := some code, providerMessage := message }) world := by
  refine always_updateWithdrawal (not_aside haside (by decide)) hw (by constructor <;> rfl)
    (fun db _ hwritten => hreturns db hwritten) (fun hinvalid => hraises (fun h => ?_) _ world.db)
  have hvalid := rowValid_withdrawal hw
  have hreference : storableOpt w.providerReference = true := by
    simp only [rowValid, textsStorable, List.all_cons, Bool.and_eq_true] at hvalid
    exact hvalid.2.2.2.1
  rw [rowValid_reported hvalid hreference (storableOpt_some code ▸ h.1) h.2] at hinvalid
  cases hinvalid

theorem always_flagAmbiguous {code : String} {message reason : Option String}
    {actorId : Option ℕ} (hw : w ∈ world.db.rows .withdrawals)
    (hpending : w.status.pending = true)
    (hreturns : ∀ w' db, w.SameRequest w' → w'.status = .ambiguous →
      Effect world.db db w w' id [] → returns w' { world with db })
    (hraises : ¬(storable code = true ∧ storableOpt message = true ∧
        storableOpt reason = true) →
      ∀ e db, raises e { world with db }) :
    Always aside returns raises (do
      let w ← updateWithdrawal w fun w =>
        { w with providerResultCode := some code, providerMessage := message }
      transition w .ambiguous actorId reason) world := by
  refine always_bind.mpr (always_recordResult haside hw (fun recorded hwritten => ?_)
    (fun h => hraises fun h' => h ⟨h'.1, h'.2.1⟩))
  refine always_transition haside (hwritten.mem hw rfl)
    (mem_successors_of_pending hpending (by decide)) (.of_pending _ hpending)
    (fun db heffect => ?_) (fun h => ?_)
  · exact hreturns _ db (by constructor <;> rfl) rfl
      ((Effect.of_written w hwritten (by constructor <;> rfl) rfl rfl rfl rfl).trans heffect)
  · exact hraises fun h' => Bool.eq_false_iff.mp h h'.2.2

theorem always_completePayout {reference : String} {code : String} {message : Option String}
    {actorId : Option ℕ} (hw : w ∈ world.db.rows .withdrawals)
    (hpending : w.status.pending = true)
    (hreturns : ∀ w' db, Carried .complete w world.db w' db → returns w' { world with db })
    (hraises : ¬(storable code = true ∧ storableOpt message = true ∧
        storable reference = true ∧
        WalletService.Movable WalletService.disbursed world.db w.tenantId
          (ofNumeric w.amount)) →
      ∀ e db, raises e { world with db }) :
    Always aside returns raises (do
      let _ ← WalletService.completeDisbursement w.tenantId (ofNumeric w.amount) (some w.id)
        (some ("Selcom disbursement " ++ reference))
      let time ← now
      let w ← updateWithdrawal w fun w =>
        { w with
          providerReference := some reference
          providerResultCode := some code
          providerMessage := message
          completedAt := some time }
      transition w .success actorId message) world := by
  have hstamp : storable ("Selcom disbursement " ++ reference) = storable reference := by
    rw [storable_append]
    exact Bool.true_and _
  refine always_bind.mpr (WalletService.always_completeDisbursement
    (not_aside haside (by decide)) (not_aside haside (by decide)) ?_
    (fun h => hraises fun h' => h ⟨h'.2.2.2, ?_, ?_⟩))
  · intro wallet hwallet htenant wallet' entry moved db hdisbursed hreplaced hentry hbalance happended
    have hmoved : w ∈ moved.rows .withdrawals := by
      rw [hreplaced.rows_of_ne (by decide)]
      exact hw
    have hentered : w ∈ db.rows .withdrawals := by
      rw [happended.rows_of_ne (by decide)]
      exact hmoved
    rw [toNumeric_ofNumeric] at hentry
    have hpaid : Effect world.db db w w (replaceRow schema .tenantWallets wallet') [entry] :=
      (Effect.of_wallet hw hreplaced).trans (Effect.of_entry hmoved happended)
    refine always_bind.mpr (always_now.mpr fun time => ?_)
    refine always_bind.mpr (always_updateWithdrawal (not_aside haside (by decide)) hentered
      (by constructor <;> rfl) (fun recorded _ hwritten => ?_) (fun hinvalid => ?_))
    · refine always_transition haside (hwritten.mem hentered rfl)
        (mem_successors_of_pending hpending (by decide)) (.of_pending _ hpending)
        (fun final heffect => ?_) (fun h => hraises fun h' => Bool.eq_false_iff.mp h h'.2.1)
      exact hreturns _ final ⟨by constructor <;> rfl, rfl, entry, hentry, wallet, wallet',
        hwallet, htenant, hdisbursed, by simpa using hbalance,
        (hpaid.trans (.of_written _ hwritten (by constructor <;> rfl) rfl rfl rfl rfl)).trans heffect⟩
    · refine hraises (fun h => ?_) _ db
      rw [rowValid_reported (rowValid_withdrawal hw) (storableOpt_some reference ▸ h.2.2.1)
        (storableOpt_some code ▸ h.1) h.2.1] at hinvalid
      cases hinvalid
  · rw [toNumeric_ofNumeric]
    exact fits_amount hw
  · rw [storableOpt_some, hstamp]
    exact h'.2.2.1

theorem always_failPayout {code : String} {message : Option String} {reason : String}
    {actorId : Option ℕ} (hw : w ∈ world.db.rows .withdrawals)
    (hpending : w.status.pending = true)
    (hreturns : ∀ w' db, Carried .fail w world.db w' db → returns w' { world with db })
    (hraises : ¬(storable code = true ∧ storableOpt message = true ∧ storable reason = true ∧
        WalletService.Movable WalletService.released world.db w.tenantId
          (ofNumeric w.amount)) →
      ∀ e db, raises e { world with db }) :
    Always aside returns raises (do
      let w ← updateWithdrawal w fun w =>
        { w with providerResultCode := some code, providerMessage := message }
      failWithdrawal w reason actorId) world := by
  refine always_bind.mpr (always_recordResult haside hw (fun recorded hwritten => ?_)
    (fun h => hraises fun h' => h ⟨h'.1, h'.2.1⟩))
  have hwallets : recorded.rows .tenantWallets = world.db.rows .tenantWallets :=
    hwritten.rows_of_ne (by decide)
  have hfrom : w.status ∈ [.approved, .processing, .ambiguous] := by
    revert hpending
    cases w.status <;> decide
  refine always_failWithdrawal haside (hwritten.mem hw rfl) hfrom ?_
    (fun h => hraises fun h' => ?_)
  · intro wallet hwallet htenant wallet' time db hreleased heffect
    exact hreturns _ db ⟨by constructor <;> rfl, rfl, wallet, wallet',
      hwallets ▸ hwallet, htenant, hreleased, by simp, (Effect.of_written w hwritten (by constructor <;> rfl) rfl rfl rfl rfl).trans heffect⟩
  · refine h ⟨?_, h'.2.2.1⟩
    obtain ⟨hpositive, wallet, hwallet, hmove⟩ := h'.2.2.2
    exact ⟨hpositive, wallet, hwallets.symm ▸ hwallet, hmove⟩

/-- A result is carried out, unless the database refuses to record it. -/
theorem always_applyProviderResult {result : ProviderResult} {actorId : Option ℕ}
    (hw : w ∈ world.db.rows .withdrawals)
    (hreturns : ∀ w' db, Carried (decision w result) w world.db w' db →
      returns w' { world with db })
    (hraises : ¬Recordable w world.db result → ∀ e db, raises e { world with db }) :
    Always aside returns raises (applyProviderResult w result actorId) world := by
  have hcode : ∀ outcome, (interpretResultcode result.resultcode result.message).outcome =
      outcome → outcome ≠ .fail → storable (strip (result.resultcode.getD "")) = true := by
    intro outcome houtcome hne
    rw [interpretResultcode_outcome] at houtcome
    exact storable_code (houtcome ▸ hne)
  unfold applyProviderResult
  by_cases hresolved : w.status.pending = false
  · rw [if_pos hresolved]
    have hdecision : decision w result = .ignored := if_pos hresolved
    rw [hdecision] at hreturns
    exact hreturns w world.db ⟨.refl w, rfl, rfl⟩
  rw [if_neg hresolved]
  have hpending : w.status.pending = true := Bool.eq_true_of_not_eq_false hresolved
  cases houtcome : (interpretResultcode result.resultcode result.message).outcome with
  | success =>
    simp only [houtcome]
    cases hmismatch : resultMismatch w result with
    | some mismatch =>
      have hdecision : decision w result = .mismatched mismatch := by
        rw [decision, if_neg hresolved, houtcome, hmismatch]
      rw [hdecision] at hreturns
      simp only [Recordable, hdecision] at hraises
      refine always_flagAmbiguous haside hw hpending
        (fun w' db hsame hstatus heffect => hreturns w' db ⟨hsame, hstatus, heffect⟩)
        (fun h => hraises fun hmessage => ?_)
      refine h ⟨hcode _ houtcome (by decide), ?_, ?_⟩
      · rw [storableOpt_some]
        exact hmessage
      · rw [storableOpt_some]
        exact storable_mismatch_reason hmismatch
    | none =>
      have hdecision : decision w result = .complete := by
        rw [decision, if_neg hresolved, houtcome, hmismatch]
      rw [hdecision] at hreturns
      simp only [Recordable, hdecision] at hraises
      exact always_completePayout haside hw hpending hreturns
        (fun h => hraises fun h' => h ⟨hcode _ houtcome (by decide), h'⟩)
  | inprogress =>
    have hdecision : decision w result = .keep := by
      rw [decision, if_neg hresolved, houtcome]
    rw [hdecision] at hreturns
    simp only [Recordable, hdecision] at hraises
    simp only [houtcome]
    exact always_recordResult haside hw
      (fun db hwritten => hreturns _ db
        ⟨by constructor <;> rfl, rfl, Effect.of_written w hwritten (by constructor <;> rfl) rfl rfl rfl rfl⟩)
      (fun h => hraises fun h' => h ⟨hcode _ houtcome (by decide), h'⟩)
  | ambiguous =>
    have hdecision : decision w result = .ambiguous := by
      rw [decision, if_neg hresolved, houtcome]
    rw [hdecision] at hreturns
    simp only [Recordable, hdecision] at hraises
    simp only [houtcome]
    exact always_flagAmbiguous haside hw hpending
      (fun w' db hsame hstatus heffect => hreturns w' db ⟨hsame, hstatus, heffect⟩)
      (fun h => hraises fun h' => h ⟨hcode _ houtcome (by decide), h',
        storableOpt_orElse h' (by decide +kernel)⟩)
  | fail =>
    have hdecision : decision w result = .fail := by
      rw [decision, if_neg hresolved, houtcome]
    rw [hdecision] at hreturns
    simp only [Recordable, hdecision] at hraises
    simp only [houtcome, interpretResultcode_resultcode]
    refine always_failPayout haside hw hpending hreturns
      (fun h => hraises fun h' => h ⟨h'.2.1, h'.1, ?_, h'.2.2⟩)
    have hreported : storable ("Selcom reported failure (resultcode " ++
        strip (result.resultcode.getD "") ++ ")") = true := by
      rw [storable_append, storable_append, Bool.and_eq_true, Bool.and_eq_true]
      exact ⟨⟨by decide +kernel, h'.2.1⟩, by decide +kernel⟩
    exact storable_getD
      (storableOpt_orElse h'.1 ((storableOpt_some _).trans hreported)) hreported

/-- A query changes the withdrawal only when it is answered, and then as its
result decides. -/
theorem always_reconcileLocked {settings : Settings} {actorId : Option ℕ}
    (hw : w ∈ world.db.rows .withdrawals)
    (hanswered : ∀ answer,
      let sent := world.sent ++ [(.transactionQuery w.idempotencyKey, answer)]
      match validated transactionQueryResponse answer with
      | .ok query =>
        (∀ w' db, Carried (decision w (queryResult w query)) w world.db w' db →
          returns w' ⟨db, sent⟩) ∧
        (¬Recordable w world.db (queryResult w query) → ∀ e db, raises e ⟨db, sent⟩)
      | .error (.selcomBusiness _) => returns w { world with sent }
      | .error e => raises e { world with sent })
    (hunready : ¬Ready settings → returns w world ∧ ∀ e, raises e world) :
    Always aside returns raises (reconcileLocked settings w actorId) world := by
  refine always_bind.mpr (always_configFromSettings (fun hdecoded => ?_)
    (fun hundecoded => (hunready fun h => ?_).2))
  · refine always_bind.mpr (always_attempt hdecoded (fun _ answer => ?_)
      (fun h => ⟨fun _ _ => (hunready h).1, (hunready h).2⟩))
    have h := hanswered answer
    cases hvalidated : validated transactionQueryResponse answer with
    | ok query =>
      simp only [hvalidated] at h
      exact always_applyProviderResult haside hw h.1 h.2
    | error e =>
      simp only [hvalidated] at h
      cases e <;> exact h
  · rw [h.2.2] at hundecoded
    cases hundecoded

end Rules

end InfinityRadius.Services.PayoutService
