import InfinityRadius.Models.Platform

/-!
# The repository layer

`repositories/base.py`, through which every service issues its SQL, and the
rules that reduce each repository call to the rows it reads and writes.
-/

namespace InfinityRadius.Models

open Amounts Database Payload Program Sql

abbrev Tx (α : Type) :=
  Prog (Stmt Table Row Ask Request) (Reply Answer HttpResult) Failure α

abbrev PlatformDb := Db schema

abbrev PlatformWorld := World schema Request HttpResult

/-- The `tenant_id` column. -/
def rowTenant : (t : Table) → Row t → Option ℕ
  | .withdrawals, row => some row.tenantId
  | .withdrawalEvents, row => some row.tenantId
  | .withdrawalDestinations, row => some row.tenantId
  | .tenantWallets, row => some row.tenantId
  | .ledgerEntries, row => some row.tenantId
  | .settlementLogs, row => some row.tenantId
  | .tenantCommercialTerms, row => some row.tenantId
  | .tenantSettlementConfig, row => some row.tenantId
  | .tenants, _ => none
  | .tenantFeatureFlags, row => some row.tenantId
  | .tenantVerifications, row => some row.tenantId
  | .profiles, row => row.tenantId
  | .transactions, row => some row.tenantId
  | .paymentWebhooks, row => row.tenantId
  | .customers, row => some row.tenantId
  | .packages, row => some row.tenantId
  | .subscriptions, row => some row.tenantId
  | .voucherBatches, row => some row.tenantId
  | .offlineVouchers, row => some row.tenantId
  | .routers, row => some row.tenantId
  | .captiveSessions, row => some row.tenantId

/-- `_base_query`: the tenant filter, absent where `tenant_id` is `None`. -/
def ofTenant (t : Table) (tenantId : Option ℕ) (row : Row t) : Bool :=
  tenantId.all fun tenant => rowTenant t row == some tenant

def issue (s : Stmt Table Row Ask Request) : Tx (Reply Answer HttpResult s) := Prog.issue s

def now : Tx Timestamp := issue (.ask .now)

def uuidHex : Tx String := issue (.ask .uuidHex)

/-- `scalar_one_or_none`. -/
def scalarOneOrNone {α : Type} : List α → Tx (Option α)
  | [] => pure none
  | [row] => pure (some row)
  | _ => throw .multipleResultsFound

def selectOne (t : Table) (p : Row t → Bool) : Tx (Option (Row t)) := do
  let rows ← issue (.select t p)
  scalarOneOrNone rows

/-- The same with `FOR UPDATE`. -/
def selectOneForUpdate (t : Table) (p : Row t → Bool) : Tx (Option (Row t)) := do
  let rows ← issue (.selectForUpdate t p)
  scalarOneOrNone rows

/-- `scalars().first()`. -/
def selectFirst (t : Table) (p : Row t → Bool) : Tx (Option (Row t)) := do
  let rows ← issue (.select t p)
  pure rows.head?

def getById (t : Table) (tenantId : Option ℕ) (id : ℕ) : Tx (Option (Row t)) :=
  selectOne t fun row => ofTenant t tenantId row && rowId t row == id

def getByIdForUpdate (t : Table) (tenantId : Option ℕ) (id : ℕ) : Tx (Option (Row t)) :=
  selectOneForUpdate t fun row => ofTenant t tenantId row && rowId t row == id

/-- `BaseRepository.create`: add, flush, refresh. -/
def create (t : Table) (build : ℕ → Row t) : Tx (Row t) := do
  let stored ← issue (.insert t build)
  Prog.orRaise stored .database

/-- `BaseRepository.update`: set the attributes, flush, refresh. -/
def updateRow (t : Table) (id : ℕ) (write : Row t → Row t) : Tx (Row t) := do
  let stored ← issue (.update t id write)
  Prog.orRaise stored .database

def sendRequest (request : Request) : Tx HttpResult := issue (.send request)

/-- `write_audit_log`: nothing reads its row, but `JSONB` refuses the texts `TEXT` does. -/
def writeAuditLog (metadata : List (Option String)) : Tx Unit :=
  Prog.require (textsStorable metadata = true) .database

/-- A flush writes an attribute only where it was set to a new value. -/
def written {α : Type} [DecidableEq α] (loaded set stored : α) : α :=
  if set = loaded then stored else set

@[simp]
theorem written_self {α : Type} [DecidableEq α] (loaded set : α) :
    written loaded set loaded = set := by
  unfold written
  split
  · rename_i h
    exact h.symm
  · rfl

/-- The stored row after the object loaded as `loaded` was set to `set`. -/
def Withdrawal.flush (loaded set stored : Withdrawal) : Withdrawal :=
  { stored with
    status := written loaded.status set.status stored.status
    providerReference :=
      written loaded.providerReference set.providerReference stored.providerReference
    failureReason := written loaded.failureReason set.failureReason stored.failureReason
    submittedAt := written loaded.submittedAt set.submittedAt stored.submittedAt
    completedAt := written loaded.completedAt set.completedAt stored.completedAt
    verifiedRecipientName := written loaded.verifiedRecipientName set.verifiedRecipientName
      stored.verifiedRecipientName
    providerCharge := written loaded.providerCharge set.providerCharge stored.providerCharge
    providerResultCode :=
      written loaded.providerResultCode set.providerResultCode stored.providerResultCode
    providerMessage := written loaded.providerMessage set.providerMessage stored.providerMessage
    reviewedBy := written loaded.reviewedBy set.reviewedBy stored.reviewedBy
    reviewedAt := written loaded.reviewedAt set.reviewedAt stored.reviewedAt
    reviewNotes := written loaded.reviewNotes set.reviewNotes stored.reviewNotes
    twoFactorCodeHash :=
      written loaded.twoFactorCodeHash set.twoFactorCodeHash stored.twoFactorCodeHash
    twoFactorExpiresAt :=
      written loaded.twoFactorExpiresAt set.twoFactorExpiresAt stored.twoFactorExpiresAt
    twoFactorAttempts :=
      written loaded.twoFactorAttempts set.twoFactorAttempts stored.twoFactorAttempts
    twoFactorConfirmedAt := written loaded.twoFactorConfirmedAt set.twoFactorConfirmedAt
      stored.twoFactorConfirmedAt
    otpLastSentAt := written loaded.otpLastSentAt set.otpLastSentAt stored.otpLastSentAt
    otpSendCount := written loaded.otpSendCount set.otpSendCount stored.otpSendCount
    otpSentToEmail := written loaded.otpSentToEmail set.otpSentToEmail stored.otpSentToEmail }

def Transaction.flush (loaded set stored : Transaction) : Transaction :=
  { stored with
    providerReference :=
      written loaded.providerReference set.providerReference stored.providerReference
    collectionTransid :=
      written loaded.collectionTransid set.collectionTransid stored.collectionTransid
    channel := written loaded.channel set.channel stored.channel
    status := written loaded.status set.status stored.status
    providerResultcode :=
      written loaded.providerResultcode set.providerResultcode stored.providerResultcode
    providerMessage := written loaded.providerMessage set.providerMessage stored.providerMessage
    stkRequestedAt := written loaded.stkRequestedAt set.stkRequestedAt stored.stkRequestedAt
    completedAt := written loaded.completedAt set.completedAt stored.completedAt
    failedAt := written loaded.failedAt set.failedAt stored.failedAt
    activationStatus :=
      written loaded.activationStatus set.activationStatus stored.activationStatus
    activatedAt := written loaded.activatedAt set.activatedAt stored.activatedAt }

def updateWithdrawal (withdrawal : Withdrawal) (set : Withdrawal → Withdrawal) :
    Tx Withdrawal :=
  updateRow .withdrawals withdrawal.id (withdrawal.flush (set withdrawal))

def updateTransaction (transaction : Transaction) (set : Transaction → Transaction) :
    Tx Transaction :=
  updateRow .transactions transaction.id (transaction.flush (set transaction))

/-! ## What a flush leaves alone -/

/-- The columns of a withdrawal no operation writes after its `INSERT`. -/
structure Withdrawal.SameRequest (left right : Withdrawal) : Prop where
  id : right.id = left.id
  tenantId : right.tenantId = left.tenantId
  walletId : right.walletId = left.walletId
  destinationId : right.destinationId = left.destinationId
  amount : right.amount = left.amount
  currency : right.currency = left.currency
  idempotencyKey : right.idempotencyKey = left.idempotencyKey
  approvalRequired : right.approvalRequired = left.approvalRequired
  requestedBy : right.requestedBy = left.requestedBy
  createdAt : right.createdAt = left.createdAt

theorem Withdrawal.SameRequest.refl (w : Withdrawal) : w.SameRequest w := by
  constructor <;> rfl

theorem Withdrawal.SameRequest.trans {w w' w'' : Withdrawal} (h : w.SameRequest w')
    (h' : w'.SameRequest w'') : w.SameRequest w'' where
  id := h'.id.trans h.id
  tenantId := h'.tenantId.trans h.tenantId
  walletId := h'.walletId.trans h.walletId
  destinationId := h'.destinationId.trans h.destinationId
  amount := h'.amount.trans h.amount
  currency := h'.currency.trans h.currency
  idempotencyKey := h'.idempotencyKey.trans h.idempotencyKey
  approvalRequired := h'.approvalRequired.trans h.approvalRequired
  requestedBy := h'.requestedBy.trans h.requestedBy
  createdAt := h'.createdAt.trans h.createdAt

theorem Withdrawal.sameRequest_flush (loaded set stored : Withdrawal) :
    stored.SameRequest (loaded.flush set stored) := by
  constructor <;> rfl

/-- An object no other session wrote since it was loaded is stored as set. -/
theorem Withdrawal.flush_loaded {loaded set : Withdrawal} (h : loaded.SameRequest set) :
    loaded.flush set loaded = set := by
  simp only [Withdrawal.flush, written_self, ← h.id, ← h.tenantId, ← h.walletId,
    ← h.destinationId, ← h.amount, ← h.currency, ← h.idempotencyKey, ← h.approvalRequired,
    ← h.requestedBy, ← h.createdAt]

/-- The columns the verification code of a withdrawal is kept in, but for the confirmation. -/
structure Withdrawal.SameCode (left right : Withdrawal) : Prop where
  codeHash : right.twoFactorCodeHash = left.twoFactorCodeHash
  expiresAt : right.twoFactorExpiresAt = left.twoFactorExpiresAt
  attempts : right.twoFactorAttempts = left.twoFactorAttempts
  lastSentAt : right.otpLastSentAt = left.otpLastSentAt
  sendCount : right.otpSendCount = left.otpSendCount
  sentToEmail : right.otpSentToEmail = left.otpSentToEmail

theorem Withdrawal.SameCode.refl (w : Withdrawal) : w.SameCode w := by
  constructor <;> rfl

theorem Withdrawal.SameCode.trans {w w' w'' : Withdrawal} (h : w.SameCode w')
    (h' : w'.SameCode w'') : w.SameCode w'' where
  codeHash := h'.codeHash.trans h.codeHash
  expiresAt := h'.expiresAt.trans h.expiresAt
  attempts := h'.attempts.trans h.attempts
  lastSentAt := h'.lastSentAt.trans h.lastSentAt
  sendCount := h'.sendCount.trans h.sendCount
  sentToEmail := h'.sentToEmail.trans h.sentToEmail

/-- A flush leaves the code alone where it was not set. -/
theorem Withdrawal.sameCode_flush {loaded set : Withdrawal} (h : loaded.SameCode set)
    (stored : Withdrawal) : stored.SameCode (loaded.flush set stored) := by
  constructor
  · exact if_pos h.codeHash
  · exact if_pos h.expiresAt
  · exact if_pos h.attempts
  · exact if_pos h.lastSentAt
  · exact if_pos h.sendCount
  · exact if_pos h.sentToEmail

/-- The columns of a transaction no operation writes after its `INSERT`. -/
structure Transaction.SameOrder (left right : Transaction) : Prop where
  id : right.id = left.id
  tenantId : right.tenantId = left.tenantId
  customerId : right.customerId = left.customerId
  subscriptionId : right.subscriptionId = left.subscriptionId
  transactionType : right.transactionType = left.transactionType
  reference : right.reference = left.reference
  payerPhone : right.payerPhone = left.payerPhone
  amount : right.amount = left.amount
  currency : right.currency = left.currency
  paymentProvider : right.paymentProvider = left.paymentProvider
  packageId : right.packageId = left.packageId
  routerId : right.routerId = left.routerId
  deviceMac : right.deviceMac = left.deviceMac
  captiveSessionId : right.captiveSessionId = left.captiveSessionId

theorem Transaction.SameOrder.refl (transaction : Transaction) :
    transaction.SameOrder transaction := by
  constructor <;> rfl

theorem Transaction.SameOrder.trans {t t' t'' : Transaction} (h : t.SameOrder t')
    (h' : t'.SameOrder t'') : t.SameOrder t'' where
  id := h'.id.trans h.id
  tenantId := h'.tenantId.trans h.tenantId
  customerId := h'.customerId.trans h.customerId
  subscriptionId := h'.subscriptionId.trans h.subscriptionId
  transactionType := h'.transactionType.trans h.transactionType
  reference := h'.reference.trans h.reference
  payerPhone := h'.payerPhone.trans h.payerPhone
  amount := h'.amount.trans h.amount
  currency := h'.currency.trans h.currency
  paymentProvider := h'.paymentProvider.trans h.paymentProvider
  packageId := h'.packageId.trans h.packageId
  routerId := h'.routerId.trans h.routerId
  deviceMac := h'.deviceMac.trans h.deviceMac
  captiveSessionId := h'.captiveSessionId.trans h.captiveSessionId

theorem Transaction.flush_loaded {loaded set : Transaction} (h : loaded.SameOrder set) :
    loaded.flush set loaded = set := by
  simp only [Transaction.flush, written_self, ← h.id, ← h.tenantId, ← h.customerId,
    ← h.subscriptionId, ← h.transactionType, ← h.reference, ← h.payerPhone, ← h.amount,
    ← h.currency, ← h.paymentProvider, ← h.packageId, ← h.routerId, ← h.deviceMac,
    ← h.captiveSessionId]

/-! ## Footprints -/

section Footprints

variable {footprint : Footprint Table Row Request} {t : Table}

theorem all_scalarOneOrNone {α : Type} {P : Stmt Table Row Ask Request → Prop}
    (rows : List α) : (scalarOneOrNone rows).All P := by
  match rows with
  | [] => trivial
  | [_] => trivial
  | _ :: _ :: _ => trivial

@[simp]
theorem all_selectOne (p : Row t → Bool) : (selectOne t p).All footprint.Allows :=
  ⟨trivial, fun rows => all_scalarOneOrNone rows⟩

@[simp]
theorem all_selectOneForUpdate (p : Row t → Bool) :
    (selectOneForUpdate t p).All footprint.Allows :=
  ⟨trivial, fun rows => all_scalarOneOrNone rows⟩

@[simp]
theorem all_selectFirst (p : Row t → Bool) : (selectFirst t p).All footprint.Allows :=
  ⟨trivial, fun _ => trivial⟩

@[simp]
theorem all_getById (tenantId : Option ℕ) (id : ℕ) :
    (getById t tenantId id).All footprint.Allows := all_selectOne _

@[simp]
theorem all_getByIdForUpdate (tenantId : Option ℕ) (id : ℕ) :
    (getByIdForUpdate t tenantId id).All footprint.Allows := all_selectOneForUpdate _

@[simp]
theorem all_now : now.All footprint.Allows := ⟨trivial, fun _ => trivial⟩

@[simp]
theorem all_uuidHex : uuidHex.All footprint.Allows := ⟨trivial, fun _ => trivial⟩

theorem all_create {build : ℕ → Row t} (h : ∀ id, footprint.inserts t (build id)) :
    (create t build).All footprint.Allows :=
  ⟨h, fun _ => Prog.all_orRaise _ _⟩

theorem all_updateRow {id : ℕ} {write : Row t → Row t} (h : footprint.updates t id write) :
    (updateRow t id write).All footprint.Allows :=
  ⟨h, fun _ => Prog.all_orRaise _ _⟩

end Footprints

/-! ## Rules -/

section Rules

variable {aside : Table → Bool} {α : Type} {returns : α → PlatformWorld → Prop}
  {raises : Failure → PlatformWorld → Prop} {world : PlatformWorld}

@[simp]
theorem always_now {returns : Timestamp → PlatformWorld → Prop} :
    Always aside returns raises now world ↔ ∀ time, returns time world :=
  always_ask

@[simp]
theorem always_uuidHex {returns : String → PlatformWorld → Prop} :
    Always aside returns raises uuidHex world ↔ ∀ hex, returns hex world :=
  always_ask

@[simp]
theorem always_sendRequest {request : Request}
    {returns : HttpResult → PlatformWorld → Prop} :
    Always aside returns raises (sendRequest request) world ↔
      ∀ answer, returns answer { world with sent := world.sent ++ [(request, answer)] } :=
  always_send

theorem always_writeAuditLog {metadata : List (Option String)}
    {returns : Unit → PlatformWorld → Prop} (hreturns : returns () world)
    (hraises : raises .database world) :
    Always aside returns raises (writeAuditLog metadata) world :=
  always_require (fun _ => hreturns) fun _ => hraises

/-- A `SELECT` met by at most one row. -/
theorem always_selectOne {t : Table} {p : Row t → Bool}
    {returns : Option (Row t) → PlatformWorld → Prop} (ht : aside t = false)
    (hunique : ∀ row ∈ world.db.rows t, ∀ other ∈ world.db.rows t,
      p row = true → p other = true → row = other)
    (hfound : ∀ row ∈ world.db.rows t, p row = true → returns (some row) world)
    (hnone : (∀ row ∈ world.db.rows t, p row = false) → returns none world) :
    Always aside returns raises (selectOne t p) world := by
  refine always_select ht ?_
  rcases Db.filter_cases (world.db.nodup t) hunique with ⟨hfilter, hall⟩ |
    ⟨row, hrow, hp, hfilter⟩
  · rw [hfilter]
    exact hnone hall
  · rw [hfilter]
    exact hfound row hrow hp

theorem always_scalarOneOrNone {t : Table} {p : Row t → Bool}
    {returns : Option (Row t) → PlatformWorld → Prop}
    (hfound : ∀ row ∈ world.db.rows t, p row = true → returns (some row) world)
    (hnone : returns none world) (hmany : raises .multipleResultsFound world) :
    Always aside returns raises (scalarOneOrNone ((world.db.rows t).filter p)) world := by
  cases hfilter : (world.db.rows t).filter p with
  | nil => exact hnone
  | cons row rest =>
    cases rest with
    | nil =>
      have hrow : row ∈ (world.db.rows t).filter p := by
        rw [hfilter]
        exact List.mem_singleton_self row
      exact hfound row (List.mem_of_mem_filter hrow) (List.of_mem_filter hrow)
    | cons other rest => exact hmany

/-- Whatever it finds, a `SELECT` finds a row of the table that meets its condition. -/
theorem always_selectOne_found {t : Table} {p : Row t → Bool}
    {returns : Option (Row t) → PlatformWorld → Prop} (ht : aside t = false)
    (hfound : ∀ row ∈ world.db.rows t, p row = true → returns (some row) world)
    (hnone : returns none world) (hmany : raises .multipleResultsFound world) :
    Always aside returns raises (selectOne t p) world :=
  always_select ht (always_scalarOneOrNone hfound hnone hmany)

theorem always_selectOneForUpdate_found {t : Table} {p : Row t → Bool}
    {returns : Option (Row t) → PlatformWorld → Prop} (ht : aside t = false)
    (hfound : ∀ row ∈ world.db.rows t, p row = true → returns (some row) world)
    (hnone : returns none world) (hmany : raises .multipleResultsFound world) :
    Always aside returns raises (selectOneForUpdate t p) world :=
  always_selectForUpdate ht (always_scalarOneOrNone hfound hnone hmany)

/-- Whatever it finds, a `SELECT` changes nothing. -/
theorem always_selectOne_any {t : Table} {p : Row t → Bool}
    {returns : Option (Row t) → PlatformWorld → Prop} (ht : aside t = false)
    (hfound : ∀ found, returns found world) (hmany : ∀ e, raises e world) :
    Always aside returns raises (selectOne t p) world := by
  refine always_select ht ?_
  match (world.db.rows t).filter p with
  | [] => exact hfound none
  | [row] => exact hfound (some row)
  | _ :: _ :: _ => exact hmany _

theorem always_selectOneForUpdate {t : Table} {p : Row t → Bool}
    {returns : Option (Row t) → PlatformWorld → Prop} (ht : aside t = false)
    (hunique : ∀ row ∈ world.db.rows t, ∀ other ∈ world.db.rows t,
      p row = true → p other = true → row = other)
    (hfound : ∀ row ∈ world.db.rows t, p row = true → returns (some row) world)
    (hnone : (∀ row ∈ world.db.rows t, p row = false) → returns none world) :
    Always aside returns raises (selectOneForUpdate t p) world := by
  refine always_selectForUpdate ht ?_
  rcases Db.filter_cases (world.db.nodup t) hunique with ⟨hfilter, hall⟩ |
    ⟨row, hrow, hp, hfilter⟩
  · rw [hfilter]
    exact hnone hall
  · rw [hfilter]
    exact hfound row hrow hp

theorem byId_iff {t : Table} {tenantId : Option ℕ} {id : ℕ} {row : Row t} :
    (ofTenant t tenantId row && rowId t row == id) = true ↔
      ofTenant t tenantId row = true ∧ rowId t row = id := by
  rw [Bool.and_eq_true, beq_iff_eq]

theorem byId_unique (db : PlatformDb) {t : Table} {tenantId : Option ℕ} {id : ℕ} :
    ∀ row ∈ db.rows t, ∀ other ∈ db.rows t,
      (ofTenant t tenantId row && rowId t row == id) = true →
      (ofTenant t tenantId other && rowId t other == id) = true → row = other := by
  intro row hrow other hother h h'
  exact db.id_injOn hrow hother ((byId_iff.mp h).2.trans (byId_iff.mp h').2.symm)

/-- A `SELECT` by the primary key alone. -/
theorem always_selectById {t : Table} {id : ℕ} {returns : Option (Row t) → PlatformWorld → Prop}
    (ht : aside t = false)
    (hfound : ∀ row ∈ world.db.rows t, rowId t row = id → returns (some row) world)
    (hnone : (∀ row ∈ world.db.rows t, rowId t row ≠ id) → returns none world) :
    Always aside returns raises (selectOne t fun row => rowId t row == id) world := by
  apply always_selectOne ht
  · intro row hrow other hother h h'
    exact world.db.id_injOn hrow hother ((beq_iff_eq.mp h).trans (beq_iff_eq.mp h').symm)
  · exact fun row hrow hid => hfound row hrow (beq_iff_eq.mp hid)
  · intro h
    apply hnone
    intro row hrow hid
    exact absurd (h row hrow) (by simp [hid])

theorem always_getById {t : Table} {tenantId : Option ℕ} {id : ℕ}
    {returns : Option (Row t) → PlatformWorld → Prop} (ht : aside t = false)
    (hfound : ∀ row ∈ world.db.rows t, ofTenant t tenantId row = true → rowId t row = id →
      returns (some row) world)
    (hnone : (∀ row ∈ world.db.rows t, ofTenant t tenantId row = true → rowId t row ≠ id) →
      returns none world) :
    Always aside returns raises (getById t tenantId id) world := by
  refine always_selectOne ht (byId_unique world.db)
    (fun row hrow hp => hfound row hrow (byId_iff.mp hp).1 (byId_iff.mp hp).2)
    (fun h => hnone fun row hrow htenant hid => ?_)
  have hp := h row hrow
  rw [byId_iff.mpr ⟨htenant, hid⟩] at hp
  cases hp

theorem always_getById_found {t : Table} {tenantId : Option ℕ} {id : ℕ}
    {returns : Option (Row t) → PlatformWorld → Prop} (ht : aside t = false)
    (h : ∀ found : Option (Row t), (∀ row, found = some row → row ∈ world.db.rows t ∧
      ofTenant t tenantId row = true ∧ rowId t row = id) → returns found world) :
    Always aside returns raises (getById t tenantId id) world := by
  apply always_getById ht
  · intro row hrow htenant hid
    exact h (some row) fun found hfound => Option.some.inj hfound ▸ ⟨hrow, htenant, hid⟩
  · exact fun _ => h none fun _ hfound => by cases hfound

/-- Whatever row it finds, a lookup by key changes nothing. -/
theorem always_getById_any {t : Table} {tenantId : Option ℕ} {id : ℕ}
    {returns : Option (Row t) → PlatformWorld → Prop} (ht : aside t = false)
    (h : ∀ found, returns found world) :
    Always aside returns raises (getById t tenantId id) world :=
  always_getById_found ht fun found _ => h found

theorem always_getByIdForUpdate {t : Table} {tenantId : Option ℕ} {id : ℕ}
    {returns : Option (Row t) → PlatformWorld → Prop} (ht : aside t = false)
    (hfound : ∀ row ∈ world.db.rows t, ofTenant t tenantId row = true → rowId t row = id →
      returns (some row) world)
    (hnone : (∀ row ∈ world.db.rows t, ofTenant t tenantId row = true → rowId t row ≠ id) →
      returns none world) :
    Always aside returns raises (getByIdForUpdate t tenantId id) world := by
  refine always_selectOneForUpdate ht (byId_unique world.db)
    (fun row hrow hp => hfound row hrow (byId_iff.mp hp).1 (byId_iff.mp hp).2)
    (fun h => hnone fun row hrow htenant hid => ?_)
  have hp := h row hrow
  rw [byId_iff.mpr ⟨htenant, hid⟩] at hp
  cases hp

theorem always_create {t : Table} {build : ℕ → Row t}
    {returns : Row t → PlatformWorld → Prop} (ht : aside t = false)
    (hstored : ∀ row db, row = build (freshId schema t (world.db.rows t)) →
      rowId t row = freshId schema t (world.db.rows t) → Db.Appended t row world.db db →
      returns row { world with db })
    (hrefused : world.db.insert t build = none → raises .database world) :
    Always aside returns raises (create t build) world := by
  refine always_insert ht (fun row db hinsert => ?_) hrefused
  obtain ⟨hrow, hid, -, hrows⟩ := Db.insert_eq_some hinsert
  exact hstored row db hrow hid hrows

/-- An `INSERT` into a table without unique index. -/
theorem always_createPlain {t : Table} {build : ℕ → Row t}
    {returns : Row t → PlatformWorld → Prop} (ht : aside t = false)
    (hid : ∀ id, rowId t (build id) = id)
    (hconflict : ∀ left right, rowConflict t left right = false)
    (hstored : ∀ row db, row = build (rowId t row) → rowValid t row = true →
      Db.Appended t row world.db db → returns row { world with db })
    (hrefused : ∀ id, rowValid t (build id) = false → raises .database world) :
    Always aside returns raises (create t build) world := by
  refine always_insert ht (fun row db hinsert => ?_) (fun hinsert => ?_)
  · obtain ⟨hrow, hfresh, hstore, happended⟩ := Db.insert_eq_some hinsert
    refine hstored row db ?_ (Db.admits_iff.mp (Db.store_eq_some hstore).1).1 happended
    have hfresh : rowId t row = _ := hfresh
    rw [hfresh]
    exact hrow
  · refine hrefused (freshId schema t (world.db.rows t)) (Bool.eq_false_iff.mpr fun hvalid => ?_)
    have hadmits : world.db.admits t (build (freshId schema t (world.db.rows t))) = true :=
      Db.admits_iff.mpr ⟨hvalid, fun other _ hne => ⟨hne, hconflict other _⟩⟩
    obtain ⟨db', h⟩ := Db.insert_of_admits hid hadmits
    rw [h] at hinsert
    cases hinsert

/-- An `UPDATE` of a stored row. -/
theorem always_updateRow {t : Table} {write : Row t → Row t} {old : Row t}
    {returns : Row t → PlatformWorld → Prop} (ht : aside t = false)
    (hold : old ∈ world.db.rows t) (hid : rowId t (write old) = rowId t old)
    (hconflict : ∀ other, rowConflict t other (write old) = rowConflict t other old)
    (hstored : ∀ db, rowValid t (write old) = true → Db.Replaced t (write old) world.db db →
      returns (write old) { world with db })
    (hrefused : rowValid t (write old) = false → raises .database world) :
    Always aside returns raises (updateRow t (rowId t old) write) world := by
  refine always_update ht (fun row db hupdate => ?_) (fun hupdate => ?_)
  · obtain ⟨stored, hmem, hid', rfl, -, hstore, hrows⟩ := Db.update_eq_some hupdate
    obtain rfl := world.db.id_injOn hmem hold hid'
    exact hstored db (Db.admits_iff.mp (Db.store_eq_some hstore).1).1 hrows
  · refine hrefused (Bool.eq_false_iff.mpr fun hvalid => ?_)
    obtain ⟨db', h⟩ := Db.update_of_admits hold hid
      (Db.admits_of_conflict_eq hold hid hvalid hconflict)
    rw [h] at hupdate
    cases hupdate

/-- An `INSERT` of which only its table matters. -/
theorem always_create_within {t : Table} {build : ℕ → Row t}
    {returns : Row t → PlatformWorld → Prop} (ht : aside t = false)
    (hreturns : ∀ row world', Within (· = t) world world' → returns row world')
    (hraises : raises .database world) : Always aside returns raises (create t build) world :=
  always_create ht (fun row _ _ _ happended =>
    hreturns row _ ⟨fun _ hne => happended.rows_of_ne hne, rfl⟩) fun _ => hraises

/-- An `UPDATE` of which only its table matters. -/
theorem always_updateRow_within {t : Table} {id : ℕ} {write : Row t → Row t}
    {returns : Row t → PlatformWorld → Prop} (ht : aside t = false)
    (hreturns : ∀ row world', Within (· = t) world world' → returns row world')
    (hraises : raises .database world) :
    Always aside returns raises (updateRow t id write) world := by
  refine always_update ht (fun row db hupdate => ?_) fun _ => hraises
  obtain ⟨old, -, -, -, -, -, hreplaced⟩ := Db.update_eq_some hupdate
  exact hreturns row _ ⟨fun _ hne => hreplaced.rows_of_ne hne, rfl⟩

/-- An `UPDATE` of the withdrawal as it was loaded. -/
theorem always_updateWithdrawal {w : Withdrawal} {set : Withdrawal → Withdrawal}
    {returns : Withdrawal → PlatformWorld → Prop} (ht : aside .withdrawals = false)
    (hw : w ∈ world.db.rows .withdrawals) (hset : w.SameRequest (set w))
    (hstored : ∀ db, rowValid .withdrawals (set w) = true →
      Db.Replaced .withdrawals (set w) world.db db → returns (set w) { world with db })
    (hrefused : rowValid .withdrawals (set w) = false → raises .database world) :
    Always aside returns raises (updateWithdrawal w set) world := by
  have hflush : w.flush (set w) w = set w := Withdrawal.flush_loaded hset
  refine @always_updateRow _ _ _ .withdrawals (w.flush (set w)) _ _ ht hw
    (by rw [hflush]; exact hset.id) (fun other => ?_) (fun db => ?_) (fun h => ?_)
  · rw [hflush]
    simp only [rowConflict, hset.idempotencyKey]
  · rw [hflush]
    exact hstored db
  · rw [hflush] at h
    exact hrefused h

theorem always_updateTransaction {transaction : Transaction}
    {set : Transaction → Transaction} {returns : Transaction → PlatformWorld → Prop}
    (ht : aside .transactions = false)
    (hmem : transaction ∈ world.db.rows .transactions)
    (hset : transaction.SameOrder (set transaction))
    (hstored : ∀ db, rowValid .transactions (set transaction) = true →
      Db.Replaced .transactions (set transaction) world.db db →
      returns (set transaction) { world with db })
    (hrefused : rowValid .transactions (set transaction) = false →
      raises .database world) :
    Always aside returns raises (updateTransaction transaction set) world := by
  have hflush : transaction.flush (set transaction) transaction = set transaction :=
    Transaction.flush_loaded hset
  refine @always_updateRow _ _ _ .transactions (transaction.flush (set transaction)) _ _
    ht hmem (by rw [hflush]; exact hset.id) (fun other => ?_) (fun db => ?_) (fun h => ?_)
  · rw [hflush]
    simp only [rowConflict, hset.tenantId, hset.reference]
  · rw [hflush]
    exact hstored db
  · rw [hflush] at h
    exact hrefused h

end Rules

/-! ## One run -/

section Runs

variable (env : Outside) (state : State schema Request HttpResult)

/-- A lookup that at most one row meets, in a run against one environment. -/
theorem run_selectOne {t : Table} {p : Row t → Bool}
    (hunique : ∀ row ∈ state.db.rows t, ∀ other ∈ state.db.rows t,
      p row = true → p other = true → row = other) :
    (∃ row ∈ state.db.rows t, p row = true ∧
      run (exec env) (selectOne t p) state = (.ok (some row), state)) ∨
    run (exec env) (selectOne t p) state = (.ok none, state) := by
  have hrun : run (exec env) (selectOne t p) state =
      run (exec env) (scalarOneOrNone ((state.db.rows t).filter p)) state := rfl
  rcases Db.filter_cases (state.db.nodup t) hunique with ⟨hfilter, -⟩ | ⟨row, hrow, hp, hfilter⟩
  · right
    rw [hrun, hfilter]
    rfl
  · left
    use row, hrow, hp
    rw [hrun, hfilter]
    rfl

theorem run_getById (t : Table) (tenantId : Option ℕ) (id : ℕ) :
    (∃ row ∈ state.db.rows t, ofTenant t tenantId row = true ∧ rowId t row = id ∧
      run (exec env) (getById t tenantId id) state = (.ok (some row), state)) ∨
    run (exec env) (getById t tenantId id) state = (.ok none, state) := by
  rcases run_selectOne env state (byId_unique state.db) with ⟨row, hrow, hp, hrun⟩ | hrun
  · exact Or.inl ⟨row, hrow, (byId_iff.mp hp).1, (byId_iff.mp hp).2, hrun⟩
  · exact Or.inr hrun

theorem run_getByIdForUpdate (t : Table) (tenantId : Option ℕ) (id : ℕ) :
    run (exec env) (getByIdForUpdate t tenantId id) state =
      run (exec env) (getById t tenantId id) state := rfl

/-- A lookup by key finds the first row that has the key, which no other row has. -/
theorem run_getById_find (t : Table) (tenantId : Option ℕ) (id : ℕ) :
    run (exec env) (getById t tenantId id) state =
      (.ok ((state.db.rows t).find? fun row => ofTenant t tenantId row && rowId t row == id),
        state) := by
  have hrun : run (exec env) (getById t tenantId id) state =
      run (exec env) (scalarOneOrNone ((state.db.rows t).filter fun row =>
        ofTenant t tenantId row && rowId t row == id)) state := rfl
  rw [hrun, ← List.head?_filter]
  rcases Db.filter_cases (state.db.nodup t) (byId_unique state.db) with ⟨hfilter, -⟩ |
    ⟨row, -, -, hfilter⟩
  · rw [hfilter]
    rfl
  · rw [hfilter]
    rfl

/-- The row a lookup by key finds. -/
theorem run_getById_found {t : Table} {tenantId : Option ℕ} {row : Row t}
    (hrow : row ∈ state.db.rows t) (htenant : ofTenant t tenantId row = true) :
    run (exec env) (getById t tenantId (rowId t row)) state = (.ok (some row), state) := by
  have hp : (ofTenant t tenantId row && rowId t row == rowId t row) = true :=
    byId_iff.mpr ⟨htenant, rfl⟩
  rw [run_getById_find]
  cases hfind : (state.db.rows t).find? fun other =>
      ofTenant t tenantId other && rowId t other == rowId t row with
  | none =>
    have hnone := List.find?_eq_none.mp hfind row hrow
    exact absurd hp hnone
  | some other =>
    obtain rfl := state.db.id_injOn (List.mem_of_find?_eq_some hfind) hrow
      (byId_iff.mp (List.find?_some (p := fun other =>
        ofTenant t tenantId other && rowId t other == rowId t row) hfind)).2
    rfl

/-- An `INSERT` into a table without unique index fails on the column types only. -/
theorem run_create {t : Table} {build : ℕ → Row t} (hid : ∀ id, rowId t (build id) = id)
    (hconflict : ∀ left right, rowConflict t left right = false) :
    (∃ row db, rowValid t row = true ∧ row = build (rowId t row) ∧
      Db.Appended t row state.db db ∧
      run (exec env) (create t build) state = (.ok row, { state with db })) ∨
    ((∃ id, rowValid t (build id) = false) ∧
      run (exec env) (create t build) state = (.error .database, state)) := by
  have hrun : run (exec env) (create t build) state =
      match state.db.insert t build with
      | some (row, db) => (.ok row, { state with db })
      | none => (.error .database, state) := by
    rw [create, issue, Prog.issue_bind, run_step, exec]
    cases state.db.insert t build with
    | none => rfl
    | some stored => rfl
  cases hinsert : state.db.insert t build with
  | some stored =>
    left
    obtain ⟨hrow, hfresh, hstore, happended⟩ := Db.insert_eq_some hinsert
    have hvalid := (Db.admits_iff.mp (Db.store_eq_some hstore).1).1
    refine ⟨stored.1, stored.2, hvalid, ?_, happended, ?_⟩
    · have hfresh : rowId t stored.1 = _ := hfresh
      rw [hfresh]
      exact hrow
    · rw [hrun, hinsert]
  | none =>
    right
    refine ⟨⟨freshId schema t (state.db.rows t), Bool.eq_false_iff.mpr fun hvalid => ?_⟩, ?_⟩
    · have hadmits : state.db.admits t (build (freshId schema t (state.db.rows t))) = true :=
        Db.admits_iff.mpr ⟨hvalid, fun other _ hne => ⟨hne, hconflict other _⟩⟩
      obtain ⟨db, h⟩ := Db.insert_of_admits hid hadmits
      rw [h] at hinsert
      cases hinsert
    · rw [hrun, hinsert]

/-- An `UPDATE` to a row that is admitted in place of the old one. -/
theorem run_updateRow_of_admits {t : Table} {write : Row t → Row t} {old : Row t}
    (hold : old ∈ state.db.rows t) (hid : rowId t (write old) = rowId t old)
    (hadmits : state.db.admits t (write old) = true) :
    ∃ db, Db.Replaced t (write old) state.db db ∧
      run (exec env) (updateRow t (rowId t old) write) state =
        (.ok (write old), { state with db }) := by
  obtain ⟨db, hupdate⟩ := Db.update_of_admits hold hid hadmits
  obtain ⟨-, -, -, -, -, -, hreplaced⟩ := Db.update_eq_some hupdate
  refine ⟨db, hreplaced, ?_⟩
  rw [updateRow, issue, Prog.issue_bind, run_step, exec, hupdate]
  rfl

/-- An `UPDATE` of a stored row that fits its columns and is in nobody's way. -/
theorem run_updateRow {t : Table} {write : Row t → Row t} {old : Row t}
    (hold : old ∈ state.db.rows t) (hid : rowId t (write old) = rowId t old)
    (hvalid : rowValid t (write old) = true)
    (hconflict : ∀ other, rowConflict t other (write old) = rowConflict t other old) :
    ∃ db, Db.Replaced t (write old) state.db db ∧
      run (exec env) (updateRow t (rowId t old) write) state =
        (.ok (write old), { state with db }) :=
  run_updateRow_of_admits env state hold hid (Db.admits_of_conflict_eq hold hid hvalid hconflict)

theorem run_updateRow_refused {t : Table} {write : Row t → Row t} {old : Row t}
    (hold : old ∈ state.db.rows t) (hinvalid : rowValid t (write old) = false) :
    run (exec env) (updateRow t (rowId t old) write) state = (.error .database, state) := by
  rw [updateRow, issue, Prog.issue_bind, run_step, exec]
  cases hupdate : state.db.update t (rowId t old) write with
  | none => rfl
  | some stored =>
    exfalso
    obtain ⟨found, hfound, hid, hrow, -, hstore, -⟩ := Db.update_eq_some hupdate
    obtain rfl := state.db.id_injOn hfound hold hid
    have hvalid := (Db.admits_iff.mp (Db.store_eq_some hstore).1).1
    rw [hrow] at hvalid
    exact absurd hvalid (Bool.eq_false_iff.mp hinvalid)

/-- An `UPDATE` of the withdrawal as it was loaded. -/
theorem run_updateWithdrawal {w : Withdrawal} {set : Withdrawal → Withdrawal}
    (hw : w ∈ state.db.rows .withdrawals) (hset : w.SameRequest (set w))
    (hvalid : rowValid .withdrawals (set w) = true) :
    ∃ db, Db.Replaced .withdrawals (set w) state.db db ∧
      run (exec env) (updateWithdrawal w set) state = (.ok (set w), { state with db }) := by
  have hflush : w.flush (set w) w = set w := Withdrawal.flush_loaded hset
  obtain ⟨db, hreplaced, hrun⟩ := @run_updateRow env state .withdrawals (w.flush (set w)) w hw
    (by rw [hflush]; exact hset.id) (by rw [hflush]; exact hvalid) fun other => by
      rw [hflush]
      simp only [rowConflict, hset.idempotencyKey]
  rw [hflush] at hreplaced hrun
  exact ⟨db, hreplaced, hrun⟩

theorem run_updateWithdrawal_refused {w : Withdrawal} {set : Withdrawal → Withdrawal}
    (hw : w ∈ state.db.rows .withdrawals) (hset : w.SameRequest (set w))
    (hinvalid : rowValid .withdrawals (set w) = false) :
    run (exec env) (updateWithdrawal w set) state = (.error .database, state) := by
  have hflush : w.flush (set w) w = set w := Withdrawal.flush_loaded hset
  exact @run_updateRow_refused env state .withdrawals (w.flush (set w)) w hw
    (by rw [hflush]; exact hinvalid)

/-- An `UPDATE` of the transaction as it was loaded. -/
theorem run_updateTransaction {transaction : Transaction} {set : Transaction → Transaction}
    (ht : transaction ∈ state.db.rows .transactions)
    (hset : transaction.SameOrder (set transaction)) :
    (rowValid .transactions (set transaction) = true ∧
      ∃ db, Db.Replaced .transactions (set transaction) state.db db ∧
        run (exec env) (updateTransaction transaction set) state =
          (.ok (set transaction), { state with db })) ∨
    (rowValid .transactions (set transaction) = false ∧
      run (exec env) (updateTransaction transaction set) state = (.error .database, state)) := by
  have hflush : transaction.flush (set transaction) transaction = set transaction :=
    Transaction.flush_loaded hset
  cases hvalid : rowValid .transactions (set transaction) with
  | true =>
    left
    obtain ⟨db, hreplaced, hrun⟩ := @run_updateRow env state .transactions
      (transaction.flush (set transaction)) transaction ht (by rw [hflush]; exact hset.id)
      (by rw [hflush]; exact hvalid) fun other => by
        rw [hflush]
        simp only [rowConflict, hset.tenantId, hset.reference]
    rw [hflush] at hreplaced hrun
    exact ⟨rfl, db, hreplaced, hrun⟩
  | false =>
    right
    exact ⟨rfl, @run_updateRow_refused env state .transactions
      (transaction.flush (set transaction)) transaction ht (by rw [hflush]; exact hvalid)⟩

end Runs

end InfinityRadius.Models
