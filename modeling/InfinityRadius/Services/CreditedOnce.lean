import InfinityRadius.Services.Books
import InfinityRadius.Services.PaymentRuns

/-!
# Payments credited once

Along every run of payments the ledger has the three entries of each completed payment, and of
no other.  The share of a payment is pending from the moment it is completed, and nothing else
moves the wallets.
-/

namespace InfinityRadius.Services

open Amounts Database Payload PayoutService Program Sql Models
  WalletService

/-! ## Steps -/

/-- A payment operation, a change of the commission rate, or a change that leaves payments and
money alone. -/
inductive CreditStep
  | payment (work : PaymentOperation) (runtime : Runtime) (outside : Outside)
  | setCommissionRate (tenantId : ℕ) (rate : Decimal) (actorId : Option ℕ)
      (notes : Option String) (outside : Outside)
  | elsewhere (change : PlatformDb → PlatformDb)
      (h : ∀ db : PlatformDb, ∀ table ∈ .transactions :: moneyTables,
        (change db).rows table = db.rows table)

def CreditStep.next (step : CreditStep) (world : PlatformWorld) : PlatformWorld :=
  match step with
  | payment work runtime outside => (transact outside (work.program runtime) world).2
  | setCommissionRate tenantId rate actorId notes outside =>
    (transact outside
      (CommercialTermsService.setCommissionRate tenantId rate actorId notes) world).2
  | elsewhere change _ => { world with db := change world.db }

/-! ## The entries of a payment -/

/-- What a collected payment is entered as. -/
def collectedTypes : List LedgerEntryType := [.collection, .platformFee, .tenantShare]

/-- The entries of a type that refer to a transaction. -/
def referring (db : PlatformDb) (transactionId : ℕ) (entryType : LedgerEntryType) :
    List LedgerEntry :=
  (db.rows .ledgerEntries).filter fun entry =>
    entry.entryType == entryType && entry.referenceId == some transactionId

/-- The payment is in the ledger, with one entry of each type. -/
structure Entered (db : PlatformDb) (t : Transaction) (collection fee share : LedgerEntry) :
    Prop where
  collections : referring db t.id .collection = [collection]
  fees : referring db t.id .platformFee = [fee]
  shares : referring db t.id .tenantShare = [share]
  collected : collection.amount = t.amount
  split : fee.amount + share.amount = t.amount

/-- The payment is in the ledger where it is completed, and nowhere else. -/
def Accounted (db : PlatformDb) (t : Transaction) : Prop :=
  if t.status = .completed then ∃ collection fee share, Entered db t collection fee share
  else ∀ entryType ∈ collectedTypes, referring db t.id entryType = []

section Referring

variable {db db' : PlatformDb} {t t' : Transaction} {entryType : LedgerEntryType}

theorem mem_referring {entry : LedgerEntry} {transactionId : ℕ} :
    entry ∈ referring db transactionId entryType ↔
      entry ∈ db.rows .ledgerEntries ∧ entry.entryType = entryType ∧
        entry.referenceId = some transactionId := by
  rw [referring, List.mem_filter, Bool.and_eq_true, beq_iff_eq, beq_iff_eq]

theorem referring_of_rows (h : db'.rows .ledgerEntries = db.rows .ledgerEntries)
    (transactionId : ℕ) (entryType : LedgerEntryType) :
    referring db' transactionId entryType = referring db transactionId entryType := by
  rw [referring, h, referring]

theorem referring_append {entries : List LedgerEntry}
    (h : db'.rows .ledgerEntries = db.rows .ledgerEntries ++ entries) (transactionId : ℕ)
    (entryType : LedgerEntryType) :
    referring db' transactionId entryType = referring db transactionId entryType ++
      entries.filter fun entry =>
        entry.entryType == entryType && entry.referenceId == some transactionId := by
  rw [referring, h, List.filter_append, referring]

/-- The books depend on the entries of a payment, on its amount and on whether it is completed. -/
theorem Accounted.congr (h : Accounted db t)
    (hreferring : ∀ entryType, referring db' t'.id entryType = referring db t.id entryType)
    (hamount : t'.amount = t.amount)
    (hstatus : t'.status = .completed ↔ t.status = .completed) : Accounted db' t' := by
  rw [Accounted] at h ⊢
  by_cases hcompleted : t.status = .completed
  · rw [if_pos hcompleted] at h
    rw [if_pos (hstatus.mpr hcompleted)]
    obtain ⟨collection, fee, share, hentered⟩ := h
    use collection, fee, share
    constructor
    · rw [hreferring, hentered.collections]
    · rw [hreferring, hentered.fees]
    · rw [hreferring, hentered.shares]
    · rw [hentered.collected, hamount]
    · rw [hentered.split, hamount]
  · rw [if_neg hcompleted] at h
    rw [if_neg fun h => hcompleted (hstatus.mp h)]
    intro entryType hentryType
    rw [hreferring]
    exact h entryType hentryType

theorem Accounted.of_rows (h : Accounted db t)
    (hledger : db'.rows .ledgerEntries = db.rows .ledgerEntries) : Accounted db' t :=
  h.congr (referring_of_rows hledger t.id) rfl Iff.rfl

end Referring

/-! ## Receipts -/

section Credited

variable {db db' : PlatformDb} {t : Transaction} {collection fee share : LedgerEntry}

/-- The entries of a receipt are the ones of its payment. -/
theorem Entered.of_receipt (hnone : ∀ entryType ∈ collectedTypes, referring db t.id entryType = [])
    (hreceipt : Receipt t.amount (some t.id) collection fee share)
    (hledger : db'.rows .ledgerEntries = db.rows .ledgerEntries ++ [collection, fee, share]) :
    Entered db' t collection fee share := by
  constructor
  · rw [referring_append hledger, hnone _ (by decide), List.nil_append]
    simp [hreceipt.collectionType, hreceipt.feeType, hreceipt.shareType,
      hreceipt.collectionReference]
  · rw [referring_append hledger, hnone _ (by decide), List.nil_append]
    simp [hreceipt.collectionType, hreceipt.feeType, hreceipt.shareType, hreceipt.feeReference]
  · rw [referring_append hledger, hnone _ (by decide), List.nil_append]
    simp [hreceipt.collectionType, hreceipt.feeType, hreceipt.shareType, hreceipt.shareReference]
  · exact hreceipt.collected
  · exact hreceipt.split

theorem Entered.sameOrder {t' : Transaction} (h : Entered db t collection fee share)
    (horder : t.SameOrder t') : Entered db t' collection fee share := by
  constructor
  · rw [horder.id, h.collections]
  · rw [horder.id, h.fees]
  · rw [horder.id, h.shares]
  · rw [horder.amount, h.collected]
  · rw [horder.amount, h.split]

/-- No other payment is referred to. -/
theorem referring_of_receipt {other : ℕ} (hother : other ≠ t.id)
    (hreceipt : Receipt t.amount (some t.id) collection fee share)
    (hledger : db'.rows .ledgerEntries = db.rows .ledgerEntries ++ [collection, fee, share])
    (entryType : LedgerEntryType) : referring db' other entryType = referring db other entryType := by
  rw [referring_append hledger]
  simp [hreceipt.collectionReference, hreceipt.feeReference, hreceipt.shareReference, hother.symm]

/-- The share of a payment and nothing else was added, to the pending balance of its tenant. -/
theorem Credited.receipt (h : Credited db db' t) :
    ∃ collection fee share, Receipt t.amount (some t.id) collection fee share ∧
      db'.rows .ledgerEntries = db.rows .ledgerEntries ++ [collection, fee, share] ∧
      ∀ tenantId bucket, balanceOf db' tenantId bucket = balanceOf db tenantId bucket +
        if tenantId = t.tenantId ∧ bucket = .pending then share.amount else 0 := by
  obtain ⟨start, prior, final, wallet, wallet', collection, fee, share, hstart, hposted,
    hexplained, hreceipt, hfinal⟩ := h
  refine ⟨collection, fee, share, hreceipt, ?_, fun tenantId bucket => ?_⟩
  · rw [hfinal _ (by decide), hposted.ledger, hstart _ (by decide)]
  · have hgain : balance wallet' bucket - balance wallet bucket =
        if bucket = .pending then share.amount else 0 := by
      have hnet : net bucket [collection, fee, share] =
          if bucket = .pending then share.amount else 0 := by
        simp only [net_cons, net_nil, hreceipt.unmoved.1, hreceipt.unmoved.2,
          hreceipt.shareBucket, signed, hreceipt.shareDirection, Option.some.injEq, reduceCtorEq,
          if_false, zero_add, add_zero, eq_comm]
      have hsettled : settledInto bucket [] = 0 := by cases bucket <;> rfl
      rw [hexplained bucket, hnet, hsettled]
      ring
    rw [balanceOf_of_rows (hfinal _ (by decide)), hposted.balanceOf,
      balanceOf_of_rows (hstart _ (by decide)), hgain]
    by_cases htenant : tenantId = t.tenantId <;> simp [htenant]

end Credited

/-! ## Steps and runs -/

/-- Every payment is accounted for, and every entry of one refers to a payment there is. -/
structure Ledgered (db : PlatformDb) : Prop where
  accounted : ∀ t ∈ db.rows .transactions, Accounted db t
  referred : ∀ entry ∈ db.rows .ledgerEntries, entry.entryType ∈ collectedTypes →
    ∃ t ∈ db.rows .transactions, entry.referenceId = some t.id

/-- What a step makes of the money: nothing, or it completes one payment. -/
inductive Credits (db db' : PlatformDb) : Prop
  | nothing (hmoney : ∀ table ∈ moneyTables, db'.rows table = db.rows table)
      (hcompleted : ∀ t ∈ db'.rows .transactions, t.status = .completed →
        t ∈ db.rows .transactions)
  | completes {t t' : Transaction} (ht : t ∈ db.rows .transactions)
      (ht' : t' ∈ db'.rows .transactions) (horder : t.SameOrder t')
      (hundecided : t.status.terminal = false) (hcompleted : t'.status = .completed)
      (hothers : ∀ other ∈ db'.rows .transactions, other ≠ t' → other ∈ db.rows .transactions)
      {collection fee share : LedgerEntry} (hentered : Entered db' t' collection fee share)
      (hledger : db'.rows .ledgerEntries =
        db.rows .ledgerEntries ++ [collection, fee, share])
      (hpending : ∀ tenantId bucket, balanceOf db' tenantId bucket = balanceOf db tenantId bucket +
        if tenantId = t'.tenantId ∧ bucket = .pending then share.amount else 0)

section Steps

variable {db db' : PlatformDb}

theorem Credits.of_rows
    (h : ∀ table ∈ .transactions :: moneyTables, db'.rows table = db.rows table) :
    Credits db db' := by
  apply Credits.nothing
  · exact fun table htable => h table (List.mem_cons_of_mem _ htable)
  · intro t ht _
    rwa [h .transactions List.mem_cons_self] at ht

theorem Ledgered.of_rows (hdb : Ledgered db)
    (h : ∀ table ∈ .transactions :: moneyTables, db'.rows table = db.rows table) :
    Ledgered db' := by
  have htransactions := h .transactions (by decide)
  have hledger := h .ledgerEntries (by decide)
  constructor
  · intro t ht
    rw [htransactions] at ht
    exact (hdb.accounted t ht).of_rows hledger
  · rw [htransactions, hledger]
    exact hdb.referred

/-- A payment that was just started is referred to by nothing. -/
theorem Ledgered.started {t : Transaction} (hdb : Ledgered db)
    (htransactions : db'.rows .transactions = db.rows .transactions ++ [t])
    (hstatus : t.status = .stkSent ∨ t.status = .failed)
    (hledger : db'.rows .ledgerEntries = db.rows .ledgerEntries) : Ledgered db' := by
  constructor
  · intro t' ht'
    rw [htransactions] at ht'
    rcases List.mem_append.mp ht' with hold | hnew
    · exact (hdb.accounted t' hold).of_rows hledger
    · obtain rfl := List.mem_singleton.mp hnew
      have hopen : t'.status ≠ .completed := by
        rcases hstatus with h | h <;> rw [h] <;> decide
      rw [Accounted, if_neg hopen]
      intro entryType hentryType
      rw [referring_of_rows hledger]
      apply List.eq_nil_iff_forall_not_mem.mpr
      intro entry hentry
      obtain ⟨hmem, rfl, hreference⟩ := mem_referring.mp hentry
      obtain ⟨old, hold, hid⟩ := hdb.referred entry hmem hentryType
      have hids := db'.nodup_map_id .transactions
      rw [htransactions, List.map_append, List.nodup_append] at hids
      have hsame : old.id = t'.id := Option.some.inj (hid.symm.trans hreference)
      exact hids.2.2 _ (List.mem_map_of_mem hold) _ (List.mem_singleton_self _) hsame
  · intro entry hentry hentryType
    rw [hledger] at hentry
    obtain ⟨old, hold, hid⟩ := hdb.referred entry hentry hentryType
    exact ⟨old, htransactions ▸ List.mem_append_left _ hold, hid⟩

/-- The entries of stored payments still refer to one after a payment was replaced. -/
theorem referred_of_replaced {t t' : Transaction} (hold : t ∈ db.rows .transactions)
    (hid : t.id = t'.id)
    (hrows : db'.rows .transactions =
      replaceRow schema .transactions t' (db.rows .transactions))
    {reference : Option ℕ} (h : ∃ other ∈ db.rows .transactions, reference = some other.id) :
    ∃ other ∈ db'.rows .transactions, reference = some other.id := by
  obtain ⟨other, hother, hreference⟩ := h
  rw [hrows]
  by_cases hsame : other.id = t'.id
  · exact ⟨t', mem_replaceRow_self hold hid, by rw [hreference, hsame]⟩
  · exact ⟨other, mem_replaceRow_of_ne hother hsame, hreference⟩

theorem not_completed_of_undecided {t : Transaction} (h : t.status.terminal = false) :
    t.status ≠ .completed := by
  intro hcompleted
  rw [hcompleted] at h
  cases h

theorem Ledgered.moved {t t' : Transaction} (hdb : Ledgered db) (hchange : Moved t t')
    (hold : t ∈ db.rows .transactions)
    (hrows : db'.rows .transactions =
      replaceRow schema .transactions t' (db.rows .transactions))
    (hledger : db'.rows .ledgerEntries = db.rows .ledgerEntries) : Ledgered db' := by
  have hid : t.id = t'.id := hchange.sameOrder.id.symm
  constructor
  · intro other hother
    rw [hrows] at hother
    rcases mem_replaceRow hother with rfl | ⟨hother, -⟩
    · apply (hdb.accounted t hold).congr
      · rw [hchange.sameOrder.id]
        exact referring_of_rows hledger t.id
      · exact hchange.sameOrder.amount
      · exact iff_of_false hchange.status (not_completed_of_undecided hchange.undecided)
    · exact (hdb.accounted other hother).of_rows hledger
  · intro entry hentry hentryType
    rw [hledger] at hentry
    exact referred_of_replaced hold hid hrows (hdb.referred entry hentry hentryType)

/-- A payment that is completed is entered once. -/
theorem Ledgered.completed {t t' : Transaction} {collection fee share : LedgerEntry}
    (hdb : Ledgered db) (hchange : Completed t t') (hold : t ∈ db.rows .transactions)
    (hrows : db'.rows .transactions =
      replaceRow schema .transactions t' (db.rows .transactions))
    (hreceipt : Receipt t.amount (some t.id) collection fee share)
    (hledger : db'.rows .ledgerEntries =
      db.rows .ledgerEntries ++ [collection, fee, share]) :
    Ledgered db' ∧ Entered db' t' collection fee share := by
  have hid : t.id = t'.id := hchange.sameOrder.id.symm
  have hopen := hdb.accounted t hold
  rw [Accounted, if_neg (not_completed_of_undecided hchange.undecided)] at hopen
  have hentered := (Entered.of_receipt hopen hreceipt hledger).sameOrder hchange.sameOrder
  refine ⟨⟨?_, ?_⟩, hentered⟩
  · intro other hother
    rw [hrows] at hother
    rcases mem_replaceRow hother with rfl | ⟨hother, hne⟩
    · rw [Accounted, if_pos hchange.status]
      exact ⟨_, _, _, hentered⟩
    · apply (hdb.accounted other hother).congr
      · exact referring_of_receipt (hid ▸ hne) hreceipt hledger
      · rfl
      · exact Iff.rfl
  · intro entry hentry hentryType
    rw [hledger] at hentry
    apply referred_of_replaced hold hid hrows
    rcases List.mem_append.mp hentry with hentry | hnew
    · exact hdb.referred entry hentry hentryType
    · use t, hold
      simp only [List.mem_cons, List.not_mem_nil, or_false] at hnew
      rcases hnew with rfl | rfl | rfl
      · exact hreceipt.collectionReference
      · exact hreceipt.feeReference
      · exact hreceipt.shareReference

/-- A payment that was just started is not completed. -/
theorem Credits.started {t : Transaction}
    (htransactions : db'.rows .transactions = db.rows .transactions ++ [t])
    (hstatus : t.status = .stkSent ∨ t.status = .failed)
    (hmoney : ∀ table ∈ moneyTables, db'.rows table = db.rows table) : Credits db db' := by
  apply Credits.nothing hmoney
  intro t' ht' hcompleted
  rw [htransactions] at ht'
  rcases List.mem_append.mp ht' with hold | hnew
  · exact hold
  · rw [List.mem_singleton.mp hnew] at hcompleted
    rcases hstatus with h | h <;> rw [h] at hcompleted <;> cases hcompleted

theorem Credits.moved {t t' : Transaction} (hchange : Moved t t')
    (hrows : db'.rows .transactions =
      replaceRow schema .transactions t' (db.rows .transactions))
    (hmoney : ∀ table ∈ moneyTables, db'.rows table = db.rows table) : Credits db db' := by
  apply Credits.nothing hmoney
  intro other hother hcompleted
  rw [hrows] at hother
  rcases mem_replaceRow hother with rfl | ⟨hold, -⟩
  · exact absurd hcompleted hchange.status
  · exact hold

/-- What an operation makes of payments that are accounted for. -/
theorem Worked.credits (h : Worked db db') (hdb : Ledgered db) :
    Ledgered db' ∧ Credits db db' := by
  cases h with
  | idle h =>
    have hrows : ∀ table ∈ .transactions :: moneyTables, db'.rows table = db.rows table := by
      intro table htable
      apply h
      rintro rfl
      exact absurd htable (by decide)
    exact ⟨hdb.of_rows hrows, .of_rows hrows⟩
  | attempted h =>
    have hmoney : ∀ table ∈ moneyTables, db'.rows table = db.rows table := by
      intro table htable
      apply h.others
      intro hmem
      exact absurd htable (by revert hmem; cases table <;> decide)
    exact ⟨hdb.started h.transactions h.status (hmoney _ (by decide)),
      .started h.transactions h.status hmoney⟩
  | collected h =>
    have hmoney : ∀ table ∈ moneyTables, db'.rows table = db.rows table := by
      intro table htable
      apply h.others
      rintro rfl
      exact absurd htable (by decide)
    exact ⟨hdb.started h.transactions h.status (hmoney _ (by decide)),
      .started h.transactions h.status hmoney⟩
  | settled h =>
    cases h with
    | unchanged h =>
      have hrows : ∀ table ∈ .transactions :: moneyTables, db'.rows table = db.rows table := by
        intro table htable
        apply h
        rintro rfl
        exact absurd htable (by decide)
      exact ⟨hdb.of_rows hrows, .of_rows hrows⟩
    | moved hchange hold hrows hothers =>
      have hmoney : ∀ table ∈ moneyTables, db'.rows table = db.rows table := by
        intro table htable
        apply hothers
        intro hmem
        exact absurd htable (by revert hmem; cases table <;> decide)
      exact ⟨hdb.moved hchange hold hrows (hmoney _ (by decide)), .moved hchange hrows hmoney⟩
    | completed hchange hold hrows hcredited _ =>
      obtain ⟨collection, fee, share, hreceipt, hledger, hpending⟩ := hcredited.receipt
      obtain ⟨hledgered, hentered⟩ := hdb.completed hchange hold hrows hreceipt hledger
      use hledgered
      apply Credits.completes hold _ hchange.sameOrder hchange.undecided hchange.status _ hentered
        hledger
      · rw [hchange.sameOrder.tenantId]
        exact hpending
      · rw [hrows]
        exact mem_replaceRow_self hold hchange.sameOrder.id.symm
      · intro other hother hne
        rw [hrows] at hother
        exact ((mem_replaceRow hother).resolve_left hne).1

/-- A payment that is decided is never written again. -/
theorem Worked.absorbing (h : Worked db db') {t : Transaction} (ht : t ∈ db.rows .transactions)
    (hterminal : t.status.terminal = true) : t ∈ db'.rows .transactions := by
  have hkept : ∀ {old new : Transaction}, old ∈ db.rows .transactions →
      old.status.terminal = false → old.SameOrder new →
      t ∈ replaceRow schema .transactions new (db.rows .transactions) := by
    intro old new hold hundecided horder
    apply mem_replaceRow_of_ne ht
    intro hid
    obtain rfl : t = old := db.id_injOn ht hold (hid.trans horder.id)
    rw [hterminal] at hundecided
    cases hundecided
  cases h with
  | idle h => rwa [h .transactions (by decide)]
  | attempted h =>
    rw [h.transactions]
    exact List.mem_append_left _ ht
  | collected h =>
    rw [h.transactions]
    exact List.mem_append_left _ ht
  | settled h =>
    cases h with
    | unchanged h => rwa [h .transactions (by decide)]
    | moved hchange hold hrows _ =>
      rw [hrows]
      exact hkept hold hchange.undecided hchange.sameOrder
    | completed hchange hold hrows _ _ =>
      rw [hrows]
      exact hkept hold hchange.undecided hchange.sameOrder

end Steps

/-! ## Rates -/

/-- A change of the rate writes the terms of tenants only. -/
theorem CommercialTermsService.always_setCommissionRate_within {world : PlatformWorld}
    {tenantId : ℕ} {rate : Decimal} {actorId : Option ℕ} {notes : Option String} :
    Always (fun _ => false) (fun _ => Within (· = .tenantCommercialTerms) world)
      (fun _ => Within (· = .tenantCommercialTerms) world)
      (setCommissionRate tenantId rate actorId notes) world := by
  have hcreate : (create .tenantCommercialTerms fun id =>
      { id, tenantId, commissionRatePercent := toNumeric rate, isActive := true, notes,
        createdBy := actorId }).All
      (Footprint.within (· = Table.tenantCommercialTerms) : Footprint Table Row Request).Allows :=
    all_create fun _ => rfl
  apply always_within
  apply Prog.All.bind (Prog.all_require _ _)
  intro _
  apply Prog.All.bind (all_selectFirst _)
  intro current
  cases current with
  | none => exact hcreate
  | some terms => exact Prog.All.bind (all_updateRow rfl) fun _ => hcreate

theorem CreditStep.rows_setCommissionRate {world : PlatformWorld} {tenantId : ℕ} {rate : Decimal}
    {actorId : Option ℕ} {notes : Option String} {outside : Outside} {table : Table}
    (htable : table ≠ .tenantCommercialTerms) :
    ((setCommissionRate tenantId rate actorId notes outside).next world).db.rows table =
      world.db.rows table := by
  have halways := @CommercialTermsService.always_setCommissionRate_within ⟨world.db, []⟩ tenantId
    rate actorId notes
  rcases transact_db outside halways with ⟨_, hwithin⟩ | hsame
  · exact hwithin.1 table htable
  · exact congrArg (fun db : PlatformDb => db.rows table) hsame

/-! ## Every run -/

/-- A payment that is decided stays as it is, and the step credits one payment at most. -/
structure CreditStep.Sound (step : CreditStep) (world : PlatformWorld) : Prop where
  absorbing : ∀ t ∈ world.db.rows .transactions, t.status.terminal = true →
    t ∈ (step.next world).db.rows .transactions
  credits : Credits world.db (step.next world).db

theorem CreditStep.sound (step : CreditStep) {world : PlatformWorld} (h : Ledgered world.db) :
    Ledgered (step.next world).db ∧ step.Sound world := by
  have hkept : (∀ table ∈ .transactions :: moneyTables,
      (step.next world).db.rows table = world.db.rows table) →
      Ledgered (step.next world).db ∧ step.Sound world := by
    intro hrows
    refine ⟨h.of_rows hrows, fun t ht _ => ?_, .of_rows hrows⟩
    rwa [hrows .transactions List.mem_cons_self]
  cases step with
  | payment work runtime outside =>
    have hworked := (works runtime outside world work).1
    obtain ⟨hledgered, hcredits⟩ := hworked.credits h
    exact ⟨hledgered, fun t ht => hworked.absorbing ht, hcredits⟩
  | setCommissionRate tenantId rate actorId notes outside =>
    apply hkept
    intro table htable
    apply rows_setCommissionRate
    rintro rfl
    exact absurd htable (by decide)
  | elsewhere change hchange => exact hkept (hchange world.db)

/-- After every run each completed payment has its three entries and no other payment has any,
and every further step is sound. -/
theorem credited_once {world : PlatformWorld}
    (hnew : world.db.rows .transactions = [])
    (hledger : ∀ entry ∈ world.db.rows .ledgerEntries, entry.entryType ∉ collectedTypes)
    (steps : List CreditStep) :
    (∀ t ∈ (Runs.run CreditStep.next steps world).db.rows .transactions,
      Accounted (Runs.run CreditStep.next steps world).db t) ∧
    Runs.All CreditStep.next CreditStep.Sound steps world := by
  have hstart : Ledgered world.db := by
    constructor
    · rw [hnew]
      simp
    · exact fun entry hentry hentryType => absurd hentryType (hledger entry hentry)
  have hsteps : Runs.All CreditStep.next (fun _ _ => True) steps world :=
    .of_forall (fun _ _ _ => trivial) world
  constructor
  · exact (@Runs.run_kept _ _ CreditStep.next _ (fun world => Ledgered world.db)
      (fun step world h => (step.sound h).1) steps hstart).accounted
  · exact Runs.All.of_invariant
      (fun step (world : PlatformWorld) _ (h : Ledgered world.db) => (step.sound h).symm) hsteps
      hstart

/-! ## A payment through the portal -/

/-- A rate is agreed on, and a visitor's payment is finalised by hand, twice. -/
def portalCredits : List CreditStep :=
  [.setCommissionRate 1 5 none none (answering []),
    .payment (.issueSession 0 none) portalRuntime (answering []),
    .payment (.initiate (.captive "intent" 0 "0712345678")) portalRuntime
      (answering [accepted, accepted]),
    .payment (.finalizePayment 0) portalRuntime (answering []),
    .payment (.finalizePayment 0) portalRuntime (answering [])]

theorem credited_once_portal :
    (∀ t ∈ (Runs.run CreditStep.next portalCredits ⟨portalDb, []⟩).db.rows .transactions,
      Accounted (Runs.run CreditStep.next portalCredits ⟨portalDb, []⟩).db t) ∧
    Runs.All CreditStep.next CreditStep.Sound portalCredits ⟨portalDb, []⟩ := by
  apply credited_once
  · rfl
  · intro entry hentry
    cases hentry

example :
    (Runs.run CreditStep.next portalCredits ⟨portalDb, []⟩).db.total .ledgerEntries
      (fun entry => if entry.entryType = .tenantShare then entry.amount else 0) = 95000 := by
  decide +kernel

end InfinityRadius.Services
