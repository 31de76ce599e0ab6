import InfinityRadius.Services.Initiation
import InfinityRadius.Services.WalletRules

/-!
# What an order status changes

Whoever asks, webhook, sweep or a member of the tenant, an answer changes one undecided
transaction at most, and only an answer that completes it credits the wallet.
-/

namespace InfinityRadius.Services

open Amounts Database Payload Program Sql Models Integrations.SelcomCollection WalletService

/-! ## The change of one transaction -/

/-- The tables of a tenant's money. -/
def moneyTables : List Table := [.tenantWallets, .ledgerEntries, .settlementLogs]

/-- An answer that completes nothing. -/
structure Moved (t t' : Transaction) : Prop where
  undecided : t.status.terminal = false
  sameOrder : t.SameOrder t'
  status : t'.status ≠ .completed
  activation : t'.activationStatus = t.activationStatus

/-- A payment was verified.  Captive payments wait for their access from then on. -/
structure Completed (t t' : Transaction) : Prop where
  undecided : t.status.terminal = false
  sameOrder : t.SameOrder t'
  status : t'.status = .completed
  activation : (t'.activationStatus = some .pending ∧
      (t.transactionType = some .captivePortal ∨ t.subscriptionId ≠ none)) ∨
    (t'.activationStatus = t.activationStatus ∧ t.transactionType ≠ some .captivePortal)

/-- The tenant's share was credited, and the three entries of the payment written. -/
def Credited (db db' : PlatformDb) (t : Transaction) : Prop :=
  ∃ start prior final wallet wallet' collection fee share,
    (∀ table ∈ moneyTables, start.rows table = db.rows table) ∧
    Posted start prior final t.tenantId wallet wallet' [collection, fee, share] [] ∧
    (∀ bucket, Explained wallet wallet' [collection, fee, share] [] bucket) ∧
    Receipt t.amount (some t.id) collection fee share ∧
    ∀ table ∈ moneyTables, db'.rows table = final.rows table

/-- What an operation on orders makes of the database. -/
inductive Settled (db db' : PlatformDb) : Prop
  | unchanged (h : ∀ table, table ≠ .paymentWebhooks → db'.rows table = db.rows table)
  | moved {t t' : Transaction} (hchange : Moved t t') (ht : t ∈ db.rows .transactions)
      (htransactions : db'.rows .transactions =
        replaceRow schema .transactions t' (db.rows .transactions))
      (hothers : ∀ table, table ∉ [.transactions, .paymentWebhooks] →
        db'.rows table = db.rows table)
  | completed {t t' : Transaction} (hchange : Completed t t') (ht : t ∈ db.rows .transactions)
      (htransactions : db'.rows .transactions =
        replaceRow schema .transactions t' (db.rows .transactions))
      (hcredited : Credited db db' t)
      (hothers : ∀ table, table ∉ .transactions :: .paymentWebhooks :: moneyTables →
        db'.rows table = db.rows table)

section Settled

variable {db db' start final : PlatformDb} {t : Transaction}

theorem Credited.congr (h : Credited start final t)
    (hbefore : ∀ table ∈ moneyTables, start.rows table = db.rows table)
    (hafter : ∀ table ∈ moneyTables, db'.rows table = final.rows table) : Credited db db' t := by
  obtain ⟨first, prior, last, wallet, wallet', collection, fee, share, hfirst, hposted,
    hexplained, hreceipt, hlast⟩ := h
  exact ⟨first, prior, last, wallet, wallet', collection, fee, share,
    fun table htable => (hfirst table htable).trans (hbefore table htable), hposted, hexplained,
    hreceipt, fun table htable => (hafter table htable).trans (hlast table htable)⟩

/-- The rows of stored callbacks play no part. -/
theorem Settled.congr (h : Settled start final)
    (hbefore : ∀ table, table ≠ .paymentWebhooks → start.rows table = db.rows table)
    (hafter : ∀ table, table ≠ .paymentWebhooks → db'.rows table = final.rows table) :
    Settled db db' := by
  have hmoney : ∀ table ∈ moneyTables, table ≠ .paymentWebhooks := by decide
  have htransactions : db'.rows .transactions = final.rows .transactions :=
    hafter .transactions (by decide)
  have hstored : start.rows .transactions = db.rows .transactions :=
    hbefore .transactions (by decide)
  cases h with
  | unchanged h =>
    apply Settled.unchanged
    intro table hne
    rw [hafter table hne, h table hne, hbefore table hne]
  | moved hchange ht hrows hothers =>
    apply Settled.moved hchange (hstored ▸ ht)
    · rw [htransactions, hrows, hstored]
    · intro table htable
      have hne : table ≠ .paymentWebhooks := by
        rintro rfl
        exact htable (by decide)
      rw [hafter table hne, hothers table htable, hbefore table hne]
  | completed hchange ht hrows hcredited hothers =>
    apply Settled.completed hchange (hstored ▸ ht)
    · rw [htransactions, hrows, hstored]
    · exact hcredited.congr (fun table htable => hbefore table (hmoney table htable))
        fun table htable => hafter table (hmoney table htable)
    · intro table htable
      have hne : table ≠ .paymentWebhooks := by
        rintro rfl
        exact htable (by decide)
      rw [hafter table hne, hothers table htable, hbefore table hne]

theorem Settled.refl (db : PlatformDb) : Settled db db := .unchanged fun _ _ => rfl

end Settled

/-! ## Finalisers -/

/-- A transaction whose payment is credited, before its status is written. -/
structure Finalised (t t' : Transaction) (db db' : PlatformDb) : Prop where
  sameOrder : t.SameOrder t'
  status : t'.status = t.status
  activation : (t'.activationStatus = some .pending ∧ t.transactionType = some .captivePortal) ∨
    (t'.activationStatus = t.activationStatus ∧ t.transactionType ≠ some .captivePortal)
  transactions : db'.rows .transactions =
    replaceRow schema .transactions t' (db.rows .transactions)
  credited : Credited db db' t
  others : ∀ table, table ∉ .transactions :: moneyTables → db'.rows table = db.rows table

/-- The finaliser of a provider credits the payments of its own flow, and does no more. -/
def SelcomPaymentProvider.Finalises (provider : SelcomPaymentProvider) : Prop :=
  ∀ (t : Transaction) (statusData : OrderStatusData) (world : PlatformWorld),
    t ∈ world.db.rows .transactions →
    t.transactionType = some provider.flow.transactionType →
    Always (fun _ => false)
      (fun t' world' => Finalised t t' world.db world'.db ∧ world'.sent = world.sent)
      (fun _ world' => world'.sent = world.sent) (provider.finalizePayment t statusData) world

section Finalisers

variable {world : PlatformWorld} {t : Transaction}

/-- The payment of a stored transaction is credited. -/
theorem always_credit {referenceType : String} {description : Option String} :
    Always (fun _ => false)
      (fun _ world' => Credited world.db world'.db t ∧
        (∀ table, table ∉ moneyTables → world'.db.rows table = world.db.rows table) ∧
        world'.sent = world.sent)
      (fun _ world' => world'.sent = world.sent)
      (processCollection t.tenantId (ofNumeric t.amount) referenceType (some t.id) description)
      world := by
  apply always_processCollection_receipt.mono
  · rintro _ ⟨db, sent⟩ ⟨hsent, prior, wallet, wallet', collection, fee, share, hposted,
      hexplained, -, hreceipt⟩
    have htwo := twoDecimals_ofNumeric t.amount
    have hreceipt := hreceipt htwo
    rw [toNumeric_ofNumeric] at hreceipt
    exact ⟨⟨world.db, prior, db, wallet, wallet', collection, fee, share, fun _ _ => rfl, hposted,
      fun bucket => hexplained bucket fun _ => htwo, hreceipt, fun _ _ => rfl⟩, hposted.others,
      hsent⟩
  · exact fun _ _ h => h.1

theorem CollectionService.finalises : CollectionService.provider.Finalises := by
  intro t statusData world ht htype
  have htype : t.transactionType = some .collection := htype
  apply always_bind.mpr
  apply always_credit.mono
  · rintro _ ⟨db, sent⟩ ⟨hcredited, hothers, rfl⟩
    have htransactions : db.rows .transactions = world.db.rows .transactions :=
      hothers .transactions (by decide)
    refine ⟨⟨.refl t, rfl, Or.inr ⟨rfl, by rw [htype]; decide⟩, ?_, hcredited, ?_⟩, rfl⟩
    · rw [htransactions, Db.replaceRow_of_mem world.db ht]
    · exact fun table htable => hothers table fun h => htable (List.mem_cons_of_mem _ h)
  · exact fun _ _ h => h

theorem CaptivePortalService.finalises : CaptivePortalService.provider.Finalises := by
  intro t statusData world ht htype
  have htype : t.transactionType = some .captivePortal := htype
  apply always_bind.mpr
  apply always_credit.mono
  · rintro _ ⟨middle, sent⟩ ⟨hcredited, hothers, rfl⟩
    have htransactions : middle.rows .transactions = world.db.rows .transactions :=
      hothers .transactions (by decide)
    apply always_updateTransaction rfl (htransactions ▸ ht)
    · constructor <;> rfl
    · intro db _ hreplaced
      refine ⟨⟨by constructor <;> rfl, rfl, Or.inl ⟨rfl, htype⟩, ?_, ?_, ?_⟩, rfl⟩
      · rw [hreplaced.rows_self, htransactions]
      · apply hcredited.congr (fun _ _ => rfl)
        intro table htable
        apply hreplaced.rows_of_ne
        rintro rfl
        exact absurd htable (by decide)
      · intro table htable
        rw [hreplaced.rows_of_ne fun h => htable (h ▸ List.mem_cons_self)]
        exact hothers table fun h => htable (List.mem_cons_of_mem _ h)
    · exact fun _ => rfl
  · exact fun _ _ h => h

end Finalisers

/-! ## Answers -/

namespace SelcomPaymentProvider

section Apply

variable {settings : Settings} {provider : SelcomPaymentProvider} {world : PlatformWorld}
  {t : Transaction} {statusData : OrderStatusData} {resultcode : Option String}

theorem always_moved {toStatus : CollectionStatus} {metadata : List (Option String)}
    {extraColumns : Transaction → Transaction} (ht : t ∈ world.db.rows .transactions)
    (hundecided : t.status.terminal = false) (hstatus : toStatus ≠ .completed)
    (hset : t.SameOrder { extraColumns t with status := toStatus })
    (hactivation : (extraColumns t).activationStatus = t.activationStatus) :
    Always (fun _ => false)
      (fun _ world' => Settled world.db world'.db ∧ world'.sent = world.sent)
      (fun _ world' => world'.sent = world.sent)
      (transition t toStatus metadata extraColumns) world := by
  apply always_transition ht hset
  · intro db hreplaced
    use .moved ⟨hundecided, hset, hstatus, hactivation⟩ ht hreplaced.rows_self
      fun table htable => hreplaced.rows_of_ne fun h => htable (h ▸ List.mem_cons_self)
  · exact fun _ _ => rfl

theorem always_applyCompleted (hfinalises : provider.Finalises)
    (ht : t ∈ world.db.rows .transactions)
    (htype : t.transactionType = some provider.flow.transactionType)
    (hundecided : t.status.terminal = false) :
    Always (fun _ => false)
      (fun _ world' => Settled world.db world'.db ∧ world'.sent = world.sent)
      (fun _ world' => world'.sent = world.sent)
      (applyCompleted provider t statusData resultcode) world := by
  rw [applyCompleted]
  split
  · apply always_moved ht hundecided (by decide)
    · constructor <;> rfl
    · rfl
  · apply always_bind.mpr
    apply (hfinalises t statusData world ht htype).mono
    · rintro finalised ⟨middle, sent⟩ ⟨hfinalised, rfl⟩
      have hmem : finalised ∈ middle.rows .transactions := by
        have hstored : finalised ∈ replaceRow schema .transactions finalised
            (world.db.rows .transactions) :=
          mem_replaceRow_self ht hfinalised.sameOrder.id.symm
        rw [← hfinalised.transactions] at hstored
        exact hstored
      apply always_bind.mpr
      apply always_now.mpr
      intro time
      apply always_transition hmem
      · constructor <;> rfl
      · intro db hreplaced
        have hreplaced' := hreplaced.rows_self
        rw [hfinalised.transactions, replaceRow_replaceRow (by rfl)] at hreplaced'
        refine ⟨.completed ?_ ht hreplaced' ?_ ?_, rfl⟩
        · constructor
          · exact hundecided
          · exact hfinalised.sameOrder.trans (by constructor <;> rfl)
          · rfl
          · rcases hfinalised.activation with ⟨hpending, hcaptive⟩ | hsame
            · exact Or.inl ⟨hpending, Or.inl hcaptive⟩
            · exact Or.inr hsame
        · apply hfinalised.credited.congr (fun _ _ => rfl)
          intro table htable
          apply hreplaced.rows_of_ne
          rintro rfl
          exact absurd htable (by decide)
        · intro table htable
          rw [hreplaced.rows_of_ne fun h => htable (h ▸ List.mem_cons_self)]
          apply hfinalised.others
          intro hmoney
          rcases List.mem_cons.mp hmoney with rfl | hmoney
          · exact htable List.mem_cons_self
          · exact htable (List.mem_cons_of_mem _ (List.mem_cons_of_mem _ hmoney))
      · exact fun _ _ => rfl
    · exact fun _ _ h => h

/-- The statuses an answer that completes nothing can name. -/
theorem mapped_ne_completed {paymentStatus : String} {mapped : CollectionStatus}
    (h : paymentStatusToCollectionStatus.lookup paymentStatus = some mapped) :
    mapped ≠ .completed := by
  rintro rfl
  obtain ⟨before, after, heq, -⟩ := List.lookup_eq_some_iff.mp h
  have hmem : (paymentStatus, CollectionStatus.completed) ∈ paymentStatusToCollectionStatus := by
    rw [heq]
    exact List.mem_append_right _ List.mem_cons_self
  simp [paymentStatusToCollectionStatus] at hmem

theorem always_isStalePending {returns : Bool → PlatformWorld → Prop}
    {raises : Failure → PlatformWorld → Prop} (hreturns : ∀ stale, returns stale world) :
    Always (fun _ => false) returns raises (isStalePending settings t) world := by
  rw [isStalePending]
  split
  · exact hreturns false
  · split
    · exact hreturns false
    · apply always_bind.mpr
      apply always_now.mpr
      exact fun _ => hreturns _

theorem always_applyMapped {paymentStatus : String} (ht : t ∈ world.db.rows .transactions)
    (hundecided : t.status.terminal = false) :
    Always (fun _ => false)
      (fun _ world' => Settled world.db world'.db ∧ world'.sent = world.sent)
      (fun _ world' => world'.sent = world.sent)
      (applyMapped settings t statusData paymentStatus resultcode) world := by
  rw [applyMapped]
  split
  · apply always_moved ht hundecided (by decide)
    · constructor <;> rfl
    · rfl
  · rename_i mapped hmapped
    have hne := mapped_ne_completed hmapped
    split
    · apply always_bind.mpr
      apply always_now.mpr
      intro time
      apply always_moved ht hundecided hne
      · constructor <;> rfl
      · rfl
    · split
      · exact ⟨Settled.refl _, rfl⟩
      · apply always_bind.mpr
        apply always_isStalePending
        intro stale
        split
        · apply always_moved ht hundecided (by decide)
          · constructor <;> rfl
          · rfl
        · apply always_moved ht hundecided hne
          · constructor <;> rfl
          · rfl

theorem always_applyOrderStatus (hfinalises : provider.Finalises)
    (ht : t ∈ world.db.rows .transactions) :
    Always (fun _ => false)
      (fun _ world' => Settled world.db world'.db ∧ world'.sent = world.sent)
      (fun _ world' => world'.sent = world.sent)
      (applyOrderStatus settings provider t statusData resultcode) world := by
  apply always_bind.mpr
  apply always_require
  · intro htype
    split
    · exact ⟨Settled.refl _, rfl⟩
    · rename_i hundecided
      rw [Bool.not_eq_true] at hundecided
      split
      · exact always_applyCompleted hfinalises ht htype hundecided
      · exact always_applyMapped ht hundecided
  · exact fun _ => rfl

theorem always_queryAndApply (hfinalises : provider.Finalises)
    (ht : t ∈ world.db.rows .transactions) :
    Always (fun _ => false)
      (fun _ world' => Settled world.db world'.db ∧ Sends Request.Checkout world world')
      (fun _ world' => Sends Request.Checkout world world')
      (queryAndApply settings provider t) world := by
  apply always_bind.mpr
  apply always_newClient
  swap
  · exact fun _ => Sends.refl rfl
  intro _
  have hsends : ∀ answer db, Sends Request.Checkout world
      { db, sent := world.sent ++ [(.orderStatus t.reference, answer)] } :=
    fun _ db => (Sends.refl rfl : Sends Request.Checkout world { world with db }).concat trivial
  apply always_bind.mpr
  apply always_attempt
  · intro _ answer response _
    dsimp only
    split
    · exact ⟨Settled.refl _, hsends answer world.db⟩
    · apply Always.mono (always_applyOrderStatus hfinalises ?_)
      · rintro _ ⟨db, sent⟩ ⟨hsettled, rfl⟩
        exact ⟨hsettled, hsends answer db⟩
      · rintro _ ⟨db, sent⟩ rfl
        exact hsends answer db
      · exact ht
  · exact fun _ answer _ _ => ⟨Settled.refl _, hsends answer world.db⟩
  · exact fun _ answer => hsends answer world.db
  · exact fun _ => ⟨fun _ => ⟨Settled.refl _, Sends.refl rfl⟩, fun _ => Sends.refl rfl⟩

end Apply

section Dispatch

variable {settings : Settings} {providers : PaymentProviders} {provider : SelcomPaymentProvider}
  {world : PlatformWorld} {t : Transaction}

/-- Every flow there is finalises its own payments. -/
structure AllFinalise (providers : PaymentProviders) (provider : SelcomPaymentProvider) :
    Prop where
  collection : providers.collection.Finalises
  captivePortal : providers.captivePortal.Finalises
  own : provider.Finalises

theorem always_providerFor {returns : SelcomPaymentProvider → PlatformWorld → Prop}
    {raises : Failure → PlatformWorld → Prop} (hall : AllFinalise providers provider)
    (hreturns : ∀ target, target.Finalises → returns target world)
    (hraises : ∀ e, raises e world) :
    Always (fun _ => false) returns raises (providerFor providers provider t) world := by
  rw [providerFor]
  split
  · exact hreturns provider hall.own
  · split
    · exact hreturns _ hall.collection
    · exact hreturns _ hall.captivePortal
    · exact hraises _

theorem always_reconcile {transactionId : ℕ} (hall : AllFinalise providers provider) :
    Always (fun _ => false)
      (fun _ world' => Settled world.db world'.db ∧ Sends Request.Checkout world world')
      (fun _ world' => Sends Request.Checkout world world')
      (reconcile settings providers provider transactionId) world := by
  apply always_bind.mpr
  apply always_getByIdForUpdate rfl
  · intro t ht _ _
    rw [Prog.orRaise_some, Prog.pure_bind]
    apply always_bind.mpr
    apply always_providerFor hall
    · exact fun target htarget => always_queryAndApply htarget ht
    · exact fun _ => Sends.refl rfl
  · exact fun _ => Sends.refl rfl

/-- Nothing but a stored callback changed. -/
theorem always_markProcessed {webhook : PaymentWebhook}
    {returns : PaymentWebhook → PlatformWorld → Prop} {raises : Failure → PlatformWorld → Prop}
    (hreturns : ∀ stored world', Within (· = .paymentWebhooks) world world' →
      returns stored world')
    (hraises : raises .database world) :
    Always (fun _ => false) returns raises (markProcessed webhook) world := by
  apply always_bind.mpr
  apply always_now.mpr
  intro time
  apply always_updateRow_within rfl hreturns hraises

theorem always_acknowledge {webhook : PaymentWebhook} {payload : Json}
    (hall : AllFinalise providers provider) :
    Always (fun _ => false)
      (fun _ world' => Settled world.db world'.db ∧ Sends Request.Checkout world world')
      (fun _ world' => Sends Request.Checkout world world')
      (acknowledge settings providers provider webhook payload) world := by
  have hkept : ∀ world' : PlatformWorld, Within (· = .paymentWebhooks) world world' →
      Settled world.db world'.db ∧ Sends Request.Checkout world world' :=
    fun world' h => ⟨.unchanged h.1, Sends.refl h.2⟩
  apply always_bind.mpr
  apply always_orRaise
  swap
  · exact fun _ => Sends.refl rfl
  intro parsed _
  split
  · apply always_bind.mpr
    apply always_markProcessed
    · exact fun _ world' h => hkept world' h
    · exact Sends.refl rfl
  · apply always_bind.mpr
    apply always_selectOneForUpdate_found rfl
    · intro t ht _
      apply always_bind.mpr
      apply always_updateRow_within rfl
      · intro stored middle hstored
        have htransactions : middle.db.rows .transactions = world.db.rows .transactions :=
          hstored.1 .transactions (by decide)
        have hmiddle : Sends Request.Checkout world middle := Sends.refl hstored.2
        apply always_bind.mpr
        apply always_providerFor hall
        · intro target htarget
          apply always_bind.mpr
          apply (always_queryAndApply htarget (htransactions ▸ ht)).mono
          · rintro _ applied ⟨hsettled, hsends⟩
            apply always_bind.mpr
            apply always_markProcessed
            · intro _ world' hmarked
              use hsettled.congr hstored.1 hmarked.1
              exact (hmiddle.trans hsends).trans (Sends.refl hmarked.2)
            · exact hmiddle.trans hsends
          · exact fun _ _ hsends => hmiddle.trans hsends
        · exact fun _ => hmiddle
      · exact Sends.refl rfl
    · apply always_bind.mpr
      apply always_markProcessed
      · exact fun _ world' h => hkept world' h
      · exact Sends.refl rfl
    · exact Sends.refl rfl

theorem always_verifySignature {headers : List (String × String)} {payload : Json}
    {returns : Bool → PlatformWorld → Prop} {raises : Failure → PlatformWorld → Prop}
    (hreturns : ∀ verified, returns verified world) (hraises : ∀ e, raises e world) :
    Always (fun _ => false) returns raises (verifySignature settings headers payload) world := by
  apply always_bind.mpr
  apply always_require
  · intro _
    split
    · apply always_bind.mpr
      apply always_ask.mpr
      intro check
      cases check with
      | verified => exact hreturns true
      | refused => exact hreturns false
      | raised => exact hraises _
    · exact hreturns false
  · exact fun _ => hraises _

theorem always_processWebhook {headers : List (String × String)} {body : WebhookBody}
    (hall : AllFinalise providers provider) :
    Always (fun _ => false)
      (fun _ world' => Settled world.db world'.db ∧ Sends Request.Checkout world world')
      (fun _ world' => Sends Request.Checkout world world')
      (processWebhook settings providers provider headers body) world := by
  apply always_bind.mpr
  apply always_verifySignature
  swap
  · exact fun _ => Sends.refl rfl
  intro verified
  apply always_bind.mpr
  apply always_create_within rfl
  swap
  · exact Sends.refl rfl
  intro webhook stored hstored
  split
  · apply (always_acknowledge hall).mono
    · rintro _ world' ⟨hsettled, hsends⟩
      use hsettled.congr hstored.1 fun _ _ => rfl
      exact (Sends.refl hstored.2).trans hsends
    · exact fun _ _ hsends => (Sends.refl hstored.2).trans hsends
  · apply always_bind.mpr
    apply always_markProcessed
    · intro _ world' hmarked
      use .unchanged fun table hne => (hmarked.1 table hne).trans (hstored.1 table hne)
      exact Sends.refl (hmarked.2.trans hstored.2)
    · exact Sends.refl hstored.2

end Dispatch

end SelcomPaymentProvider

/-! ## Payments finalised by hand -/

/-- `finalize_payment`. -/
theorem CaptivePortalService.always_finalizePayment {transactionId : ℕ} {world : PlatformWorld} :
    Always (fun _ => false)
      (fun _ world' => Settled world.db world'.db ∧ world'.sent = world.sent)
      (fun _ world' => world'.sent = world.sent)
      (CaptivePortalService.finalizePayment transactionId) world := by
  apply always_bind.mpr
  apply always_getByIdForUpdate rfl
  swap
  · exact fun _ => rfl
  intro t ht _ _
  rw [Prog.orRaise_some, Prog.pure_bind]
  split
  · exact ⟨Settled.refl _, rfl⟩
  · apply always_bind.mpr
    apply always_require
    swap
    · exact fun _ => rfl
    intro hundecided
    apply always_bind.mpr
    apply always_require
    swap
    · exact fun _ => rfl
    intro hlinked
    apply always_bind.mpr
    apply always_now.mpr
    intro time
    apply always_bind.mpr
    apply always_updateTransaction rfl ht
    · constructor <;> rfl
    · intro middle _ hreplaced
      apply always_bind.mpr
      apply always_credit.mono
      · rintro _ ⟨db, sent⟩ ⟨hcredited, hothers, rfl⟩
        have htransactions := (hothers .transactions (by decide)).trans hreplaced.rows_self
        refine ⟨.completed ?_ ht htransactions ?_ ?_, rfl⟩
        · constructor
          · exact hundecided
          · constructor <;> rfl
          · rfl
          · exact Or.inl ⟨rfl, Or.inr (Option.isSome_iff_ne_none.mp hlinked.1)⟩
        · apply Credited.congr hcredited
          · intro table htable
            apply hreplaced.rows_of_ne
            rintro rfl
            exact absurd htable (by decide)
          · exact fun _ _ => rfl
        · intro table htable
          rw [hothers table fun h => htable (List.mem_cons_of_mem _ (List.mem_cons_of_mem _ h))]
          exact hreplaced.rows_of_ne fun h => htable (h ▸ List.mem_cons_self)
      · exact fun _ _ h => h
    · exact fun _ => rfl

end InfinityRadius.Services
