import InfinityRadius.Services.CaptivePortal

/-!
# The start of a payment

Both flows store a transaction, create an order for it and send a prompt.  What every
guard lets through and what an attempt leaves behind is said here once.
-/

namespace InfinityRadius.Models

/-- The requests of Mobile Checkout. -/
def Request.Checkout : Request → Prop
  | .createOrderMinimal .. => True
  | .walletPayment .. => True
  | .orderStatus .. => True
  | _ => False

/-- A request that creates an order. -/
def Request.Orders : Request → Prop
  | .createOrderMinimal .. => True
  | _ => False

theorem Request.Orders.checkout {request : Request} (h : request.Orders) : request.Checkout := by
  cases request <;> trivial

/-- The requests a payment is started with. -/
def Request.Starts : Request → Prop
  | .createOrderMinimal .. => True
  | .walletPayment .. => True
  | _ => False

/-- The requests the payment of a reference is started with, to its phone. -/
def Request.StartsOrder (reference msisdn : String) : Request → Prop
  | .createOrderMinimal _ orderId .. => orderId = reference
  | .walletPayment _ orderId phone => orderId = reference ∧ phone = msisdn
  | _ => False

theorem Request.StartsOrder.checkout {reference msisdn : String} {request : Request}
    (h : request.StartsOrder reference msisdn) : request.Checkout := by
  cases request <;> trivial

end InfinityRadius.Models

namespace InfinityRadius.Services

open Amounts Database Payload Phone Program Sql Models Integrations.SelcomCollection

/-! ## The attempt -/

namespace SelcomPaymentProvider

variable {settings : Settings} {world : PlatformWorld} {t : Transaction}

/-- What became of a transaction, and what was sent for it. -/
inductive Attempted (t : Transaction) (msisdn : String) :
    List (Request × HttpResult) → Transaction → Prop
  | notOrdered (more : List (Request × HttpResult)) (time : Timestamp)
      (hmore : ∀ exchange ∈ more, exchange.1.Orders) :
      Attempted t msisdn more { t with status := .failed, failedAt := some time }
  | notPrompted (order : Request × HttpResult) (transid : String) (answer : HttpResult)
      (horder : order.1.Orders) (error : SelcomCollectionError) (time : Timestamp) (h : parse answer = .error error) :
      Attempted t msisdn [order, (.walletPayment transid t.reference msisdn, answer)]
        { t with status := .failed, failedAt := some time }
  | prompted (order : Request × HttpResult) (transid : String) (answer : HttpResult)
      (horder : order.1.Orders) (response : WalletPaymentResponse) (time : Timestamp)
      (h : validated walletPaymentResponse answer = .ok response) :
      Attempted t msisdn [order, (.walletPayment transid t.reference msisdn, answer)]
        { t with
          status := .stkSent, collectionTransid := some transid, stkRequestedAt := some time,
          providerResultcode := response.resultcode, providerMessage := response.message }

theorem Attempted.checkout {msisdn : String} {more : List (Request × HttpResult)}
    {t' : Transaction} (h : Attempted t msisdn more t') :
    ∀ exchange ∈ more, exchange.1.Checkout := by
  cases h with
  | notOrdered _ _ hmore => exact fun exchange hexchange => (hmore exchange hexchange).checkout
  | notPrompted _ _ _ horder _ _ _ =>
    exact List.forall_mem_cons.mpr ⟨horder.checkout, by simp [Request.Checkout]⟩
  | prompted _ _ _ horder _ _ _ =>
    exact List.forall_mem_cons.mpr ⟨horder.checkout, by simp [Request.Checkout]⟩

theorem Attempted.sameOrder {msisdn : String} {more : List (Request × HttpResult)}
    {t' : Transaction} (h : Attempted t msisdn more t') : t.SameOrder t' := by
  cases h <;> constructor <;> rfl

theorem Attempted.status {msisdn : String} {more : List (Request × HttpResult)}
    {t' : Transaction} (h : Attempted t msisdn more t') :
    t'.status = .stkSent ∨ t'.status = .failed := by
  cases h with
  | notOrdered _ _ _ => exact Or.inr rfl
  | notPrompted _ _ _ _ _ _ _ => exact Or.inr rfl
  | prompted _ _ _ _ _ _ _ => exact Or.inl rfl

theorem Attempted.activation {msisdn : String} {more : List (Request × HttpResult)}
    {t' : Transaction} (h : Attempted t msisdn more t') :
    t'.activationStatus = t.activationStatus := by
  cases h <;> rfl

/-- What was sent for a transaction, and what became of it. -/
structure Pushed (t : Transaction) (msisdn : String) (more : List (Request × HttpResult))
    (t' : Transaction) : Prop where
  attempted : Attempted t msisdn more t'
  starts : ∀ exchange ∈ more, exchange.1.StartsOrder t.reference msisdn

theorem always_transition {toStatus : CollectionStatus} {metadata : List (Option String)}
    {extraColumns : Transaction → Transaction} {returns : Transaction → PlatformWorld → Prop}
    {raises : Failure → PlatformWorld → Prop} (ht : t ∈ world.db.rows .transactions)
    (hset : t.SameOrder { extraColumns t with status := toStatus })
    (hreturns : ∀ db,
      Db.Replaced .transactions { extraColumns t with status := toStatus } world.db db →
      returns { extraColumns t with status := toStatus } { world with db })
    (hraises : ∀ e db, raises e { world with db }) :
    Always (fun _ => false) returns raises (transition t toStatus metadata extraColumns)
      world := by
  apply always_bind.mpr
  apply always_updateTransaction rfl ht hset
  · intro db _ hreplaced
    apply always_bind.mpr
    apply always_writeAuditLog
    · exact hreturns db hreplaced
    · exact hraises _ _
  · exact fun _ => hraises _ _

theorem always_fail {reason : String} {returns : Transaction → PlatformWorld → Prop}
    {raises : Failure → PlatformWorld → Prop} (ht : t ∈ world.db.rows .transactions)
    (hreturns : ∀ time db,
      Db.Replaced .transactions { t with status := .failed, failedAt := some time } world.db db →
      returns { t with status := .failed, failedAt := some time } { world with db })
    (hraises : ∀ e db, raises e { world with db }) :
    Always (fun _ => false) returns raises (fail t reason) world := by
  apply always_bind.mpr
  apply always_now.mpr
  intro time
  apply always_transition ht
  · constructor <;> rfl
  · exact hreturns time
  · exact hraises

/-- In one run a status is written exactly if the row and the audit texts fit. -/
theorem run_transition (outside : Outside) (state : State schema Request HttpResult)
    {toStatus : CollectionStatus} {metadata : List (Option String)}
    {extraColumns : Transaction → Transaction} (ht : t ∈ state.db.rows .transactions)
    (hset : t.SameOrder { extraColumns t with status := toStatus }) :
    ((rowValid .transactions { extraColumns t with status := toStatus } = true ∧
        textsStorable metadata = true) ∧
      ∃ db, Db.Replaced .transactions { extraColumns t with status := toStatus } state.db db ∧
        run (exec outside) (transition t toStatus metadata extraColumns) state =
          (.ok { extraColumns t with status := toStatus }, { state with db })) ∨
    (¬(rowValid .transactions { extraColumns t with status := toStatus } = true ∧
        textsStorable metadata = true) ∧
      ∃ db, run (exec outside) (transition t toStatus metadata extraColumns) state =
        (.error .database, { state with db })) := by
  rw [transition, run_bind]
  rcases @run_updateTransaction outside state t (fun t => { extraColumns t with status := toStatus })
    ht hset with
    ⟨hvalid, db, hreplaced, hrun⟩ | ⟨hinvalid, hrun⟩
  · rw [hrun]
    dsimp only
    rw [writeAuditLog, run_require_bind]
    by_cases hstorable : textsStorable metadata = true
    · rw [if_pos hstorable]
      exact Or.inl ⟨⟨hvalid, hstorable⟩, db, hreplaced, rfl⟩
    · rw [if_neg hstorable]
      exact Or.inr ⟨fun h => hstorable h.2, db, rfl⟩
  · rw [hrun]
    right
    refine ⟨fun h => ?_, state.db, rfl⟩
    rw [h.1] at hinvalid
    cases hinvalid

theorem succeeds_transition (outside : Outside) (state : State schema Request HttpResult)
    {toStatus : CollectionStatus} {metadata : List (Option String)}
    {extraColumns : Transaction → Transaction} (ht : t ∈ state.db.rows .transactions)
    (hset : t.SameOrder { extraColumns t with status := toStatus }) :
    Succeeds (exec outside) (transition t toStatus metadata extraColumns) state ↔
      rowValid .transactions { extraColumns t with status := toStatus } = true ∧
        textsStorable metadata = true := by
  rcases @run_transition t outside state toStatus metadata extraColumns ht hset with
    ⟨hstorable, db, -, hrun⟩ | ⟨hunstorable, db, hrun⟩
  · apply iff_of_true _ hstorable
    rw [Succeeds, hrun]
    exact ⟨_, rfl⟩
  · apply iff_of_false _ hunstorable
    rw [Succeeds, hrun]
    rintro ⟨_, h⟩
    cases h

/-- A stored row stays valid exactly if the texts that an answer writes can be stored. -/
theorem rowValid_answered {t' : Transaction} (hvalid : rowValid .transactions t = true)
    (hsame : t.SameOrder t') :
    rowValid .transactions t' = textsStorable [t'.providerReference, t'.collectionTransid,
      t'.channel, t'.providerResultcode, t'.providerMessage] := by
  have hamount := hsame.amount
  have hcurrency := hsame.currency
  have hreference := hsame.reference
  have hphone := hsame.payerPhone
  have hmac := hsame.deviceMac
  simp only [rowValid, textsStorable, List.all_cons, List.all_nil, Bool.and_eq_true,
    Bool.and_true] at hvalid ⊢
  rw [hamount, hcurrency, hreference, hphone, hmac]
  rw [Bool.eq_iff_iff]
  simp only [Bool.and_eq_true]
  tauto

/-- The prompt for an order that was created, and what it leaves. -/
theorem always_sendStk {msisdn : String} {order : Request × HttpResult} (horder : order.1.Orders)
    (hstarts : order.1.StartsOrder t.reference msisdn)
    (hsigns : Signs settings) (ht : t ∈ world.db.rows .transactions) :
    Always (fun _ => false)
      (fun t' world' => ∃ more, Pushed t msisdn (order :: more) t' ∧
        world'.sent = world.sent ++ more ∧ Db.Replaced .transactions t' world.db world'.db)
      (fun _ world' => Sends (Request.StartsOrder t.reference msisdn) world world')
      (sendStk settings t msisdn) world := by
  apply always_bind.mpr
  apply always_uuidHex.mpr
  intro hex
  have hsends : ∀ answer db, Sends (Request.StartsOrder t.reference msisdn) world
      { db, sent := world.sent ++
        [(.walletPayment ("txn-" ++ hex) t.reference msisdn, answer)] } :=
    fun _ db => (Sends.refl rfl : Sends _ world { world with db }).concat ⟨rfl, rfl⟩
  have hpushed : ∀ {answer t'}, Attempted t msisdn
      [order, (.walletPayment ("txn-" ++ hex) t.reference msisdn, answer)] t' →
      Pushed t msisdn [order, (.walletPayment ("txn-" ++ hex) t.reference msisdn, answer)] t' := by
    intro answer t' hattempted
    constructor
    · exact hattempted
    · exact List.forall_mem_cons.mpr ⟨hstarts, by simp [Request.StartsOrder]⟩
  apply always_bind.mpr
  apply always_attempt
  · intro _ answer response hvalidated
    apply always_bind.mpr
    apply always_now.mpr
    intro time
    apply always_transition
    · exact ht
    · constructor <;> rfl
    · intro db hreplaced
      exact ⟨_, hpushed (.prompted order _ answer horder response time hvalidated), rfl, hreplaced⟩
    · exact fun _ db => hsends answer db
  · intro _ answer error hparse
    apply always_fail
    · exact ht
    · intro time db hreplaced
      exact ⟨_, hpushed (.notPrompted order _ answer horder error time hparse), rfl, hreplaced⟩
    · exact fun _ db => hsends answer db
  · exact fun _ answer => hsends answer world.db
  · exact fun h => absurd hsigns h

theorem always_createOrderAndSendStk {buyerName buyerEmail msisdn : String} {amount : Decimal}
    {currency : String} {description : Option String} (ht : t ∈ world.db.rows .transactions) :
    Always (fun _ => false)
      (fun t' world' => ∃ more, Pushed t msisdn more t' ∧
        world'.sent = world.sent ++ more ∧ Db.Replaced .transactions t' world.db world'.db)
      (fun _ world' => Sends (Request.StartsOrder t.reference msisdn) world world')
      (createOrderAndSendStk settings t buyerName buyerEmail msisdn amount currency description)
      world := by
  apply always_bind.mpr
  apply always_newClient
  · intro _
    apply always_bind.mpr
    by_cases hwhole : amount.den = 1
    · rw [createOrderMinimal, wholeTzsAmount, if_pos hwhole, Prog.pure_bind]
      apply always_attempt
      · intro hsigns answer _ _
        apply Always.mono (always_sendStk ?_ ?_ hsigns ?_)
        · rintro t' world' ⟨more, hpushed, hsent, hreplaced⟩
          exact ⟨_ :: more, hpushed, by rw [hsent, List.append_assoc]; rfl, hreplaced⟩
        · intro _ _ hsends
          apply Sends.trans _ hsends
          exact (Sends.refl rfl).concat rfl
        · trivial
        · rfl
        · exact ht
      · intro _ answer error _
        apply always_fail
        · exact ht
        · intro time db hreplaced
          refine ⟨[(_, answer)], ⟨.notOrdered _ time ?_, ?_⟩, rfl, hreplaced⟩
          · simp [Request.Orders]
          · simp [Request.StartsOrder]
        · exact fun _ db => (Sends.refl rfl : Sends _ world { world with db }).concat rfl
      · exact fun _ _ => (Sends.refl rfl).concat rfl
      · intro _
        constructor
        · intro error
          apply always_fail
          · exact ht
          · intro time db hreplaced
            refine ⟨[], ⟨.notOrdered _ time ?_, ?_⟩, (List.append_nil _).symm, hreplaced⟩
            · simp
            · simp
          · exact fun _ _ => Sends.refl rfl
        · exact fun _ => Sends.refl rfl
    · rw [createOrderMinimal, wholeTzsAmount, if_neg hwhole, Prog.throw_bind]
      exact Sends.refl rfl
  · exact fun _ => Sends.refl rfl

end SelcomPaymentProvider

/-! ## Customers and subscriptions -/

section Buyers

variable {world : PlatformWorld} {tenantId : ℕ}

/-- The customer was there, or was added. -/
def Enrolled (customer : Customer) (db db' : PlatformDb) : Prop :=
  (customer ∈ db.rows .customers ∧ db' = db) ∨ Db.Appended .customers customer db db'

theorem Enrolled.rows_of_ne {customer : Customer} {db db' : PlatformDb}
    (h : Enrolled customer db db') {table : Table} (hne : table ≠ .customers) :
    db'.rows table = db.rows table := by
  rcases h with ⟨-, rfl⟩ | happended
  · rfl
  · exact happended.rows_of_ne hne

theorem always_requirePhone {phone : String} {returns : String → PlatformWorld → Prop}
    {raises : Failure → PlatformWorld → Prop}
    (hreturns : ∀ normalized, normalizeTzPhone phone = some normalized → returns normalized world)
    (hraises : ∀ e, raises e world) :
    Always (fun _ => false) returns raises (CustomerService.requirePhone phone) world :=
  always_orRaise hreturns fun _ => hraises _

theorem always_getOrCreateByPhone {phone : String} :
    Always (fun _ => false)
      (fun customer world' => customer.tenantId = tenantId ∧
        normalizeTzPhone phone = some customer.phone ∧ world'.sent = world.sent ∧
        Enrolled customer world.db world'.db)
      (fun _ world' => world'.sent = world.sent)
      (CustomerService.getOrCreateByPhone tenantId phone) world := by
  apply always_bind.mpr
  apply always_requirePhone
  · intro normalized hnormalized
    apply always_bind.mpr
    apply always_selectOne_found rfl
    · intro customer hcustomer hmatches
      obtain ⟨htenant, hphone⟩ := Bool.and_eq_true_iff.mp hmatches
      rw [beq_iff_eq] at htenant hphone
      exact ⟨htenant, by rw [hphone, hnormalized], rfl, Or.inl ⟨hcustomer, rfl⟩⟩
    · apply always_bind.mpr
      apply always_ask.mpr
      intro number
      apply always_create rfl
      · intro customer db hcustomer _ happended
        have hcolumns : customer.tenantId = tenantId ∧ customer.phone = normalized := by
          rw [hcustomer]
          exact ⟨rfl, rfl⟩
        exact ⟨hcolumns.1, by rw [hcolumns.2, hnormalized], rfl, Or.inr happended⟩
      · exact fun _ => rfl
    · rfl
  · exact fun _ => rfl

theorem always_createAwaitingPayment {customerId packageId : ℕ} :
    Always (fun _ => false)
      (fun subscription world' =>
        subscription = { id := subscription.id, tenantId, customerId, packageId,
                         status := .pending } ∧
        world'.sent = world.sent ∧
        Db.Appended .subscriptions subscription world.db world'.db)
      (fun _ world' => world'.sent = world.sent)
      (SubscriptionService.createAwaitingPayment tenantId customerId packageId) world := by
  apply always_bind.mpr
  apply always_bind.mpr
  apply always_getById_any rfl
  intro customer
  apply always_bind.mpr
  apply always_orRaise
  · intro _ _
    apply always_bind.mpr
    apply always_getById_found rfl
    intro found hfound
    apply always_bind.mpr
    apply always_orRaise
    · intro package hpackage
      apply always_bind.mpr
      apply always_require
      · intro _
        apply always_create rfl
        · intro subscription db hsubscription hid happended
          have hpackageId : package.id = packageId := (hfound package hpackage).2.2
          have hid : subscription.id = _ := hid
          rw [hpackageId, ← hid] at hsubscription
          exact ⟨hsubscription, rfl, happended⟩
        · exact fun _ => rfl
      · exact fun _ => rfl
    · exact fun _ => rfl
  · exact fun _ => rfl

end Buyers

/-! ## Captive attempts -/

namespace CaptivePortalService

open SelcomPaymentProvider

/-- The rows of a captive attempt. -/
structure Started (session : CaptiveSession) (package : Package) (phone : String)
    (db db' : PlatformDb) (customer : Customer) (subscription : Subscription) (t : Transaction) :
    Prop where
  enrolled : ∃ middle, Enrolled customer db middle ∧
    middle.rows .customers = db'.rows .customers
  customerTenant : customer.tenantId = session.tenantId
  awaiting : subscription =
    { id := subscription.id, tenantId := session.tenantId, customerId := customer.id,
      packageId := package.id, status := .pending }
  subscriptions : db'.rows .subscriptions = db.rows .subscriptions ++ [subscription]
  transactions : db'.rows .transactions = db.rows .transactions ++ [t]
  tenant : t.tenantId = session.tenantId
  customerId : t.customerId = some customer.id
  subscriptionId : t.subscriptionId = some subscription.id
  transactionType : t.transactionType = some .captivePortal
  payerPhone : t.payerPhone = some phone
  packageId : t.packageId = some package.id
  captiveSessionId : t.captiveSessionId = some session.id
  paymentProvider : t.paymentProvider = some .selcomCollection
  status : t.status = .stkSent ∨ t.status = .failed
  activation : t.activationStatus = none
  others : ∀ table, table ∉ [.customers, .subscriptions, .transactions, .captiveSessions] →
    db'.rows table = db.rows table

variable {runtime : Runtime} {world : PlatformWorld} {session : CaptiveSession}
  {package : Package} {phone : String}

theorem always_createTransactionToken {transactionId : ℕ}
    {returns : String → PlatformWorld → Prop} {raises : Failure → PlatformWorld → Prop}
    (hreturns : ∀ token, returns token world) (hraises : ∀ e, raises e world) :
    Always (fun _ => false) returns raises (createTransactionToken runtime transactionId)
      world := by
  rw [createTransactionToken]
  split
  · exact always_ask.mpr hreturns
  · exact hraises _

theorem Started.of_writes {db enrolled subscribed created consumed db' : PlatformDb}
    {customer : Customer} {subscription : Subscription} {t t' : Transaction}
    {more : List (Request × HttpResult)} (htenant : customer.tenantId = session.tenantId)
    (hsubscription : subscription =
      { id := subscription.id, tenantId := session.tenantId, customerId := customer.id,
        packageId := package.id, status := .pending })
    (ht : ∃ id reference amount, t =
      { id, tenantId := session.tenantId, customerId := some customer.id,
        subscriptionId := some subscription.id, transactionType := some .captivePortal,
        reference, payerPhone := some phone, channel := some "captive_portal",
        amount, currency := defaultCurrency, status := .created,
        paymentProvider := some flow.paymentProvider, packageId := some package.id,
        routerId := some session.routerId, deviceMac := session.macAddress,
        captiveSessionId := some session.id })
    (hfresh : t.id = freshId schema .transactions (subscribed.rows .transactions))
    (hattempted : Attempted t phone more t')
    (henrolled : Enrolled customer db enrolled)
    (hsubscribed : Db.Appended .subscriptions subscription enrolled subscribed)
    (hcreated : Db.Appended .transactions t subscribed created)
    (hconsumed : ∀ table, table ≠ .captiveSessions → consumed.rows table = created.rows table)
    (hreplaced : Db.Replaced .transactions t' consumed db') :
    Started session package phone db db' customer subscription t' := by
  have horder := hattempted.sameOrder
  obtain ⟨_, _, _, hcolumns⟩ := ht
  have hlater : ∀ table, table ≠ .transactions → table ≠ .captiveSessions →
      table ≠ .subscriptions → db'.rows table = enrolled.rows table := by
    intro table htransactions hsessions hsubscriptions
    rw [hreplaced.rows_of_ne htransactions, hconsumed _ hsessions,
      hcreated.rows_of_ne htransactions, hsubscribed.rows_of_ne hsubscriptions]
  exact
    { enrolled := ⟨enrolled, henrolled, (hlater _ (by decide) (by decide) (by decide)).symm⟩
      customerTenant := htenant
      awaiting := hsubscription
      subscriptions := by
        rw [hreplaced.rows_of_ne (by decide), hconsumed _ (by decide),
          hcreated.rows_of_ne (by decide), hsubscribed.rows_self,
          henrolled.rows_of_ne (by decide)]
      transactions := by
        rw [hreplaced.rows_self, hconsumed _ (by decide), hcreated.replaceRow hfresh horder.id,
          hsubscribed.rows_of_ne (by decide), henrolled.rows_of_ne (by decide)]
      tenant := by rw [horder.tenantId, hcolumns]
      customerId := by rw [horder.customerId, hcolumns]
      subscriptionId := by rw [horder.subscriptionId, hcolumns]
      transactionType := by rw [horder.transactionType, hcolumns]
      payerPhone := by rw [horder.payerPhone, hcolumns]
      packageId := by rw [horder.packageId, hcolumns]
      captiveSessionId := by rw [horder.captiveSessionId, hcolumns]
      paymentProvider := by rw [horder.paymentProvider, hcolumns]
      status := hattempted.status
      activation := by rw [hattempted.activation, hcolumns]
      others := by
        intro table htable
        simp only [List.mem_cons, List.not_mem_nil, or_false, not_or] at htable
        obtain ⟨hcustomers, hsubscriptions, htransactions, hsessions⟩ := htable
        rw [hlater table htransactions hsessions hsubscriptions,
          henrolled.rows_of_ne hcustomers] }

theorem always_startAttempt :
    Always (fun _ => false)
      (fun _ world' => ∃ customer subscription t t' more,
        Started session package phone world.db world'.db customer subscription t' ∧
        Pushed t phone more t' ∧ world'.sent = world.sent ++ more)
      (fun _ world' => ∃ reference, Sends (Request.StartsOrder reference phone) world world')
      (startAttempt runtime session package phone) world := by
  apply always_bind.mpr
  apply always_getOrCreateByPhone.mono
  · rintro customer ⟨enrolled, sent⟩ ⟨htenant, -, rfl, henrolled⟩
    apply always_bind.mpr
    apply always_createAwaitingPayment.mono
    · rintro subscription ⟨subscribed, sent'⟩ ⟨hsubscription, rfl, hsubscribed⟩
      apply always_bind.mpr
      apply always_uuidHex.mpr
      intro hex
      apply always_bind.mpr
      apply always_create rfl
      · intro t created ht hfresh hcreated
        apply always_bind.mpr
        apply always_bind.mpr
        apply always_now.mpr
        intro time
        apply always_updateRow_within rfl
        · intro _ consumed hconsumed
          apply always_bind.mpr
          have hmem : t ∈ consumed.db.rows .transactions := by
            rw [hconsumed.1 _ (by decide)]
            exact hcreated.mem
          apply (always_createOrderAndSendStk hmem).mono
          · rintro t' final ⟨more, hpushed, hsent, hreplaced⟩
            have hstarted : Started session package phone world.db final.db customer subscription
                t' :=
              .of_writes htenant hsubscription ⟨_, _, _, ht⟩ hfresh hpushed.attempted henrolled
                hsubscribed hcreated hconsumed.1 hreplaced
            have hsent : final.sent = world.sent ++ more := by rw [hsent, hconsumed.2]
            apply always_bind.mpr
            apply always_createTransactionToken
            · intro token
              split <;> exact ⟨customer, subscription, t, t', more, hstarted, hpushed, hsent⟩
            · exact fun _ => ⟨t.reference, more, hsent, hpushed.starts⟩
          · exact fun _ _ hsends => ⟨t.reference, (Sends.refl hconsumed.2).trans hsends⟩
        · exact ⟨"", Sends.refl rfl⟩
      · exact fun _ => ⟨"", Sends.refl rfl⟩
    · exact fun _ _ hsent => ⟨"", Sends.refl hsent⟩
  · exact fun _ _ hsent => ⟨"", Sends.refl hsent⟩

/-! ### The guards -/

/-- The session is known, unused and not expired. -/
def Resolves (runtime : Runtime) (outside : Outside) (db : PlatformDb) (intentToken : String)
    (session : CaptiveSession) : Prop :=
  session ∈ db.rows .captiveSessions ∧
    CaptivePortalSessionService.resolveIntentToken runtime intentToken = some session.id ∧
    session.consumedAt = none ∧ outside.answer 0 .now < session.expiresAt

/-- The request passes every guard of `initiate_payment`. -/
structure Admitted (runtime : Runtime) (outside : Outside) (db : PlatformDb)
    (intentToken : String) (packageId : ℕ) (phone : String) (session : CaptiveSession)
    (package : Package) (normalizedPhone : String) : Prop where
  enabled : runtime.settings.selcomCollectionEnabled = true
  productionEnabled : runtime.settings.selcomCollectionProductionEnabled = true
  resolves : Resolves runtime outside db intentToken session
  listed : package ∈ db.rows .packages
  packageId : package.id = packageId
  packageTenant : package.tenantId = session.tenantId
  onSale : package.status = .active
  normalized : normalizeTzPhone phone = some normalizedPhone
  allowed : outside.answer 1 (.captiveLimiter session.id normalizedPhone session.routerId) = none
  noAttempt : ∀ t ∈ db.rows .transactions, t.captiveSessionId = some session.id →
    t.packageId = some package.id → t.payerPhone = some normalizedPhone →
    t.status.terminal = true

section Guards

variable (runtime : Runtime) (outside : Outside) (db : PlatformDb) (intentToken : String)
  (packageId : ℕ) (phone : String) (tick : ℕ)

theorem run_resolve :
    (∃ session, Resolves runtime outside db intentToken session ∧
      run (exec outside) (CaptivePortalSessionService.resolve runtime intentToken)
        ⟨⟨db, []⟩, 0⟩ = (.ok session, ⟨⟨db, []⟩, 1⟩)) ∨
    ∃ e tick, run (exec outside) (CaptivePortalSessionService.resolve runtime intentToken)
      ⟨⟨db, []⟩, 0⟩ = (.error e, ⟨⟨db, []⟩, tick⟩) := by
  rw [CaptivePortalSessionService.resolve]
  cases htoken : CaptivePortalSessionService.resolveIntentToken runtime intentToken with
  | none => exact Or.inr ⟨_, 0, rfl⟩
  | some sessionId =>
    rw [Prog.orRaise_some, Prog.pure_bind, run_bind]
    have hunique : ∀ row ∈ db.rows .captiveSessions, ∀ other ∈ db.rows .captiveSessions,
        (row.id == sessionId) = true → (other.id == sessionId) = true → row = other := by
      intro row hrow other hother h h'
      exact db.id_injOn hrow hother ((beq_iff_eq.mp h).trans (beq_iff_eq.mp h').symm)
    rcases run_selectOne outside ⟨⟨db, []⟩, 0⟩ hunique with
      ⟨session, hsession, hid, hrun⟩ | hrun
    · rw [hrun]
      simp only [Prog.orRaise_some, Prog.pure_bind]
      by_cases hunused : session.consumedAt = none
      · rw [Prog.require_true hunused, Prog.pure_bind]
        by_cases hunexpired : outside.answer 0 .now < session.expiresAt
        · left
          use session, ⟨hsession, by rw [htoken, beq_iff_eq.mp hid], hunused, hunexpired⟩
          change run (exec outside) (Prog.require (outside.answer 0 .now < session.expiresAt)
            CaptivePortalSessionService.invalid >>= fun _ => pure session) ⟨⟨db, []⟩, 1⟩ = _
          rw [Prog.require_true hunexpired, Prog.pure_bind, run_pure]
        · right
          use CaptivePortalSessionService.invalid, 1
          change run (exec outside) (Prog.require (outside.answer 0 .now < session.expiresAt)
            CaptivePortalSessionService.invalid >>= fun _ => pure session) ⟨⟨db, []⟩, 1⟩ = _
          rw [Prog.require_false hunexpired, Prog.throw_bind, run_throw]
      · rw [Prog.require_false hunused, Prog.throw_bind, run_throw]
        exact Or.inr ⟨_, 0, rfl⟩
    · rw [hrun]
      exact Or.inr ⟨_, 0, rfl⟩

/-- The session an initiation is allowed to use, or a refusal. -/
theorem run_requireSession :
    (∃ session, Resolves runtime outside db intentToken session ∧
      run (exec outside) (requireSession runtime intentToken) ⟨⟨db, []⟩, 0⟩ =
        (.ok session, ⟨⟨db, []⟩, 1⟩)) ∨
    ∃ e tick, run (exec outside) (requireSession runtime intentToken) ⟨⟨db, []⟩, 0⟩ =
      (.error e, ⟨⟨db, []⟩, tick⟩) := by
  rw [requireSession, run_tryCatch]
  rcases run_resolve runtime outside db intentToken with
    ⟨session, hresolves, hrun⟩ | ⟨e, tick, hrun⟩
  · rw [hrun]
    exact Or.inl ⟨session, hresolves, rfl⟩
  · rw [hrun]
    right
    cases e with
    | captiveSession message => exact ⟨_, tick, rfl⟩
    | _ => exact ⟨_, tick, rfl⟩

theorem run_requirePackage (session : CaptiveSession) :
    (∃ package ∈ db.rows .packages, package.id = packageId ∧
      package.tenantId = session.tenantId ∧ package.status = .active ∧
      run (exec outside) (requirePackage session packageId) ⟨⟨db, []⟩, tick⟩ =
        (.ok package, ⟨⟨db, []⟩, tick⟩)) ∨
    ∃ e, run (exec outside) (requirePackage session packageId) ⟨⟨db, []⟩, tick⟩ =
      (.error e, ⟨⟨db, []⟩, tick⟩) := by
  rw [requirePackage, run_bind]
  rcases run_getById outside ⟨⟨db, []⟩, tick⟩ .packages (some session.tenantId) packageId with
    ⟨package, hpackage, htenant, hid, hrun⟩ | hrun
  · rw [hrun]
    simp only [Prog.orRaise_some, Prog.pure_bind]
    by_cases hsame : package.tenantId = session.tenantId
    · by_cases hactive : package.status = .active
      · left
        use package, hpackage, hid, hsame, hactive
        rw [Prog.require_true hsame, Prog.pure_bind, Prog.require_true hactive, Prog.pure_bind,
          run_pure]
      · right
        rw [Prog.require_true hsame, Prog.pure_bind, Prog.require_false hactive]
        exact ⟨_, rfl⟩
    · right
      rw [Prog.require_false hsame]
      exact ⟨_, rfl⟩
  · rw [hrun]
    exact Or.inr ⟨_, rfl⟩

/-- The search for an undecided attempt of the session. -/
theorem run_findActiveCaptiveAttempt (sessionId : ℕ) :
    ((∀ t ∈ db.rows .transactions, t.captiveSessionId = some sessionId →
        t.packageId = some packageId → t.payerPhone = some phone → t.status.terminal = true) ∧
      run (exec outside) (findActiveCaptiveAttempt sessionId packageId phone)
        ⟨⟨db, []⟩, tick⟩ = (.ok none, ⟨⟨db, []⟩, tick⟩)) ∨
    ∃ attempt, run (exec outside) (findActiveCaptiveAttempt sessionId packageId phone)
      ⟨⟨db, []⟩, tick⟩ = (.ok (some attempt), ⟨⟨db, []⟩, tick⟩) := by
  have hrun : run (exec outside) (findActiveCaptiveAttempt sessionId packageId phone)
      ⟨⟨db, []⟩, tick⟩ = (.ok ((db.rows .transactions).filter fun t =>
        t.captiveSessionId == some sessionId && t.packageId == some packageId &&
          t.payerPhone == some phone && !t.status.terminal).head?, ⟨⟨db, []⟩, tick⟩) := rfl
  cases hfound : ((db.rows .transactions).filter fun t =>
      t.captiveSessionId == some sessionId && t.packageId == some packageId &&
        t.payerPhone == some phone && !t.status.terminal).head? with
  | some attempt =>
    right
    use attempt
    rw [hrun, hfound]
  | none =>
    left
    constructor
    · intro t ht hsession hpackage hphone
      have hnot := List.filter_eq_nil_iff.mp (List.head?_eq_none_iff.mp hfound) t ht
      simpa [hsession, hpackage, hphone] using hnot
    · rw [hrun, hfound]

theorem run_createTransactionToken (transactionId : ℕ) :
    (∃ token, run (exec outside) (createTransactionToken runtime transactionId)
      ⟨⟨db, []⟩, tick⟩ = (.ok token, ⟨⟨db, []⟩, tick + 1⟩)) ∨
    ∃ e, run (exec outside) (createTransactionToken runtime transactionId)
      ⟨⟨db, []⟩, tick⟩ = (.error e, ⟨⟨db, []⟩, tick⟩) := by
  rw [createTransactionToken]
  split
  · exact Or.inl ⟨_, rfl⟩
  · exact Or.inr ⟨_, rfl⟩

/-- A request ends without a trace, or passed every guard and starts an attempt. -/
theorem run_initiatePayment :
    (∃ session package normalizedPhone,
      Admitted runtime outside db intentToken packageId phone session package normalizedPhone ∧
      run (exec outside) (initiatePayment runtime intentToken packageId phone) ⟨⟨db, []⟩, 0⟩ =
        run (exec outside) (startAttempt runtime session package normalizedPhone)
          ⟨⟨db, []⟩, 2⟩) ∨
    ∃ result tick,
      run (exec outside) (initiatePayment runtime intentToken packageId phone) ⟨⟨db, []⟩, 0⟩ =
        (result, ⟨⟨db, []⟩, tick⟩) := by
  rw [initiatePayment]
  split
  · exact Or.inr ⟨_, 0, rfl⟩
  · rename_i hswitches
    simp only [Bool.or_eq_true, Bool.not_eq_true', not_or, Bool.not_eq_false] at hswitches
    rw [run_bind]
    rcases run_requireSession runtime outside db intentToken with
      ⟨session, hresolves, hrun⟩ | ⟨e, tick, hrun⟩
    · rw [hrun]
      simp only [run_bind]
      rcases run_requirePackage outside db packageId 1 session with
        ⟨package, hlisted, hid, htenant, hactive, hrun'⟩ | ⟨e, hrun'⟩
      · rw [hrun']
        simp only [CustomerService.requirePhone]
        cases hphone : normalizeTzPhone phone with
        | none => exact Or.inr ⟨_, 1, rfl⟩
        | some normalized =>
          rw [Prog.orRaise_some, run_pure]
          simp only [Models.issue, run_issue, exec]
          cases hlimiter : outside.answer 1
            (.captiveLimiter session.id normalized session.routerId) with
          | some dimension => exact Or.inr ⟨_, 2, rfl⟩
          | none =>
            rcases run_findActiveCaptiveAttempt outside db package.id normalized 2 session.id with
              ⟨hnone, hsearch⟩ | ⟨attempt, hsearch⟩
            · left
              use session, package, normalized
              constructor
              · exact ⟨hswitches.1, hswitches.2, hresolves, hlisted, hid, htenant, hactive, hphone,
                  hlimiter, hnone⟩
              · rw [run_bind, hsearch]
            · right
              rw [run_bind, hsearch]
              simp only [run_bind]
              rcases run_createTransactionToken runtime outside db 2 attempt.id with
                ⟨token, htoken⟩ | ⟨e, htoken⟩
              · rw [htoken]
                exact ⟨_, 3, rfl⟩
              · rw [htoken]
                exact ⟨_, 2, rfl⟩
      · rw [hrun']
        exact Or.inr ⟨_, 1, rfl⟩
    · rw [hrun]
      exact Or.inr ⟨_, tick, rfl⟩

end Guards

end CaptivePortalService

/-! ## Collections -/

namespace CollectionService

open SelcomPaymentProvider

/-- The request passes every guard of the route and of `initiate_collection`. -/
structure Admitted (settings : Settings) (outside : Outside) (db : PlatformDb) (userId : ℕ)
    (amount : Decimal) (currency phone : String) (tenantId : ℕ) : Prop where
  profile : ∃ profile ∈ db.rows .profiles, profile.id = userId ∧ profile.tenantId = some tenantId
  active : ∃ tenant ∈ db.rows .tenants, tenant.id = tenantId ∧ tenant.status = .active
  roles : (outside.answer 0 (.roleCodes userId)).any frontlineRoles.contains = true
  enabled : settings.selcomCollectionEnabled = true
  productionEnabled : settings.selcomCollectionProductionEnabled = true
  currency : currency = "TZS"
  amount : 0 < amount
  phone : (normalizeTzPhone phone).isSome = true

section Guards

variable (settings : Settings) (outside : Outside) (db : PlatformDb) (userId tenantId : ℕ)
  (amount : Decimal) (currency phone : String) (customerId : Option ℕ)
  (description : Option String) (tick : ℕ)

/-- The tenant a user acts for, or a refusal. -/
theorem run_requireTenantRole (allowedRoles : List String) :
    (∃ tenantId,
      (∃ profile ∈ db.rows .profiles, profile.id = userId ∧
        profile.tenantId = some tenantId) ∧
      (∃ tenant ∈ db.rows .tenants, tenant.id = tenantId ∧ tenant.status = .active) ∧
      (outside.answer 0 (.roleCodes userId)).any allowedRoles.contains = true ∧
      run (exec outside) (requireTenantRole allowedRoles userId) ⟨⟨db, []⟩, 0⟩ =
        (.ok tenantId, ⟨⟨db, []⟩, 1⟩)) ∨
    ∃ e tick, run (exec outside) (requireTenantRole allowedRoles userId) ⟨⟨db, []⟩, 0⟩ =
      (.error e, ⟨⟨db, []⟩, tick⟩) := by
  rw [requireTenantRole, run_bind]
  rcases run_getById outside ⟨⟨db, []⟩, 0⟩ .profiles none userId with
    ⟨profile, hprofile, -, hid, hrun⟩ | hrun
  · rw [hrun]
    simp only [Prog.orRaise_some, Prog.pure_bind, Models.issue, run_bind, run_issue, exec]
    cases htenantId : profile.tenantId with
    | none => exact Or.inr ⟨_, 1, rfl⟩
    | some tenantId =>
      simp only [run_bind]
      rcases run_getById outside ⟨⟨db, []⟩, 0 + 1⟩ .tenants none tenantId with
        ⟨tenant, htenant, -, hid', hrun'⟩ | hrun'
      · rw [hrun']
        simp only [Option.map_some]
        by_cases hactive : some tenant.status = some TenantStatus.active
        · rw [Prog.require_true hactive]
          simp only [run_pure]
          by_cases hroles : (outside.answer 0 (.roleCodes userId)).any allowedRoles.contains = true
          · left
            use tenantId, ⟨profile, hprofile, hid, htenantId⟩,
              ⟨tenant, htenant, hid', Option.some.inj hactive⟩, hroles
            rw [Prog.require_true hroles]
            rfl
          · right
            rw [Prog.require_false hroles]
            exact ⟨_, 1, rfl⟩
        · rw [Prog.require_false hactive]
          exact Or.inr ⟨_, 1, rfl⟩
      · rw [hrun']
        exact Or.inr ⟨_, 1, rfl⟩
  · rw [hrun]
    exact Or.inr ⟨_, 0, rfl⟩

theorem run_requireCustomer :
    (∃ customer, run (exec outside) (requireCustomer tenantId customerId) ⟨⟨db, []⟩, tick⟩ =
      (.ok customer, ⟨⟨db, []⟩, tick⟩)) ∨
    ∃ e, run (exec outside) (requireCustomer tenantId customerId) ⟨⟨db, []⟩, tick⟩ =
      (.error e, ⟨⟨db, []⟩, tick⟩) := by
  cases customerId with
  | none => exact Or.inl ⟨none, rfl⟩
  | some id =>
    rw [requireCustomer, run_bind]
    rcases run_getById outside ⟨⟨db, []⟩, tick⟩ .customers (some tenantId) id with
      ⟨customer, -, -, -, hrun⟩ | hrun
    · rw [hrun]
      exact Or.inl ⟨some customer, rfl⟩
    · rw [hrun]
      exact Or.inr ⟨_, rfl⟩

/-- A request ends without a trace, or passed every guard and starts a collection. -/
theorem run_initiateRoute :
    (∃ tenantId normalizedPhone customer,
      Admitted settings outside db userId amount currency phone tenantId ∧
      run (exec outside) (initiateRoute settings userId amount currency phone customerId description)
          ⟨⟨db, []⟩, 0⟩ =
        run (exec outside) (startCollection settings tenantId amount currency normalizedPhone
          customerId customer description) ⟨⟨db, []⟩, 1⟩) ∨
    ∃ result tick,
      run (exec outside) (initiateRoute settings userId amount currency phone customerId description)
        ⟨⟨db, []⟩, 0⟩ = (result, ⟨⟨db, []⟩, tick⟩) := by
  rw [initiateRoute, run_bind]
  rcases run_requireTenantRole outside db userId frontlineRoles with
    ⟨tenantId, hprofile, hactive, hroles, hrun⟩ | ⟨e, tick, hrun⟩
  · rw [hrun]
    simp only [initiateCollection, run_require_bind]
    split_ifs with henabled hproduction hcurrency hamount
    · cases hphone : normalizeTzPhone phone with
      | none => exact Or.inr ⟨_, 1, rfl⟩
      | some normalized =>
        rw [Prog.orRaise_some, Prog.pure_bind, run_bind]
        rcases run_requireCustomer outside db tenantId customerId 1 with
          ⟨customer, hrun'⟩ | ⟨e, hrun'⟩
        · left
          use tenantId, normalized, customer
          constructor
          · exact ⟨hprofile, hactive, hroles, henabled, hproduction, hcurrency, hamount,
              by rw [hphone, Option.isSome_some]⟩
          · rw [hrun']
        · rw [hrun']
          exact Or.inr ⟨_, 1, rfl⟩
    · exact Or.inr ⟨_, 1, rfl⟩
    · exact Or.inr ⟨_, 1, rfl⟩
    · exact Or.inr ⟨_, 1, rfl⟩
    · exact Or.inr ⟨_, 1, rfl⟩
  · rw [hrun]
    exact Or.inr ⟨_, tick, rfl⟩

end Guards

/-- The row of a collection. -/
structure Started (tenantId : ℕ) (customerId : Option ℕ) (db db' : PlatformDb)
    (t : Transaction) : Prop where
  transactions : db'.rows .transactions = db.rows .transactions ++ [t]
  tenant : t.tenantId = tenantId
  customerId : t.customerId = customerId
  subscriptionId : t.subscriptionId = none
  transactionType : t.transactionType = some .collection
  paymentProvider : t.paymentProvider = some .selcomCollection
  status : t.status = .stkSent ∨ t.status = .failed
  activation : t.activationStatus = none
  others : ∀ table, table ≠ .transactions → db'.rows table = db.rows table

theorem always_startCollection {settings : Settings} {world : PlatformWorld} {tenantId : ℕ}
    {amount : Decimal} {currency normalizedPhone : String} {customerId : Option ℕ}
    {customer : Option Customer} {description : Option String} :
    Always (fun _ => false)
      (fun t' world' => ∃ t more, Started tenantId customerId world.db world'.db t' ∧
        Pushed t normalizedPhone more t' ∧ world'.sent = world.sent ++ more)
      (fun _ world' => ∃ reference,
        Sends (Request.StartsOrder reference normalizedPhone) world world')
      (startCollection settings tenantId amount currency normalizedPhone customerId customer
        description) world := by
  apply always_bind.mpr
  apply always_uuidHex.mpr
  intro hex
  apply always_bind.mpr
  apply always_create rfl
  · intro t created ht hfresh hcreated
    apply (always_createOrderAndSendStk hcreated.mem).mono
    · rintro t' final ⟨more, hpushed, hsent, hreplaced⟩
      have horder := hpushed.attempted.sameOrder
      refine ⟨t, more, ?_, hpushed, hsent⟩
      exact
        { transactions := by rw [hreplaced.rows_self, hcreated.replaceRow hfresh horder.id]
          tenant := by rw [horder.tenantId, ht]
          customerId := by rw [horder.customerId, ht]
          subscriptionId := by rw [horder.subscriptionId, ht]
          transactionType := by rw [horder.transactionType, ht]; rfl
          paymentProvider := by rw [horder.paymentProvider, ht]
          status := hpushed.attempted.status
          activation := by rw [hpushed.attempted.activation, ht]
          others := by
            intro table htable
            rw [hreplaced.rows_of_ne htable, hcreated.rows_of_ne htable] }
    · exact fun _ _ hsends => ⟨t.reference, hsends⟩
  · exact fun _ => ⟨"", Sends.refl rfl⟩

end CollectionService

end InfinityRadius.Services
