import InfinityRadius.Services.CollectionGate
import InfinityRadius.Services.PaymentRules

/-!
# Payments

The operations that take payments, through either service, and what each of them makes of
the rows an activation reads.
-/

namespace InfinityRadius.Services

open Amounts Database Payload Program Sql Models Integrations.SelcomCollection

/-! ## Operations -/

/-- The provider of the service of a flow. -/
def providerOf : TransactionType → SelcomPaymentProvider
  | .collection => CollectionService.provider
  | .captivePortal => CaptivePortalService.provider

theorem allFinalise (service : TransactionType) :
    SelcomPaymentProvider.AllFinalise paymentProviders (providerOf service) where
  collection := CollectionService.finalises
  captivePortal := CaptivePortalService.finalises
  own := by
    cases service with
    | collection => exact CollectionService.finalises
    | captivePortal => exact CaptivePortalService.finalises

inductive PaymentOperation
  | issueSession (routerId : ℕ) (macAddress : Option String)
  | initiate (initiation : Initiation)
  | processWebhook (service : TransactionType) (headers : List (String × String))
      (body : SelcomPaymentProvider.WebhookBody)
  | reconcile (service : TransactionType) (transactionId : ℕ)
  | finalizePayment (transactionId : ℕ)

namespace PaymentOperation

def program (runtime : Runtime) : PaymentOperation → Tx Unit
  | issueSession routerId macAddress => do
    let _ ← CaptivePortalSessionService.issueSession runtime routerId macAddress
    pure ()
  | initiate initiation => initiation.program runtime
  | processWebhook service headers body => do
    let _ ← SelcomPaymentProvider.processWebhook runtime.settings paymentProviders
      (providerOf service) headers body
    pure ()
  | reconcile service transactionId => do
    let _ ← SelcomPaymentProvider.reconcile runtime.settings paymentProviders
      (providerOf service) transactionId
    pure ()
  | finalizePayment transactionId => CaptivePortalService.finalizePayment transactionId

end PaymentOperation

/-- What an operation makes of the database. -/
inductive Worked (db db' : PlatformDb) : Prop
  | idle (h : ∀ table, table ≠ .captiveSessions → db'.rows table = db.rows table)
  | attempted {session : CaptiveSession} {package : Package} {phone : String}
      {customer : Customer} {subscription : Subscription} {t : Transaction}
      (h : CaptivePortalService.Started session package phone db db' customer subscription t)
  | collected {tenantId : ℕ} {customerId : Option ℕ} {t : Transaction}
      (h : CollectionService.Started tenantId customerId db db' t)
  | settled (h : Settled db db')

section Worked

variable {runtime : Runtime} {outside : Outside} {world : PlatformWorld}

theorem Worked.refl (db : PlatformDb) : Worked db db := .idle fun _ _ => rfl

theorem CaptivePortalSessionService.always_issueSession {routerId : ℕ}
    {macAddress : Option String} :
    Always (fun _ => false)
      (fun _ world' => Within (· = .captiveSessions) world world')
      (fun _ world' => world'.sent = world.sent)
      (CaptivePortalSessionService.issueSession runtime routerId macAddress) world := by
  apply always_bind.mpr
  apply always_getById_any rfl
  intro router
  apply always_bind.mpr
  apply always_orRaise
  swap
  · exact fun _ => rfl
  intro router _
  apply always_bind.mpr
  apply always_now.mpr
  intro time
  apply always_bind.mpr
  apply always_ask.mpr
  intro nonce
  apply always_bind.mpr
  apply always_create_within rfl
  swap
  · rfl
  intro session world' hstored
  apply always_bind.mpr
  rw [CaptivePortalSessionService.createIntentToken]
  split
  · exact hstored.2
  · exact hstored.2
  · apply always_ask.mpr
    exact fun _ => hstored

/-- What an operation commits, and whom it asks. -/
def Works (runtime : Runtime) (outside : Outside) (world : PlatformWorld)
    (operation : PaymentOperation) : Prop :=
  Worked world.db (transact outside (operation.program runtime) world).2.db ∧
    ∀ exchange ∈ exchanges outside (operation.program runtime) world.db, exchange.1.Checkout

/-- An operation that comes to `x` commits what `x` leaves, or nothing. -/
theorem works_of_run {operation : PaymentOperation} {α : Type} {x : Tx α}
    {tick : ℕ}
    (hrun : run (exec outside) (operation.program runtime) ⟨⟨world.db, []⟩, 0⟩ =
      run (exec outside) (do let _ ← x; pure () : Tx Unit) ⟨⟨world.db, []⟩, tick⟩)
    (h : Always (fun _ => false)
      (fun _ world' => Worked world.db world'.db ∧ Sends Request.Checkout ⟨world.db, []⟩ world')
      (fun _ world' => Sends Request.Checkout ⟨world.db, []⟩ world') x ⟨world.db, []⟩) :
    Works runtime outside world operation := by
  have hdiscarded : Always (fun _ => false)
      (fun _ world' => Worked world.db world'.db ∧ Sends Request.Checkout ⟨world.db, []⟩ world')
      (fun _ world' => Sends Request.Checkout ⟨world.db, []⟩ world')
      (do let _ ← x; pure () : Tx Unit) ⟨world.db, []⟩ :=
    always_bind.mpr (h.mono (fun _ _ hreturns => hreturns) fun _ _ hraises => hraises)
  rcases transact_via hrun hdiscarded with ⟨_, hworked, more, hmore, hchecked⟩ | ⟨hdb, _, _, more, hmore, hchecked⟩
  · have hmore : exchanges outside (operation.program runtime) world.db = [] ++ more := hmore
    rw [List.nil_append] at hmore
    exact ⟨hworked, hmore ▸ hchecked⟩
  · have hmore : exchanges outside (operation.program runtime) world.db = [] ++ more := hmore
    rw [List.nil_append] at hmore
    exact ⟨hdb.symm ▸ Worked.refl world.db, hmore ▸ hchecked⟩

theorem works_of_idle {operation : PaymentOperation}
    (h : (transact outside (operation.program runtime) world).2.db = world.db ∧
      exchanges outside (operation.program runtime) world.db = []) :
    Works runtime outside world operation := by
  constructor
  · exact h.1.symm ▸ Worked.refl world.db
  · rw [h.2]
    simp

/-- Every operation settles or starts one payment at most. -/
theorem works (runtime : Runtime) (outside : Outside) (world : PlatformWorld)
    (operation : PaymentOperation) : Works runtime outside world operation := by
  cases operation with
  | issueSession routerId macAddress =>
    apply works_of_run rfl
    apply CaptivePortalSessionService.always_issueSession.mono
    · exact fun _ _ h => ⟨.idle h.1, Sends.refl h.2⟩
    · exact fun _ _ h => Sends.refl h
  | initiate initiation =>
    cases initiation with
    | captive intentToken packageId phone =>
      rcases CaptivePortalService.run_initiatePayment runtime outside world.db intentToken packageId
        phone with ⟨session, package, normalizedPhone, -, hrun⟩ | ⟨result, tick, hrun⟩
      · apply works_of_run
          (x := CaptivePortalService.startAttempt runtime session package normalizedPhone)
        · rw [PaymentOperation.program, Initiation.program, run_discard, run_discard, hrun]
        · apply CaptivePortalService.always_startAttempt.mono
          · rintro _ _ ⟨_, _, _, _, more, hstarted, hpushed, hmore⟩
            exact ⟨.attempted hstarted, more, hmore, hpushed.attempted.checkout⟩
          · rintro _ _ ⟨_, more, hmore, hstarts⟩
            exact ⟨more, hmore, fun exchange hexchange => (hstarts exchange hexchange).checkout⟩
      · apply works_of_idle
        apply transact_idle
        rw [PaymentOperation.program, Initiation.program, run_discard, hrun]
    | collection userId amount currency phone customerId description =>
      rcases CollectionService.run_initiateRoute runtime.settings outside world.db userId amount
        currency phone customerId description with
        ⟨tenantId, normalizedPhone, customer, -, hrun⟩ | ⟨result, tick, hrun⟩
      · apply works_of_run
          (x := CollectionService.startCollection runtime.settings tenantId amount currency
            normalizedPhone customerId customer description)
        · rw [PaymentOperation.program, Initiation.program, run_discard, run_discard, hrun]
        · apply CollectionService.always_startCollection.mono
          · rintro _ _ ⟨_, more, hstarted, hpushed, hmore⟩
            exact ⟨.collected hstarted, more, hmore, hpushed.attempted.checkout⟩
          · rintro _ _ ⟨_, more, hmore, hstarts⟩
            exact ⟨more, hmore, fun exchange hexchange => (hstarts exchange hexchange).checkout⟩
      · apply works_of_idle
        apply transact_idle
        rw [PaymentOperation.program, Initiation.program, run_discard, hrun]
  | processWebhook service headers body =>
    apply works_of_run rfl
    apply (SelcomPaymentProvider.always_processWebhook (allFinalise service)).mono
    · exact fun _ _ h => ⟨.settled h.1, h.2⟩
    · exact fun _ _ h => h
  | reconcile service transactionId =>
    apply works_of_run rfl
    apply (SelcomPaymentProvider.always_reconcile (allFinalise service)).mono
    · exact fun _ _ h => ⟨.settled h.1, h.2⟩
    · exact fun _ _ h => h
  | finalizePayment transactionId =>
    apply works_of_run
    · exact congrArg (fun x => run (exec outside) x ⟨⟨world.db, []⟩, 0⟩) (Prog.bind_pure _).symm
    · apply CaptivePortalService.always_finalizePayment.mono
      · exact fun _ _ h => ⟨.settled h.1, Sends.refl h.2⟩
      · exact fun _ _ h => Sends.refl h

end Worked

/-! ## Transactions -/

/-- The activation status a transaction can have. -/
structure Consistent (t : Transaction) : Prop where
  typed : t.transactionType = some .captivePortal ∨
    (t.transactionType = some .collection ∧ t.subscriptionId = none)
  waiting : t.activationStatus ≠ none →
    t.status = .completed ∧ t.transactionType = some .captivePortal
  paid : t.status = .completed → t.transactionType = some .captivePortal →
    t.activationStatus = some .pending ∨ t.activationStatus = some .failed ∨
      t.activationStatus = some .active

section Consistent

variable {db db' : PlatformDb} {t t' : Transaction}

theorem Consistent.moved (h : Consistent t) (hmoved : Moved t t') : Consistent t' := by
  have hnone : t.activationStatus = none := by
    by_contra hsome
    have hcompleted := (h.waiting hsome).1
    have hundecided := hmoved.undecided
    rw [hcompleted] at hundecided
    cases hundecided
  constructor
  · rw [hmoved.sameOrder.transactionType, hmoved.sameOrder.subscriptionId]
    exact h.typed
  · rw [hmoved.activation]
    exact fun hsome => absurd hnone hsome
  · exact fun hcompleted => absurd hcompleted hmoved.status

theorem Consistent.completed (h : Consistent t) (hcompleted : Completed t t') :
    Consistent t' := by
  have hnone : t.activationStatus = none := by
    by_contra hsome
    have hstatus := (h.waiting hsome).1
    have hundecided := hcompleted.undecided
    rw [hstatus] at hundecided
    cases hundecided
  have htype := hcompleted.sameOrder.transactionType
  have htyped : t'.transactionType = some .captivePortal ∨
      (t'.transactionType = some .collection ∧ t'.subscriptionId = none) := by
    rw [htype, hcompleted.sameOrder.subscriptionId]
    exact h.typed
  rcases hcompleted.activation with ⟨hpending, hcaptive⟩ | ⟨hsame, hother⟩
  · have hcaptive : t'.transactionType = some .captivePortal := by
      rcases hcaptive with hcaptive | hlinked
      · rw [htype, hcaptive]
      · rcases htyped with htyped | ⟨-, hunlinked⟩
        · exact htyped
        · rw [hcompleted.sameOrder.subscriptionId] at hunlinked
          exact absurd hunlinked hlinked
    exact ⟨htyped, fun _ => ⟨hcompleted.status, hcaptive⟩, fun _ _ => Or.inl hpending⟩
  · constructor
    · exact htyped
    · rw [hsame]
      exact fun hsome => absurd hnone hsome
    · rw [htype]
      exact fun _ hcaptive => absurd hcaptive hother

/-- Access to a completed payment was tried. -/
theorem Consistent.attempted (h : Consistent t) (hsame : t.SameOrder t')
    (hstatus : t'.status = t.status) (hcompleted : t.status = .completed)
    (hlinked : t.subscriptionId ≠ none)
    (hactivation : t'.activationStatus = some .failed ∨ t'.activationStatus = some .active) :
    Consistent t' := by
  have hcaptive : t'.transactionType = some .captivePortal := by
    rcases h.typed with hcaptive | ⟨-, hunlinked⟩
    · rw [hsame.transactionType, hcaptive]
    · exact absurd hunlinked hlinked
  exact ⟨Or.inl hcaptive, fun _ => ⟨hstatus.trans hcompleted, hcaptive⟩,
    fun _ _ => Or.inr hactivation⟩

/-- A row that was just created. -/
theorem Consistent.started (htyped : t.transactionType = some .captivePortal ∨
      (t.transactionType = some .collection ∧ t.subscriptionId = none))
    (hstatus : t.status = .stkSent ∨ t.status = .failed) (hactivation : t.activationStatus = none) :
    Consistent t where
  typed := htyped
  waiting hsome := absurd hactivation hsome
  paid hcompleted := by
    rcases hstatus with hstatus | hstatus
    · rw [hstatus] at hcompleted
      cases hcompleted
    · rw [hstatus] at hcompleted
      cases hcompleted

theorem Worked.consistent (h : Worked db db')
    (hdb : ∀ t ∈ db.rows .transactions, Consistent t) :
    ∀ t ∈ db'.rows .transactions, Consistent t := by
  intro t ht
  cases h with
  | idle h =>
    rw [h .transactions (by decide)] at ht
    exact hdb t ht
  | attempted h =>
    rw [h.transactions] at ht
    rcases List.mem_append.mp ht with hold | hnew
    · exact hdb t hold
    · rw [List.mem_singleton.mp hnew]
      exact .started (Or.inl h.transactionType) h.status h.activation
  | collected h =>
    rw [h.transactions] at ht
    rcases List.mem_append.mp ht with hold | hnew
    · exact hdb t hold
    · rw [List.mem_singleton.mp hnew]
      exact .started (Or.inr ⟨h.transactionType, h.subscriptionId⟩) h.status h.activation
  | settled h =>
    cases h with
    | unchanged h =>
      rw [h .transactions (by decide)] at ht
      exact hdb t ht
    | moved hchange hold hrows _ =>
      rw [hrows] at ht
      rcases mem_replaceRow ht with rfl | ⟨hother, -⟩
      · exact (hdb _ hold).moved hchange
      · exact hdb t hother
    | completed hchange hold hrows _ _ =>
      rw [hrows] at ht
      rcases mem_replaceRow ht with rfl | ⟨hother, -⟩
      · exact (hdb _ hold).completed hchange
      · exact hdb t hother

/-- Where the transaction of a later state comes from. -/
theorem Worked.origin (h : Worked db db') (ht : t' ∈ db'.rows .transactions) :
    (∃ t ∈ db.rows .transactions, t.SameOrder t') ∨
      (∃ session package phone customer subscription,
        CaptivePortalService.Started session package phone db db' customer subscription t') ∨
      ∃ tenantId customerId, CollectionService.Started tenantId customerId db db' t' := by
  cases h with
  | idle h =>
    rw [h .transactions (by decide)] at ht
    exact Or.inl ⟨t', ht, .refl t'⟩
  | attempted h =>
    rw [h.transactions] at ht
    rcases List.mem_append.mp ht with hold | hnew
    · exact Or.inl ⟨t', hold, .refl t'⟩
    · obtain rfl := List.mem_singleton.mp hnew
      exact Or.inr (Or.inl ⟨_, _, _, _, _, h⟩)
  | collected h =>
    rw [h.transactions] at ht
    rcases List.mem_append.mp ht with hold | hnew
    · exact Or.inl ⟨t', hold, .refl t'⟩
    · obtain rfl := List.mem_singleton.mp hnew
      exact Or.inr (Or.inr ⟨_, _, h⟩)
  | settled h =>
    left
    cases h with
    | unchanged h =>
      rw [h .transactions (by decide)] at ht
      exact ⟨t', ht, .refl t'⟩
    | moved hchange hold hrows _ =>
      rw [hrows] at ht
      rcases mem_replaceRow ht with rfl | ⟨hother, -⟩
      · exact ⟨_, hold, hchange.sameOrder⟩
      · exact ⟨t', hother, .refl t'⟩
    | completed hchange hold hrows _ _ =>
      rw [hrows] at ht
      rcases mem_replaceRow ht with rfl | ⟨hother, -⟩
      · exact ⟨_, hold, hchange.sameOrder⟩
      · exact ⟨t', hother, .refl t'⟩

end Consistent

/-! ## The rows around them -/

section Rows

variable {db db' : PlatformDb}

theorem Worked.rows_of_ne (h : Worked db db') {table : Table}
    (htable : table ∉ [.transactions, .customers, .subscriptions, .captiveSessions,
      .paymentWebhooks] ++ moneyTables) : db'.rows table = db.rows table := by
  have hne : ∀ other ∈ [.transactions, .customers, .subscriptions, .captiveSessions,
      .paymentWebhooks] ++ moneyTables, table ≠ other := by
    rintro other hother rfl
    exact htable hother
  cases h with
  | idle h => exact h table (hne _ (by decide))
  | attempted h =>
    apply h.others
    intro hmem
    exact htable (by revert hmem; cases table <;> decide)
  | collected h => exact h.others table (hne _ (by decide))
  | settled h =>
    cases h with
    | unchanged h => exact h table (hne _ (by decide))
    | moved _ _ _ hothers =>
      apply hothers
      intro hmem
      exact htable (by revert hmem; cases table <;> decide)
    | completed _ _ _ _ hothers =>
      apply hothers
      intro hmem
      exact htable (by revert hmem; cases table <;> decide)

/-- Customers are only ever added. -/
theorem Worked.customers (h : Worked db db') :
    ∃ more, db'.rows .customers = db.rows .customers ++ more := by
  have hkept : db'.rows .customers = db.rows .customers →
      ∃ more, db'.rows .customers = db.rows .customers ++ more :=
    fun heq => ⟨[], by rw [heq, List.append_nil]⟩
  cases h with
  | idle h => exact hkept (h _ (by decide))
  | attempted h =>
    obtain ⟨middle, ⟨-, rfl⟩ | happended, hcustomers⟩ := h.enrolled
    · exact hkept hcustomers.symm
    · exact ⟨_, by rw [← hcustomers, happended.rows_self]⟩
  | collected h => exact hkept (h.others _ (by decide))
  | settled h =>
    cases h with
    | unchanged h => exact hkept (h _ (by decide))
    | moved _ _ _ hothers => exact hkept (hothers _ (by decide))
    | completed _ _ _ _ hothers => exact hkept (hothers _ (by decide))

/-- Subscriptions are only ever added, and wait for their customer's payment. -/
theorem Worked.subscriptions (h : Worked db db') :
    ∃ more, db'.rows .subscriptions = db.rows .subscriptions ++ more ∧
      ∀ subscription ∈ more, subscription.status = .pending ∧
        ∃ customer ∈ db'.rows .customers, customer.id = subscription.customerId := by
  have hkept : db'.rows .subscriptions = db.rows .subscriptions →
      ∃ more, db'.rows .subscriptions = db.rows .subscriptions ++ more ∧
        ∀ subscription ∈ more, subscription.status = .pending ∧
          ∃ customer ∈ db'.rows .customers, customer.id = subscription.customerId :=
    fun heq => ⟨[], by rw [heq, List.append_nil], by simp⟩
  cases h with
  | idle h => exact hkept (h _ (by decide))
  | @attempted _ _ _ customer subscription _ h =>
    use [subscription], h.subscriptions
    intro other hother
    rw [List.mem_singleton.mp hother, h.awaiting]
    use rfl, customer
    obtain ⟨middle, ⟨hmem, rfl⟩ | happended, hcustomers⟩ := h.enrolled
    · exact ⟨hcustomers ▸ hmem, rfl⟩
    · exact ⟨hcustomers ▸ happended.mem, rfl⟩
  | collected h => exact hkept (h.others _ (by decide))
  | settled h =>
    cases h with
    | unchanged h => exact hkept (h _ (by decide))
    | moved _ _ _ hothers => exact hkept (hothers _ (by decide))
    | completed _ _ _ _ hothers => exact hkept (hothers _ (by decide))

/-- No payment is shown as active that was not before. -/
theorem Worked.active (h : Worked db db') (hdb : ∀ t ∈ db.rows .transactions, Consistent t)
    {t : Transaction} (ht : t ∈ db'.rows .transactions)
    (hactive : t.activationStatus = some .active) : t ∈ db.rows .transactions := by
  cases h with
  | idle h => rwa [h .transactions (by decide)] at ht
  | attempted h =>
    rw [h.transactions] at ht
    rcases List.mem_append.mp ht with hold | hnew
    · exact hold
    · rw [List.mem_singleton.mp hnew, h.activation] at hactive
      cases hactive
  | collected h =>
    rw [h.transactions] at ht
    rcases List.mem_append.mp ht with hold | hnew
    · exact hold
    · rw [List.mem_singleton.mp hnew, h.activation] at hactive
      cases hactive
  | settled h =>
    cases h with
    | unchanged h => rwa [h .transactions (by decide)] at ht
    | moved hchange hold hrows _ =>
      rw [hrows] at ht
      rcases mem_replaceRow ht with rfl | ⟨hother, -⟩
      · rw [hchange.activation] at hactive
        have hcompleted := ((hdb _ hold).waiting (by rw [hactive]; simp)).1
        have hundecided := hchange.undecided
        rw [hcompleted] at hundecided
        cases hundecided
      · exact hother
    | completed hchange hold hrows _ _ =>
      rw [hrows] at ht
      rcases mem_replaceRow ht with rfl | ⟨hother, -⟩
      · rcases hchange.activation with ⟨hpending, -⟩ | ⟨hsame, -⟩
        · rw [hpending] at hactive
          cases hactive
        · rw [hsame] at hactive
          have hcompleted := ((hdb _ hold).waiting (by rw [hactive]; simp)).1
          have hundecided := hchange.undecided
          rw [hcompleted] at hundecided
          cases hundecided
      · exact hother

end Rows

end InfinityRadius.Services
