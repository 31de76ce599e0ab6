import InfinityRadius.Services.AccessRuns
import InfinityRadius.Services.CreditedOnce
import InfinityRadius.Services.RepeatedPayments

/-!
# Tokens of payments

All a visitor's browser holds of a payment is the token `initiate_payment` answered with.  It
names a payment that was committed with the answer, and the payment stays: no operation deletes
it, and none changes its status once it is decided.
-/

namespace InfinityRadius.Services

open Amounts Database Payload Program Sql Models SelcomPaymentProvider

/-! ## The payment behind a token -/

/-- `resolve_transaction_token`. -/
def resolveTransactionToken (runtime : Runtime) (token : String) : Option ℕ :=
  if runtime.settings.transactionTokenKeyIsFernet then runtime.tokenTransaction token else none

/-- A token names the payment it was issued for. -/
def Mints (runtime : Runtime) (outside : Outside) : Prop :=
  ∀ i transactionId,
    runtime.tokenTransaction (outside.answer i (.fernetToken transactionId)) = some transactionId

/-- The token is genuine, and its payment is stored. -/
structure TokenOf (runtime : Runtime) (db : PlatformDb) (token : String) (t : Transaction) :
    Prop where
  stored : t ∈ db.rows .transactions
  resolves : resolveTransactionToken runtime token = some t.id

namespace CaptivePortalService

variable {runtime : Runtime} {outside : Outside} {session : CaptiveSession} {package : Package}
  {phone : String}

/-- `startAttempt` up to the token. -/
def bookAttempt (runtime : Runtime) (session : CaptiveSession) (package : Package)
    (phone : String) : Tx Transaction := do
  let amount := ofNumeric package.priceTzs
  let customer ← CustomerService.getOrCreateByPhone session.tenantId phone
  let subscription ← SubscriptionService.createAwaitingPayment session.tenantId customer.id
    package.id
  let hex ← uuidHex
  let transaction ← create .transactions fun id =>
    { id, tenantId := session.tenantId, customerId := some customer.id,
      subscriptionId := some subscription.id, transactionType := some flow.transactionType,
      reference := flow.referencePrefix ++ hex, payerPhone := some phone,
      channel := some "captive_portal", amount := toNumeric amount,
      currency := defaultCurrency, status := .created,
      paymentProvider := some flow.paymentProvider, packageId := some package.id,
      routerId := some session.routerId, deviceMac := session.macAddress,
      captiveSessionId := some session.id }
  let _ ← CaptivePortalSessionService.consume session
  SelcomPaymentProvider.createOrderAndSendStk runtime.settings transaction
    (buyerName (some customer) phone) (buyerEmail (some customer) phone) phone amount
    defaultCurrency none

/-- The answer about an attempt, with its token. -/
def answerAttempt (runtime : Runtime) (package : Package) (transaction : Transaction) :
    Tx PaymentInitiateResult := do
  let amount := ofNumeric package.priceTzs
  let token ← createTransactionToken runtime transaction.id
  if transaction.status = .stkSent then
    pure
      { transactionToken := some token, status := "pending", amount := some amount,
        currency := some defaultCurrency,
        message := "Check your phone and approve the payment prompt." }
  else
    pure
      { transactionToken := some token, status := "failed", amount := some amount,
        currency := some defaultCurrency,
        message := "We could not start this payment. Please try again in a moment." }

theorem startAttempt_eq : startAttempt runtime session package phone =
    bookAttempt runtime session package phone >>= answerAttempt runtime package := by
  simp only [bookAttempt, Prog.bind_assoc]
  rfl

theorem always_bookAttempt {world : PlatformWorld} :
    Always (fun _ => false)
      (fun (t : Transaction) (world' : PlatformWorld) => t ∈ world'.db.rows .transactions)
      (fun _ _ => True) (bookAttempt runtime session package phone) world := by
  apply always_bind.mpr
  apply always_getOrCreateByPhone.mono
  · intro customer _ _
    apply always_bind.mpr
    apply always_createAwaitingPayment.mono
    · intro subscription _ _
      apply always_bind.mpr
      apply always_uuidHex.mpr
      intro hex
      apply always_bind.mpr
      apply always_create rfl
      · intro t created _ _ hcreated
        apply always_bind.mpr
        apply always_bind.mpr
        apply always_now.mpr
        intro time
        apply always_updateRow_within rfl
        · intro _ consumed hconsumed
          have hmem : t ∈ consumed.db.rows .transactions := by
            rw [hconsumed.1 _ (by decide)]
            exact hcreated.mem
          apply (always_createOrderAndSendStk hmem).mono
          · rintro t' final ⟨more, hpushed, -, hreplaced⟩
            exact hreplaced.mem hmem hpushed.attempted.sameOrder.id.symm
          · exact fun _ _ _ => trivial
        · trivial
      · exact fun _ => trivial
    · exact fun _ _ _ => trivial
  · exact fun _ _ _ => trivial

theorem token_of_run {transactionId : ℕ} {token : String}
    {state final : State schema Request HttpResult} (hmints : Mints runtime outside)
    (h : run (exec outside) (createTransactionToken runtime transactionId) state =
      (.ok token, final)) :
    resolveTransactionToken runtime token = some transactionId ∧ final.db = state.db := by
  rw [createTransactionToken] at h
  split at h
  · rename_i hkey
    rw [Models.issue, run_issue] at h
    cases h
    constructor
    · rw [resolveTransactionToken, if_pos hkey]
      exact hmints state.tick transactionId
    · rfl
  · cases h

theorem tokenOf_startAttempt {result : PaymentInitiateResult} {token : String}
    {state final : State schema Request HttpResult} (hmints : Mints runtime outside)
    (h : run (exec outside) (startAttempt runtime session package phone) state =
      (.ok result, final)) (htoken : result.transactionToken = some token) :
    ∃ t, TokenOf runtime final.db token t := by
  rw [startAttempt_eq] at h
  obtain ⟨t, booked, hbooked, h⟩ := (run_bind_ok _).mp h
  have hstored := (@always_bookAttempt runtime session package phone state.toWorld).run outside
  rw [hbooked] at hstored
  rw [answerAttempt] at h
  obtain ⟨issued, middle, hissued, h⟩ := (run_bind_ok _).mp h
  obtain ⟨hresolves, hdb⟩ := token_of_run hmints hissued
  have hresult : result.transactionToken = some issued ∧ final.db = middle.db := by
    split at h
    · cases h
      exact ⟨rfl, rfl⟩
    · cases h
      exact ⟨rfl, rfl⟩
  rw [hresult.1] at htoken
  cases htoken
  use t
  constructor
  · rw [hresult.2, hdb]
    exact hstored
  · exact hresolves

/-- The token of an answer names a payment that is stored with it. -/
theorem tokenOf_initiatePayment {intentToken : String} {packageId : ℕ}
    {result : PaymentInitiateResult} {token : String}
    {state final : State schema Request HttpResult} (hmints : Mints runtime outside)
    (h : run (exec outside) (initiatePayment runtime intentToken packageId phone) state =
      (.ok result, final)) (htoken : result.transactionToken = some token) :
    ∃ t, TokenOf runtime final.db token t := by
  rw [initiatePayment] at h
  split at h
  · cases h
    cases htoken
  · obtain ⟨session, _, -, h⟩ := (run_bind_ok _).mp h
    obtain ⟨package, _, -, h⟩ := (run_bind_ok _).mp h
    obtain ⟨normalizedPhone, _, -, h⟩ := (run_bind_ok _).mp h
    obtain ⟨dimension, _, -, h⟩ := (run_bind_ok _).mp h
    cases dimension with
    | some dimension =>
      cases h
      cases htoken
    | none =>
      obtain ⟨existing, searched, hsearched, h⟩ := (run_bind_ok _).mp h
      cases existing with
      | none => exact tokenOf_startAttempt hmints h htoken
      | some attempt =>
        obtain ⟨issued, middle, hissued, h⟩ := (run_bind_ok _).mp h
        obtain ⟨hresolves, hdb⟩ := token_of_run hmints hissued
        cases h
        cases htoken
        rw [findActiveCaptiveAttempt, selectFirst, Models.issue, run_bind, run_issue] at hsearched
        obtain ⟨hfound, rfl⟩ := Prod.ext_iff.mp hsearched
        use attempt
        constructor
        · rw [hdb]
          exact (List.mem_filter.mp (List.mem_of_head? (Except.ok.inj hfound))).1
        · exact hresolves

end CaptivePortalService

/-! ## Payments stay -/

section Stay

variable {db db' : PlatformDb} {t : Transaction}

/-- The payment is still there, and has its status if it had been decided. -/
def Lasting (db' : PlatformDb) (t : Transaction) : Prop :=
  ∃ t' ∈ db'.rows .transactions, t'.id = t.id ∧
    (t.status.terminal = true → t'.status = t.status)

theorem Lasting.of_mem (h : t ∈ db'.rows .transactions) : Lasting db' t := ⟨t, h, rfl, fun _ => rfl⟩

theorem Lasting.replaced {old new : Transaction} (ht : t ∈ db.rows .transactions)
    (hold : old ∈ db.rows .transactions) (hid : old.id = new.id)
    (hstatus : old.status.terminal = true → new.status = old.status)
    (hrows : db'.rows .transactions = replaceRow schema .transactions new (db.rows .transactions)) :
    Lasting db' t := by
  by_cases hsame : t.id = old.id
  · obtain rfl : t = old := db.id_injOn ht hold hsame
    use new
    rw [hrows]
    exact ⟨mem_replaceRow_self ht hid, hid.symm, hstatus⟩
  · apply Lasting.of_mem
    rw [hrows]
    exact mem_replaceRow_of_ne ht fun heq => hsame (heq.trans hid.symm)

theorem Worked.lasts (h : Worked db db') (ht : t ∈ db.rows .transactions) : Lasting db' t := by
  have hundecided : ∀ {old : Transaction} {status : CollectionStatus},
      old.status.terminal = false → old.status.terminal = true → status = old.status := by
    intro old status hopen hterminal
    rw [hopen] at hterminal
    cases hterminal
  cases h with
  | idle h =>
    apply Lasting.of_mem
    rw [h .transactions (by decide)]
    exact ht
  | attempted h =>
    apply Lasting.of_mem
    rw [h.transactions]
    exact List.mem_append_left _ ht
  | collected h =>
    apply Lasting.of_mem
    rw [h.transactions]
    exact List.mem_append_left _ ht
  | settled h =>
    cases h with
    | unchanged h =>
      apply Lasting.of_mem
      rw [h .transactions (by decide)]
      exact ht
    | moved hchange hold hrows _ =>
      exact .replaced ht hold hchange.sameOrder.id.symm (hundecided hchange.undecided) hrows
    | completed hchange hold hrows _ _ =>
      exact .replaced ht hold hchange.sameOrder.id.symm (hundecided hchange.undecided) hrows

theorem CaptivePortalActivationService.Activated.lasts {runtime : Runtime} {transactionId : ℕ}
    {first : Outside} {landed : ℕ → Bool} {radius radius' : RadiusDb}
    (h : Activated runtime transactionId first landed db db' radius radius')
    (ht : t ∈ db.rows .transactions) : Lasting db' t := by
  cases h with
  | unchanged hsame _ _ => exact .of_mem (hsame ▸ ht)
  | granted hpurchase _ hgranted _ =>
    obtain ⟨time, hrows⟩ := hgranted.transactions
    apply Lasting.replaced ht hpurchase.stored _ _ hrows
    · rfl
    · exact fun _ => rfl
  | failed hpurchase _ hwritten _ =>
    rcases hwritten with hsame | hrecorded
    · exact .of_mem (hsame ▸ ht)
    · apply Lasting.replaced ht hpurchase.stored _ _ hrecorded.rows_self
      · rfl
      · exact fun _ => rfl

/-- Every payment outlasts every step. -/
theorem AccessStep.lasts {step : AccessStep} {state : AccessState}
    (ht : t ∈ state.world.db.rows .transactions) : Lasting (step.next state).world.db t := by
  cases step with
  | payment work runtime outside => exact (works runtime outside state.world work).1.lasts ht
  | activation runtime transactionId first second landed =>
    exact (CaptivePortalActivationService.activated runtime transactionId first second landed
      state.radius state.world).lasts ht

end Stay

end InfinityRadius.Services
