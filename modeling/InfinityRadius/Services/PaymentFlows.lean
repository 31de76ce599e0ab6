import InfinityRadius.Core.Failures
import InfinityRadius.Services.AccessRuns
import InfinityRadius.Services.CreditedOnce

/-!
# Each payment in its own flow

Either service is given webhooks and sweeps for the payments of both.  `_provider_for` hands each
payment to the provider of its own type, so that the guard of `apply_order_status` never refuses
one, and only captive payments ever wait for access.
-/

namespace InfinityRadius.Services

open Amounts Database Payload PayoutService Program Sql Models Integrations.SelcomCollection

/-! ## The guard of the flow -/

/-- The failure is not a `SelcomPaymentFlowMismatchError`. -/
def Matched (e : Failure) : Prop := ∀ message, e ≠ .selcomPaymentFlowMismatch message

section Repository

variable {t : Table}

theorem raises_scalarOneOrNone {α : Type} (rows : List α) : (scalarOneOrNone rows).Raises Matched := by
  rcases rows with _ | ⟨row, _ | ⟨other, rest⟩⟩
  · trivial
  · trivial
  · exact fun _ h => by cases h

theorem raises_selectOne (p : Row t → Bool) : (selectOne t p).Raises Matched :=
  Prog.Raises.bind (Prog.raises_issue _) raises_scalarOneOrNone

theorem raises_selectOneForUpdate (p : Row t → Bool) :
    (selectOneForUpdate t p).Raises Matched :=
  Prog.Raises.bind (Prog.raises_issue _) raises_scalarOneOrNone

theorem raises_selectFirst (p : Row t → Bool) : (selectFirst t p).Raises Matched :=
  Prog.Raises.bind (Prog.raises_issue _) fun _ => trivial

theorem raises_create (build : ℕ → Row t) : (create t build).Raises Matched :=
  Prog.Raises.bind (Prog.raises_issue _) fun _ => Prog.raises_orRaise fun _ h => by cases h

theorem raises_updateRow (id : ℕ) (write : Row t → Row t) : (updateRow t id write).Raises Matched :=
  Prog.Raises.bind (Prog.raises_issue _) fun _ => Prog.raises_orRaise fun _ h => by cases h

theorem raises_writeAuditLog (metadata : List (Option String)) :
    (writeAuditLog metadata).Raises Matched :=
  Prog.raises_require fun _ _ h => by cases h

end Repository

/-- Nothing in a credit concerns the flow. -/
theorem WalletService.raises_processCollection (tenantId : ℕ) (grossAmount : Decimal)
    (referenceType : String) (referenceId : Option ℕ) (description : Option String) :
    (processCollection tenantId grossAmount referenceType referenceId description).Raises
      Matched := by
  apply Prog.Raises.bind (Prog.raises_require fun _ _ h => by cases h)
  intro _
  apply Prog.Raises.bind
  · apply Prog.Raises.bind (raises_selectFirst _)
    exact fun terms => Prog.raises_orRaise fun _ h => by cases h
  intro terms
  apply Prog.Raises.bind (Prog.raises_orRaise fun _ h => by cases h)
  intro platformFee
  apply Prog.Raises.bind
  · apply Prog.Raises.bind
    · apply Prog.Raises.bind (raises_selectOne _)
      intro wallet
      cases wallet with
      | none => exact raises_create _
      | some wallet => trivial
    · intro wallet
      apply Prog.Raises.bind
      · exact raises_selectOneForUpdate _
      · exact fun locked => Prog.raises_orRaise fun _ h => by cases h
  intro wallet
  apply Prog.Raises.bind
  · apply Prog.Raises.bind (Prog.raises_require fun _ _ h => by cases h)
    intro _
    exact Prog.Raises.bind (raises_updateRow _ _) fun _ => trivial
  intro credit
  apply Prog.Raises.bind (raises_create _)
  intro _
  apply Prog.Raises.bind (raises_create _)
  intro _
  exact Prog.Raises.bind (raises_create _) fun _ => trivial

namespace SelcomPaymentProvider

variable {settings : Settings} {t : Transaction} {statusData : OrderStatusData}
  {resultcode : Option String}

theorem raises_transition (toStatus : CollectionStatus) (metadata : List (Option String))
    (extraColumns : Transaction → Transaction) :
    (transition t toStatus metadata extraColumns).Raises Matched := by
  apply Prog.Raises.bind (raises_updateRow _ _)
  intro _
  exact Prog.Raises.bind (raises_writeAuditLog _) fun _ => trivial

/-- The finaliser of a provider raises nothing about flows. -/
theorem raises_finalizePayment (service : TransactionType) :
    ((providerOf service).finalizePayment t statusData).Raises Matched := by
  cases service with
  | collection =>
    exact Prog.Raises.bind (WalletService.raises_processCollection _ _ _ _ _) fun _ => trivial
  | captivePortal =>
    exact Prog.Raises.bind (WalletService.raises_processCollection _ _ _ _ _) fun _ =>
      raises_updateRow _ _

theorem raises_applyMapped (paymentStatus : String) :
    (applyMapped settings t statusData paymentStatus resultcode).Raises Matched := by
  rw [applyMapped]
  split
  · exact raises_transition _ _ _
  · split
    · exact Prog.Raises.bind (Prog.raises_issue _) fun _ => raises_transition _ _ _
    · split
      · trivial
      · apply Prog.Raises.bind
        · rw [isStalePending]
          split
          · trivial
          · split
            · trivial
            · exact Prog.Raises.bind (Prog.raises_issue _) fun _ => trivial
        · intro stale
          split
          · exact raises_transition _ _ _
          · exact raises_transition _ _ _

/-- A payment of its own flow passes the guard. -/
theorem raises_applyOrderStatus {service : TransactionType} (htype : t.transactionType = some service) :
    (applyOrderStatus settings (providerOf service) t statusData resultcode).Raises Matched := by
  have hflow : (providerOf service).flow.transactionType = service := by cases service <;> rfl
  rw [applyOrderStatus, Prog.require_true (by rw [htype, hflow]), Prog.pure_bind]
  split
  · trivial
  · split
    · rw [applyCompleted]
      split
      · exact raises_transition _ _ _
      · apply Prog.Raises.bind (raises_finalizePayment service)
        intro finalised
        exact Prog.Raises.bind (Prog.raises_issue _) fun _ => raises_transition _ _ _
    · exact raises_applyMapped _

theorem raises_newClient : (newClient settings).Raises Matched := by
  apply Prog.Raises.bind (Prog.raises_require fun _ _ h => by cases h)
  intro _
  apply Prog.Raises.bind (Prog.raises_require fun _ _ h => by cases h)
  exact fun _ => Prog.raises_require fun _ _ h => by cases h

theorem raises_signRequest : (signRequest settings).Raises Matched := by
  rw [signRequest]
  split
  · split
    · exact fun _ h => by cases h
    · exact fun _ h => by cases h
    · trivial
  · trivial

theorem raises_orderStatus {reference : String} :
    (attempt (orderStatus settings reference)).Raises Matched := by
  have hcall : (orderStatus settings reference).Raises Matched := by
    apply Prog.Raises.bind raises_signRequest
    intro _
    apply Prog.Raises.bind (Prog.raises_issue _)
    intro answer
    split
    · trivial
    · rename_i failure hfailure
      rcases validated_error hfailure with ⟨error, -, rfl⟩ | rfl
      · exact fun _ h => by cases h
      · exact fun _ h => by cases h
  apply Prog.Raises.tryCatch (Prog.Raises.bind hcall fun _ => Prog.raises_pure _)
  intro failure hfailure
  split
  · trivial
  · exact hfailure

theorem raises_queryAndApply {service : TransactionType}
    (htype : t.transactionType = some service) :
    (queryAndApply settings (providerOf service) t).Raises Matched := by
  apply Prog.Raises.bind raises_newClient
  intro _
  apply Prog.Raises.bind raises_orderStatus
  intro answer
  split
  · trivial
  · split
    · trivial
    · exact raises_applyOrderStatus htype

/-- Whichever service is asked, a payment goes to the provider of its type. -/
theorem providerFor_eq {service own : TransactionType} (htype : t.transactionType = some own) :
    providerFor paymentProviders (providerOf service) t = pure (providerOf own) := by
  cases service <;> cases own <;> rw [providerFor, htype] <;> rfl

section Dispatch

variable {service : TransactionType} {world : PlatformWorld}

/-- Every payment has a type. -/
def Typed (db : PlatformDb) : Prop :=
  ∀ t ∈ db.rows .transactions, ∃ own : TransactionType, t.transactionType = some own

theorem Typed.of_rows {db db' : PlatformDb} (h : Typed db)
    (hrows : db'.rows .transactions = db.rows .transactions) : Typed db' := by
  rw [Typed, hrows]
  exact h

/-- Whichever service reconciles a payment, the guard lets it through. -/
theorem matched_reconcile (htyped : Typed world.db) {transactionId : ℕ} :
    Always (fun _ => false) (fun _ _ => True) (fun e _ => Matched e)
      (reconcile settings paymentProviders (providerOf service) transactionId) world := by
  apply always_bind.mpr
  apply always_getByIdForUpdate rfl
  · intro t ht _ _
    obtain ⟨own, htype⟩ := htyped t ht
    rw [Prog.orRaise_some, Prog.pure_bind, providerFor_eq htype, Prog.pure_bind]
    exact always_of_raises (raises_queryAndApply htype)
  · exact fun _ _ h => by cases h

theorem raises_markProcessed {webhook : PaymentWebhook} : (markProcessed webhook).Raises Matched :=
  Prog.Raises.bind (Prog.raises_issue _) fun _ => raises_updateRow _ _

theorem matched_acknowledge (htyped : Typed world.db) {webhook : PaymentWebhook} {payload : Json} :
    Always (fun _ => false) (fun _ _ => True) (fun e _ => Matched e)
      (acknowledge settings paymentProviders (providerOf service) webhook payload) world := by
  apply always_bind.mpr
  apply always_orRaise
  swap
  · exact fun _ _ h => by cases h
  intro parsed _
  split
  · apply always_of_raises
    exact Prog.Raises.bind raises_markProcessed fun _ => trivial
  · apply always_bind.mpr
    apply always_selectOneForUpdate_found rfl
    · intro t ht _
      obtain ⟨own, htype⟩ := htyped t ht
      dsimp only
      rw [providerFor_eq htype]
      apply always_of_raises
      apply Prog.Raises.bind (raises_updateRow _ _)
      intro _
      apply Prog.Raises.bind (raises_queryAndApply htype)
      intro _
      exact Prog.Raises.bind raises_markProcessed fun _ => trivial
    · apply always_of_raises
      exact Prog.Raises.bind raises_markProcessed fun _ => trivial
    · exact fun _ h => by cases h

theorem raises_verifySignature {headers : List (String × String)} {payload : Json} :
    (verifySignature settings headers payload).Raises Matched := by
  apply Prog.Raises.bind (Prog.raises_require fun _ _ h => by cases h)
  intro _
  split
  · apply Prog.Raises.bind (Prog.raises_issue _)
    intro check
    cases check with
    | verified => trivial
    | refused => trivial
    | raised => exact fun _ h => by cases h
  · trivial

/-- Whichever service is given a callback, the guard lets its payment through. -/
theorem matched_processWebhook (htyped : Typed world.db) {headers : List (String × String)}
    {body : WebhookBody} :
    Always (fun _ => false) (fun _ _ => True) (fun e _ => Matched e)
      (processWebhook settings paymentProviders (providerOf service) headers body) world := by
  have hverified : Always (fun _ => false) (fun _ world' => world' = world) (fun _ _ => True)
      (verifySignature settings headers (rawPayload body)) world :=
    always_verifySignature (fun _ => rfl) fun _ => trivial
  apply always_bind.mpr
  apply ((always_of_raises raises_verifySignature).and hverified).mono
  swap
  · exact fun _ _ h => h.1
  rintro verified _ ⟨-, rfl⟩
  apply always_bind.mpr
  apply always_create_within rfl
  swap
  · exact fun _ h => by cases h
  intro webhook stored hstored
  split
  · exact matched_acknowledge (htyped.of_rows (hstored.1 .transactions (by decide)))
  · apply always_of_raises
    exact Prog.Raises.bind raises_markProcessed fun _ => trivial

end Dispatch

end SelcomPaymentProvider

/-! ## Steps -/

/-- A payment or an activation, or a change that leaves the payments alone. -/
inductive FlowStep
  | access (step : AccessStep)
  | elsewhere (change : PlatformDb → PlatformDb)
      (h : ∀ db : PlatformDb, (change db).rows .transactions = db.rows .transactions)

def FlowStep.next (step : FlowStep) (state : AccessState) : AccessState :=
  match step with
  | access step => step.next state
  | elsewhere change _ => { state with world := { state.world with db := change state.world.db } }

/-- The operation asks for the status of a payment, for a webhook or a sweep. -/
def PaymentOperation.Confirms : PaymentOperation → Prop
  | processWebhook .. => True
  | reconcile .. => True
  | _ => False

/-- Only a captive payment that is completed waits for access, and each of them does. -/
structure InOwnFlow (db : PlatformDb) : Prop where
  captive : ∀ t ∈ db.rows .transactions, t.transactionType = some .captivePortal →
    t.status = .completed → t.activationStatus ≠ none
  collection : ∀ t ∈ db.rows .transactions, t.transactionType = some .collection →
    t.activationStatus = none

/-- What a step makes of the payments there are. -/
structure FlowStep.Sound (step : FlowStep) (state : AccessState) : Prop where
  /-- A captive payment waits for access as soon as it is completed. -/
  pending : ∀ t ∈ state.world.db.rows .transactions,
    ∀ t' ∈ (step.next state).world.db.rows .transactions, t'.id = t.id →
      t.transactionType = some .captivePortal → t.status ≠ .completed → t'.status = .completed →
        t'.activationStatus = some .pending
  /-- And its activation has a status from then on. -/
  kept : ∀ t ∈ state.world.db.rows .transactions, t.transactionType = some .captivePortal →
    t.status = .completed → ∃ t' ∈ (step.next state).world.db.rows .transactions,
      t'.id = t.id ∧ t'.status = .completed ∧ t'.activationStatus ≠ none
  /-- No payment is refused as one of the other flow. -/
  matched : ∀ work runtime outside message, step = .access (.payment work runtime outside) →
    work.Confirms → (transact outside (work.program runtime) state.world).1 ≠
      .error (.selcomPaymentFlowMismatch message)

section Steps

variable {db db' : PlatformDb}

theorem Consistent.inOwnFlow (h : ∀ t ∈ db.rows .transactions, Consistent t) : InOwnFlow db := by
  constructor
  · intro t ht htype hcompleted hnone
    have hpaid := (h t ht).paid hcompleted htype
    rw [hnone] at hpaid
    simp at hpaid
  · intro t ht htype
    by_contra hsome
    have hcaptive := ((h t ht).waiting hsome).2
    rw [htype] at hcaptive
    cases hcaptive

theorem Consistent.typed_all (h : ∀ t ∈ db.rows .transactions, Consistent t) :
    SelcomPaymentProvider.Typed db := by
  intro t ht
  rcases (h t ht).typed with htype | ⟨htype, -⟩
  · exact ⟨_, htype⟩
  · exact ⟨_, htype⟩

/-- What an operation completes waits for access, if it is a captive payment. -/
theorem Worked.pending (h : Worked db db') {t t' : Transaction} (ht : t ∈ db.rows .transactions)
    (ht' : t' ∈ db'.rows .transactions) (hid : t'.id = t.id)
    (htype : t.transactionType = some .captivePortal) (hopen : t.status ≠ .completed)
    (hcompleted : t'.status = .completed) : t'.activationStatus = some .pending := by
  have hnot : t' ∉ db.rows .transactions := by
    intro hold
    obtain rfl : t' = t := db.id_injOn hold ht hid
    exact hopen hcompleted
  cases h with
  | idle h =>
    rw [h .transactions (by decide)] at ht'
    exact absurd ht' hnot
  | attempted h =>
    rw [h.transactions] at ht'
    have hnew := List.mem_singleton.mp ((List.mem_append.mp ht').resolve_left hnot)
    rw [hnew] at hcompleted
    rcases h.status with hstatus | hstatus <;> rw [hstatus] at hcompleted <;> cases hcompleted
  | collected h =>
    rw [h.transactions] at ht'
    have hnew := List.mem_singleton.mp ((List.mem_append.mp ht').resolve_left hnot)
    rw [hnew] at hcompleted
    rcases h.status with hstatus | hstatus <;> rw [hstatus] at hcompleted <;> cases hcompleted
  | settled h =>
    cases h with
    | unchanged h =>
      rw [h .transactions (by decide)] at ht'
      exact absurd ht' hnot
    | moved hchange hold hrows _ =>
      rw [hrows] at ht'
      obtain rfl := (mem_replaceRow ht').resolve_right fun h => hnot h.1
      exact absurd hcompleted hchange.status
    | completed hchange hold hrows _ _ =>
      rw [hrows] at ht'
      obtain rfl := (mem_replaceRow ht').resolve_right fun h => hnot h.1
      obtain rfl := db.id_injOn hold ht (hchange.sameOrder.id.symm.trans hid)
      rcases hchange.activation with ⟨hpending, -⟩ | ⟨-, hother⟩
      · exact hpending
      · exact absurd htype hother

theorem CaptivePortalActivationService.Activated.kept {runtime : Runtime} {transactionId : ℕ}
    {first : Outside} {landed : ℕ → Bool} {radius radius' : RadiusDb}
    (h : Activated runtime transactionId first landed db db' radius radius') {t : Transaction}
    (ht : t ∈ db.rows .transactions) :
    ∃ t' ∈ db'.rows .transactions, t.SameOrder t' ∧ t'.status = t.status := by
  have hreplaced : ∀ {old new : Transaction}, old ∈ db.rows .transactions → old.SameOrder new →
      new.status = old.status →
      ∃ t' ∈ replaceRow schema .transactions new (db.rows .transactions),
        t.SameOrder t' ∧ t'.status = t.status := by
    intro old new hold horder hstatus
    by_cases hsame : t.id = new.id
    · obtain rfl : t = old := db.id_injOn ht hold (hsame.trans horder.id)
      exact ⟨new, mem_replaceRow_self hold horder.id.symm, horder, hstatus⟩
    · exact ⟨t, mem_replaceRow_of_ne ht hsame, .refl t, rfl⟩
  cases h with
  | unchanged hsame _ _ => exact ⟨t, hsame ▸ ht, .refl t, rfl⟩
  | granted hpurchase _ hgranted _ =>
    obtain ⟨time, htransactions⟩ := hgranted.transactions
    rw [htransactions]
    apply hreplaced hpurchase.stored
    · constructor <;> rfl
    · rfl
  | failed hpurchase _ hwritten _ =>
    rcases hwritten with hsame | hrecorded
    · exact ⟨t, hsame ▸ ht, .refl t, rfl⟩
    · rw [hrecorded.rows_self]
      apply hreplaced hpurchase.stored
      · constructor <;> rfl
      · rfl

/-- The guard lets every payment of a consistent platform through. -/
theorem matched_of_typed {work : PaymentOperation} {runtime : Runtime} {outside : Outside}
    {world : PlatformWorld} {message : String} (htyped : SelcomPaymentProvider.Typed world.db)
    (hconfirms : work.Confirms) :
    (transact outside (work.program runtime) world).1 ≠
      .error (.selcomPaymentFlowMismatch message) := by
  have htyped : SelcomPaymentProvider.Typed (⟨world.db, []⟩ : PlatformWorld).db := htyped
  have hmatched : Always (fun _ => false) (fun _ _ => True) (fun e _ => Matched e)
      (work.program runtime) ⟨world.db, []⟩ := by
    cases work with
    | processWebhook service headers body =>
      apply always_bind.mpr
      exact (SelcomPaymentProvider.matched_processWebhook htyped).mono (fun _ _ _ => trivial)
        fun _ _ h => h
    | reconcile service transactionId =>
      apply always_bind.mpr
      exact (SelcomPaymentProvider.matched_reconcile htyped).mono (fun _ _ _ => trivial)
        fun _ _ h => h
    | _ => exact hconfirms.elim
  rcases transact_cases hmatched with ⟨a, db, heq, -⟩ | ⟨e, db, heq, he⟩
  · rw [heq]
    exact fun h => by cases h
  · rw [heq]
    exact fun h => he message (Except.error.inj h)

theorem FlowStep.sound (step : FlowStep) {state : AccessState}
    (h : ∀ t ∈ state.world.db.rows .transactions, Consistent t) :
    (∀ t ∈ (step.next state).world.db.rows .transactions, Consistent t) ∧ step.Sound state := by
  have hsound : (∀ t ∈ (step.next state).world.db.rows .transactions, Consistent t) →
      (∀ t ∈ state.world.db.rows .transactions,
        ∀ t' ∈ (step.next state).world.db.rows .transactions, t'.id = t.id →
          t.transactionType = some .captivePortal → t.status ≠ .completed →
            t'.status = .completed → t'.activationStatus = some .pending) →
      (∀ t ∈ state.world.db.rows .transactions, t.transactionType = some .captivePortal → t.status = .completed →
        ∃ t' ∈ (step.next state).world.db.rows .transactions,
          t.SameOrder t' ∧ t'.status = .completed) →
      step.Sound state := by
    intro hnext hpending hkept
    constructor
    · exact hpending
    · intro t ht htype hcompleted
      obtain ⟨t', ht', horder, hstatus⟩ := hkept t ht htype hcompleted
      exact ⟨t', ht', horder.id, hstatus, (Consistent.inOwnFlow hnext).captive t' ht'
        (horder.transactionType.trans htype) hstatus⟩
    · rintro work runtime outside message - hconfirms
      exact matched_of_typed (Consistent.typed_all h) hconfirms
  cases step with
  | access step =>
    cases step with
    | payment work runtime outside =>
      have hworked := (works runtime outside state.world work).1
      use hworked.consistent h
      apply hsound (hworked.consistent h)
      · exact fun t ht t' ht' => hworked.pending ht ht'
      · intro t ht _ hcompleted
        exact ⟨t, hworked.absorbing ht (by rw [hcompleted]; rfl), .refl t, hcompleted⟩
    | activation runtime transactionId first second landed =>
      have hactivated := CaptivePortalActivationService.activated runtime transactionId first second
        landed state.radius state.world
      use hactivated.consistent h
      apply hsound (hactivated.consistent h)
      · intro t ht t' ht' hid _ hopen hcompleted
        obtain ⟨kept, hmem, horder, hstatus⟩ := hactivated.kept ht
        obtain rfl := (FlowStep.next _ state).world.db.id_injOn hmem ht' (horder.id.trans hid.symm)
        exact absurd (hstatus.symm.trans hcompleted) hopen
      · intro t ht _ hcompleted
        obtain ⟨t', ht', horder, hstatus⟩ := hactivated.kept ht
        exact ⟨t', ht', horder, hstatus.trans hcompleted⟩
  | elsewhere change hchange =>
    have hrows := hchange state.world.db
    have hnext : ∀ t ∈ (change state.world.db).rows .transactions, Consistent t := by
      rw [hrows]
      exact h
    use hnext
    apply hsound hnext
    · intro t ht t' ht' hid _ hopen hcompleted
      have ht' : t' ∈ state.world.db.rows .transactions := by
        rw [← hrows]
        exact ht'
      obtain rfl : t' = t := state.world.db.id_injOn ht' ht hid
      exact absurd hcompleted hopen
    · intro t ht _ hcompleted
      exact ⟨t, hrows.symm ▸ ht, .refl t, hcompleted⟩

/-- However webhooks, sweeps and activations mix, every payment is finalised in its own flow. -/
theorem finalised_in_own_flow {start : AccessState}
    (hnew : start.world.db.rows .transactions = []) (steps : List FlowStep) :
    InOwnFlow (Runs.run FlowStep.next steps start).world.db ∧
      Runs.All FlowStep.next FlowStep.Sound steps start := by
  have hstart : ∀ t ∈ start.world.db.rows .transactions, Consistent t := by
    rw [hnew]
    simp
  have hsteps : Runs.All FlowStep.next (fun _ _ => True) steps start :=
    .of_forall (fun _ _ _ => trivial) start
  constructor
  · apply Consistent.inOwnFlow
    exact @Runs.run_kept _ _ FlowStep.next _
      (fun state => ∀ t ∈ state.world.db.rows .transactions, Consistent t)
      (fun step _ h => (step.sound h).1) steps hstart
  · exact Runs.All.of_invariant
      (fun step (state : AccessState) _
        (h : ∀ t ∈ state.world.db.rows .transactions, Consistent t) => (step.sound h).symm)
      hsteps hstart

end Steps

/-! ## A captive payment the other service asks for -/

/-- The answer that a payment of 1000 shillings is completed. -/
def completedAnswer : HttpResult :=
  .response 200 (some (.obj [("resultcode", .str "000"), ("data", .arr [.obj
    [("payment_status", .str "COMPLETED"), ("amount", .int 1000), ("currency", .str "TZS")]])]))

/-- A visitor's payment is prompted for, and the service of collections reconciles it. -/
def sweptSteps : List FlowStep :=
  [.access (.payment (.issueSession 0 none) portalRuntime (answering [])),
    .access (.payment (.initiate (.captive "intent" 0 "0712345678")) portalRuntime
      (answering [accepted, accepted])),
    .access (.payment (.reconcile .collection 0) portalRuntime (answering [completedAnswer]))]

/-- A tenant that agreed on a rate. -/
def ratedState : AccessState :=
  ⟨(CreditStep.setCommissionRate 1 5 none none (answering [])).next ⟨portalDb, []⟩,
    ⟨[], [], [], []⟩⟩

theorem finalised_in_own_flow_swept :
    InOwnFlow (Runs.run FlowStep.next sweptSteps ratedState).world.db ∧
      Runs.All FlowStep.next FlowStep.Sound sweptSteps ratedState := by
  apply finalised_in_own_flow
  exact (CreditStep.rows_setCommissionRate (by decide)).trans rfl

example : ((Runs.run FlowStep.next sweptSteps ratedState).world.db.rows .transactions).map
    Transaction.activationStatus = [some .pending] := by
  decide +kernel

end InfinityRadius.Services
