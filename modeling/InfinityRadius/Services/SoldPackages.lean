import InfinityRadius.Services.PackageReport

/-!
# The report after every run

Payments, activations and assignments only ever sell packages of the tenant, and take one payment
for a subscription at most, so the report of packages sold is true after every run.
-/

namespace InfinityRadius.Services

open Amounts Database Joins Payload Program Sql Models CaptivePortalActivationService WalletService

/-! ## Packages on offer -/

/-- Every subscription is for a package of its tenant. -/
def Offered (db : PlatformDb) : Prop :=
  ∀ subscription ∈ db.rows .subscriptions, ∃ package ∈ db.rows .packages,
    package.id = subscription.packageId ∧ package.tenantId = subscription.tenantId

/-- Subscriptions of one package are added, and what a subscription is for stays so. -/
def offering (tenantId packageId : ℕ) : Footprint Table Row Request where
  inserts
    | .subscriptions, subscription =>
      subscription.tenantId = tenantId ∧ subscription.packageId = packageId
    | .packages, _ => False
    | _, _ => True
  updates
    | .subscriptions, _, write => ∀ subscription : Subscription,
      (write subscription).tenantId = subscription.tenantId ∧
        (write subscription).packageId = subscription.packageId
    | .packages, _, _ => False
    | _, _, _ => True
  sends _ := True

section Offering

variable {tenantId customerId : ℕ} {package : Package} {world : PlatformWorld}
  {db db' : PlatformDb}

/-- A program that sells a package there is. -/
theorem always_offered {α : Type} {x : Tx α}
    (hall : x.All (offering package.tenantId package.id).Allows)
    (hpackage : package ∈ world.db.rows .packages) (h : Offered world.db) :
    Always (fun _ => false) (fun _ world' => Offered world'.db) (fun _ _ => True) x world := by
  have halways := @always_db_invariant Table Row Ask Request Answer HttpResult schema _ Failure α
    (fun _ => false) x world (offering package.tenantId package.id)
    (fun db => package ∈ db.rows .packages ∧ Offered db) hall
  refine (halways ?_ ?_ ⟨hpackage, h⟩).mono (fun _ _ hreturns => hreturns.2) fun _ _ _ => trivial
  · rintro db db' t row hinserts - happended ⟨hlisted, hoffered⟩
    cases t with
    | subscriptions =>
      have hpackages : db'.rows .packages = db.rows .packages := happended.rows_of_ne (by decide)
      refine ⟨hpackages ▸ hlisted, ?_⟩
      intro subscription hmem
      rw [happended.rows_self] at hmem
      rw [hpackages]
      rcases List.mem_append.mp hmem with hold | hnew
      · exact hoffered subscription hold
      · rw [List.mem_singleton.mp hnew]
        exact ⟨package, hlisted, hinserts.2.symm, hinserts.1.symm⟩
    | packages => exact hinserts.elim
    | _ =>
      have hpackages : db'.rows .packages = db.rows .packages := happended.rows_of_ne (by decide)
      have hrows : db'.rows .subscriptions = db.rows .subscriptions :=
        happended.rows_of_ne (by decide)
      rw [Offered, hpackages, hrows]
      exact ⟨hlisted, hoffered⟩
  · rintro db db' t old id write hupdates hold - hid hreplaced ⟨hlisted, hoffered⟩
    cases t with
    | subscriptions =>
      have hpackages : db'.rows .packages = db.rows .packages := hreplaced.rows_of_ne (by decide)
      refine ⟨hpackages ▸ hlisted, ?_⟩
      intro subscription hmem
      rw [hreplaced.rows_self] at hmem
      rw [hpackages]
      rcases mem_replaceRow hmem with rfl | ⟨hother, -⟩
      · obtain ⟨offered, hoffers, hpackageId, htenant⟩ := hoffered old hold
        obtain ⟨hsameTenant, hsamePackage⟩ := hupdates old
        exact ⟨offered, hoffers, hpackageId.trans hsamePackage.symm,
          htenant.trans hsameTenant.symm⟩
      · exact hoffered subscription hother
    | packages => exact hupdates.elim
    | _ =>
      have hpackages : db'.rows .packages = db.rows .packages := hreplaced.rows_of_ne (by decide)
      have hrows : db'.rows .subscriptions = db.rows .subscriptions :=
        hreplaced.rows_of_ne (by decide)
      rw [Offered, hpackages, hrows]
      exact ⟨hlisted, hoffered⟩

theorem SubscriptionService.all_createFor_offering {voucherId : Option ℕ} :
    (createFor package.tenantId customerId package voucherId).All
      (offering package.tenantId package.id).Allows := by
  have hcreate : (Models.create .subscriptions fun id =>
      { id, tenantId := package.tenantId, customerId, packageId := package.id, voucherId,
        status := .pending }).All (offering package.tenantId package.id).Allows :=
    all_create fun _ => ⟨rfl, rfl⟩
  apply Prog.All.bind hcreate
  intro subscription
  split
  · apply Prog.All.bind (all_getByIdForUpdate _ _)
    intro found
    apply Prog.All.bind (Prog.all_orRaise _ _)
    intro subscription
    apply Prog.All.bind (Prog.all_require _ _)
    intro _
    apply Prog.All.bind (all_getById _ _)
    intro listed
    apply Prog.All.bind (Prog.all_orRaise _ _)
    intro package
    apply Prog.All.bind all_now
    intro time
    exact all_updateRow fun _ => ⟨rfl, rfl⟩
  · trivial

/-- A package of the tenant is assigned. -/
theorem always_create_offered {packageId : ℕ} (h : Offered world.db) :
    Always (fun _ => false) (fun _ world' => Offered world'.db) (fun _ _ => True)
      (SubscriptionService.create tenantId customerId packageId) world := by
  apply always_bind.mpr
  apply always_requireCustomerAndPackage.mono
  · rintro package _ ⟨rfl, -, hpackage, rfl, -, -⟩
    exact always_offered SubscriptionService.all_createFor_offering hpackage h
  · exact fun _ _ _ => trivial

/-- A package of the tenant is redeemed. -/
theorem always_redeem_offered {code : String} (h : Offered world.db) :
    Always (fun _ => false) (fun _ world' => Offered world'.db) (fun _ _ => True)
      (VoucherService.redeem tenantId code customerId) world := by
  apply always_bind.mpr
  apply always_selectOneForUpdate_found rfl
  · intro voucher _ _
    rw [Prog.orRaise_some, Prog.pure_bind]
    apply always_bind.mpr
    apply always_require
    · intro _
      apply always_bind.mpr
      apply always_getById_any rfl
      intro customer
      apply always_bind.mpr
      apply always_orRaise
      · intro _ _
        apply always_bind.mpr
        apply always_getById_any rfl
        intro found
        apply always_bind.mpr
        apply always_orRaise
        · intro batch _
          apply always_bind.mpr
          apply always_getById rfl
          · intro package hpackage htenant _
            obtain rfl : package.tenantId = tenantId := by
              simpa [ofTenant, rowTenant] using htenant
            rw [Prog.orRaise_some, Prog.pure_bind]
            apply always_offered _ hpackage h
            apply Prog.All.bind (Prog.all_require _ _)
            intro _
            apply Prog.All.bind SubscriptionService.all_createFor_offering
            intro subscription
            apply Prog.All.bind all_now
            intro time
            exact Prog.All.bind (all_updateRow trivial) fun _ => trivial
          · exact fun _ => trivial
        · exact fun _ => trivial
      · exact fun _ => trivial
    · exact fun _ => trivial
  · trivial
  · trivial

theorem Offered.of_rows (h : Offered db)
    (hsubscriptions : db'.rows .subscriptions = db.rows .subscriptions)
    (hpackages : db'.rows .packages = db.rows .packages) : Offered db' := by
  rw [Offered, hsubscriptions, hpackages]
  exact h

/-- A subscription that starts is for what it was for. -/
theorem Offered.started {subscription : Subscription} {time : Timestamp} (h : Offered db)
    (hmem : subscription ∈ db.rows .subscriptions)
    (hsubscriptions : db'.rows .subscriptions = replaceRow schema .subscriptions
      (Subscription.started subscription package time) (db.rows .subscriptions))
    (hpackages : db'.rows .packages = db.rows .packages) : Offered db' := by
  intro other hother
  rw [hsubscriptions] at hother
  rw [hpackages]
  rcases mem_replaceRow hother with rfl | ⟨hold, -⟩
  · exact h subscription hmem
  · exact h other hold

theorem Offered.assigned {assignment : Assignment} {outside : Outside} (h : Offered world.db) :
    Offered (transact outside assignment.program world).2.db := by
  have hends : ∀ {α : Type} {x : Tx α}, Always (fun _ => false) (fun _ world' => Offered world'.db)
      (fun _ _ => True) x ⟨world.db, []⟩ →
        Offered (transact outside (do let _ ← x; pure () : Tx Unit) world).2.db := by
    intro α x halways
    rw [transact_discard_eq]
    rcases transact_ends outside halways with ⟨_, -, hoffered⟩ | ⟨_, _, -, hsame, -⟩
    · exact hoffered
    · rw [hsame]
      exact h
  cases assignment with
  | create tenantId customerId packageId => exact hends (always_create_offered h)
  | redeem tenantId code customerId => exact hends (always_redeem_offered h)
  | activate tenantId subscriptionId =>
    apply hends
    apply always_activateSubscription.mono
    · rintro _ ⟨db', sent⟩ ⟨subscription, package, time, hstartable, -, rfl, hreplaced, -⟩
      exact h.started hstartable.1 hreplaced.rows_self (hreplaced.rows_of_ne (by decide))
    · exact fun _ _ _ => trivial

end Offering

/-! ## Payments -/

section Payments

variable {runtime : Runtime} {outside : Outside} {world : PlatformWorld} {db db' : PlatformDb}

/-- What a payment operation sells: nothing, or a package of the tenant with its payment. -/
inductive Sells (db db' : PlatformDb) : Prop
  | nothing (hrows : ∀ table ∈ [.subscriptions, .packages], db'.rows table = db.rows table)
      (htransactions : ∀ t' ∈ db'.rows .transactions,
        (∃ t ∈ db.rows .transactions, t.SameOrder t') ∨ t'.subscriptionId = none)
  | package {session : CaptiveSession} {package : Package} {phone : String} {customer : Customer}
      {subscription : Subscription} {t : Transaction}
      (hstarted : CaptivePortalService.Started session package phone db db' customer subscription t)
      (hlisted : package ∈ db.rows .packages) (htenant : package.tenantId = session.tenantId)

theorem Sells.of_rows
    (h : ∀ table ∈ [.transactions, .subscriptions, .packages], db'.rows table = db.rows table) :
    Sells db db' := by
  apply Sells.nothing
  · exact fun table htable => h table (List.mem_cons_of_mem _ htable)
  · rw [h .transactions List.mem_cons_self]
    exact fun t ht => Or.inl ⟨t, ht, .refl t⟩

theorem Settled.sells (h : Settled db db') : Sells db db' := by
  cases h with
  | unchanged h =>
    apply Sells.of_rows
    intro table htable
    apply h
    rintro rfl
    exact absurd htable (by decide)
  | moved hchange hold hrows hothers =>
    apply Sells.nothing
    · intro table htable
      apply hothers
      revert htable
      cases table <;> decide
    · intro t' ht'
      rw [hrows] at ht'
      rcases mem_replaceRow ht' with rfl | ⟨hother, -⟩
      · exact Or.inl ⟨_, hold, hchange.sameOrder⟩
      · exact Or.inl ⟨t', hother, .refl t'⟩
  | completed hchange hold hrows _ hothers =>
    apply Sells.nothing
    · intro table htable
      apply hothers
      revert htable
      cases table <;> decide
    · intro t' ht'
      rw [hrows] at ht'
      rcases mem_replaceRow ht' with rfl | ⟨hother, -⟩
      · exact Or.inl ⟨_, hold, hchange.sameOrder⟩
      · exact Or.inl ⟨t', hother, .refl t'⟩

theorem CollectionService.Started.sells {tenantId : ℕ} {customerId : Option ℕ} {t : Transaction}
    (h : CollectionService.Started tenantId customerId db db' t) : Sells db db' := by
  apply Sells.nothing
  · intro table htable
    apply h.others
    rintro rfl
    exact absurd htable (by decide)
  · intro t' ht'
    rw [h.transactions] at ht'
    rcases List.mem_append.mp ht' with hold | hnew
    · exact Or.inl ⟨t', hold, .refl t'⟩
    · rw [List.mem_singleton.mp hnew]
      exact Or.inr h.subscriptionId

theorem sells_of_always {α : Type} {x : Tx α} {returns : α → PlatformWorld → Prop}
    {raises : Failure → PlatformWorld → Prop}
    (h : Always (fun _ => false) returns raises x ⟨world.db, []⟩)
    (hsells : ∀ a world', returns a world' → Sells world.db world'.db) :
    Sells world.db (transact outside (do let _ ← x; pure () : Tx Unit) world).2.db := by
  have hdb : (transact outside (do let _ ← x; pure () : Tx Unit) world).2.db =
      (transact outside x world).2.db := by rw [transact_discard_eq]
  rw [hdb]
  rcases transact_ends outside h with ⟨a, -, hreturns⟩ | ⟨_, _, -, hsame, -⟩
  · exact hsells a ⟨(transact outside x world).2.db, exchanges outside x world.db⟩ hreturns
  · rw [hsame]
    exact .of_rows fun _ _ => rfl

theorem sells_initiate (initiation : Initiation) :
    Sells world.db (transact outside (initiation.program runtime) world).2.db := by
  have hidle : (transact outside (initiation.program runtime) world).2.db = world.db →
      Sells world.db (transact outside (initiation.program runtime) world).2.db := by
    intro hsame
    rw [hsame]
    exact .of_rows fun _ _ => rfl
  cases initiation with
  | captive intentToken packageId phone =>
    rcases CaptivePortalService.run_initiatePayment runtime outside world.db intentToken packageId
      phone with ⟨session, package, normalizedPhone, hadmitted, hrun⟩ | ⟨result, tick, hrun⟩
    · rcases transact_discard hrun CaptivePortalService.always_startAttempt with
        ⟨_, _, _, _, _, _, hstarted, -⟩ | ⟨hsame, -⟩
      · exact .package hstarted hadmitted.listed hadmitted.packageTenant
      · exact hidle hsame
    · apply hidle
      rw [Initiation.program]
      exact (transact_idle (by rw [run_discard, hrun])).1
  | collection userId amount currency phone customerId description =>
    rcases CollectionService.run_initiateRoute runtime.settings outside world.db userId amount
      currency phone customerId description with
      ⟨tenantId, normalizedPhone, customer, -, hrun⟩ | ⟨result, tick, hrun⟩
    · rcases transact_discard hrun CollectionService.always_startCollection with
        ⟨_, _, _, hstarted, -⟩ | ⟨hsame, -⟩
      · exact hstarted.sells
      · exact hidle hsame
    · apply hidle
      rw [Initiation.program]
      exact (transact_idle (by rw [run_discard, hrun])).1

theorem sells (work : PaymentOperation) :
    Sells world.db (transact outside (work.program runtime) world).2.db := by
  cases work with
  | issueSession routerId macAddress =>
    apply sells_of_always CaptivePortalSessionService.always_issueSession
    intro _ world' hwithin
    apply Sells.of_rows
    intro table htable
    apply hwithin.1
    rintro rfl
    exact absurd htable (by decide)
  | initiate initiation => exact sells_initiate initiation
  | processWebhook service headers body =>
    exact sells_of_always (SelcomPaymentProvider.always_processWebhook (allFinalise service))
      fun _ _ h => h.1.sells
  | reconcile service transactionId =>
    exact sells_of_always (SelcomPaymentProvider.always_reconcile (allFinalise service))
      fun _ _ h => h.1.sells
  | finalizePayment transactionId =>
    have hsells := @sells_of_always outside world _ _ _ _
      (@CaptivePortalService.always_finalizePayment transactionId ⟨world.db, []⟩)
      fun _ _ h => h.1.sells
    rwa [Prog.bind_pure] at hsells

/-- Sales keep to the rule. -/
theorem Sold.sells (h : Sold db) (hsells : Sells db db') : Sold db' := by
  cases hsells with
  | nothing hrows htransactions =>
    have hsubscriptions := hrows .subscriptions (by decide)
    have hpackages := hrows .packages (by decide)
    constructor
    · rw [hsubscriptions, hpackages]
      exact h.offered
    · intro t' ht' id hid
      rcases htransactions t' ht' with ⟨t, ht, horder⟩ | hnone
      · rw [horder.subscriptionId] at hid
        rw [hsubscriptions, horder.tenantId]
        exact h.bought t ht id hid
      · cases hnone.symm.trans hid
    · intro left hleft right hright id hid hid'
      rcases htransactions left hleft with ⟨t, ht, horder⟩ | hnone
      · rcases htransactions right hright with ⟨t', ht', horder'⟩ | hnone
        · obtain rfl : t = t' := h.sole t ht t' ht' id (horder.subscriptionId.symm.trans hid)
            (horder'.subscriptionId.symm.trans hid')
          exact db'.id_injOn hleft hright (horder.id.trans horder'.id.symm)
        · cases hnone.symm.trans hid'
      · cases hnone.symm.trans hid
  | @package session package phone customer subscription t hstarted hlisted htenant =>
    have hpackages : db'.rows .packages = db.rows .packages := hstarted.others _ (by decide)
    have hnew : ∀ other ∈ db.rows .subscriptions, other.id ≠ subscription.id := by
      intro other hother hid
      have hids := db'.nodup_map_id .subscriptions
      rw [hstarted.subscriptions, List.map_append, List.nodup_append] at hids
      exact hids.2.2 _ (List.mem_map_of_mem hother) _ (List.mem_singleton_self _) hid
    have hmem : subscription ∈ db'.rows .subscriptions := by
      rw [hstarted.subscriptions]
      exact List.mem_append_right _ (List.mem_singleton_self _)
    have hrow := hstarted.awaiting
    -- an old payment is for an old subscription
    have hold : ∀ old ∈ db.rows .transactions, old.subscriptionId ≠ some subscription.id := by
      intro old hold hlink
      obtain ⟨other, hother, hid, -⟩ := h.bought old hold _ hlink
      exact hnew other hother hid
    constructor
    · intro other hother
      rw [hstarted.subscriptions] at hother
      rw [hpackages]
      rcases List.mem_append.mp hother with hkept | hadded
      · exact h.offered other hkept
      · rw [List.mem_singleton.mp hadded, hrow]
        exact ⟨package, hlisted, rfl, htenant⟩
    · intro t' ht' id hid
      rw [hstarted.transactions] at ht'
      rcases List.mem_append.mp ht' with hkept | hadded
      · obtain ⟨other, hother, hids⟩ := h.bought t' hkept id hid
        rw [hstarted.subscriptions]
        exact ⟨other, List.mem_append_left _ hother, hids⟩
      · rw [List.mem_singleton.mp hadded] at hid ⊢
        use subscription, hmem, Option.some.inj (hstarted.subscriptionId.symm.trans hid)
        rw [hstarted.tenant, hrow]
    · intro left hleft right hright id hid hid'
      rw [hstarted.transactions] at hleft hright
      rcases List.mem_append.mp hleft with hleft | hleft
      · rcases List.mem_append.mp hright with hright | hright
        · exact h.sole left hleft right hright id hid hid'
        · rw [List.mem_singleton.mp hright, hstarted.subscriptionId] at hid'
          exact absurd (hid.trans hid'.symm) (hold left hleft)
      · rcases List.mem_append.mp hright with hright | hright
        · rw [List.mem_singleton.mp hleft, hstarted.subscriptionId] at hid
          exact absurd (hid'.trans hid.symm) (hold right hright)
        · rw [List.mem_singleton.mp hleft, List.mem_singleton.mp hright]

theorem Sold.activated {runtime : Runtime} {transactionId : ℕ} {first : Outside}
    {landed : ℕ → Bool} {radius radius' : RadiusDb} (h : Sold db)
    (heffect : Activated runtime transactionId first landed db db' radius radius') : Sold db' := by
  have hpackages : db'.rows .packages = db.rows .packages := heffect.others (by decide)
  constructor
  · have hoffered : Offered db := h.offered
    rcases heffect.subscriptions with hsame | ⟨_, _, _, _, _, hpurchase, -, -, hrows⟩
    · exact hoffered.of_rows hsame hpackages
    · exact hoffered.started hpurchase.subscribed hrows hpackages
  · intro t' ht' id hid
    obtain ⟨t, ht, horder⟩ := heffect.origin ht'
    rw [horder.subscriptionId] at hid
    obtain ⟨subscription, hmem, rfl, htenant⟩ := h.bought t ht id hid
    obtain ⟨later, hlater, hids, hsame, -⟩ := heffect.onward.subscriptions subscription hmem
    rw [horder.tenantId]
    exact ⟨later, hlater, hids, hsame.trans htenant⟩
  · intro left hleft right hright id hid hid'
    obtain ⟨t, ht, horder⟩ := heffect.origin hleft
    obtain ⟨t', ht', horder'⟩ := heffect.origin hright
    obtain rfl : t = t' := h.sole t ht t' ht' id (horder.subscriptionId.symm.trans hid)
      (horder'.subscriptionId.symm.trans hid')
    exact db'.id_injOn hleft hright (horder.id.trans horder'.id.symm)

theorem Sold.assigned {assignment : Assignment} (h : Sold world.db) :
    Sold (transact outside assignment.program world).2.db := by
  have hassigned := Services.assigned assignment outside world
  have htransactions := hassigned.others .transactions (by decide)
  have hoffered : Offered world.db := h.offered
  constructor
  · exact hoffered.assigned
  · rw [htransactions]
    intro t ht id hid
    obtain ⟨subscription, hmem, rfl, htenant⟩ := h.bought t ht id hid
    obtain ⟨later, hlater, hids, hsame, -⟩ := hassigned.onward.subscriptions subscription hmem
    exact ⟨later, hlater, hids, hsame.trans htenant⟩
  · rw [htransactions]
    exact h.sole

end Payments

/-! ## Runs -/

theorem Sold.step {step : BusinessStep} {state : AccessState} (h : Sold state.world.db) :
    Sold (step.next state).world.db := by
  cases step with
  | service step =>
    cases step with
    | access step =>
      cases step with
      | payment work runtime outside => exact h.sells (Services.sells work)
      | activation runtime transactionId first second landed =>
        exact h.activated (CaptivePortalActivationService.activated runtime transactionId first
          second landed state.radius state.world)
    | assign assignment outside => exact h.assigned
  | setCommissionRate tenantId rate actorId notes outside =>
    exact h.sells (.of_rows (CreditStep.rows_of_rate (by decide)))

example : DashboardService.packagePerformance (fun _ => "1 hour")
    (Runs.run BusinessStep.next (extendedSteps.map .service)
      ⟨⟨retailDb, []⟩, emptyRadius⟩).world.db 1 = [⟨0, "1 hour", 2, 2, 100000⟩] := by
  decide +kernel

end InfinityRadius.Services
