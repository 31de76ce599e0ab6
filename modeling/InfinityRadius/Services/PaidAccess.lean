import InfinityRadius.Services.ActiveAccess
import InfinityRadius.Services.ClosedPayments
import InfinityRadius.Services.CreditedOnce
import InfinityRadius.Services.PaymentFlows

/-!
# Users who paid

Whoever is in the RADIUS database paid: the password and the group of a phone are the ones of a
subscription of its customer, the payment for it is completed, and the payment is in the ledger.
Answers of the network agent may be lost, and subscriptions may be assigned without a payment.
-/

namespace InfinityRadius.Services

open Amounts Database Payload Program Sql Models CaptivePortalActivationService WalletService

/-! ## Steps -/

/-- Payments, activations and assignments, among changes of the commission rate. -/
inductive BusinessStep
  | service (step : ServiceStep)
  | setCommissionRate (tenantId : ℕ) (rate : Decimal) (actorId : Option ℕ)
      (notes : Option String) (outside : Outside)

namespace BusinessStep

def next (step : BusinessStep) (state : AccessState) : AccessState :=
  match step with
  | service step => step.next state
  | setCommissionRate tenantId rate actorId notes outside =>
    { state with
      world := (CreditStep.setCommissionRate tenantId rate actorId notes outside).next state.world }

/-- The settings activations run with. -/
def runtimes : BusinessStep → Set Runtime
  | service (.access (.activation runtime _ _ _ _)) => {runtime}
  | _ => ∅

end BusinessStep

/-! ## Paid users -/

/-- The payment is completed, its customer has the phone, and its subscription gave the phone
all its rows. -/
structure PaidFor (runtimes : Set Runtime) (db : PlatformDb) (radius : RadiusDb) (phone : String)
    (t : Transaction) : Prop where
  stored : t ∈ db.rows .transactions
  completed : t.status = .completed
  owner : ∃ customer ∈ db.rows .customers, t.customerId = some customer.id ∧
    customer.phone = phone
  provisioned : ∃ subscription ∈ db.rows .subscriptions, t.subscriptionId = some subscription.id ∧
    radius.groupsOf phone = [⟨phone, radiusGroupName subscription.packageId, 1⟩] ∧
    ∃ runtime ∈ runtimes, radius.checksOf phone =
      [⟨phone, cleartextPassword, ":=", deriveRadiusPassword runtime subscription.id⟩]

/-- The phone has no rows, or a payment for them. -/
def Paid (runtimes : Set Runtime) (db : PlatformDb) (radius : RadiusDb) (phone : String) : Prop :=
  (radius.checksOf phone = [] ∧ radius.groupsOf phone = []) ∨
    ∃ t, PaidFor runtimes db radius phone t

/-! ## What stays -/

/-- What is paid for stays so: completed payments, customers, and what subscriptions are for. -/
structure Onward (db db' : PlatformDb) : Prop where
  payments : ∀ t ∈ db.rows .transactions, t.status = .completed →
    ∃ t' ∈ db'.rows .transactions, t.SameOrder t' ∧ t'.status = .completed
  customers : ∀ customer ∈ db.rows .customers, customer ∈ db'.rows .customers
  subscriptions : ∀ subscription ∈ db.rows .subscriptions,
    ∃ later ∈ db'.rows .subscriptions, later.id = subscription.id ∧
      later.tenantId = subscription.tenantId ∧ later.packageId = subscription.packageId

section Onward

variable {runtimes : Set Runtime} {db db' : PlatformDb} {radius radius' : RadiusDb}
  {phone : String} {t : Transaction}

theorem Onward.of_rows
    (hrows : ∀ table ∈ [.transactions, .customers, .subscriptions],
      db'.rows table = db.rows table) : Onward db db' := by
  constructor
  · rw [hrows .transactions (by decide)]
    exact fun t ht hcompleted => ⟨t, ht, .refl t, hcompleted⟩
  · rw [hrows .customers (by decide)]
    exact fun _ h => h
  · rw [hrows .subscriptions (by decide)]
    exact fun subscription h => ⟨subscription, h, rfl, rfl, rfl⟩

/-- A subscription that is started is still the one it was. -/
theorem later_of_started {subscription started : Subscription} {package : Package}
    {time : Timestamp} (hstarted : started ∈ db.rows .subscriptions)
    (hmem : subscription ∈ db.rows .subscriptions)
    (hrows : db'.rows .subscriptions = replaceRow schema .subscriptions
      (Subscription.started started package time) (db.rows .subscriptions)) :
    ∃ later ∈ db'.rows .subscriptions, later.id = subscription.id ∧
      later.tenantId = subscription.tenantId ∧ later.packageId = subscription.packageId := by
  rw [hrows]
  by_cases hid : subscription.id = started.id
  · obtain rfl : subscription = started := db.id_injOn hmem hstarted hid
    exact ⟨_, mem_replaceRow_self hmem rfl, rfl, rfl, rfl⟩
  · exact ⟨subscription, mem_replaceRow_of_ne hmem hid, rfl, rfl, rfl⟩

theorem Worked.onward (h : Worked db db') : Onward db db' := by
  constructor
  · intro t ht hcompleted
    have hterminal : t.status.terminal = true := by rw [hcompleted]; rfl
    exact ⟨t, h.absorbing ht hterminal, .refl t, hcompleted⟩
  · obtain ⟨more, hcustomers⟩ := h.customers
    intro customer hcustomer
    rw [hcustomers]
    exact List.mem_append_left _ hcustomer
  · obtain ⟨added, hadded, -⟩ := h.subscriptions
    intro subscription hsubscription
    use subscription
    rw [hadded]
    exact ⟨List.mem_append_left _ hsubscription, rfl, rfl, rfl⟩

theorem CaptivePortalActivationService.Activated.onward {runtime : Runtime} {transactionId : ℕ}
    {first : Outside} {landed : ℕ → Bool}
    (h : Activated runtime transactionId first landed db db' radius radius') : Onward db db' := by
  constructor
  · intro t ht hcompleted
    obtain ⟨t', ht', horder, hstatus⟩ := h.kept ht
    exact ⟨t', ht', horder, hstatus.trans hcompleted⟩
  · rw [h.others (by decide)]
    exact fun _ hcustomer => hcustomer
  · intro subscription hsubscription
    rcases h.subscriptions with hsame | ⟨_, _, _, _, _, hpurchase, -, -, hrows⟩
    · rw [hsame]
      exact ⟨subscription, hsubscription, rfl, rfl, rfl⟩
    · exact later_of_started hpurchase.subscribed hsubscription hrows

theorem Assigned.onward {assignment : Assignment} (h : Assigned assignment db db') :
    Onward db db' := by
  constructor
  · rw [h.others .transactions (by decide)]
    exact fun t ht hcompleted => ⟨t, ht, .refl t, hcompleted⟩
  · rw [h.others .customers (by decide)]
    exact fun _ hcustomer => hcustomer
  · intro subscription hsubscription
    have hafter := h.subscriptions
    generalize hrows : db'.rows .subscriptions = rows at hafter
    cases hafter with
    | unchanged => exact ⟨subscription, hsubscription, rfl, rfl, rfl⟩
    | added => exact ⟨subscription, List.mem_append_left _ hsubscription, rfl, rfl, rfl⟩
    | started time hstartable _ =>
      rw [← hrows]
      exact later_of_started hstartable.1 hsubscription hrows

/-- A payment for rows that stay as they are. -/
theorem PaidFor.onward (h : PaidFor runtimes db radius phone t) (honward : Onward db db')
    (hradius : radius'.checksOf phone = radius.checksOf phone ∧
      radius'.groupsOf phone = radius.groupsOf phone) :
    ∃ t', PaidFor runtimes db' radius' phone t' := by
  obtain ⟨t', ht', horder, hcompleted⟩ := honward.payments t h.stored h.completed
  obtain ⟨customer, hcustomer, hcustomerId, hphone⟩ := h.owner
  obtain ⟨subscription, hsubscription, hlink, hgroups, hchecks⟩ := h.provisioned
  obtain ⟨later, hlater, hid, -, hpackage⟩ := honward.subscriptions subscription hsubscription
  use t', ht', hcompleted
  · use customer, honward.customers customer hcustomer
    rw [horder.customerId]
    exact ⟨hcustomerId, hphone⟩
  · use later, hlater
    rw [horder.subscriptionId, hid, hpackage, hradius.1, hradius.2]
    exact ⟨hlink, hgroups, hchecks⟩

theorem Paid.onward (h : Paid runtimes db radius phone) (honward : Onward db db')
    (hradius : radius'.checksOf phone = radius.checksOf phone ∧
      radius'.groupsOf phone = radius.groupsOf phone) : Paid runtimes db' radius' phone := by
  rcases h with ⟨hchecks, hgroups⟩ | ⟨t, hpaid⟩
  · left
    rw [hradius.1, hradius.2]
    exact ⟨hchecks, hgroups⟩
  · exact Or.inr (hpaid.onward honward hradius)

/-- Of a phone's checks, none or the password. -/
theorem Paid.other_checks (h : Paid runtimes db radius phone) :
    ((radius.checksOf phone).filter fun row => ¬row.attributeName = cleartextPassword) = [] := by
  rcases h with ⟨hchecks, -⟩ | ⟨t, hpaid⟩
  · rw [hchecks]
    rfl
  · obtain ⟨subscription, -, -, -, runtime, -, hchecks⟩ := hpaid.provisioned
    rw [hchecks, List.filter_singleton, decide_eq_false (not_not.mpr rfl), cond_false]

/-- A purchase provisions the phone of its customer with its own subscription. -/
theorem paidFor_provisioned {runtime : Runtime} {transactionId : ℕ} {subscription : Subscription}
    {customer : Customer} {package : Package} (h : Paid runtimes db radius customer.phone)
    (hruntime : runtime ∈ runtimes)
    (hpurchase : Purchase db transactionId t subscription customer package) :
    PaidFor runtimes db (provisioned runtime subscription customer package radius) customer.phone
      t where
  stored := hpurchase.stored
  completed := hpurchase.completed
  owner := ⟨customer, hpurchase.enrolled, hpurchase.customerId, rfl⟩
  provisioned := by
    use subscription, hpurchase.subscribed, hpurchase.subscriptionId
    rw [provisioned, RadiusDb.groupsOf_provisionUser, RadiusDb.checksOf_provisionUser,
      h.other_checks, List.nil_append, hpurchase.packageId]
    exact ⟨rfl, runtime, hruntime, rfl⟩

/-- An activation writes the rows of a phone that paid, or none. -/
theorem Paid.activated {runtime : Runtime} {transactionId : ℕ} {first : Outside}
    {landed : ℕ → Bool} (h : ∀ phone, Paid runtimes db radius phone) (hruntime : runtime ∈ runtimes)
    (heffect : Activated runtime transactionId first landed db db' radius radius')
    (phone : String) : Paid runtimes db' radius' phone := by
  rcases heffect.users with ⟨hagree, -⟩ | ⟨t, subscription, customer, package, hpurchase, -, hagree⟩
  · exact (h phone).onward heffect.onward (hagree phone)
  · have hprovisioned : Paid runtimes db (provisioned runtime subscription customer package radius)
        phone := by
      by_cases hphone : phone = customer.phone
      · subst hphone
        exact Or.inr ⟨t, paidFor_provisioned (h customer.phone) hruntime hpurchase⟩
      · rw [Paid]
        apply (h phone).onward (.of_rows fun _ _ => rfl)
        rw [provisioned, RadiusDb.checksOf_provisionUser_of_ne hphone,
          RadiusDb.groupsOf_provisionUser_of_ne hphone]
        exact ⟨rfl, rfl⟩
    exact hprovisioned.onward heffect.onward (hagree phone)

end Onward

/-! ## The books -/

/-- An assignment writes subscriptions and vouchers. -/
abbrev assigning : Footprint Table Row Request :=
  Footprint.within (· ∈ [.subscriptions, .offlineVouchers])

section Within

variable {tenantId customerId : ℕ}

theorem SubscriptionService.all_activate {subscriptionId : ℕ} :
    (activate tenantId subscriptionId).All assigning.Allows := by
  apply Prog.All.bind (all_getByIdForUpdate _ _)
  intro found
  apply Prog.All.bind (Prog.all_orRaise _ _)
  intro subscription
  apply Prog.All.bind (Prog.all_require _ _)
  intro _
  apply Prog.All.bind (all_getById _ _)
  intro listed
  apply Prog.All.bind (Prog.all_orRaise _ _)
  intro package
  apply Prog.All.bind all_now
  intro time
  exact all_updateRow List.mem_cons_self

theorem SubscriptionService.all_requireCustomerAndPackage {packageId : ℕ} :
    (requireCustomerAndPackage tenantId customerId packageId).All assigning.Allows := by
  apply Prog.All.bind (all_getById _ _)
  intro customer
  apply Prog.All.bind (Prog.all_orRaise _ _)
  intro _
  apply Prog.All.bind (all_getById _ _)
  intro listed
  apply Prog.All.bind (Prog.all_orRaise _ _)
  intro package
  apply Prog.All.bind (Prog.all_require _ _)
  exact fun _ => trivial

theorem SubscriptionService.all_createFor {package : Package} {voucherId : Option ℕ} :
    (createFor tenantId customerId package voucherId).All assigning.Allows := by
  apply Prog.All.bind (all_create fun _ => List.mem_cons_self)
  intro subscription
  split
  · exact SubscriptionService.all_activate
  · trivial

theorem VoucherService.all_redeem {code : String} :
    (redeem tenantId code customerId).All assigning.Allows := by
  apply Prog.All.bind (all_selectOneForUpdate _)
  intro found
  apply Prog.All.bind (Prog.all_orRaise _ _)
  intro voucher
  apply Prog.All.bind (Prog.all_require _ _)
  intro _
  apply Prog.All.bind (all_getById _ _)
  intro customer
  apply Prog.All.bind (Prog.all_orRaise _ _)
  intro _
  apply Prog.All.bind (all_getById _ _)
  intro found
  apply Prog.All.bind (Prog.all_orRaise _ _)
  intro batch
  apply Prog.All.bind (all_getById _ _)
  intro listed
  apply Prog.All.bind (Prog.all_orRaise _ _)
  intro package
  apply Prog.All.bind (Prog.all_require _ _)
  intro _
  apply Prog.All.bind SubscriptionService.all_createFor
  intro subscription
  apply Prog.All.bind all_now
  intro time
  apply Prog.All.bind (all_updateRow (List.mem_cons_of_mem _ List.mem_cons_self))
  exact fun _ => trivial

theorem Assignment.all_program (assignment : Assignment) :
    assignment.program.All assigning.Allows := by
  cases assignment with
  | create tenantId customerId packageId =>
    refine Prog.All.bind ?_ fun _ => trivial
    apply Prog.All.bind SubscriptionService.all_requireCustomerAndPackage
    exact fun _ => SubscriptionService.all_createFor
  | activate tenantId subscriptionId =>
    exact Prog.All.bind SubscriptionService.all_activate fun _ => trivial
  | redeem tenantId code customerId =>
    exact Prog.All.bind VoucherService.all_redeem fun _ => trivial

/-- An assignment leaves every other table alone. -/
theorem Assignment.rows_of_ne (assignment : Assignment) {outside : Outside} {world : PlatformWorld}
    {table : Table} (htable : table ∉ [.subscriptions, .offlineVouchers]) :
    (transact outside assignment.program world).2.db.rows table = world.db.rows table := by
  have halways : Always (fun _ => false)
      (fun _ => Within (· ∈ [.subscriptions, .offlineVouchers]) ⟨world.db, []⟩)
      (fun _ => Within (· ∈ [.subscriptions, .offlineVouchers]) ⟨world.db, []⟩)
      assignment.program ⟨world.db, []⟩ := always_within assignment.all_program
  rcases transact_db outside halways with ⟨_, hwithin⟩ | hsame
  · exact hwithin.1 table htable
  · exact congrArg (fun db : PlatformDb => db.rows table) hsame

end Within

/-- An activation changes neither the order nor the status of a payment. -/
theorem Ledgered.activated {runtime : Runtime} {transactionId : ℕ} {first : Outside}
    {landed : ℕ → Bool} {db db' : PlatformDb} {radius radius' : RadiusDb} (h : Ledgered db)
    (heffect : Activated runtime transactionId first landed db db' radius radius') :
    Ledgered db' := by
  have hledger : db'.rows .ledgerEntries = db.rows .ledgerEntries := heffect.others (by decide)
  constructor
  · intro t' ht'
    obtain ⟨t, ht, horder, hstatus⟩ := heffect.sameStatus ht'
    apply (h.accounted t ht).congr
    · rw [horder.id]
      exact referring_of_rows hledger t.id
    · exact horder.amount
    · rw [hstatus]
  · intro entry hentry hentryType
    rw [hledger] at hentry
    obtain ⟨t, ht, hreference⟩ := h.referred entry hentry hentryType
    obtain ⟨t', ht', horder, -⟩ := heffect.kept ht
    exact ⟨t', ht', by rw [hreference, horder.id]⟩

/-! ## Runs -/

/-- What every step keeps. -/
structure PaidUp (runtimes : Set Runtime) (state : AccessState) : Prop where
  ledgered : Ledgered state.world.db
  paid : ∀ phone, Paid runtimes state.world.db state.radius phone

theorem CreditStep.rows_of_rate {tenantId : ℕ} {rate : Decimal} {actorId : Option ℕ}
    {notes : Option String} {outside : Outside} {world : PlatformWorld} {tables : List Table}
    (htables : .tenantCommercialTerms ∉ tables) :
    ∀ table ∈ tables, ((setCommissionRate tenantId rate actorId notes outside).next world).db.rows
      table = world.db.rows table := by
  intro table htable
  apply rows_setCommissionRate
  rintro rfl
  exact htables htable

theorem Ledgered.step {step : BusinessStep} {state : AccessState} (h : Ledgered state.world.db) :
    Ledgered (step.next state).world.db := by
  cases step with
  | service step =>
    cases step with
    | access step =>
      cases step with
      | payment work runtime outside =>
        exact ((works runtime outside state.world work).1.credits h).1
      | activation runtime transactionId first second landed =>
        exact h.activated (CaptivePortalActivationService.activated runtime transactionId first
          second landed state.radius state.world)
    | assign assignment outside =>
      apply h.of_rows
      intro table htable
      apply assignment.rows_of_ne
      revert htable
      cases table <;> decide
  | setCommissionRate tenantId rate actorId notes outside =>
    exact h.of_rows (CreditStep.rows_of_rate (by decide))

theorem PaidUp.step {runtimes : Set Runtime} {step : BusinessStep} {state : AccessState}
    (hruntimes : step.runtimes ⊆ runtimes) (h : PaidUp runtimes state) :
    PaidUp runtimes (step.next state) := by
  refine ⟨h.ledgered.step, fun phone => ?_⟩
  cases step with
  | service step =>
    cases step with
    | access step =>
      cases step with
      | payment work runtime outside =>
        obtain ⟨hworked, -⟩ := works runtime outside state.world work
        exact (h.paid phone).onward hworked.onward ⟨rfl, rfl⟩
      | activation runtime transactionId first second landed =>
        have heffect :=
          activated runtime transactionId first second landed state.radius state.world
        exact Paid.activated h.paid (hruntimes rfl) heffect phone
    | assign assignment outside =>
      exact (h.paid phone).onward (assigned assignment outside state.world).onward ⟨rfl, rfl⟩
  | setCommissionRate tenantId rate actorId notes outside =>
    exact (h.paid phone).onward (.of_rows (CreditStep.rows_of_rate (by decide))) ⟨rfl, rfl⟩

/-- Whoever has a row in the RADIUS database has its password and its group from a subscription
whose payment is completed and in the ledger. -/
def OnlyPaid (runtimes : Set Runtime) (state : AccessState) : Prop :=
  ∀ phone, state.radius.checksOf phone ≠ [] ∨ state.radius.groupsOf phone ≠ [] →
    ∃ t, PaidFor runtimes state.world.db state.radius phone t ∧
      ∃ collection fee share, Entered state.world.db t collection fee share

theorem PaidUp.onlyPaid {runtimes : Set Runtime} {state : AccessState}
    (h : PaidUp runtimes state) : OnlyPaid runtimes state := by
  intro phone hrows
  rcases h.paid phone with ⟨hchecks, hgroups⟩ | ⟨t, hpaid⟩
  · exact absurd hrows (by simp [hchecks, hgroups])
  · use t, hpaid
    have haccounted := h.ledgered.accounted t hpaid.stored
    rwa [Accounted, if_pos hpaid.completed] at haccounted

/-- From an empty RADIUS database, and no payments, on, only users who paid are ever in it. -/
theorem only_paid {steps : List BusinessStep} {state : AccessState}
    (htransactions : state.world.db.rows .transactions = [])
    (hledger : ∀ entry ∈ state.world.db.rows .ledgerEntries, entry.entryType ∉ collectedTypes)
    (hradcheck : state.radius.radcheck = []) (hradusergroup : state.radius.radusergroup = []) :
    Runs.All BusinessStep.next
      (fun step state => OnlyPaid { runtime | ∃ step ∈ steps, runtime ∈ step.runtimes }
        (step.next state)) steps state := by
  have hruntimes : ∀ step ∈ steps,
      step.runtimes ⊆ { runtime | ∃ step ∈ steps, runtime ∈ step.runtimes } :=
    fun step hstep runtime hruntime => ⟨step, hstep, hruntime⟩
  apply @Runs.All.of_invariant _ _ _ _ _ _
    (PaidUp { runtime | ∃ step ∈ steps, runtime ∈ step.runtimes }) _ _
    (Runs.All.of_forall (fun step hstep _ => hruntimes step hstep) state)
  · constructor
    · constructor
      · simp [htransactions]
      · exact fun entry hentry hentryType => absurd hentryType (hledger entry hentry)
    · intro phone
      left
      simp [RadiusDb.checksOf, RadiusDb.groupsOf, hradcheck, hradusergroup]
  · intro step state hruntimes h
    exact ⟨(h.step hruntimes).onlyPaid, h.step hruntimes⟩

/-- A visitor pays for a package, a member of the tenant adds a second one, and the rate
changes. -/
theorem only_paid_extended :
    Runs.All BusinessStep.next
      (fun step state => OnlyPaid
        { runtime | ∃ step ∈ extendedSteps.map .service ++
            [.setCommissionRate 1 7 none none (PayoutService.answering [])],
          runtime ∈ BusinessStep.runtimes step } (step.next state))
      (extendedSteps.map .service ++
        [.setCommissionRate 1 7 none none (PayoutService.answering [])])
      ⟨⟨retailDb, []⟩, emptyRadius⟩ := by
  apply only_paid rfl _ rfl rfl
  intro entry hentry
  cases hentry

end InfinityRadius.Services
