import InfinityRadius.Services.PaidTime

/-!
# Access of active subscriptions

A payment that is activated provisions its user.  A subscription that a member of the tenant or
a voucher activates provisions nobody, and one phone is one user, whoever the customer is.
-/

namespace InfinityRadius.Services

open Database Program Sql Models CaptivePortalActivationService

/-! ## Subscriptions without a payment -/

/-- The requests of a member of the tenant that make a subscription, or activate one. -/
inductive Assignment
  | create (tenantId customerId packageId : ℕ)
  | activate (tenantId subscriptionId : ℕ)
  | redeem (tenantId : ℕ) (code : String) (customerId : ℕ)

/-- The tenant sells the package to its customer, to be used from now on. -/
structure Immediate (db : PlatformDb) (tenantId customerId : ℕ) (package : Package) : Prop where
  enrolled : ∃ customer ∈ db.rows .customers, customer.tenantId = tenantId ∧
    customer.id = customerId
  listed : package ∈ db.rows .packages
  tenantId : package.tenantId = tenantId
  status : package.status = .active
  activationType : package.activationType = .immediate

namespace Assignment

def program : Assignment → Tx Unit
  | create tenantId customerId packageId => do
    let _ ← SubscriptionService.create tenantId customerId packageId
  | activate tenantId subscriptionId => do
    let _ ← SubscriptionService.activate tenantId subscriptionId
  | redeem tenantId code customerId => do
    let _ ← VoucherService.redeem tenantId code customerId

/-- The request is one that makes a subscription of the customer active. -/
def Activates (db : PlatformDb) (customerId : ℕ) : Assignment → Prop
  | create tenantId owner packageId => owner = customerId ∧
    ∃ package, Immediate db tenantId customerId package ∧ package.id = packageId
  | activate tenantId subscriptionId => ∃ subscription package,
    Startable db tenantId subscription package ∧ subscription.id = subscriptionId ∧
      subscription.customerId = customerId
  | redeem tenantId code owner => owner = customerId ∧
    ∃ voucher ∈ db.rows .offlineVouchers, voucher.tenantId = tenantId ∧ voucher.code = code ∧
      voucher.status = .unused ∧
    ∃ batch ∈ db.rows .voucherBatches, batch.tenantId = tenantId ∧ batch.id = voucher.batchId ∧
    ∃ package, Immediate db tenantId customerId package ∧ package.id = batch.packageId

end Assignment

/-- What an assignment makes of the subscriptions. -/
inductive SubscriptionsAfter (assignment : Assignment) (db : PlatformDb) :
    List Subscription → Prop
  | unchanged : SubscriptionsAfter assignment db (db.rows .subscriptions)
  | added {subscription : Subscription}
      (henrolled : ∃ customer ∈ db.rows .customers, customer.id = subscription.customerId)
      (hstatus : subscription.status = .active →
        assignment.Activates db subscription.customerId) :
      SubscriptionsAfter assignment db (db.rows .subscriptions ++ [subscription])
  | started {tenantId : ℕ} {subscription : Subscription} {package : Package} (time : Timestamp)
      (hstartable : Startable db tenantId subscription package)
      (hactivates : assignment.Activates db subscription.customerId) :
      SubscriptionsAfter assignment db (replaceRow schema .subscriptions
        (Subscription.started subscription package time) (db.rows .subscriptions))

/-- What an assignment makes of the platform. -/
structure Assigned (assignment : Assignment) (db db' : PlatformDb) : Prop where
  subscriptions : SubscriptionsAfter assignment db (db'.rows .subscriptions)
  others : ∀ table ∈ [.transactions, .customers], db'.rows table = db.rows table

section Assigned

variable {assignment : Assignment} {db db' : PlatformDb} {world : PlatformWorld}
  {tenantId customerId : ℕ} {package : Package}

theorem Assigned.refl (assignment : Assignment) (db : PlatformDb) : Assigned assignment db db :=
  ⟨.unchanged, fun _ _ => rfl⟩

/-- One subscription is added, active where the package is used from now on. -/
theorem always_createFor {voucherId : Option ℕ} :
    Always (fun _ => false)
      (fun subscription world' => subscription.customerId = customerId ∧
        (subscription.status = .active → package.activationType = .immediate) ∧
        world'.db.rows .subscriptions = world.db.rows .subscriptions ++ [subscription] ∧
        ∀ table, table ≠ .subscriptions → world'.db.rows table = world.db.rows table)
      (fun _ _ => True) (SubscriptionService.createFor tenantId customerId package voucherId)
      world := by
  apply always_bind.mpr
  apply always_create rfl
  · rintro subscription db rfl hfresh happended
    split
    · rename_i himmediate
      apply always_activateSubscription.mono
      · rintro _ ⟨db', sent⟩ ⟨other, otherPackage, time, hother, hid, rfl, hreplaced, -⟩
        obtain rfl : other = _ := db.id_injOn hother.1 happended.mem hid
        use rfl, fun _ => himmediate
        constructor
        · rw [hreplaced.rows_self]
          exact happended.replaceRow hfresh rfl
        · intro table hne
          rw [hreplaced.rows_of_ne hne, happended.rows_of_ne hne]
      · exact fun _ _ _ => trivial
    · apply always_pure.mpr
      use rfl, fun h => by cases h
      exact ⟨happended.rows_self, fun table hne => happended.rows_of_ne hne⟩
  · exact fun _ => trivial

/-- The checks of a new subscription come before anything is written. -/
theorem always_requireCustomerAndPackage {packageId : ℕ} :
    Always (fun _ => false)
      (fun package world' => world' = world ∧
        (∃ customer ∈ world.db.rows .customers, customer.tenantId = tenantId ∧
          customer.id = customerId) ∧
        package ∈ world.db.rows .packages ∧ package.tenantId = tenantId ∧
        package.status = .active ∧ package.id = packageId)
      (fun _ _ => True)
      (SubscriptionService.requireCustomerAndPackage tenantId customerId packageId) world := by
  apply always_bind.mpr
  apply always_getById rfl
  · intro customer hcustomer hcustomerTenant hcustomerId
    rw [Prog.orRaise_some, Prog.pure_bind]
    apply always_bind.mpr
    apply always_getById rfl
    · intro package hpackage htenant hid
      rw [Prog.orRaise_some, Prog.pure_bind]
      apply always_bind.mpr
      apply always_require
      · intro hactive
        apply always_pure.mpr
        use rfl
        constructor
        · exact ⟨customer, hcustomer, by simpa [ofTenant, rowTenant] using hcustomerTenant,
            hcustomerId⟩
        · exact ⟨hpackage, by simpa [ofTenant, rowTenant] using htenant, hactive, hid⟩
      · exact fun _ => trivial
    · exact fun _ => trivial
  · exact fun _ => trivial

/-- The request of a member of the tenant. -/
theorem always_createAssigned {packageId : ℕ} :
    Always (fun _ => false)
      (fun _ world' => Assigned (.create tenantId customerId packageId) world.db world'.db)
      (fun _ _ => True) (SubscriptionService.create tenantId customerId packageId) world := by
  apply always_bind.mpr
  apply always_requireCustomerAndPackage.mono
  · rintro package _ ⟨rfl, hcustomer, hpackage, htenant, hactive, hid⟩
    apply always_createFor.mono
    · rintro subscription ⟨db, sent⟩ ⟨rfl, himmediate, hrows, hothers⟩
      constructor
      · rw [hrows]
        apply SubscriptionsAfter.added
        · obtain ⟨customer, henrolled, -, hid⟩ := hcustomer
          exact ⟨customer, henrolled, hid⟩
        · intro hstarted
          exact ⟨rfl, package, ⟨hcustomer, hpackage, htenant, hactive, himmediate hstarted⟩, hid⟩
      · intro table htable
        apply hothers
        rintro rfl
        exact absurd htable (by decide)
    · exact fun _ _ _ => trivial
  · exact fun _ _ _ => trivial

theorem always_activateAssigned {subscriptionId : ℕ} :
    Always (fun _ => false)
      (fun _ world' => Assigned (.activate tenantId subscriptionId) world.db world'.db)
      (fun _ _ => True) (SubscriptionService.activate tenantId subscriptionId) world := by
  apply always_activateSubscription.mono
  · rintro _ ⟨db, sent⟩ ⟨subscription, package, time, hstartable, hid, rfl, hreplaced, -⟩
    constructor
    · rw [hreplaced.rows_self]
      exact .started time hstartable ⟨subscription, package, hstartable, hid, rfl⟩
    · intro table htable
      apply hreplaced.rows_of_ne
      rintro rfl
      exact absurd htable (by decide)
  · exact fun _ _ _ => trivial

/-- A voucher is redeemed for its package. -/
theorem always_redeemAssigned {code : String} :
    Always (fun _ => false)
      (fun _ world' => Assigned (.redeem tenantId code customerId) world.db world'.db)
      (fun _ _ => True) (VoucherService.redeem tenantId code customerId) world := by
  apply always_bind.mpr
  apply always_selectOneForUpdate_found rfl
  · intro voucher hvoucher hmatches
    obtain ⟨hvoucherTenant, hcode⟩ : voucher.tenantId = tenantId ∧ voucher.code = code := by
      simpa using hmatches
    rw [Prog.orRaise_some, Prog.pure_bind]
    apply always_bind.mpr
    apply always_require
    · intro hunused
      apply always_bind.mpr
      apply always_getById rfl
      · intro customer hcustomer hcustomerTenant hcustomerId
        have hcustomerTenant : customer.tenantId = tenantId := by
          simpa [ofTenant, rowTenant] using hcustomerTenant
        rw [Prog.orRaise_some, Prog.pure_bind]
        apply always_bind.mpr
        apply always_getById rfl
        · intro batch hbatch hbatchTenant hbatchId
          have hbatchTenant : batch.tenantId = tenantId := by
            simpa [ofTenant, rowTenant] using hbatchTenant
          rw [Prog.orRaise_some, Prog.pure_bind]
          apply always_bind.mpr
          apply always_getById rfl
          · intro package hpackage htenant hid
            have htenant : package.tenantId = tenantId := by
              simpa [ofTenant, rowTenant] using htenant
            rw [Prog.orRaise_some, Prog.pure_bind]
            apply always_bind.mpr
            apply always_require
            · intro hactive
              apply always_bind.mpr
              apply always_createFor.mono
              · rintro subscription ⟨middle, sent⟩ ⟨rfl, himmediate, hrows, hothers⟩
                apply always_bind.mpr
                apply always_now.mpr
                intro time
                apply always_bind.mpr
                apply always_updateRow_within rfl
                · rintro _ ⟨db, _⟩ ⟨hkept, -⟩
                  apply always_pure.mpr
                  have hcustomers : ∃ customer ∈ world.db.rows .customers,
                      customer.tenantId = tenantId ∧ customer.id = subscription.customerId :=
                    ⟨customer, hcustomer, hcustomerTenant, hcustomerId⟩
                  constructor
                  · rw [hkept .subscriptions (by decide), hrows]
                    apply SubscriptionsAfter.added
                    · exact ⟨customer, hcustomer, hcustomerId⟩
                    · intro hstarted
                      use rfl, voucher, hvoucher, hvoucherTenant, hcode, hunused
                      use batch, hbatch, hbatchTenant, hbatchId, package
                      exact ⟨⟨hcustomers, hpackage, htenant, hactive, himmediate hstarted⟩, hid⟩
                  · intro table htable
                    rw [hkept table (by rintro rfl; exact absurd htable (by decide))]
                    apply hothers
                    rintro rfl
                    exact absurd htable (by decide)
                · trivial
              · exact fun _ _ _ => trivial
            · exact fun _ => trivial
          · exact fun _ => trivial
        · exact fun _ => trivial
      · exact fun _ => trivial
    · exact fun _ => trivial
  · trivial
  · trivial

theorem always_assigned :
    Always (fun _ => false) (fun _ world' => Assigned assignment world.db world'.db)
      (fun _ _ => True) assignment.program world := by
  cases assignment with
  | create tenantId customerId packageId =>
    apply always_bind.mpr
    exact always_createAssigned.mono (fun _ _ h => always_pure.mpr h) fun _ _ _ => trivial
  | activate tenantId subscriptionId =>
    apply always_bind.mpr
    exact always_activateAssigned.mono (fun _ _ h => always_pure.mpr h) fun _ _ _ => trivial
  | redeem tenantId code customerId =>
    apply always_bind.mpr
    exact always_redeemAssigned.mono (fun _ _ h => always_pure.mpr h) fun _ _ _ => trivial

/-- A request that raises is rolled back. -/
theorem assigned (assignment : Assignment) (outside : Outside) (world : PlatformWorld) :
    Assigned assignment world.db (transact outside assignment.program world).2.db := by
  rcases transact_ends outside (@always_assigned assignment ⟨world.db, []⟩) with
    ⟨_, -, hassigned⟩ | ⟨_, _, -, hsame, -⟩
  · exact hassigned
  · rw [hsame]
    exact .refl assignment world.db

/-- An active subscription stays as it is. -/
theorem Assigned.kept (h : Assigned assignment db db') {subscription : Subscription}
    (hmem : subscription ∈ db.rows .subscriptions) (hactive : subscription.status = .active) :
    subscription ∈ db'.rows .subscriptions := by
  have hafter := h.subscriptions
  generalize db'.rows .subscriptions = rows at hafter ⊢
  cases hafter with
  | unchanged => exact hmem
  | added => exact List.mem_append_left _ hmem
  | started time hstartable hactivates =>
    apply mem_replaceRow_of_ne hmem
    intro hid
    obtain rfl := db.id_injOn hmem hstartable.1 hid
    cases hactive.symm.trans hstartable.2.2.1

/-- An active subscription was active before, or is one that the request activates. -/
theorem Assigned.active (h : Assigned assignment db db') {subscription : Subscription}
    (hmem : subscription ∈ db'.rows .subscriptions) (hactive : subscription.status = .active) :
    subscription ∈ db.rows .subscriptions ∨
      assignment.Activates db subscription.customerId := by
  have hafter := h.subscriptions
  generalize db'.rows .subscriptions = rows at hafter hmem
  cases hafter with
  | unchanged => exact Or.inl hmem
  | added henrolled hstatus =>
    rcases List.mem_append.mp hmem with hold | hnew
    · exact Or.inl hold
    · obtain rfl := List.mem_singleton.mp hnew
      exact Or.inr (hstatus hactive)
  | started time hstartable hactivates =>
    rcases mem_replaceRow hmem with rfl | ⟨hold, -⟩
    · exact Or.inr hactivates
    · exact Or.inl hold

/-- Payments keep their customers. -/
theorem Linked.assigned (h : Linked db) (hassigned : Assigned assignment db db') :
    Linked db' := by
  have hafter := hassigned.subscriptions
  constructor
  · intro subscription hmem
    rw [hassigned.others .customers (by decide)]
    generalize db'.rows .subscriptions = rows at hafter hmem
    cases hafter with
    | unchanged => exact h.enrolled subscription hmem
    | added henrolled hstatus =>
      rcases List.mem_append.mp hmem with hold | hnew
      · exact h.enrolled subscription hold
      · obtain rfl := List.mem_singleton.mp hnew
        exact henrolled
    | @started _ started package time hstartable hactivates =>
      rcases mem_replaceRow hmem with rfl | ⟨hold, -⟩
      · exact h.enrolled started hstartable.1
      · exact h.enrolled subscription hold
  · intro t ht id hid
    rw [hassigned.others .transactions (by decide)] at ht
    obtain ⟨subscription, hmem, rfl, hcustomer, hstatus⟩ := h.bought t ht id hid
    generalize db'.rows .subscriptions = rows at hafter
    cases hafter with
    | unchanged => exact ⟨subscription, hmem, rfl, hcustomer, hstatus⟩
    | added => exact ⟨subscription, List.mem_append_left _ hmem, rfl, hcustomer, hstatus⟩
    | @started _ started package time hstartable hactivates =>
      by_cases hsame : subscription.id = started.id
      · obtain rfl := db.id_injOn hmem hstartable.1 hsame
        exact ⟨_, mem_replaceRow_self hmem rfl, rfl, hcustomer, Or.inr rfl⟩
      · exact ⟨subscription, mem_replaceRow_of_ne hmem hsame, rfl, hcustomer, hstatus⟩

end Assigned

/-! ## Access -/

/-- The customer has an active subscription for the package. -/
def Entitled (db : PlatformDb) (customerId packageId : ℕ) : Prop :=
  ∃ subscription ∈ db.rows .subscriptions, subscription.status = .active ∧
    subscription.customerId = customerId ∧ subscription.packageId = packageId

/-- The phone has a password, and the group of a package the customer is entitled to. -/
def Admits (db : PlatformDb) (radius : RadiusDb) (customer : Customer) : Prop :=
  radius.passwordsOf customer.phone ≠ [] ∧
    ∃ row ∈ radius.groupsOf customer.phone, ∃ packageId,
      row.groupname = radiusGroupName packageId ∧ Entitled db customer.id packageId

/-- Whoever has an active subscription is admitted. -/
def Accessible (db : PlatformDb) (radius : RadiusDb) : Prop :=
  ∀ subscription ∈ db.rows .subscriptions, subscription.status = .active →
    ∃ customer ∈ db.rows .customers, customer.id = subscription.customerId ∧
      Admits db radius customer

section Accessible

variable {db db' : PlatformDb} {radius radius' : RadiusDb} {customer : Customer}

theorem Admits.mono (h : Admits db radius customer)
    (hkept : ∀ subscription ∈ db.rows .subscriptions, subscription.status = .active →
      subscription ∈ db'.rows .subscriptions)
    (hradius : radius'.checksOf customer.phone = radius.checksOf customer.phone ∧
      radius'.groupsOf customer.phone = radius.groupsOf customer.phone) :
    Admits db' radius' customer := by
  obtain ⟨hpasswords, row, hrow, packageId, hgroup, subscription, hmem, hactive, hids⟩ := h
  rw [Admits, RadiusDb.passwordsOf, hradius.1, hradius.2]
  use hpasswords, row, hrow, packageId, hgroup, subscription
  exact ⟨hkept subscription hmem hactive, hactive, hids⟩

theorem Accessible.worked (h : Accessible db radius) (hworked : Worked db db') :
    Accessible db' radius := by
  obtain ⟨added, hadded, hnew⟩ := hworked.subscriptions
  obtain ⟨more, hcustomers⟩ := hworked.customers
  intro subscription hmem hactive
  rw [hadded] at hmem
  rcases List.mem_append.mp hmem with hold | hmem
  · obtain ⟨customer, hcustomer, hid, hadmits⟩ := h subscription hold hactive
    use customer
    rw [hcustomers]
    use List.mem_append_left _ hcustomer, hid
    apply hadmits.mono _ ⟨rfl, rfl⟩
    rw [hadded]
    exact fun _ hmem _ => List.mem_append_left _ hmem
  · cases (hnew subscription hmem).1.symm.trans hactive

/-- A request for customers who are admitted already. -/
theorem Accessible.assigned {assignment : Assignment} (h : Accessible db radius)
    (hassigned : Assigned assignment db db')
    (hserved : ∀ customerId, assignment.Activates db customerId →
      ∃ packageId, Entitled db customerId packageId) : Accessible db' radius := by
  have hadmitted : ∀ subscription ∈ db.rows .subscriptions, subscription.status = .active →
      ∃ customer ∈ db'.rows .customers, customer.id = subscription.customerId ∧
        Admits db' radius customer := by
    intro subscription hmem hactive
    obtain ⟨customer, hcustomer, hid, hadmits⟩ := h subscription hmem hactive
    rw [hassigned.others .customers (by decide)]
    exact ⟨customer, hcustomer, hid, hadmits.mono (fun _ => hassigned.kept) ⟨rfl, rfl⟩⟩
  intro subscription hmem hactive
  rcases hassigned.active hmem hactive with hold | hactivates
  · exact hadmitted subscription hold hactive
  · obtain ⟨packageId, other, hother, hotherActive, hcustomer, -⟩ := hserved _ hactivates
    rw [← hcustomer]
    exact hadmitted other hother hotherActive

/-- The payment's customer has the phone alone, or shares it with customers who are entitled to
the same package. -/
def SoleUser (db : PlatformDb) (customer : Customer) (package : Package) : Prop :=
  ∀ other ∈ db.rows .customers, other.phone = customer.phone → Served db other →
    other.id = customer.id ∨ Entitled db other.id package.id

section Granted

variable {transactionId : ℕ} {t : Transaction} {subscription : Subscription} {package : Package}

/-- The subscription paid for is active from now on, and the others are as they were. -/
theorem CaptivePortalActivationService.Granted.active (hlinked : Linked db)
    (hpurchase : Purchase db transactionId t subscription customer package)
    (hgranted : Granted db db' t subscription package) :
    Entitled db' customer.id package.id ∧
    (∀ other ∈ db.rows .subscriptions, other.status = .active →
      other ∈ db'.rows .subscriptions) ∧
    ∀ other ∈ db'.rows .subscriptions, other.status = .active →
      other ∈ db.rows .subscriptions ∨ other.customerId = customer.id := by
  obtain ⟨hcustomer, hstatus⟩ := hlinked.purchase hpurchase
  rcases hgranted.subscriptions with ⟨hpending, time, hrows⟩ | ⟨hnotPending, hrows⟩
  · rw [Entitled, hrows]
    refine ⟨⟨_, mem_replaceRow_self hpurchase.subscribed rfl, rfl, hcustomer,
      hpurchase.packageId.symm⟩, ?_, ?_⟩
    · intro other hother hactive
      apply mem_replaceRow_of_ne hother
      intro hid
      obtain rfl := db.id_injOn hother hpurchase.subscribed hid
      cases hpending.symm.trans hactive
    · intro other hother hactive
      rcases mem_replaceRow hother with rfl | ⟨hold, -⟩
      · exact Or.inr hcustomer
      · exact Or.inl hold
  · rw [Entitled, hrows]
    refine ⟨⟨subscription, hpurchase.subscribed, hstatus.resolve_left hnotPending, hcustomer,
      hpurchase.packageId.symm⟩, fun _ hother _ => hother, fun _ hother _ => Or.inl hother⟩

/-- The user of the payment is written, with its own package. -/
theorem Accessible.granted {runtime : Runtime} (h : Accessible db radius) (hlinked : Linked db)
    (hpurchase : Purchase db transactionId t subscription customer package)
    (hgranted : Granted db db' t subscription package)
    (hradius : RadiusDb.Agree (provisioned runtime subscription customer package radius) radius')
    (hsole : SoleUser db customer package) : Accessible db' radius' := by
  have hcustomers : db'.rows .customers = db.rows .customers := hgranted.others _ (by decide)
  obtain ⟨hentitled, hkept, hactives⟩ := hgranted.active hlinked hpurchase
  -- the phone of the payment has the group of its package
  have hwritten : ∀ other ∈ db.rows .customers, other.phone = customer.phone →
      Entitled db' other.id package.id → Admits db' radius' other := by
    intro other _ hphone hother
    rw [Admits, RadiusDb.passwordsOf, (hradius _).1, (hradius _).2, hphone,
      ← RadiusDb.passwordsOf, provisioned, RadiusDb.passwordsOf_provisionUser,
      RadiusDb.groupsOf_provisionUser]
    exact ⟨List.cons_ne_nil _ _, _, List.mem_singleton_self _, package.id, rfl, hother⟩
  intro other hother hactive
  rw [hcustomers]
  by_cases hown : other.customerId = customer.id
  · use customer, hpurchase.enrolled, hown.symm
    exact hwritten customer hpurchase.enrolled rfl hentitled
  · have hold := (hactives other hother hactive).resolve_right hown
    obtain ⟨owner, howner, hid, hadmits⟩ := h other hold hactive
    use owner, howner, hid
    by_cases hphone : owner.phone = customer.phone
    · apply hwritten owner howner hphone
      rcases hsole owner howner hphone ⟨other, hold, hid.symm, hactive⟩ with hsame | hother
      · rw [hsame]
        exact hentitled
      · obtain ⟨shared, hshared, hstatus, hids⟩ := hother
        exact ⟨shared, hkept shared hshared hstatus, hstatus, hids⟩
    · apply hadmits.mono hkept
      rw [(hradius _).1, (hradius _).2, provisioned,
        RadiusDb.checksOf_provisionUser_of_ne hphone,
        RadiusDb.groupsOf_provisionUser_of_ne hphone]
      exact ⟨rfl, rfl⟩

end Granted

theorem Accessible.activated {runtime : Runtime} {transactionId : ℕ} {first : Outside}
    {landed : ℕ → Bool} (h : Accessible db radius) (hlinked : Linked db)
    (hresponds : Responds runtime.settings first)
    (hsole : ∀ t subscription customer package,
      Purchase db transactionId t subscription customer package →
      Grants runtime.settings first → SoleUser db customer package)
    (heffect : Activated runtime transactionId first landed db db' radius radius') :
    Accessible db' radius' := by
  have hcustomers : db'.rows .customers = db.rows .customers := heffect.others (by decide)
  have hsame : db'.rows .subscriptions = db.rows .subscriptions →
      RadiusDb.Agree radius radius' → Accessible db' radius' := by
    intro hrows hradius subscription hmem hactive
    rw [hrows] at hmem
    obtain ⟨customer, hcustomer, hid, hadmits⟩ := h subscription hmem hactive
    rw [hcustomers]
    use customer, hcustomer, hid
    apply hadmits.mono _ (hradius _)
    rw [hrows]
    exact fun _ hmem _ => hmem
  cases heffect with
  | unchanged hdb hradius _ => exact hsame (by rw [hdb]) hradius
  | failed _ hgrants hdb hradius =>
    rcases hradius with ⟨hlands, -⟩ | ⟨-, hradius⟩
    · exact absurd (hresponds.grants hlands) hgrants
    · apply hsame _ hradius
      rcases hdb with hdb | hrecorded
      · rw [hdb]
      · exact hrecorded.rows_of_ne (by decide)
  | granted hpurchase hgrants hgranted hradius =>
    exact h.granted hlinked hpurchase hgranted hradius (hsole _ _ _ _ hpurchase hgrants)

end Accessible

/-! ## Runs -/

/-- Payments and activations, among the requests that make subscriptions without a payment. -/
inductive ServiceStep
  | access (step : AccessStep)
  | assign (assignment : Assignment) (outside : Outside)

namespace ServiceStep

def next (step : ServiceStep) (state : AccessState) : AccessState :=
  match step with
  | access step => step.next state
  | assign assignment outside =>
    { state with world := (transact outside assignment.program state.world).2 }

def Responsive : ServiceStep → Prop
  | access step => step.Responsive
  | assign .. => True

/-- The step makes no subscription active without a payment, but for customers who have an
active one, and provisions no phone of another customer who has one, for another package. -/
def Provides (step : ServiceStep) (state : AccessState) : Prop :=
  match step with
  | access (.payment ..) => True
  | access (.activation runtime transactionId first _ _) =>
    ∀ t subscription customer package,
      Purchase state.world.db transactionId t subscription customer package →
      Grants runtime.settings first → SoleUser state.world.db customer package
  | assign assignment _ => ∀ customerId, assignment.Activates state.world.db customerId →
    ∃ packageId, Entitled state.world.db customerId packageId

end ServiceStep

theorem ServiceStep.sound {step : ServiceStep} {state : AccessState}
    (hresponsive : step.Responsive) (hprovides : step.Provides state)
    (hlinked : Linked state.world.db) (h : Accessible state.world.db state.radius) :
    Linked (step.next state).world.db ∧
      Accessible (step.next state).world.db (step.next state).radius := by
  cases step with
  | access step =>
    cases step with
    | payment work runtime outside =>
      obtain ⟨hworked, -⟩ := works runtime outside state.world work
      exact ⟨hlinked.worked hworked, h.worked hworked⟩
    | activation runtime transactionId first second landed =>
      have heffect := activated runtime transactionId first second landed state.radius state.world
      exact ⟨hlinked.activated heffect, h.activated hlinked hresponsive hprovides heffect⟩
  | assign assignment outside =>
    have hassigned := assigned assignment outside state.world
    exact ⟨hlinked.assigned hassigned, h.assigned hassigned hprovides⟩

/-- From tables without subscriptions and payments on, whoever has an active subscription is
admitted, in every run whose steps provide. -/
theorem accessible_of_provides {steps : List ServiceStep} {state : AccessState}
    (htransactions : state.world.db.rows .transactions = [])
    (hsubscriptions : state.world.db.rows .subscriptions = [])
    (hresponsive : ∀ step ∈ steps, step.Responsive)
    (hprovides : Runs.All ServiceStep.next ServiceStep.Provides steps state) :
    Runs.All ServiceStep.next
      (fun step state => Accessible (step.next state).world.db (step.next state).radius) steps
      state := by
  have hall := (Runs.All.of_forall (fun step hstep _ => hresponsive step hstep) state).and hprovides
  apply @Runs.All.of_invariant _ _ _ _ _ _
    (fun state => Linked state.world.db ∧ Accessible state.world.db state.radius) _ _ hall
  · constructor
    · constructor <;> simp [htransactions, hsubscriptions]
    · simp [Accessible, hsubscriptions]
  · rintro step state ⟨hresponsive, hprovides⟩ ⟨hlinked, h⟩
    have hnext := step.sound hresponsive hprovides hlinked h
    exact ⟨hnext.2, hnext⟩

/-! ## A package for nothing -/

/-- A visitor pays for a package, and a member of the tenant adds a second one. -/
def extendedSteps : List ServiceStep :=
  (purchase 0 "first").map .access ++
    [.assign (.create 1 0 0) (PayoutService.answering [])]

theorem extended_responsive : ∀ step ∈ extendedSteps, step.Responsive := by
  have hgranting : Responds shopRuntime.settings granting := by
    intro transport _
    cases transport <;> exact ⟨by decide, by decide⟩
  intro step hstep
  simp only [extendedSteps, purchase, List.map_cons, List.map_nil, List.cons_append,
    List.nil_append, List.mem_cons, List.not_mem_nil, or_false] at hstep
  rcases hstep with rfl | rfl | rfl | rfl | rfl <;> trivial

theorem extended_accessible :
    Runs.All ServiceStep.next
      (fun step state => Accessible (step.next state).world.db (step.next state).radius)
      extendedSteps ⟨⟨retailDb, []⟩, emptyRadius⟩ := by
  apply accessible_of_provides rfl rfl extended_responsive
  refine ⟨trivial, trivial, trivial, ?_, ?_, trivial⟩
  · rintro t subscription customer package hpurchase - other hother - -
    have honly : ∀ customer ∈ (Runs.run ServiceStep.next (extendedSteps.take 3)
        ⟨⟨retailDb, []⟩, emptyRadius⟩).world.db.rows .customers, customer.id = 0 := by
      decide +kernel
    exact Or.inl ((honly other hother).trans (honly customer hpurchase.enrolled).symm)
  · rintro customerId ⟨rfl, -⟩
    have hentitled : ∃ subscription ∈ (Runs.run ServiceStep.next (extendedSteps.take 4)
        ⟨⟨retailDb, []⟩, emptyRadius⟩).world.db.rows .subscriptions,
          subscription.status = .active ∧ subscription.customerId = 0 ∧
            subscription.packageId = 0 := by
      decide +kernel
    exact ⟨0, hentitled⟩

/-- A customer of the tenant, who bought nothing. -/
def guestRows : (t : Table) → List (Row t)
  | .customers =>
    [{ id := 0, tenantId := 1, customerNumber := "CUST-1", firstName := none, lastName := none,
       phone := "255712345678", email := none, username := none }]
  | t => retailRows t

def guestDb : PlatformDb where
  rows := guestRows
  valid t := by cases t <;> decide +kernel
  apart t := by cases t <;> decide +kernel

/-- A member of the tenant assigns the package to the guest, who has no access then. -/
theorem not_accessible_assigned :
    (ServiceStep.assign (.create 1 0 0) (PayoutService.answering [])).Responsive ∧
    ¬Runs.All ServiceStep.next
      (fun step state => Accessible (step.next state).world.db (step.next state).radius)
      [.assign (.create 1 0 0) (PayoutService.answering [])] ⟨⟨guestDb, []⟩, emptyRadius⟩ := by
  use trivial
  rintro ⟨h, -⟩
  have hactive : ∃ subscription ∈ ((ServiceStep.assign (.create 1 0 0)
      (PayoutService.answering [])).next ⟨⟨guestDb, []⟩, emptyRadius⟩).world.db.rows .subscriptions,
        subscription.status = .active := by decide +kernel
  obtain ⟨subscription, hmem, hactive⟩ := hactive
  obtain ⟨customer, -, -, hpasswords, -⟩ := h subscription hmem hactive
  exact hpasswords rfl

end InfinityRadius.Services
