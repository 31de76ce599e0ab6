import InfinityRadius.Services.CaptiveActivation

/-!
# What an activation does

The two requests that provision access, in their order, and the rows of a paid
transaction and its subscription, read and written around them.
-/

namespace InfinityRadius.Services

open Database Program Sql Models

/-! ## Provisioning -/

section Provisioning

variable {settings : Settings} {access : Access} {world : PlatformWorld} {request : Request}

/-- `describe_transport`, nothing where it is unavailable. -/
def describeTransport (settings : Settings) : Option RadiusTransport :=
  if agentAvailable settings then some .networkAgent
  else if directDbAvailable settings then some .directDatabase
  else none

/-- The requests of one provisioning, and whether it succeeded. -/
inductive Provisioned (settings : Settings) (access : Access) :
    Bool → List (Request × HttpResult) → Prop
  | unavailable (h : describeTransport settings = none) : Provisioned settings access false []
  | notSynced (transport : RadiusTransport) (synced : HttpResult)
      (htransport : describeTransport settings = some transport)
      (hsynced : succeeded transport synced = false) :
      Provisioned settings access false [(access.syncRequest transport, synced)]
  | refused (transport : RadiusTransport) (synced provisioned : HttpResult)
      (htransport : describeTransport settings = some transport)
      (hsynced : succeeded transport synced = true)
      (hprovisioned : succeeded transport provisioned = false) :
      Provisioned settings access false
        [(access.syncRequest transport, synced), (access.userRequest transport, provisioned)]
  | granted (transport : RadiusTransport) (synced provisioned : HttpResult)
      (htransport : describeTransport settings = some transport)
      (hsynced : succeeded transport synced = true)
      (hprovisioned : succeeded transport provisioned = true) :
      Provisioned settings access true
        [(access.syncRequest transport, synced), (access.userRequest transport, provisioned)]

theorem always_agentRequest {returns : Unit → PlatformWorld → Prop}
    {raises : Failure → PlatformWorld → Prop}
    (hreturns : ∀ answer, succeeded .networkAgent answer = true →
      returns () { world with sent := world.sent ++ [(request, answer)] })
    (hraises : ∀ e answer, succeeded .networkAgent answer = false →
      raises e { world with sent := world.sent ++ [(request, answer)] }) :
    Always (fun _ => false) returns raises (agentRequest request) world := by
  apply always_bind.mpr
  apply always_sendRequest.mpr
  intro answer
  cases answer with
  | transportError detail => exact hraises _ _ rfl
  | response statusCode body =>
    by_cases hmissing : statusCode = 404
    · simp only [hmissing, if_true]
      exact hraises _ _ rfl
    · by_cases hfailed : 400 ≤ statusCode
      · simp only [hmissing, hfailed, if_true, if_false]
        apply always_bind.mpr
        apply always_ask.mpr
        intro text
        apply hraises
        simp [succeeded, hfailed]
      · simp only [hmissing, hfailed, if_false]
        cases body with
        | none => exact hraises _ _ (by simp [succeeded])
        | some body => exact hreturns _ (by simp [succeeded, Nat.lt_of_not_le hfailed])

theorem always_directRequest {returns : Unit → PlatformWorld → Prop}
    {raises : Failure → PlatformWorld → Prop}
    (hreturns : ∀ answer, succeeded .directDatabase answer = true →
      returns () { world with sent := world.sent ++ [(request, answer)] })
    (hraises : ∀ e answer, succeeded .directDatabase answer = false →
      raises e { world with sent := world.sent ++ [(request, answer)] }) :
    Always (fun _ => false) returns raises (directRequest request) world := by
  apply always_bind.mpr
  apply always_sendRequest.mpr
  intro answer
  cases answer with
  | transportError detail => exact hraises _ _ rfl
  | response statusCode body => exact hreturns _ rfl

theorem always_provisionAccess :
    Always (fun _ => false)
      (fun _ world' => world'.db = world.db ∧
        ∃ more, world'.sent = world.sent ++ more ∧ Provisioned settings access true more)
      (fun _ world' => world'.db = world.db ∧
        ∃ more, world'.sent = world.sent ++ more ∧ Provisioned settings access false more)
      (provisionAccess settings access) world := by
  rw [provisionAccess]
  split
  · rename_i hagent
    have htransport : describeTransport settings = some .networkAgent := if_pos hagent
    apply always_bind.mpr
    apply always_tryCatch.mpr
    apply always_bind.mpr
    apply always_agentRequest
    · intro synced hsynced
      apply always_agentRequest
      · intro provisioned hprovisioned
        exact ⟨rfl, _, List.append_assoc _ _ _,
          .granted _ synced provisioned htransport hsynced hprovisioned⟩
      · intro e provisioned hprovisioned
        cases e <;> exact ⟨rfl, _, List.append_assoc _ _ _,
          .refused _ synced provisioned htransport hsynced hprovisioned⟩
    · intro e synced hsynced
      cases e <;> exact ⟨rfl, _, rfl, .notSynced _ synced htransport hsynced⟩
  · rename_i hagent
    split
    · rename_i hdirect
      have htransport : describeTransport settings = some .directDatabase := by
        rw [describeTransport, if_neg hagent, if_pos hdirect]
      apply always_bind.mpr
      apply always_directRequest
      · intro synced hsynced
        apply always_bind.mpr
        apply always_directRequest
        · intro provisioned hprovisioned
          exact ⟨rfl, _, List.append_assoc _ _ _,
            .granted _ synced provisioned htransport hsynced hprovisioned⟩
        · intro _ provisioned hprovisioned
          exact ⟨rfl, _, List.append_assoc _ _ _,
            .refused _ synced provisioned htransport hsynced hprovisioned⟩
      · intro _ synced hsynced
        exact ⟨rfl, _, rfl, .notSynced _ synced htransport hsynced⟩
    · rename_i hdirect
      apply always_throw.mpr
      use rfl, [], (List.append_nil _).symm
      apply Provisioned.unavailable
      rw [describeTransport, if_neg hagent, if_neg hdirect]

end Provisioning

/-! ## Subscriptions -/

/-- The subscription once its access starts. -/
def Subscription.started (subscription : Subscription) (package : Package)
    (activatedAt : Timestamp) : Subscription :=
  { subscription with
    status := .active
    activatedAt := some activatedAt
    expiresAt := SubscriptionService.expiresAt package activatedAt }

/-- A pending subscription of the tenant, and its package. -/
def Startable (db : PlatformDb) (tenantId : ℕ) (subscription : Subscription)
    (package : Package) : Prop :=
  subscription ∈ db.rows .subscriptions ∧ subscription.tenantId = tenantId ∧
    subscription.status = .pending ∧ package ∈ db.rows .packages ∧
    package.id = subscription.packageId ∧ package.tenantId = tenantId

/-- The failures of an activation that did not come to provisioning. -/
def Unattempted (e : Failure) : Prop := ∀ reason, e ≠ .activationFailed reason

section Activate

variable {tenantId subscriptionId : ℕ} {world : PlatformWorld}

theorem always_activateSubscription :
    Always (fun _ => false)
      (fun started world' => ∃ subscription package time,
        Startable world.db tenantId subscription package ∧ subscription.id = subscriptionId ∧
        started = Subscription.started subscription package time ∧
        Db.Replaced .subscriptions started world.db world'.db ∧ world'.sent = world.sent)
      (fun e world' => world' = world ∧ Unattempted e ∧ ∀ subscription package,
        Startable world.db tenantId subscription package → subscription.id ≠ subscriptionId)
      (SubscriptionService.activate tenantId subscriptionId) world := by
  apply always_bind.mpr
  apply always_getByIdForUpdate rfl
  · intro subscription hsubscription htenant hid
    rw [Prog.orRaise_some, Prog.pure_bind]
    have htenant : subscription.tenantId = tenantId := by simpa [ofTenant, rowTenant] using htenant
    have hid : subscription.id = subscriptionId := hid
    have hsame : ∀ other package, Startable world.db tenantId other package →
        other.id = subscriptionId → other = subscription := fun other _ hother hother' =>
      world.db.id_injOn hother.1 hsubscription (hother'.trans hid.symm)
    apply always_bind.mpr
    apply always_require
    · intro hpending
      apply always_bind.mpr
      apply always_getById rfl
      · intro package hpackage hpackageTenant hpackageId
        rw [Prog.orRaise_some, Prog.pure_bind]
        have hpackageTenant : package.tenantId = tenantId := by
          simpa [ofTenant, rowTenant] using hpackageTenant
        apply always_bind.mpr
        apply always_now.mpr
        intro time
        apply always_updateRow (t := .subscriptions) rfl hsubscription rfl fun _ => rfl
        · intro db _ hreplaced
          exact ⟨subscription, package, time,
            ⟨hsubscription, htenant, hpending, hpackage, hpackageId, hpackageTenant⟩, hid, rfl,
            hreplaced, rfl⟩
        · intro hinvalid
          cases hinvalid
      · intro hnone
        use rfl, fun _ h => by cases h
        intro other package hother hother'
        obtain rfl := hsame other package hother hother'
        exact hnone package hother.2.2.2.1 (by simp [ofTenant, rowTenant, hother.2.2.2.2.2])
          hother.2.2.2.2.1
    · intro hnot
      use rfl, fun _ h => by cases h
      intro other package hother hother'
      obtain rfl := hsame other package hother hother'
      exact hnot hother.2.2.1
  · intro hnone
    use rfl, fun _ h => by cases h
    intro other package hother hother'
    exact hnone other hother.1 (by simp [ofTenant, rowTenant, hother.2.1]) hother'

end Activate

/-! ## Paid transactions -/

namespace CaptivePortalActivationService

/-- The rows an activation reads, which let it grant access. -/
structure Purchase (db : PlatformDb) (transactionId : ℕ) (t : Transaction)
    (subscription : Subscription) (customer : Customer) (package : Package) : Prop where
  stored : t ∈ db.rows .transactions
  id : t.id = transactionId
  completed : t.status = .completed
  notActive : t.activationStatus ≠ some .active
  subscribed : subscription ∈ db.rows .subscriptions
  subscriptionId : t.subscriptionId = some subscription.id
  enrolled : customer ∈ db.rows .customers
  customerId : t.customerId = some customer.id
  listed : package ∈ db.rows .packages
  packageId : package.id = subscription.packageId
  startable : subscription.status = .pending →
    subscription.tenantId = t.tenantId ∧ package.tenantId = t.tenantId

section Unique

variable {db : PlatformDb} {transactionId : ℕ} {t t' : Transaction}
  {subscription subscription' : Subscription} {customer customer' : Customer}
  {package package' : Package}

/-- There is at most one purchase to a transaction. -/
theorem Purchase.unique (h : Purchase db transactionId t subscription customer package)
    (h' : Purchase db transactionId t' subscription' customer' package') :
    t = t' ∧ subscription = subscription' ∧ customer = customer' ∧ package = package' := by
  obtain rfl : t = t' := db.id_injOn h.stored h'.stored (h.id.trans h'.id.symm)
  obtain rfl : subscription = subscription' := by
    apply db.id_injOn h.subscribed h'.subscribed
    exact Option.some.inj (h.subscriptionId.symm.trans h'.subscriptionId)
  obtain rfl : customer = customer' := by
    apply db.id_injOn h.enrolled h'.enrolled
    exact Option.some.inj (h.customerId.symm.trans h'.customerId)
  obtain rfl : package = package' :=
    db.id_injOn h.listed h'.listed (h.packageId.trans h'.packageId.symm)
  exact ⟨rfl, rfl, rfl, rfl⟩

end Unique

/-- The transaction once access was granted. -/
def granted (t : Transaction) (time : Timestamp) : Transaction :=
  { t with activationStatus := some .active, activatedAt := some time }

/-- What a granted access changes. -/
structure Granted (db db' : PlatformDb) (t : Transaction) (subscription : Subscription)
    (package : Package) : Prop where
  transactions : ∃ time, db'.rows .transactions =
    replaceRow schema .transactions (granted t time) (db.rows .transactions)
  subscriptions :
    (subscription.status = .pending ∧ ∃ time, db'.rows .subscriptions =
      replaceRow schema .subscriptions (Subscription.started subscription package time)
        (db.rows .subscriptions)) ∨
    (subscription.status ≠ .pending ∧ db'.rows .subscriptions = db.rows .subscriptions)
  others : ∀ table, table ∉ [.transactions, .subscriptions] → db'.rows table = db.rows table

section Activate

variable {runtime : Runtime} {transactionId : ℕ} {t : Transaction} {subscription : Subscription}
  {customer : Customer} {package : Package} {world : PlatformWorld}

theorem always_requireAccess {settings : Settings} {access : Access} :
    Always (fun _ => false)
      (fun _ world' => world'.db = world.db ∧
        ∃ more, world'.sent = world.sent ++ more ∧ Provisioned settings access true more)
      (fun e world' => (∃ reason, e = .activationFailed reason) ∧
        ∃ more, world'.sent = world.sent ++ more ∧ Provisioned settings access false more)
      (requireAccess settings access) world := by
  apply always_tryCatch.mpr
  apply always_provisionAccess.mono
  · exact fun _ _ h => h
  · exact fun _ _ h => ⟨⟨_, rfl⟩, h.2⟩

theorem always_startPending {returns : Subscription → PlatformWorld → Prop}
    {raises : Failure → PlatformWorld → Prop} (hsubscribed : subscription ∈ world.db.rows .subscriptions)
    (hlisted : package ∈ world.db.rows .packages) (hpackageId : package.id = subscription.packageId)
    (hstartable : subscription.status = .pending →
      subscription.tenantId = t.tenantId ∧ package.tenantId = t.tenantId)
    (hstarted : subscription.status = .pending → ∀ time db,
      Db.Replaced .subscriptions (Subscription.started subscription package time) world.db db →
      returns (Subscription.started subscription package time) { world with db })
    (hkept : subscription.status ≠ .pending → returns subscription world) :
    Always (fun _ => false) returns raises
      (startPending t.tenantId subscription) world := by
  rw [startPending]
  split
  · rename_i hpending
    obtain ⟨htenant, hpackageTenant⟩ := hstartable hpending
    apply always_activateSubscription.mono
    · rintro _ ⟨db, sent⟩ ⟨other, otherPackage, time, hother, hid, rfl, hreplaced, rfl⟩
      obtain rfl : other = subscription := world.db.id_injOn hother.1 hsubscribed hid
      obtain rfl : otherPackage = package :=
        world.db.id_injOn hother.2.2.2.1 hlisted (hother.2.2.2.2.1.trans hpackageId.symm)
      exact hstarted hpending time db hreplaced
    · rintro _ _ ⟨-, -, hnone⟩
      exact absurd rfl (hnone subscription package
        ⟨hsubscribed, htenant, hpending, hlisted, hpackageId, hpackageTenant⟩)
  · rename_i hpending
    exact hkept hpending

/-- What is left once the subscription is active: the requests and the last update. -/
theorem always_provision {db : PlatformDb} {started : Subscription}
    (hpurchase : Purchase world.db transactionId t subscription customer package)
    (hactivating : Db.Replaced .transactions { t with activationStatus := some .activating }
      world.db db)
    (hid : started.id = subscription.id) {middle : PlatformDb}
    (htransactions : middle.rows .transactions = db.rows .transactions)
    (hsubscriptions :
      (subscription.status = .pending ∧ ∃ time, middle.rows .subscriptions =
        replaceRow schema .subscriptions (Subscription.started subscription package time)
          (world.db.rows .subscriptions)) ∨
      (subscription.status ≠ .pending ∧
        middle.rows .subscriptions = world.db.rows .subscriptions))
    (hothers : ∀ table, table ∉ [.transactions, .subscriptions] →
      middle.rows table = world.db.rows table) :
    Always (fun _ => false)
      (fun status world' => status = .active ∧ Granted world.db world'.db t subscription package ∧
        ∃ more, world'.sent = world.sent ++ more ∧
          Provisioned runtime.settings (accessOf runtime subscription customer package) true more)
      (fun e world' => (∃ reason, e = .activationFailed reason) ∧
        ∃ more, world'.sent = world.sent ++ more ∧
          Provisioned runtime.settings (accessOf runtime subscription customer package) false more)
      (provision runtime { t with activationStatus := some .activating } started customer package)
      ⟨middle, world.sent⟩ := by
  have haccess : accessOf runtime started customer package =
      accessOf runtime subscription customer package := by
    rw [accessOf, accessOf, hid]
  rw [provision, haccess]
  have hmem : { t with activationStatus := some .activating } ∈ middle.rows .transactions := by
    rw [htransactions]
    exact hactivating.mem hpurchase.stored rfl
  apply always_bind.mpr
  apply always_requireAccess.mono
  · rintro _ ⟨_, sent⟩ ⟨rfl, hsent⟩
    apply always_bind.mpr
    apply always_now.mpr
    intro time
    apply always_bind.mpr
    apply always_updateTransaction rfl hmem
    · constructor <;> rfl
    · intro final _ hgranted
      refine ⟨rfl, ⟨⟨time, ?_⟩, ?_, fun table htable => ?_⟩, hsent⟩
      · rw [hgranted.rows_self, htransactions, hactivating.rows_self]
        exact replaceRow_replaceRow rfl
      · rw [hgranted.rows_of_ne (by decide)]
        exact hsubscriptions
      · rw [hgranted.rows_of_ne fun heq => htable (by simp [heq])]
        exact hothers table htable
    · intro hinvalid
      have hvalid := world.db.valid .transactions t hpurchase.stored
      exact absurd hvalid (by simpa [rowValid] using hinvalid)
  · exact fun _ _ h => h

/-- The access of the rows that were read. -/
theorem always_grant (hpurchase : Purchase world.db transactionId t subscription customer package) :
    Always (fun _ => false)
      (fun status world' => status = .active ∧ Granted world.db world'.db t subscription package ∧
        ∃ more, world'.sent = world.sent ++ more ∧
          Provisioned runtime.settings (accessOf runtime subscription customer package) true more)
      (fun e world' => (∃ reason, e = .activationFailed reason) ∧
        ∃ more, world'.sent = world.sent ++ more ∧
          Provisioned runtime.settings (accessOf runtime subscription customer package) false more)
      (grant runtime t subscription customer package) world := by
  apply always_bind.mpr
  apply always_updateTransaction rfl hpurchase.stored
  · constructor <;> rfl
  · intro db _ hactivating
    have hsubscriptions : db.rows .subscriptions = world.db.rows .subscriptions :=
      hactivating.rows_of_ne (by decide)
    have hpackages : db.rows .packages = world.db.rows .packages :=
      hactivating.rows_of_ne (by decide)
    apply always_bind.mpr
    apply always_startPending
    · exact hsubscriptions ▸ hpurchase.subscribed
    · exact hpackages ▸ hpurchase.listed
    · exact hpurchase.packageId
    · exact hpurchase.startable
    · intro hpending time middle hstarted
      apply always_provision hpurchase hactivating
      · rfl
      · exact hstarted.rows_of_ne (by decide)
      · left
        use hpending, time
        rw [hstarted.rows_self, hsubscriptions]
      · intro table htable
        simp only [List.mem_cons, List.not_mem_nil, or_false, not_or] at htable
        rw [hstarted.rows_of_ne htable.2, hactivating.rows_of_ne htable.1]
    · intro hpending
      apply always_provision hpurchase hactivating
      · rfl
      · rfl
      · exact Or.inr ⟨hpending, hsubscriptions⟩
      · intro table htable
        simp only [List.mem_cons, List.not_mem_nil, or_false, not_or] at htable
        exact hactivating.rows_of_ne htable.1
  · intro hinvalid
    have hvalid := world.db.valid .transactions t hpurchase.stored
    exact absurd hvalid (by simpa [rowValid] using hinvalid)

/-- A pending subscription of another tenant is refused before anything is requested. -/
theorem always_grant_refused (ht : t ∈ world.db.rows .transactions)
    (hsubscribed : subscription ∈ world.db.rows .subscriptions)
    (hlisted : package ∈ world.db.rows .packages) (hpackageId : package.id = subscription.packageId)
    (hpending : subscription.status = .pending)
    (hother : ¬(subscription.tenantId = t.tenantId ∧ package.tenantId = t.tenantId)) :
    Always (fun _ => false) (fun _ _ => False)
      (fun e world' => world'.sent = world.sent ∧ Unattempted e)
      (grant runtime t subscription customer package) world := by
  apply always_bind.mpr
  apply always_updateTransaction rfl ht
  · constructor <;> rfl
  · intro db _ hactivating
    have hsubscriptions : db.rows .subscriptions = world.db.rows .subscriptions :=
      hactivating.rows_of_ne (by decide)
    have hpackages : db.rows .packages = world.db.rows .packages :=
      hactivating.rows_of_ne (by decide)
    apply always_bind.mpr
    rw [startPending, if_pos hpending]
    apply always_activateSubscription.mono
    · rintro _ _ ⟨found, foundPackage, time, hfound, hid, -⟩
      obtain ⟨hmem, htenant, -, hlistedFound, hfoundId, hfoundTenant⟩ := hfound
      obtain rfl : found = subscription :=
        world.db.id_injOn (hsubscriptions ▸ hmem) hsubscribed hid
      obtain rfl : foundPackage = package :=
        world.db.id_injOn (hpackages ▸ hlistedFound) hlisted (hfoundId.trans hpackageId.symm)
      exact absurd ⟨htenant, hfoundTenant⟩ hother
    · rintro _ _ ⟨rfl, hunattempted, -⟩
      exact ⟨rfl, hunattempted⟩
  · intro hinvalid
    have hvalid := world.db.valid .transactions t ht
    exact absurd hvalid (by simpa [rowValid] using hinvalid)

theorem always_loadPurchase {subscriptionId customerId : ℕ} :
    Always (fun _ => false)
      (fun (found : Subscription × Customer × Package) world' => world' = world ∧
        found.1 ∈ world.db.rows .subscriptions ∧ found.1.id = subscriptionId ∧
        found.2.1 ∈ world.db.rows .customers ∧ found.2.1.id = customerId ∧
        found.2.2 ∈ world.db.rows .packages ∧ found.2.2.id = found.1.packageId)
      (fun e world' => world' = world ∧ Unattempted e ∧
        ∀ subscription ∈ world.db.rows .subscriptions, ∀ customer ∈ world.db.rows .customers,
        ∀ package ∈ world.db.rows .packages, subscription.id = subscriptionId →
          customer.id = customerId → package.id ≠ subscription.packageId)
      (loadPurchase subscriptionId customerId) world := by
  apply always_bind.mpr
  apply always_selectById (t := .subscriptions) rfl
  · intro subscription hsubscribed hsubscription
    rw [Prog.orRaise_some, Prog.pure_bind]
    apply always_bind.mpr
    apply always_selectById (t := .customers) rfl
    · intro customer henrolled hcustomer
      rw [Prog.orRaise_some, Prog.pure_bind]
      apply always_bind.mpr
      apply always_selectById (t := .packages) rfl
      · intro package hlisted hpackage
        exact ⟨rfl, hsubscribed, hsubscription, henrolled, hcustomer, hlisted, hpackage⟩
      · intro hnone
        use rfl, fun _ h => by cases h
        intro other hother _ _ package hpackage hid _
        obtain rfl := world.db.id_injOn hother hsubscribed (hid.trans hsubscription.symm)
        exact hnone package hpackage
    · intro hnone
      use rfl, fun _ h => by cases h
      exact fun _ _ customer hcustomer _ _ _ hid => absurd hid (hnone customer hcustomer)
  · intro hnone
    use rfl, fun _ h => by cases h
    exact fun subscription hsubscription _ _ _ _ hid =>
      absurd hid (hnone subscription hsubscription)

/-- How an activation ends: access was granted before, is granted now, or is not. -/
theorem always_activate :
    Always (fun _ => false)
      (fun status world' => status = .active ∧
        ((world' = world ∧ ∃ t ∈ world.db.rows .transactions, t.id = transactionId ∧
          t.status = .completed ∧ t.activationStatus = some .active) ∨
        ∃ t subscription customer package more,
          Purchase world.db transactionId t subscription customer package ∧
          Granted world.db world'.db t subscription package ∧
          world'.sent = world.sent ++ more ∧
          Provisioned runtime.settings (accessOf runtime subscription customer package) true
            more))
      (fun e world' =>
        (world'.sent = world.sent ∧ Unattempted e ∧ ∀ t subscription customer package,
          ¬Purchase world.db transactionId t subscription customer package) ∨
        ((∃ reason, e = .activationFailed reason) ∧ ∃ t subscription customer package more,
          Purchase world.db transactionId t subscription customer package ∧
          world'.sent = world.sent ++ more ∧
          Provisioned runtime.settings (accessOf runtime subscription customer package) false
            more))
      (activate runtime transactionId) world := by
  apply always_bind.mpr
  apply always_getByIdForUpdate rfl
  · intro t ht _ hid
    have hsame : ∀ other subscription customer package,
        Purchase world.db transactionId other subscription customer package → other = t :=
      fun other _ _ _ hother => world.db.id_injOn hother.stored ht (hother.id.trans hid.symm)
    rw [Prog.orRaise_some, Prog.pure_bind]
    apply always_bind.mpr
    apply always_require
    · intro hcompleted
      split
      · rename_i hactive
        exact ⟨rfl, Or.inl ⟨rfl, t, ht, hid, hcompleted, hactive⟩⟩
      · rename_i hnotActive
        split
        · rename_i subscriptionId customerId hsubscriptionId hcustomerId
          apply always_bind.mpr
          apply always_loadPurchase.mono
          · rintro ⟨subscription, customer, package⟩ middle
              ⟨hmiddle, hsubscribed, rfl, henrolled, rfl, hlisted, hpackageId⟩
            rw [hmiddle]
            by_cases hstartable : subscription.status = .pending →
                subscription.tenantId = t.tenantId ∧ package.tenantId = t.tenantId
            · have hpurchase : Purchase world.db transactionId t subscription customer package :=
                ⟨ht, hid, hcompleted, hnotActive, hsubscribed, hsubscriptionId, henrolled,
                  hcustomerId, hlisted, hpackageId, hstartable⟩
              apply (always_grant hpurchase).mono
              · rintro status world' ⟨rfl, hgranted, more, hsent, hprovisioned⟩
                exact ⟨rfl, Or.inr ⟨t, subscription, customer, package, more, hpurchase, hgranted,
                  hsent, hprovisioned⟩⟩
              · rintro e world' ⟨hfailed, more, hsent, hprovisioned⟩
                exact Or.inr ⟨hfailed, t, subscription, customer, package, more, hpurchase, hsent,
                  hprovisioned⟩
            · obtain ⟨hpending, hother⟩ := Classical.not_imp.mp hstartable
              apply (always_grant_refused ht hsubscribed hlisted hpackageId hpending hother).mono
              · exact fun _ _ h => h.elim
              · rintro e world' ⟨hsent, hunattempted⟩
                left
                use hsent, hunattempted
                intro other otherSubscription _ otherPackage hpurchase
                obtain rfl := hsame _ _ _ _ hpurchase
                obtain rfl := world.db.id_injOn hpurchase.subscribed hsubscribed
                  (Option.some.inj (hpurchase.subscriptionId.symm.trans hsubscriptionId))
                obtain rfl := world.db.id_injOn hpurchase.listed hlisted
                  (hpurchase.packageId.trans hpackageId.symm)
                exact hother (hpurchase.startable hpending)
          · rintro e middle ⟨hmiddle, hunattempted, hnone⟩
            left
            use by rw [hmiddle], hunattempted
            intro other subscription customer package hpurchase
            obtain rfl := hsame _ _ _ _ hpurchase
            apply hnone subscription hpurchase.subscribed customer hpurchase.enrolled package
              hpurchase.listed
            · exact Option.some.inj (hpurchase.subscriptionId.symm.trans hsubscriptionId)
            · exact Option.some.inj (hpurchase.customerId.symm.trans hcustomerId)
            · exact hpurchase.packageId
        · rename_i hmissing
          left
          use rfl, fun _ h => by cases h
          intro other subscription customer package hpurchase
          obtain rfl := hsame _ _ _ _ hpurchase
          exact hmissing _ _ hpurchase.subscriptionId hpurchase.customerId
    · intro hcompleted
      left
      use rfl, fun _ h => by cases h
      intro other _ _ _ hother
      obtain rfl := hsame _ _ _ _ hother
      exact hcompleted hother.completed
  · intro hnone
    left
    use rfl, fun _ h => by cases h
    intro other _ _ _ hother
    exact hnone other hother.stored rfl hother.id

theorem always_recordFailure {reason : String} :
    Always (fun _ => false)
      (fun status world' => status = .failed ∧ world'.sent = world.sent ∧
        ∃ t ∈ world.db.rows .transactions, t.id = transactionId ∧
          Db.Replaced .transactions { t with activationStatus := some .failed } world.db
            world'.db)
      (fun _ world' => world'.sent = world.sent)
      (recordFailure transactionId reason) world := by
  apply always_bind.mpr
  apply always_getByIdForUpdate rfl
  · intro t ht _ hid
    rw [Prog.orRaise_some, Prog.pure_bind]
    apply always_bind.mpr
    apply always_updateTransaction rfl ht
    · constructor <;> rfl
    · intro db _ hreplaced
      apply always_bind.mpr
      apply always_writeAuditLog
      · exact ⟨rfl, rfl, t, ht, hid, hreplaced⟩
      · rfl
    · exact fun _ => rfl
  · exact fun _ => rfl

/-! ## Both transactions -/

/-- What `run_activation` commits and requests. -/
inductive Ran (runtime : Runtime) (transactionId : ℕ) (db : PlatformDb) :
    Except Failure ActivationStatus → PlatformDb → List (Request × HttpResult) → Prop
  | already {t : Transaction} (ht : t ∈ db.rows .transactions) (hid : t.id = transactionId)
      (hcompleted : t.status = .completed) (hactive : t.activationStatus = some .active) :
      Ran runtime transactionId db (.ok .active) db []
  | granted {t : Transaction} {subscription : Subscription} {customer : Customer}
      {package : Package} {db' : PlatformDb} {more : List (Request × HttpResult)}
      (hpurchase : Purchase db transactionId t subscription customer package)
      (hgranted : Granted db db' t subscription package)
      (hprovisioned : Provisioned runtime.settings
        (accessOf runtime subscription customer package) true more) :
      Ran runtime transactionId db (.ok .active) db' more
  | unattempted {e : Failure} (hnone : ∀ t subscription customer package,
        ¬Purchase db transactionId t subscription customer package) :
      Ran runtime transactionId db (.error e) db []
  | failed {t : Transaction} {subscription : Subscription} {customer : Customer}
      {package : Package} {db' : PlatformDb} {more : List (Request × HttpResult)}
      (hpurchase : Purchase db transactionId t subscription customer package)
      (hprovisioned : Provisioned runtime.settings
        (accessOf runtime subscription customer package) false more)
      (hrecorded : Db.Replaced .transactions { t with activationStatus := some .failed } db db') :
      Ran runtime transactionId db (.ok .failed) db' more
  | unrecorded {t : Transaction} {subscription : Subscription} {customer : Customer}
      {package : Package} {more : List (Request × HttpResult)} {e : Failure}
      (hpurchase : Purchase db transactionId t subscription customer package)
      (hprovisioned : Provisioned runtime.settings
        (accessOf runtime subscription customer package) false more) :
      Ran runtime transactionId db (.error e) db more

/-- Every request of an activation provisions the access of its purchase. -/
theorem Ran.requests {db db' : PlatformDb} {result : Except Failure ActivationStatus}
    {more : List (Request × HttpResult)} (h : Ran runtime transactionId db result db' more) :
    (more = [] ∧ ∀ t subscription customer package,
      ¬Purchase db transactionId t subscription customer package) ∨
    ∃ t subscription customer package ok,
      Purchase db transactionId t subscription customer package ∧
      Provisioned runtime.settings (accessOf runtime subscription customer package) ok more := by
  cases h with
  | @already active hactiveStored hid hcompleted hactive =>
    left
    use rfl
    intro t _ _ _ hpurchase
    obtain rfl : t = active :=
      db.id_injOn hpurchase.stored hactiveStored (hpurchase.id.trans hid.symm)
    exact hpurchase.notActive hactive
  | unattempted hnone => exact Or.inl ⟨rfl, hnone⟩
  | granted hpurchase _ hprovisioned => exact Or.inr ⟨_, _, _, _, _, hpurchase, hprovisioned⟩
  | failed hpurchase hprovisioned _ => exact Or.inr ⟨_, _, _, _, _, hpurchase, hprovisioned⟩
  | unrecorded hpurchase hprovisioned => exact Or.inr ⟨_, _, _, _, _, hpurchase, hprovisioned⟩

variable (runtime transactionId world) in
/-- The first transaction, where nothing follows it. -/
theorem transact_activate (first : Outside) :
    Ran runtime transactionId world.db (transact first (activate runtime transactionId) world).1
      (transact first (activate runtime transactionId) world).2.db
      (exchanges first (activate runtime transactionId) world.db) := by
  have halways : Always (fun _ => false) _ _ (activate runtime transactionId) ⟨world.db, []⟩ :=
    always_activate
  rcases transact_ends first halways with
    ⟨status, hresult, rfl, ⟨hworld, t, ht, hid, hcompleted, hactive⟩ | hgranted⟩ |
    ⟨e, db, hresult, hdb, ⟨hsent, hunattempted, hnone⟩ | ⟨hfailed, hpurchase⟩⟩
  · injection hworld with hdb hsent
    rw [hresult, hdb, hsent]
    exact .already ht hid hcompleted hactive
  · obtain ⟨t, subscription, customer, package, more, hpurchase, hgranted, hsent, hprovisioned⟩ :=
      hgranted
    have hsent : exchanges first (activate runtime transactionId) world.db = more := hsent
    rw [hresult, hsent]
    exact .granted hpurchase hgranted hprovisioned
  · have hsent : exchanges first (activate runtime transactionId) world.db = [] := hsent
    rw [hresult, hdb, hsent]
    exact .unattempted hnone
  · obtain ⟨t, subscription, customer, package, more, hpurchase, hsent, hprovisioned⟩ := hpurchase
    have hsent : exchanges first (activate runtime transactionId) world.db = more := hsent
    rw [hresult, hdb, hsent]
    exact .unrecorded hpurchase hprovisioned

/-- Only an activation that raised after requests says that it failed to provision. -/
theorem transact_activate_failed {first : Outside} {reason : String}
    (h : (transact first (activate runtime transactionId) world).1 =
      .error (.activationFailed reason)) :
    ∃ t subscription customer package,
      Purchase world.db transactionId t subscription customer package ∧
      Provisioned runtime.settings (accessOf runtime subscription customer package) false
        (exchanges first (activate runtime transactionId) world.db) := by
  have halways : Always (fun _ => false) _ _ (activate runtime transactionId) ⟨world.db, []⟩ :=
    always_activate
  rcases transact_ends first halways with ⟨_, hresult, -⟩ |
    ⟨e, db, hresult, -, ⟨-, hunattempted, -⟩ |
      ⟨-, t, subscription, customer, package, more, hpurchase, hsent, hprovisioned⟩⟩
  · rw [hresult] at h
    cases h
  · rw [hresult] at h
    exact absurd (Except.error.inj h) (hunattempted reason)
  · have hsent : exchanges first (activate runtime transactionId) world.db = more := hsent
    rw [← hsent] at hprovisioned
    exact ⟨t, subscription, customer, package, hpurchase, hprovisioned⟩

variable (runtime transactionId world) in
/-- What both transactions of an activation commit and request. -/
theorem ran (first second : Outside) :
    Ran runtime transactionId world.db (runActivation runtime transactionId first second world).1
      (runActivation runtime transactionId first second world).2.db
      (exchanges first (activate runtime transactionId) world.db) ∧
    (runActivation runtime transactionId first second world).2.sent =
      world.sent ++ exchanges first (activate runtime transactionId) world.db := by
  have hsent := transact_sent first (activate runtime transactionId) world
  rw [runActivation]
  split
  · rename_i reason failed hfailed
    have hresult : (transact first (activate runtime transactionId) world).1 =
        .error (.activationFailed reason) := by rw [hfailed]
    have hdb := transact_db_of_error hresult
    obtain ⟨t, subscription, customer, package, hpurchase, hprovisioned⟩ :=
      transact_activate_failed hresult
    rw [hfailed] at hdb hsent
    have hquiet : exchanges second (recordFailure transactionId reason) failed.db = [] :=
      exchanges_of_always second (· = []) (always_recordFailure.mono
        (fun _ _ h => h.2.1) fun _ _ h => h)
    constructor
    · have halways : Always (fun _ => false) _ _ (recordFailure transactionId reason)
          ⟨failed.db, []⟩ := always_recordFailure
      rcases transact_ends second halways with
        ⟨_, hended, rfl, -, recorded, hrecorded, hid, hreplaced⟩ | ⟨e, _, hended, hkept, -⟩
      · rw [hdb] at hrecorded hreplaced
        obtain rfl : recorded = t :=
          world.db.id_injOn hrecorded hpurchase.stored (hid.trans hpurchase.id.symm)
        rw [hended]
        exact .failed hpurchase hprovisioned hreplaced
      · rw [hended, hkept, hdb]
        exact .unrecorded hpurchase hprovisioned
    · rw [transact_sent, hquiet, List.append_nil]
      exact hsent
  · exact ⟨transact_activate runtime transactionId world first, hsent⟩

end Activate

end CaptivePortalActivationService

end InfinityRadius.Services
