import InfinityRadius.Services.RadiusIsolation
import InfinityRadius.Services.Recovery

/-!
# Payments and activations

The platform and the RADIUS database side by side, and what payments and activations make of
the rows that tie a user to what was paid for.
-/

namespace InfinityRadius.Services

open Database Payload Program Sql Models CaptivePortalActivationService

/-! ## Both databases -/

/-- The platform and the RADIUS database. -/
structure AccessState where
  world : PlatformWorld
  radius : RadiusDb

/-- `landed` tells of each RADIUS request that failed whether it was committed. -/
inductive AccessStep
  | payment (work : PaymentOperation) (runtime : Runtime) (outside : Outside)
  | activation (runtime : Runtime) (transactionId : ℕ) (first second : Outside)
      (landed : ℕ → Bool)

def AccessStep.next (step : AccessStep) (state : AccessState) : AccessState :=
  match step with
  | payment work runtime outside =>
    { state with world := (transact outside (work.program runtime) state.world).2 }
  | activation runtime transactionId first second landed =>
    ⟨(runActivation runtime transactionId first second state.world).2,
      radiusAfter runtime transactionId first second landed state.world.db state.radius⟩

/-! ### The rows of the platform -/

section Activated

variable {runtime : Runtime} {transactionId : ℕ} {first : Outside} {landed : ℕ → Bool}
  {db db' : PlatformDb} {radius radius' : RadiusDb}

theorem CaptivePortalActivationService.Activated.others
    (h : Activated runtime transactionId first landed db db' radius radius') {table : Table}
    (htable : table ∉ [.transactions, .subscriptions]) : db'.rows table = db.rows table := by
  cases h with
  | unchanged hdb _ _ => rw [hdb]
  | granted _ _ hgranted _ => exact hgranted.others table htable
  | failed _ _ hdb _ =>
    rcases hdb with hdb | hrecorded
    · rw [hdb]
    · exact hrecorded.rows_of_ne fun h => htable (h ▸ List.mem_cons_self)

theorem CaptivePortalActivationService.Activated.consistent
    (h : Activated runtime transactionId first landed db db' radius radius')
    (hdb : ∀ t ∈ db.rows .transactions, Consistent t) :
    ∀ t ∈ db'.rows .transactions, Consistent t := by
  intro t' ht'
  cases h with
  | unchanged hsame _ _ => exact hdb t' (hsame ▸ ht')
  | granted hpurchase _ hgranted _ =>
    obtain ⟨time, htransactions⟩ := hgranted.transactions
    rw [htransactions] at ht'
    rcases mem_replaceRow ht' with rfl | ⟨hother, -⟩
    · apply (hdb _ hpurchase.stored).attempted
      · constructor <;> rfl
      · rfl
      · exact hpurchase.completed
      · simp [hpurchase.subscriptionId]
      · exact Or.inr rfl
    · exact hdb t' hother
  | failed hpurchase _ hwritten _ =>
    rcases hwritten with hsame | hrecorded
    · exact hdb t' (hsame ▸ ht')
    · rw [hrecorded.rows_self] at ht'
      rcases mem_replaceRow ht' with rfl | ⟨hother, -⟩
      · apply (hdb _ hpurchase.stored).attempted
        · constructor <;> rfl
        · rfl
        · exact hpurchase.completed
        · simp [hpurchase.subscriptionId]
        · exact Or.inl rfl
      · exact hdb t' hother

/-- Access that is active afterwards was so before, or is granted now. -/
theorem CaptivePortalActivationService.Activated.active
    (h : Activated runtime transactionId first landed db db' radius radius') {t : Transaction}
    (ht : t ∈ db'.rows .transactions) (hactive : t.activationStatus = some .active) :
    t ∈ db.rows .transactions ∨
      ∃ paid subscription customer package time,
        Purchase db transactionId paid subscription customer package ∧
        Grants runtime.settings first ∧ t = CaptivePortalActivationService.granted paid time := by
  cases h with
  | unchanged hsame _ _ => exact Or.inl (hsame ▸ ht)
  | granted hpurchase hgrants hgranted _ =>
    obtain ⟨time, htransactions⟩ := hgranted.transactions
    rw [htransactions] at ht
    rcases mem_replaceRow ht with rfl | ⟨hother, -⟩
    · exact Or.inr ⟨_, _, _, _, time, hpurchase, hgrants, rfl⟩
    · exact Or.inl hother
  | failed _ _ hwritten _ =>
    rcases hwritten with hsame | hrecorded
    · exact Or.inl (hsame ▸ ht)
    · rw [hrecorded.rows_self] at ht
      rcases mem_replaceRow ht with rfl | ⟨hother, -⟩
      · cases hactive
      · exact Or.inl hother

/-- At most the subscription of a purchase changes, and starts. -/
theorem CaptivePortalActivationService.Activated.subscriptions
    (h : Activated runtime transactionId first landed db db' radius radius') :
    db'.rows .subscriptions = db.rows .subscriptions ∨
      ∃ t subscription customer package time,
        Purchase db transactionId t subscription customer package ∧
        Grants runtime.settings first ∧ subscription.status = .pending ∧
        db'.rows .subscriptions = replaceRow schema .subscriptions
          (Subscription.started subscription package time) (db.rows .subscriptions) := by
  cases h with
  | unchanged hsame _ _ => exact Or.inl (by rw [hsame])
  | granted hpurchase hgrants hgranted _ =>
    rcases hgranted.subscriptions with ⟨hpending, time, hrows⟩ | ⟨-, hrows⟩
    · exact Or.inr ⟨_, _, _, _, time, hpurchase, hgrants, hpending, hrows⟩
    · exact Or.inl hrows
  | failed _ _ hwritten _ =>
    left
    rcases hwritten with hsame | hrecorded
    · rw [hsame]
    · exact hrecorded.rows_of_ne (by decide)

/-- Where the transaction of a later state comes from. -/
theorem CaptivePortalActivationService.Activated.origin
    (h : Activated runtime transactionId first landed db db' radius radius') {t' : Transaction}
    (ht : t' ∈ db'.rows .transactions) : ∃ t ∈ db.rows .transactions, t.SameOrder t' := by
  cases h with
  | unchanged hsame _ _ => exact ⟨t', hsame ▸ ht, .refl t'⟩
  | granted hpurchase _ hgranted _ =>
    obtain ⟨time, htransactions⟩ := hgranted.transactions
    rw [htransactions] at ht
    rcases mem_replaceRow ht with rfl | ⟨hother, -⟩
    · refine ⟨_, hpurchase.stored, ?_⟩
      constructor <;> rfl
    · exact ⟨t', hother, .refl t'⟩
  | failed hpurchase _ hwritten _ =>
    rcases hwritten with hsame | hrecorded
    · exact ⟨t', hsame ▸ ht, .refl t'⟩
    · rw [hrecorded.rows_self] at ht
      rcases mem_replaceRow ht with rfl | ⟨hother, -⟩
      · refine ⟨_, hpurchase.stored, ?_⟩
        constructor <;> rfl
      · exact ⟨t', hother, .refl t'⟩

end Activated

/-! ### Who bought what -/

/-- Every subscription has its customer, and a payment for one is its customer's. -/
structure Linked (db : PlatformDb) : Prop where
  enrolled : ∀ subscription ∈ db.rows .subscriptions,
    ∃ customer ∈ db.rows .customers, customer.id = subscription.customerId
  bought : ∀ t ∈ db.rows .transactions, ∀ id, t.subscriptionId = some id →
    ∃ subscription ∈ db.rows .subscriptions, subscription.id = id ∧
      t.customerId = some subscription.customerId ∧
      (subscription.status = .pending ∨ subscription.status = .active)

section Linked

variable {db db' : PlatformDb}

theorem Linked.congr (h : Linked db)
    (hrows : ∀ table ∈ [.transactions, .subscriptions, .customers],
      db'.rows table = db.rows table) : Linked db' := by
  constructor
  · rw [hrows .subscriptions (by decide), hrows .customers (by decide)]
    exact h.enrolled
  · rw [hrows .transactions (by decide), hrows .subscriptions (by decide)]
    exact h.bought

theorem Linked.worked (h : Linked db) (hworked : Worked db db') : Linked db' := by
  obtain ⟨added, hadded, hnew⟩ := hworked.subscriptions
  obtain ⟨more, hcustomers⟩ := hworked.customers
  constructor
  · intro subscription hsubscription
    rw [hadded] at hsubscription
    rcases List.mem_append.mp hsubscription with hold | hmem
    · obtain ⟨customer, hcustomer, hid⟩ := h.enrolled subscription hold
      use customer
      rw [hcustomers]
      exact ⟨List.mem_append_left _ hcustomer, hid⟩
    · exact (hnew subscription hmem).2
  · intro t' ht' id hid
    rcases hworked.linked ht' with ⟨t, ht, horder⟩ | hnone |
      ⟨subscription, hmem, hlink, hcustomer, hpending⟩
    · rw [horder.subscriptionId] at hid
      obtain ⟨subscription, hsubscription, hid, hcustomer, hstatus⟩ := h.bought t ht id hid
      use subscription
      rw [hadded, horder.customerId]
      exact ⟨List.mem_append_left _ hsubscription, hid, hcustomer, hstatus⟩
    · rw [hnone] at hid
      cases hid
    · rw [hlink] at hid
      exact ⟨subscription, hmem, Option.some.inj hid, hcustomer, Or.inl hpending⟩

theorem Linked.activated {runtime : Runtime} {transactionId : ℕ} {first : Outside}
    {landed : ℕ → Bool} {radius radius' : RadiusDb} (h : Linked db)
    (heffect : Activated runtime transactionId first landed db db' radius radius') :
    Linked db' := by
  have hcustomers : db'.rows .customers = db.rows .customers := heffect.others (by decide)
  have hbought : ∀ t' ∈ db'.rows .transactions, ∀ id, t'.subscriptionId = some id →
      ∃ subscription ∈ db.rows .subscriptions, subscription.id = id ∧
        t'.customerId = some subscription.customerId ∧
        (subscription.status = .pending ∨ subscription.status = .active) := by
    intro t' ht' id hid
    obtain ⟨t, ht, horder⟩ := heffect.origin ht'
    rw [horder.subscriptionId] at hid
    rw [horder.customerId]
    exact h.bought t ht id hid
  rcases heffect.subscriptions with hsame | ⟨_, started, _, _, _, hpurchase, -, -, hrows⟩
  · constructor
    · rw [hsame, hcustomers]
      exact h.enrolled
    · rw [hsame]
      exact hbought
  · constructor
    · intro subscription hsubscription
      rw [hrows] at hsubscription
      rw [hcustomers]
      rcases mem_replaceRow hsubscription with rfl | ⟨hold, -⟩
      · exact h.enrolled started hpurchase.subscribed
      · exact h.enrolled subscription hold
    · intro t' ht' id hid
      obtain ⟨subscription, hsubscription, rfl, hcustomer, hstatus⟩ := hbought t' ht' id hid
      rw [hrows]
      by_cases hstarted : subscription.id = started.id
      · obtain rfl : subscription = started := db.id_injOn hsubscription hpurchase.subscribed hstarted
        exact ⟨_, mem_replaceRow_self hsubscription rfl, rfl, hcustomer, Or.inr rfl⟩
      · exact ⟨subscription, mem_replaceRow_of_ne hsubscription hstarted, rfl, hcustomer, hstatus⟩

/-- A subscription that is paid for waits for its access, or has it. -/
theorem Linked.purchase {transactionId : ℕ} {t : Transaction} {subscription : Subscription}
    {customer : Customer} {package : Package} (h : Linked db)
    (hpurchase : Purchase db transactionId t subscription customer package) :
    subscription.customerId = customer.id ∧
      (subscription.status = .pending ∨ subscription.status = .active) := by
  obtain ⟨bought, hbought, hid, hcustomer, hstatus⟩ :=
    h.bought t hpurchase.stored subscription.id hpurchase.subscriptionId
  obtain rfl : bought = subscription := db.id_injOn hbought hpurchase.subscribed hid
  exact ⟨Option.some.inj (hcustomer.symm.trans hpurchase.customerId), hstatus⟩

end Linked

end InfinityRadius.Services
