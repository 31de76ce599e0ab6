import InfinityRadius.Services.AccessRuns

/-!
# Credentials shown to customers

The password a customer is shown is derived from the payment's own subscription, while the
RADIUS user holds what the last activation for its phone wrote.  The two agree as long as no
activation writes another password than the one some payment from that phone is shown with.
-/

namespace InfinityRadius.Services

open Database Payload Program Sql Models CaptivePortalActivationService

/-! ## Logins -/

/-- FreeRADIUS accepts the login: the user has this password and no other. -/
def Accepts (radius : RadiusDb) (username password : String) : Prop :=
  radius.passwordsOf username = [⟨username, cleartextPassword, ":=", password⟩]

instance (radius : RadiusDb) (username password : String) :
    Decidable (Accepts radius username password) :=
  inferInstanceAs (Decidable (_ = _))

/-- The credentials in the answer of `get_payment_status`. -/
def login (reader : Runtime) (outside : Outside) (token : String) (world : PlatformWorld) :
    Option (String × String) :=
  match (transact outside (CaptivePortalService.getPaymentStatus reader token) world).1 with
  | .ok result =>
    match result.loginUsername, result.loginPassword with
    | some username, some password => some (username, password)
    | _, _ => none
  | .error _ => none

/-- Whatever credentials `get_payment_status` answers with are accepted. -/
def Accepted (reader : Runtime) (state : AccessState) : Prop :=
  ∀ outside token username password,
    login reader outside token state.world = some (username, password) →
      Accepts state.radius username password

/-- The credentials of a payment whose access is active. -/
structure Shown (reader : Runtime) (db : PlatformDb) (t : Transaction)
    (username password : String) : Prop where
  stored : t ∈ db.rows .transactions
  customer : ∃ customer ∈ db.rows .customers, t.customerId = some customer.id ∧
    username = customer.phone
  subscription : ∃ subscriptionId, t.subscriptionId = some subscriptionId ∧
    password = deriveRadiusPassword reader subscriptionId

theorem publicActivation_active {status : Option ActivationStatus}
    (h : publicActivation status = "active") : status = some .active := by
  revert h
  rcases status with _ | status
  · decide
  · cases status <;> decide

section Status

variable {reader : Runtime} {token : String} {world : PlatformWorld}

theorem CaptivePortalService.always_connected {t : Transaction}
    (ht : t ∈ world.db.rows .transactions) :
    Always (fun _ => false)
      (fun result _ => ∀ username password, result.loginUsername = some username →
        result.loginPassword = some password → Shown reader world.db t username password)
      (fun _ _ => True) (connected reader t) world := by
  rw [connected]
  split
  · rename_i subscriptionId customerId hsubscription hcustomer
    apply always_bind.mpr
    apply always_selectById (t := .customers) rfl
    · rintro customer hmem rfl username password husername hpassword
      exact ⟨ht, ⟨customer, hmem, hcustomer, (Option.some.inj husername).symm⟩,
        subscriptionId, hsubscription, (Option.some.inj hpassword).symm⟩
    · rintro - _ _ husername
      cases husername
  · rintro _ _ husername
    cases husername

/-- Credentials are answered for a payment whose access is active. -/
theorem CaptivePortalService.always_getPaymentStatus :
    Always (fun _ => false)
      (fun result _ => ∀ username password, result.loginUsername = some username →
        result.loginPassword = some password →
          ∃ t, Shown reader world.db t username password ∧ t.activationStatus = some .active)
      (fun _ _ => True) (getPaymentStatus reader token) world := by
  have hnone : ∀ result : PaymentStatusResult, result.loginUsername = none →
      ∀ username password, result.loginUsername = some username →
        result.loginPassword = some password →
          ∃ t, Shown reader world.db t username password ∧
            t.activationStatus = some .active := by
    intro result hnone username password husername
    rw [hnone] at husername
    cases husername
  rw [getPaymentStatus]
  split
  · exact hnone _ rfl
  · apply always_bind.mpr
    apply always_getById rfl
    · intro t ht _ _
      dsimp only
      split
      · exact hnone _ rfl
      · split
        · exact hnone _ rfl
        · split
          · exact hnone _ rfl
          · split
            · rename_i hactive
              apply (always_connected ht).mono
              · exact fun _ _ hshown username password husername hpassword =>
                  ⟨t, hshown username password husername hpassword,
                    publicActivation_active hactive⟩
              · exact fun _ _ h => h
            · exact hnone _ rfl
    · intro _
      exact hnone _ rfl

end Status

/-! ## Overwritten passwords -/

/-- The user request of an activation takes effect, and writes another password than the one
some payment from the same phone is shown with. -/
def Overwrites (reader : Runtime) (step : AccessStep) (state : AccessState) : Prop :=
  match step with
  | .payment .. => False
  | .activation runtime transactionId first _ landed =>
    ∃ t subscription customer package shown password,
      Purchase state.world.db transactionId t subscription customer package ∧
      Lands runtime.settings first landed ∧
      Shown reader state.world.db shown customer.phone password ∧
      (shown.activationStatus = some .active ∨ (shown = t ∧ Grants runtime.settings first)) ∧
      password ≠ deriveRadiusPassword runtime subscription.id

section Overwrites

variable {reader runtime : Runtime} {db db' : PlatformDb} {radius radius' : RadiusDb}
  {t : Transaction} {subscription : Subscription} {customer : Customer} {package : Package}
  {username password : String}

theorem Shown.carried (h : Shown reader db t username password)
    (ht : t ∈ db'.rows .transactions)
    (hcustomers : db.rows .customers ⊆ db'.rows .customers) :
    Shown reader db' t username password := by
  obtain ⟨customer, hmem, hlink, hphone⟩ := h.customer
  exact ⟨ht, ⟨customer, hcustomers hmem, hlink, hphone⟩, h.subscription⟩

theorem Shown.unique {username' password' : String} (h : Shown reader db t username password)
    (h' : Shown reader db t username' password') : username' = username ∧ password' = password := by
  obtain ⟨customer, hmem, hlink, rfl⟩ := h.customer
  obtain ⟨customer', hmem', hlink', rfl⟩ := h'.customer
  obtain ⟨subscriptionId, hsubscription, rfl⟩ := h.subscription
  obtain ⟨subscriptionId', hsubscription', rfl⟩ := h'.subscription
  obtain rfl : customer' = customer :=
    db.id_injOn hmem' hmem (Option.some.inj (hlink'.symm.trans hlink))
  obtain rfl := Option.some.inj (hsubscription'.symm.trans hsubscription)
  exact ⟨rfl, rfl⟩

theorem RadiusDb.Agree.accepts (hagree : RadiusDb.Agree radius radius')
    (h : Accepts radius username password) : Accepts radius' username password := by
  rw [Accepts, RadiusDb.passwordsOf, (hagree username).1]
  exact h

theorem accepts_provisioned (hsame : username = customer.phone →
      password = deriveRadiusPassword runtime subscription.id)
    (h : Accepts radius username password) :
    Accepts (provisioned runtime subscription customer package radius) username password := by
  by_cases hphone : username = customer.phone
  · rw [hsame hphone, hphone]
    exact RadiusDb.passwordsOf_provisionUser
  · rw [Accepts, provisioned, RadiusDb.passwordsOf_provisionUser_of_ne hphone]
    exact h

end Overwrites

/-- The login of every payment whose access is active is accepted. -/
structure Readable (reader : Runtime) (state : AccessState) : Prop where
  consistent : ∀ t ∈ state.world.db.rows .transactions, Consistent t
  accepted : ∀ t ∈ state.world.db.rows .transactions, t.activationStatus = some .active →
    ∃ username password, Shown reader state.world.db t username password ∧
      Accepts state.radius username password

section Readable

variable {reader : Runtime} {state state' : AccessState}

theorem Readable.sound (h : Readable reader state) : Accepted reader state := by
  intro outside token username password hlogin
  have halways : Always (fun _ => false) _ _ (CaptivePortalService.getPaymentStatus reader token)
      ⟨state.world.db, []⟩ := CaptivePortalService.always_getPaymentStatus
  rw [login] at hlogin
  rcases transact_ends outside halways with ⟨result, hended, hshown⟩ | ⟨e, _, hended, -⟩
  · rw [hended] at hlogin
    dsimp only at hlogin
    split at hlogin
    · rename_i husername hpassword
      cases hlogin
      obtain ⟨t, hshown, hactive⟩ := hshown username password husername hpassword
      obtain ⟨username', password', hshown', haccepts⟩ := h.accepted t hshown.stored hactive
      obtain ⟨rfl, rfl⟩ := hshown.unique hshown'
      exact haccepts
    · cases hlogin
  · rw [hended] at hlogin
    cases hlogin

/-- Payments change neither the users nor what is shown. -/
theorem Readable.worked (h : Readable reader state)
    (hworked : Worked state.world.db state'.world.db) (hradius : state'.radius = state.radius) :
    Readable reader state' where
  consistent := hworked.consistent h.consistent
  accepted t ht hactive := by
    obtain ⟨username, password, hshown, haccepts⟩ :=
      h.accepted t (hworked.active h.consistent ht hactive) hactive
    obtain ⟨more, hcustomers⟩ := hworked.customers
    use username, password
    constructor
    · apply hshown.carried ht
      rw [hcustomers]
      exact List.subset_append_left _ _
    · rw [hradius]
      exact haccepts

variable {runtime : Runtime} {transactionId : ℕ} {first second : Outside} {landed : ℕ → Bool}
  {db' : PlatformDb} {radius' : RadiusDb}

/-- A login that was accepted still is, where no password is overwritten. -/
theorem Readable.kept (h : Readable reader state)
    (hsafe : ¬Overwrites reader (.activation runtime transactionId first second landed) state)
    (heffect : Activated runtime transactionId first landed state.world.db db' state.radius
      radius') {t : Transaction} (ht : t ∈ state.world.db.rows .transactions)
    (hactive : t.activationStatus = some .active) :
    ∃ username password, Shown reader state.world.db t username password ∧
      Accepts radius' username password := by
  obtain ⟨username, password, hshown, haccepts⟩ := h.accepted t ht hactive
  use username, password, hshown
  rcases heffect.users with ⟨hagree, -⟩ |
    ⟨paid, subscription, customer, package, hpurchase, hlands, hagree⟩
  · exact hagree.accepts haccepts
  · apply hagree.accepts
    apply accepts_provisioned _ haccepts
    rintro rfl
    by_contra hne
    exact hsafe ⟨paid, subscription, customer, package, t, password, hpurchase, hlands, hshown,
      Or.inl hactive, hne⟩

/-- A login that is granted is accepted. -/
theorem accepts_granted
    (hsafe : ¬Overwrites reader (.activation runtime transactionId first second landed) state)
    (heffect : Activated runtime transactionId first landed state.world.db db' state.radius
      radius') {paid : Transaction} {subscription : Subscription}
    {customer : Customer} {package : Package}
    (hpurchase : Purchase state.world.db transactionId paid subscription customer package)
    (hgrants : Grants runtime.settings first) :
    ∃ username password, Shown reader state.world.db paid username password ∧
      Accepts radius' username password := by
  have hshown : Shown reader state.world.db paid customer.phone
      (deriveRadiusPassword reader subscription.id) :=
    ⟨hpurchase.stored, ⟨customer, hpurchase.enrolled, hpurchase.customerId, rfl⟩,
      subscription.id, hpurchase.subscriptionId, rfl⟩
  have hpassword : deriveRadiusPassword reader subscription.id =
      deriveRadiusPassword runtime subscription.id := by
    by_contra hne
    exact hsafe ⟨paid, subscription, customer, package, paid, _, hpurchase, hgrants.lands, hshown,
      Or.inr ⟨rfl, hgrants⟩, hne⟩
  use customer.phone, deriveRadiusPassword reader subscription.id, hshown
  rcases heffect.users with ⟨-, hnone⟩ |
    ⟨paid', subscription', customer', package', hpurchase', -, hagree⟩
  · exact absurd hgrants.lands (hnone _ _ _ _ hpurchase)
  · obtain ⟨rfl, rfl, rfl, rfl⟩ := hpurchase.unique hpurchase'
    apply hagree.accepts
    rw [hpassword]
    exact RadiusDb.passwordsOf_provisionUser

theorem Readable.step {step : AccessStep} (hsafe : ¬Overwrites reader step state)
    (h : Readable reader state) : Readable reader (step.next state) := by
  cases step with
  | payment work runtime outside => exact h.worked (works runtime outside state.world work).1 rfl
  | activation runtime transactionId first second landed =>
    have heffect := activated runtime transactionId first second landed state.radius state.world
    have hcustomers : state.world.db.rows .customers ⊆
        (runActivation runtime transactionId first second state.world).2.db.rows .customers := by
      rw [heffect.others (by decide)]
      exact List.Subset.refl _
    constructor
    · exact heffect.consistent h.consistent
    · intro t ht hactive
      rcases heffect.active ht hactive with hold | ⟨paid, _, _, _, time, hpurchase, hgrants, rfl⟩
      · obtain ⟨username, password, hshown, haccepts⟩ := h.kept hsafe heffect hold hactive
        exact ⟨username, password, hshown.carried ht hcustomers, haccepts⟩
      · obtain ⟨username, password, hshown, haccepts⟩ :=
          accepts_granted hsafe heffect hpurchase hgrants
        obtain ⟨customer, hmem, hlink, hphone⟩ := hshown.customer
        exact ⟨username, password, ⟨ht, ⟨customer, hcustomers hmem, hlink, hphone⟩,
          hshown.subscription⟩, haccepts⟩

end Readable

/-- From a platform without payments on, the credentials customers are shown are accepted in
every state, where no activation writes another password than one that is shown. -/
theorem accepted_of_not_overwritten (reader : Runtime) {steps : List AccessStep}
    {state : AccessState} (hempty : state.world.db.rows .transactions = [])
    (h : Runs.All AccessStep.next (fun step state => ¬Overwrites reader step state) steps state) :
    Runs.All AccessStep.next (fun step state => Accepted reader (step.next state)) steps state := by
  have hstart : Readable reader state := by
    constructor <;> simp [hempty]
  apply Runs.All.of_invariant _ h hstart
  intro step state hsafe hreadable
  exact ⟨(hreadable.step hsafe).sound, hreadable.step hsafe⟩

/-! ## A second purchase -/

/-- The portal of `portalRuntime`, whose tokens name the first two sessions and payments. -/
def shopRuntime : Runtime :=
  { portalRuntime with
    hmacSha256 := fun _ message => radiusHmac message
    intentSession := fun token => if token = "first" then some 0 else some 1
    tokenTransaction := fun token => if token = "first" then some 0 else some 1 }

/-- The random texts of one request. -/
def drawing (text : String) (answers : List HttpResult) : Outside :=
  { PayoutService.answering answers with
    answer := fun i question =>
      match question with
      | .uuidHex => text
      | .nonce => text
      | other => PayoutService.sampleAnswer i other }

/-- A visitor pays for the package from the same phone, and gets access. -/
def purchase (id : ℕ) (text : String) : List AccessStep :=
  [.payment (.issueSession 0 none) shopRuntime (drawing text []),
   .payment (.initiate (.captive text 0 "0712345678")) shopRuntime
     (drawing text [accepted, accepted]),
   .payment (.finalizePayment id) shopRuntime (PayoutService.answering []),
   .activation shopRuntime id granting granting fun _ => false]

def emptyRadius : RadiusDb := ⟨[], [], [], []⟩

/-- One purchase overwrites nothing. -/
theorem accepted_first_purchase :
    Runs.All AccessStep.next (fun step state => Accepted shopRuntime (step.next state))
      (purchase 0 "first") ⟨⟨retailDb, []⟩, emptyRadius⟩ := by
  apply accepted_of_not_overwritten shopRuntime rfl
  refine ⟨id, id, id, ?_, trivial⟩
  rintro ⟨t, subscription, customer, package, shown, password, hpurchase, -, hshown, -, hne⟩
  have honly : ∀ other ∈ (Runs.run AccessStep.next ((purchase 0 "first").take 3)
      ⟨⟨retailDb, []⟩, emptyRadius⟩).world.db.rows .transactions,
        other.subscriptionId = some 0 := by decide +kernel
  obtain ⟨subscriptionId, hlink, rfl⟩ := hshown.subscription
  have hsame : subscriptionId = subscription.id := by
    apply Option.some.inj
    rw [← hlink, ← hpurchase.subscriptionId, honly shown hshown.stored, honly t hpurchase.stored]
  exact hne (by rw [hsame])

/-- The second purchase from a phone takes the password of the first one away. -/
theorem not_accepted_second_purchase :
    ¬Runs.All AccessStep.next (fun step state => Accepted shopRuntime (step.next state))
      (purchase 0 "first" ++ purchase 1 "second") ⟨⟨retailDb, []⟩, emptyRadius⟩ := by
  rintro ⟨-, -, -, -, -, -, -, hlast, -⟩
  have haccepts := hlast (PayoutService.answering []) "first" "255712345678" "f3167ff419f82f58ed76"
    (by decide +kernel)
  exact absurd haccepts (by decide +kernel)

end InfinityRadius.Services
