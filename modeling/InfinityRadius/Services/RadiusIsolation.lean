import InfinityRadius.Services.ActivationRules
import InfinityRadius.Services.SubmittedOnce

/-!
# Users across tenants

A customer is known by tenant and phone, a RADIUS user by phone alone.  An activation leaves
the users of other tenants alone exactly where none of them has the phone it provisions, or
where it has nothing to change.
-/

namespace InfinityRadius.Services

open Database Program Sql Models PayoutService

namespace RadiusDb

variable {username other : String} {packageId : ℕ} {password : String} {radius radius' : RadiusDb}

/-- The user has the same rows, in whatever order. -/
def SameRows (username : String) (radius radius' : RadiusDb) : Prop :=
  (radius'.checksOf username).Perm (radius.checksOf username) ∧
    (radius'.groupsOf username).Perm (radius.groupsOf username)

instance : Decidable (SameRows username radius radius') :=
  inferInstanceAs (Decidable (_ ∧ _))

/-- The user has the password and the group, and no other of either. -/
def Holds (username : String) (packageId : ℕ) (password : String) (radius : RadiusDb) : Prop :=
  radius.passwordsOf username = [⟨username, cleartextPassword, ":=", password⟩] ∧
    radius.groupsOf username = [⟨username, radiusGroupName packageId, 1⟩]

instance : Decidable (Holds username packageId password radius) :=
  inferInstanceAs (Decidable (_ ∧ _))

/-- Both databases agree on every user. -/
def Agree (radius radius' : RadiusDb) : Prop :=
  ∀ username, radius'.checksOf username = radius.checksOf username ∧
    radius'.groupsOf username = radius.groupsOf username

theorem Agree.sameRows (h : Agree radius radius') (username : String) :
    SameRows username radius radius' := by
  constructor
  · rw [(h username).1]
  · rw [(h username).2]

theorem Agree.sameRows_iff {radius'' : RadiusDb} (h : Agree radius' radius'')
    (username : String) :
    SameRows username radius radius'' ↔ SameRows username radius radius' := by
  rw [SameRows, SameRows, (h username).1, (h username).2]

theorem Agree.provisionUser (h : Agree radius radius') :
    Agree (provisionUser username packageId password radius)
      (RadiusDb.provisionUser username packageId password radius') := by
  intro other
  by_cases hother : other = username
  · rw [hother, checksOf_provisionUser, checksOf_provisionUser, groupsOf_provisionUser,
      groupsOf_provisionUser, (h username).1]
    exact ⟨rfl, rfl⟩
  · rw [checksOf_provisionUser_of_ne hother, checksOf_provisionUser_of_ne hother,
      groupsOf_provisionUser_of_ne hother, groupsOf_provisionUser_of_ne hother]
    exact h other

/-- The provisioned user keeps its rows exactly where it holds them already. -/
theorem sameRows_provisionUser_iff :
    SameRows username radius (provisionUser username packageId password radius) ↔
      Holds username packageId password radius := by
  have hsplit : (((radius.checksOf username).filter fun row =>
        ¬row.attributeName = cleartextPassword) ++ radius.passwordsOf username).Perm
      (radius.checksOf username) := by
    apply List.perm_append_comm.trans
    simpa [passwordsOf] using List.filter_append_perm
      (fun row : RadCheck => decide (row.attributeName = cleartextPassword))
      (radius.checksOf username)
  rw [SameRows, Holds, checksOf_provisionUser, groupsOf_provisionUser]
  constructor
  · rintro ⟨hchecks, hgroups⟩
    constructor
    · have hpasswords := (List.perm_append_left_iff _).mp (hchecks.trans hsplit.symm)
      exact List.perm_singleton.mp hpasswords.symm
    · exact List.perm_singleton.mp hgroups.symm
  · rintro ⟨hpasswords, hgroups⟩
    constructor
    · rw [hpasswords] at hsplit
      exact hsplit
    · rw [hgroups]

theorem sameRows_provisionUser_of_ne (h : other ≠ username) :
    SameRows other radius (provisionUser username packageId password radius) := by
  rw [SameRows, checksOf_provisionUser_of_ne h, groupsOf_provisionUser_of_ne h]
  exact ⟨List.Perm.refl _, List.Perm.refl _⟩

end RadiusDb

namespace CaptivePortalActivationService

open RadiusDb

/-! ## What an activation writes -/

/-- The user request of an activation is made, and its rows are committed. -/
def Lands (settings : Settings) (first : Outside) (landed : ℕ → Bool) : Prop :=
  ∃ transport, describeTransport settings = some transport ∧
    succeeded transport (first.respond 0) = true ∧
    (succeeded transport (first.respond 1) = true ∨ landed 1 = true)

/-- Both requests of an activation are made and succeed. -/
def Grants (settings : Settings) (first : Outside) : Prop :=
  ∃ transport, describeTransport settings = some transport ∧
    succeeded transport (first.respond 0) = true ∧
    succeeded transport (first.respond 1) = true

theorem Grants.lands {settings : Settings} {first : Outside} {landed : ℕ → Bool}
    (h : Grants settings first) : Lands settings first landed := by
  obtain ⟨transport, htransport, hsynced, hprovisioned⟩ := h
  exact ⟨transport, htransport, hsynced, Or.inl hprovisioned⟩

/-- The database after the user request of an activation. -/
def provisioned (runtime : Runtime) (subscription : Subscription) (customer : Customer)
    (package : Package) (radius : RadiusDb) : RadiusDb :=
  provisionUser customer.phone package.id (deriveRadiusPassword runtime subscription.id) radius

section Writes

variable {runtime : Runtime} {transactionId : ℕ} {first second : Outside} {landed : ℕ → Bool}
  {world : PlatformWorld} {radius : RadiusDb} {t : Transaction} {subscription : Subscription}
  {customer : Customer} {package : Package}

/-- The group request writes no user. -/
theorem agree_synced {access : Access} {transport : RadiusTransport} (took : Bool) :
    Agree radius (if took then radius.apply (access.syncRequest transport) else radius) := by
  cases took with
  | false => exact fun _ => ⟨rfl, rfl⟩
  | true => exact fun _ => ⟨rfl, rfl⟩

/-- The user request follows the group request and takes effect. -/
theorem after_userRequest {transport : RadiusTransport} {synced answered : HttpResult}
    (h : tookEffect (landed 1)
      ((accessOf runtime subscription customer package).userRequest transport, answered) = true) :
    Agree (provisioned runtime subscription customer package radius)
      (radius.after
        [((accessOf runtime subscription customer package).syncRequest transport, synced),
          ((accessOf runtime subscription customer package).userRequest transport, answered)]
        landed) := by
  rw [after, after, after, h]
  exact (agree_synced _).provisionUser

variable (landed radius) in
theorem after_provisioned {ok : Bool} {more : List (Request × HttpResult)}
    (h : Provisioned runtime.settings (accessOf runtime subscription customer package) ok more)
    (hanswers : ∀ i exchange, more[i]? = some exchange → exchange.2 = first.respond i) :
    (Lands runtime.settings first landed ∧
      Agree (provisioned runtime subscription customer package radius)
        (radius.after more landed)) ∨
    (¬Lands runtime.settings first landed ∧ Agree radius (radius.after more landed)) := by
  cases h with
  | unavailable h =>
    right
    constructor
    · rintro ⟨transport, htransport, -⟩
      rw [h] at htransport
      cases htransport
    · exact fun _ => ⟨rfl, rfl⟩
  | notSynced transport synced htransport hsynced =>
    right
    constructor
    · rintro ⟨other, hother, hsucceeded, -⟩
      obtain rfl := Option.some.inj (htransport.symm.trans hother)
      rw [← hanswers 0 _ rfl] at hsucceeded
      exact absurd hsucceeded (by simp [hsynced])
    · exact agree_synced _
  | refused transport synced answered htransport hsynced hanswered =>
    have hfirst := hanswers 0 _ rfl
    have hsecond := hanswers 1 _ rfl
    cases hlanded : landed 1 with
    | true =>
      left
      constructor
      · exact ⟨transport, htransport, by rw [← hfirst]; exact hsynced, Or.inr hlanded⟩
      · exact after_userRequest (by simp [tookEffect, Access.userRequest, hlanded])
    | false =>
      right
      constructor
      · rintro ⟨other, hother, -, hsucceeded | hcontra⟩
        · obtain rfl := Option.some.inj (htransport.symm.trans hother)
          rw [← hsecond] at hsucceeded
          exact absurd hsucceeded (by simp [hanswered])
        · rw [hlanded] at hcontra
          cases hcontra
      · have hkept : tookEffect (landed 1)
            ((accessOf runtime subscription customer package).userRequest transport, answered) =
              false := by
          simp [tookEffect, Access.userRequest, hanswered, hlanded]
        rw [after, after, after, hkept]
        exact agree_synced _
  | granted transport synced answered htransport hsynced hanswered =>
    left
    constructor
    · exact ⟨transport, htransport, by rw [← hanswers 0 _ rfl]; exact hsynced,
        Or.inl (by rw [← hanswers 1 _ rfl]; exact hanswered)⟩
    · exact after_userRequest (by simp [tookEffect, Access.userRequest, hanswered])

theorem grants_iff {access : Access} {ok : Bool} {more : List (Request × HttpResult)}
    (h : Provisioned runtime.settings access ok more)
    (hanswers : ∀ i exchange, more[i]? = some exchange → exchange.2 = first.respond i) :
    Grants runtime.settings first ↔ ok = true := by
  constructor
  · rintro ⟨other, hother, hfirst, hsecond⟩
    cases h with
    | unavailable h =>
      rw [h] at hother
      cases hother
    | notSynced transport synced htransport hsynced =>
      obtain rfl := Option.some.inj (htransport.symm.trans hother)
      rw [← hanswers 0 _ rfl, hsynced] at hfirst
      cases hfirst
    | refused transport synced answered htransport _ hanswered =>
      obtain rfl := Option.some.inj (htransport.symm.trans hother)
      rw [← hanswers 1 _ rfl, hanswered] at hsecond
      cases hsecond
    | granted => rfl
  · rintro rfl
    cases h with
    | granted transport synced answered htransport hsynced hanswered =>
      use transport, htransport
      rw [← hanswers 0 _ rfl, ← hanswers 1 _ rfl]
      exact ⟨hsynced, hanswered⟩

variable (runtime transactionId first second landed) in
/-- The RADIUS database after `run_activation`. -/
def radiusAfter (db : PlatformDb) (radius : RadiusDb) : RadiusDb :=
  radius.after (runActivation runtime transactionId first second ⟨db, []⟩).2.sent landed

/-- What `run_activation` makes of both databases. -/
inductive Activated (runtime : Runtime) (transactionId : ℕ) (first : Outside) (landed : ℕ → Bool)
    (db db' : PlatformDb) (radius radius' : RadiusDb) : Prop
  | unchanged (hdb : db' = db) (hradius : Agree radius radius')
      (hnone : ∀ t subscription customer package,
        ¬Purchase db transactionId t subscription customer package)
  | granted {t : Transaction} {subscription : Subscription} {customer : Customer}
      {package : Package}
      (hpurchase : Purchase db transactionId t subscription customer package)
      (hgrants : Grants runtime.settings first)
      (hgranted : Granted db db' t subscription package)
      (hradius : Agree (provisioned runtime subscription customer package radius) radius')
  | failed {t : Transaction} {subscription : Subscription} {customer : Customer}
      {package : Package}
      (hpurchase : Purchase db transactionId t subscription customer package)
      (hgrants : ¬Grants runtime.settings first)
      (hdb : db' = db ∨
        Db.Replaced .transactions { t with activationStatus := some .failed } db db')
      (hradius : (Lands runtime.settings first landed ∧
          Agree (provisioned runtime subscription customer package radius) radius') ∨
        (¬Lands runtime.settings first landed ∧ Agree radius radius'))

variable (runtime transactionId first second landed radius) in
theorem activated (world : PlatformWorld) :
    Activated runtime transactionId first landed world.db
      (runActivation runtime transactionId first second world).2.db radius
      (radiusAfter runtime transactionId first second landed world.db radius) := by
  have hran := (ran runtime transactionId world first second).1
  have hradius : radiusAfter runtime transactionId first second landed world.db radius =
      radius.after (exchanges first (activate runtime transactionId) world.db) landed := by
    rw [radiusAfter, (ran runtime transactionId ⟨world.db, []⟩ first second).2, List.nil_append]
  rw [hradius]
  have hanswers : ∀ i exchange,
      (exchanges first (activate runtime transactionId) world.db)[i]? = some exchange →
        exchange.2 = first.respond i := fun _ _ => exchanges_respond
  generalize exchanges first (activate runtime transactionId) world.db = more at hran hanswers ⊢
  have hfailed : ∀ {t subscription customer package},
      Purchase world.db transactionId t subscription customer package →
      Provisioned runtime.settings (accessOf runtime subscription customer package) false more →
      ((runActivation runtime transactionId first second world).2.db = world.db ∨
        Db.Replaced .transactions { t with activationStatus := some .failed } world.db
          (runActivation runtime transactionId first second world).2.db) →
      Activated runtime transactionId first landed world.db
        (runActivation runtime transactionId first second world).2.db radius
        (radius.after more landed) := by
    intro _ _ _ _ hpurchase hprovisioned hdb
    apply Activated.failed hpurchase _ hdb (after_provisioned landed radius hprovisioned hanswers)
    rw [grants_iff hprovisioned hanswers]
    decide
  generalize (runActivation runtime transactionId first second world).1 = result at hran
  generalize (runActivation runtime transactionId first second world).2.db = db' at *
  cases hran with
  | already ht hid _ hactive =>
    apply Activated.unchanged rfl fun _ => ⟨rfl, rfl⟩
    intro t _ _ _ hpurchase
    obtain rfl := world.db.id_injOn hpurchase.stored ht (hpurchase.id.trans hid.symm)
    exact hpurchase.notActive hactive
  | unattempted hnone => exact .unchanged rfl (fun _ => ⟨rfl, rfl⟩) hnone
  | granted hpurchase hgranted hprovisioned =>
    have hgrants := (grants_iff hprovisioned hanswers).mpr rfl
    rcases after_provisioned landed radius hprovisioned hanswers with ⟨-, hradius⟩ | ⟨hlands, -⟩
    · exact .granted hpurchase hgrants hgranted hradius
    · exact absurd hgrants.lands hlands
  | failed hpurchase hprovisioned hrecorded =>
    exact hfailed hpurchase hprovisioned (Or.inr hrecorded)
  | unrecorded hpurchase hprovisioned => exact hfailed hpurchase hprovisioned (Or.inl rfl)

/-- The users change where the user request of a purchase takes effect. -/
theorem Activated.users {db db' : PlatformDb} {radius radius' : RadiusDb}
    (h : Activated runtime transactionId first landed db db' radius radius') :
    (Agree radius radius' ∧ ∀ t subscription customer package,
      Purchase db transactionId t subscription customer package →
        ¬Lands runtime.settings first landed) ∨
    ∃ t subscription customer package,
      Purchase db transactionId t subscription customer package ∧
        Lands runtime.settings first landed ∧
        Agree (provisioned runtime subscription customer package radius) radius' := by
  cases h with
  | unchanged _ hradius hnone => exact Or.inl ⟨hradius, fun t s c p h => absurd h (hnone t s c p)⟩
  | granted hpurchase hgrants _ hradius =>
    exact Or.inr ⟨_, _, _, _, hpurchase, hgrants.lands, hradius⟩
  | failed hpurchase _ _ hradius =>
    rcases hradius with ⟨hlands, hradius⟩ | ⟨hlands, hradius⟩
    · exact Or.inr ⟨_, _, _, _, hpurchase, hlands, hradius⟩
    · exact Or.inl ⟨hradius, fun _ _ _ _ _ => hlands⟩

end Writes

/-! ## Other tenants -/

/-- An active subscription of the customer. -/
def Served (db : PlatformDb) (customer : Customer) : Prop :=
  ∃ subscription ∈ db.rows .subscriptions,
    subscription.customerId = customer.id ∧ subscription.status = .active

instance (db : PlatformDb) (customer : Customer) : Decidable (Served db customer) :=
  inferInstanceAs (Decidable (∃ _ ∈ _, _))

section Isolation

variable (runtime : Runtime) (transactionId : ℕ) (first second : Outside) (landed : ℕ → Bool)
  (db : PlatformDb) (radius : RadiusDb)

/-- Served customers of other tenants than the subscription's keep their rows. -/
def Isolated : Prop :=
  ∀ t ∈ db.rows .transactions, t.id = transactionId →
    ∀ subscription ∈ db.rows .subscriptions, t.subscriptionId = some subscription.id →
      ∀ customer ∈ db.rows .customers, customer.tenantId ≠ subscription.tenantId →
        Served db customer →
          SameRows customer.phone radius
            (radiusAfter runtime transactionId first second landed db radius)

instance : Decidable (Isolated runtime transactionId first second landed db radius) :=
  inferInstanceAs (Decidable (∀ _ ∈ _, _))

/-- A served customer of another tenant has the phone of the purchase, and other rows than
the ones it writes. -/
def Collides (subscription : Subscription) (customer : Customer) (package : Package) : Prop :=
  ∃ other ∈ db.rows .customers, other.tenantId ≠ subscription.tenantId ∧ Served db other ∧
    other.phone = customer.phone ∧
    ¬Holds customer.phone package.id (deriveRadiusPassword runtime subscription.id) radius

variable {runtime transactionId first landed db radius}

/-- An activation leaves the served customers of other tenants alone exactly where the user
it writes is not one of theirs, or has these rows already. -/
theorem isolated_iff :
    Isolated runtime transactionId first second landed db radius ↔
      ∀ t subscription customer package,
        Purchase db transactionId t subscription customer package →
        Lands runtime.settings first landed →
        ¬Collides runtime db radius subscription customer package := by
  rcases (activated runtime transactionId first second landed radius ⟨db, []⟩).users with
    ⟨hagree, hnone⟩ | ⟨t, subscription, customer, package, hpurchase, hlands, hagree⟩
  · constructor
    · exact fun _ _ _ _ _ hpurchase hlands => absurd hlands (hnone _ _ _ _ hpurchase)
    · exact fun _ _ _ _ _ _ _ other _ _ _ => hagree.sameRows other.phone
  · constructor
    · rintro hisolated t' subscription' customer' package' hpurchase' -
        ⟨other, hother, htenant, hserved, hphone, hnot⟩
      obtain ⟨rfl, rfl, rfl, rfl⟩ := hpurchase.unique hpurchase'
      have hsame := hisolated t hpurchase.stored hpurchase.id subscription hpurchase.subscribed
        hpurchase.subscriptionId other hother htenant hserved
      rw [hagree.sameRows_iff, hphone] at hsame
      exact hnot (sameRows_provisionUser_iff.mp hsame)
    · intro hfree t' ht hid subscription' hsubscription hlink other hother htenant hserved
      obtain rfl : t' = t := db.id_injOn ht hpurchase.stored (hid.trans hpurchase.id.symm)
      obtain rfl : subscription' = subscription := by
        apply db.id_injOn hsubscription hpurchase.subscribed
        exact Option.some.inj (hlink.symm.trans hpurchase.subscriptionId)
      rw [hagree.sameRows_iff]
      by_cases hphone : other.phone = customer.phone
      · rw [hphone]
        apply sameRows_provisionUser_iff.mpr
        by_contra hnot
        exact hfree t' subscription' customer package hpurchase hlands
          ⟨other, hother, htenant, hserved, hphone, hnot⟩
      · exact sameRows_provisionUser_of_ne hphone

end Isolation

/-! ## A customer of two tenants -/

/-- The passwords of the first two subscriptions. -/
def radiusHmac (message : String) : String :=
  if message = "radius-password:0" then
    "f3167ff419f82f58ed76ba3277e6bec90cb6bb6dfea1a971d022d0f79221ad24"
  else "e7bd6819a5571c22d1a638273b05143b380ee32c1592af81478e73d4bccc5d0f"

def radiusRuntime : Runtime :=
  { sampleRuntime with hmacSha256 := fun _ message => radiusHmac message }

/-- The first tenant serves a customer; the second one was paid from the same phone. -/
def resaleRows : (t : Table) → List (Row t)
  | .packages =>
    [{ id := 0, tenantId := 1, priceTzs := 100000, status := .active },
     { id := 1, tenantId := 2, priceTzs := 50000, status := .active }]
  | .customers =>
    [{ id := 0, tenantId := 1, customerNumber := "CUST-1", firstName := none, lastName := none,
       phone := "255712345678", email := none, username := none },
     { id := 1, tenantId := 2, customerNumber := "CUST-2", firstName := none, lastName := none,
       phone := "255712345678", email := none, username := none }]
  | .subscriptions =>
    [{ id := 0, tenantId := 1, customerId := 0, packageId := 0, status := .active },
     { id := 1, tenantId := 2, customerId := 1, packageId := 1, status := .pending }]
  | .transactions =>
    [{ id := 0, tenantId := 2, customerId := some 1, subscriptionId := some 1,
       transactionType := some .captivePortal, reference := "CAP-1",
       payerPhone := some "255712345678", amount := 50000, currency := "TZS",
       status := .completed, paymentProvider := some .selcomCollection,
       activationStatus := some .pending }]
  | _ => []

def resaleDb : PlatformDb where
  rows := resaleRows
  valid t := by cases t <;> decide +kernel
  apart t := by cases t <;> decide +kernel

/-- The access of the first subscription. -/
def resaleRadius : RadiusDb :=
  provisionUser "255712345678" 0 (deriveRadiusPassword radiusRuntime 0) ⟨[], [], [], []⟩

/-- The network agent answers both requests. -/
def granting : Outside := answering [.response 200 (some (.obj [])), .response 200 (some (.obj []))]

/-- The sale of the second tenant gives the first one's customer its own group. -/
theorem not_isolated_resale :
    ¬Isolated radiusRuntime 0 granting granting (fun _ => false) resaleDb resaleRadius := by
  decide +kernel

end CaptivePortalActivationService

end InfinityRadius.Services
