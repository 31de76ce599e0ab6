import InfinityRadius.Services.ApprovedTenants
import InfinityRadius.Services.Initiation

/-!
# The collection gate of a tenant

A super admin suspends a tenant or switches its collections off.  Neither way to start a
payment reads the flag, and the captive portal does not read the status either, so the gate
holds as long as no payment of a closed tenant passes the guards that are there.
-/

namespace InfinityRadius.Services

open Amounts Database Payload Program Sql Models AdminTenantService PayoutService

/-! ## The gate -/

/-- The flag or the status of the tenant forbids payments. -/
def Closed (db : PlatformDb) (tenantId : ℕ) : Prop :=
  (∃ flags ∈ db.rows .tenantFeatureFlags,
    flags.tenantId = tenantId ∧ flags.collectionEnabled = false) ∨
  ∃ tenant ∈ db.rows .tenants, tenant.id = tenantId ∧ tenant.status ≠ .active

instance (db : PlatformDb) (tenantId : ℕ) : Decidable (Closed db tenantId) :=
  inferInstanceAs (Decidable (_ ∨ _))

theorem not_closed {db : PlatformDb}
    (hflags : ∀ flags ∈ db.rows .tenantFeatureFlags, flags.collectionEnabled = true)
    (htenants : ∀ tenant ∈ db.rows .tenants, tenant.status = .active) (tenantId : ℕ) :
    ¬Closed db tenantId := by
  rintro (⟨flags, hmem, -, hflag⟩ | ⟨tenant, hmem, -, hstatus⟩)
  · rw [hflags flags hmem] at hflag
    cases hflag
  · exact hstatus (htenants tenant hmem)

/-! ## Initiations -/

inductive Initiation
  | captive (intentToken : String) (packageId : ℕ) (phone : String)
  | collection (userId : ℕ) (amount : Decimal) (currency phone : String)
      (customerId : Option ℕ) (description : Option String)

namespace Initiation

variable (runtime : Runtime)

def program : Initiation → Tx Unit
  | captive intentToken packageId phone => do
    let _ ← CaptivePortalService.initiatePayment runtime intentToken packageId phone
    pure ()
  | collection userId amount currency phone customerId description => do
    let _ ← CollectionService.initiateRoute runtime.settings userId amount currency phone
      customerId description
    pure ()

/-- The tenant the payment would go to. -/
def Payee (db : PlatformDb) (tenantId : ℕ) : Initiation → Prop
  | captive intentToken _ _ => ∃ session ∈ db.rows .captiveSessions,
    CaptivePortalSessionService.resolveIntentToken runtime intentToken = some session.id ∧
      session.tenantId = tenantId
  | collection userId _ _ _ _ _ => ∃ profile ∈ db.rows .profiles,
    profile.id = userId ∧ profile.tenantId = some tenantId

/-- The request passes every guard there is, and its payment would go to the tenant. -/
def Admitted (outside : Outside) (db : PlatformDb) (tenantId : ℕ) : Initiation → Prop
  | captive intentToken packageId phone => ∃ session package normalizedPhone,
    CaptivePortalService.Admitted runtime outside db intentToken packageId phone session package
      normalizedPhone ∧ session.tenantId = tenantId
  | collection userId amount currency phone _ _ =>
    CollectionService.Admitted runtime.settings outside db userId amount currency phone tenantId

/-- Every new transaction, and every request a payment is started with, is the tenant's. -/
def Charges (db : PlatformDb) (tenantId : ℕ) (initiation : Initiation) (db' : PlatformDb)
    (sent : List (Request × HttpResult)) : Prop :=
  (∀ t ∈ db'.rows .transactions,
    (∃ old ∈ db.rows .transactions, old.id = t.id) ∨ t.tenantId = tenantId) ∧
  ((∃ exchange ∈ sent, exchange.1.Starts) → initiation.Payee runtime db tenantId)

end Initiation

section Spec

variable {runtime : Runtime} {outside : Outside} {world : PlatformWorld} {initiation : Initiation}

/-- A new row at the end of the transactions. -/
theorem new_or_old {db : PlatformDb} {rows : List Transaction} {t new : Transaction}
    (hrows : rows = db.rows .transactions ++ [new]) (ht : t ∈ rows) :
    (∃ old ∈ db.rows .transactions, old.id = t.id) ∨ t = new := by
  rw [hrows] at ht
  rcases List.mem_append.mp ht with hold | hnew
  · exact Or.inl ⟨t, hold, rfl⟩
  · exact Or.inr (List.mem_singleton.mp hnew)

/-- An operation whose result is left to the caller. -/
theorem transact_discard {α : Type} {x y : Tx α} {tick : ℕ}
    {returns : α → PlatformWorld → Prop} {raises : Failure → PlatformWorld → Prop}
    (hrun : run (exec outside) x ⟨⟨world.db, []⟩, 0⟩ =
      run (exec outside) y ⟨⟨world.db, []⟩, tick⟩)
    (h : Always (fun _ => false) returns raises y ⟨world.db, []⟩) :
    (∃ a, returns a ⟨(transact outside (do let _ ← x; pure () : Tx Unit) world).2.db,
      exchanges outside (do let _ ← x; pure () : Tx Unit) world.db⟩) ∨
    ((transact outside (do let _ ← x; pure () : Tx Unit) world).2.db = world.db ∧
      ∃ e db, raises e ⟨db, exchanges outside (do let _ ← x; pure () : Tx Unit) world.db⟩) := by
  have hbind : Always (fun _ => false) (fun _ world' => ∃ a, returns a world') raises
      (do let _ ← y; pure () : Tx Unit) ⟨world.db, []⟩ :=
    always_bind.mpr (h.mono (fun a _ hreturns => ⟨a, hreturns⟩) fun _ _ hraises => hraises)
  have hdiscard : run (exec outside) (do let _ ← x; pure () : Tx Unit) ⟨⟨world.db, []⟩, 0⟩ =
      run (exec outside) (do let _ ← y; pure () : Tx Unit) ⟨⟨world.db, []⟩, tick⟩ := by
    rw [run_discard, hrun, run_discard]
  rcases transact_via hdiscard hbind with ⟨_, hreturns⟩ | hraises
  · exact Or.inl hreturns
  · exact Or.inr hraises

/-- An initiation leaves no trace, or is for a tenant whose payment passed the guards. -/
theorem Initiation.transact_cases :
    (∃ tenantId, initiation.Admitted runtime outside world.db tenantId ∧
      initiation.Charges runtime world.db tenantId
        (transact outside (initiation.program runtime) world).2.db
        (exchanges outside (initiation.program runtime) world.db)) ∨
    (transact outside (initiation.program runtime) world).2.db = world.db ∧
      exchanges outside (initiation.program runtime) world.db = [] := by
  cases initiation with
  | captive intentToken packageId phone =>
    rcases CaptivePortalService.run_initiatePayment runtime outside world.db intentToken packageId
      phone with
      ⟨session, package, normalizedPhone, hadmitted, hrun⟩ | ⟨result, tick, hrun⟩
    · left
      use session.tenantId, ⟨session, package, normalizedPhone, hadmitted, rfl⟩
      have hpayee : Payee runtime world.db session.tenantId (.captive intentToken packageId phone) :=
        ⟨session, hadmitted.resolves.1, hadmitted.resolves.2.1, rfl⟩
      rcases transact_discard hrun CaptivePortalService.always_startAttempt with
        ⟨_, _, _, _, t, _, hstarted, -⟩ | ⟨hdb, -⟩
      · constructor
        · intro other hother
          rcases new_or_old hstarted.transactions hother with hold | rfl
          · exact Or.inl hold
          · exact Or.inr hstarted.tenant
        · exact fun _ => hpayee
      · constructor
        · intro other hother
          rw [program, hdb] at hother
          exact Or.inl ⟨other, hother, rfl⟩
        · exact fun _ => hpayee
    · right
      apply transact_idle
      rw [program, run_discard, hrun]
  | collection userId amount currency phone customerId description =>
    rcases CollectionService.run_initiateRoute runtime.settings outside world.db userId amount
      currency phone customerId description with
      ⟨tenantId, normalizedPhone, customer, hadmitted, hrun⟩ | ⟨result, tick, hrun⟩
    · left
      use tenantId, hadmitted
      rcases transact_discard hrun CollectionService.always_startCollection with
        ⟨t, _, _, hstarted, -⟩ | ⟨hdb, -⟩
      · constructor
        · intro other hother
          rcases new_or_old hstarted.transactions hother with hold | rfl
          · exact Or.inl hold
          · exact Or.inr hstarted.tenant
        · exact fun _ => hadmitted.profile
      · constructor
        · intro other hother
          rw [program, hdb] at hother
          exact Or.inl ⟨other, hother, rfl⟩
        · exact fun _ => hadmitted.profile
    · right
      apply transact_idle
      rw [program, run_discard, hrun]

end Spec

/-! ## Runs -/

/-- An operation of a super admin, a session for a visitor, the start of a payment, or
whatever else writes to the database. -/
inductive GateStep
  | admin (step : AdminStep)
  | issueSession (routerId : ℕ) (macAddress : Option String) (runtime : Runtime)
      (outside : Outside)
  | initiate (initiation : Initiation) (runtime : Runtime) (outside : Outside)
  | elsewhere (db : PlatformDb)

namespace GateStep

def next : GateStep → PlatformWorld → PlatformWorld
  | admin step, world => step.next world
  | issueSession routerId macAddress runtime outside, world =>
    (transact outside (CaptivePortalSessionService.issueSession runtime routerId macAddress)
      world).2
  | initiate initiation runtime outside, world =>
    (transact outside (initiation.program runtime) world).2
  | elsewhere db, world => { world with db }

/-- The step starts no payment of a tenant that is closed when it is taken. -/
def Gated (step : GateStep) (world : PlatformWorld) : Prop :=
  match step with
  | initiate initiation runtime outside =>
    (∀ t ∈ (step.next world).db.rows .transactions,
      (∃ old ∈ world.db.rows .transactions, old.id = t.id) ∨ ¬Closed world.db t.tenantId) ∧
    ((∃ exchange ∈ exchanges outside (initiation.program runtime) world.db, exchange.1.Starts) →
      ∃ tenantId, initiation.Payee runtime world.db tenantId ∧ ¬Closed world.db tenantId)
  | _ => True

/-- No payment of a closed tenant passes the guards. -/
def Permitted (step : GateStep) (world : PlatformWorld) : Prop :=
  match step with
  | initiate initiation runtime outside => ∀ tenantId,
    initiation.Admitted runtime outside world.db tenantId → ¬Closed world.db tenantId
  | _ => True

theorem Permitted.gated {step : GateStep} {world : PlatformWorld} (h : step.Permitted world) :
    step.Gated world := by
  cases step with
  | initiate initiation runtime outside =>
    rcases initiation.transact_cases with ⟨tenantId, hadmitted, hcharges⟩ | ⟨hdb, hsent⟩
    · have hopen := h tenantId hadmitted
      constructor
      · intro t ht
        rcases hcharges.1 t ht with hold | htenant
        · exact Or.inl hold
        · rw [htenant]
          exact Or.inr hopen
      · exact fun hstarts => ⟨tenantId, hcharges.2 hstarts, hopen⟩
    · constructor
      · intro t ht
        rw [next, hdb] at ht
        exact Or.inl ⟨t, ht, rfl⟩
      · rintro ⟨exchange, hexchange, -⟩
        rw [hsent] at hexchange
        cases hexchange
  | _ => trivial

end GateStep

/-- As long as no payment of a closed tenant passes the guards that are there, none is
started. -/
theorem runs_gated {steps : List GateStep} {world : PlatformWorld}
    (hsteps : Runs.All GateStep.next GateStep.Permitted steps world) :
    Runs.All GateStep.next GateStep.Gated steps world :=
  hsteps.mono fun _ _ h => h.gated

/-! ## A tenant that was suspended -/

/-- Collections are configured, and both kill switches are on. -/
def portalRuntime : Runtime :=
  { sampleRuntime with
    settings :=
      { sampleSettings with
        selcomCollectionEnabled := true
        selcomCollectionProductionEnabled := true
        selcomCollectionBaseUrl := some "https://apigw.selcommobile.com"
        selcomCollectionApiKey := some "key"
        selcomCollectionApiSecret := some "secret"
        selcomCollectionDigestMethod := some "HS256"
        selcomCollectionVendor := some "VENDOR" }
    intentSession := fun _ => some 0 }

/-- A tenant with a router and a package on sale. -/
def portalRows (collectionEnabled : Bool) : (t : Table) → List (Row t)
  | .tenants => [{ id := 1, status := .active }]
  | .tenantFeatureFlags => [{ id := 0, tenantId := 1, collectionEnabled }]
  | .routers => [{ id := 0, tenantId := 1, name := "cafe" }]
  | .packages =>
    [{ id := 0, tenantId := 1, priceTzs := 100000, status := .active,
       durationMinutes := some 60 }]
  | _ => []

def portalDb : PlatformDb where
  rows := portalRows true
  valid t := by cases t <;> decide +kernel
  apart t := by cases t <;> decide +kernel

/-- The order and the prompt are accepted. -/
def accepted : HttpResult := .response 200 (some (.obj [("resultcode", .str "000")]))

def sessionStep : GateStep := .issueSession 0 none portalRuntime (answering [])

def paymentStep : GateStep :=
  .initiate (.captive "intent" 0 "0712345678") portalRuntime (answering [accepted, accepted])

/-- A visitor pays for a package of an active tenant. -/
theorem gated_portal : Runs.All GateStep.next GateStep.Gated [sessionStep, paymentStep]
    ⟨portalDb, []⟩ :=
  runs_gated ⟨trivial, fun tenantId _ =>
    not_closed (by decide +kernel) (by decide +kernel) tenantId, trivial⟩

/-- A visitor who has a session still pays after the tenant was suspended. -/
theorem not_gated_suspended : ¬Runs.All GateStep.next GateStep.Gated
    [sessionStep, .admin (adminStep (.suspend 1 (some "fraud review"))), paymentStep]
    ⟨portalDb, []⟩ :=
  fun h => absurd h.2.2.1.1 (by decide +kernel)

end InfinityRadius.Services
