import InfinityRadius.Services.AdminTenants
import InfinityRadius.Services.SubmittedOnce

/-!
# The two statuses of a tenant

A tenant and its verification record each carry a status, and five operations write them.
The statuses mirror each other as long as only approved tenants are suspended or
reactivated.
-/

namespace InfinityRadius.Services.AdminTenantService

open Database Program Sql Models PayoutService

/-! ## The mirror -/

/-- The tenant status that goes with a verification status. -/
def Mirrors : TenantStatus → TenantVerificationStatus → Prop
  | .active, verification => verification = .approved
  | .suspended, verification => verification = .approved
  | .pendingVerification, verification => verification = .pendingVerification
  | .moreInformationRequired, verification => verification = .moreInformationRequired
  | .rejected, verification => verification = .rejected

instance : ∀ status verification, Decidable (Mirrors status verification)
  | .active, _ => decEq _ _
  | .suspended, _ => decEq _ _
  | .pendingVerification, _ => decEq _ _
  | .moreInformationRequired, _ => decEq _ _
  | .rejected, _ => decEq _ _

/-- The tenant has a verification record that goes with its status. -/
def Reviewed (db : PlatformDb) (tenant : Tenant) : Prop :=
  ∃ v ∈ db.rows .tenantVerifications, v.tenantId = tenant.id ∧ Mirrors tenant.status v.status

instance (db : PlatformDb) (tenant : Tenant) : Decidable (Reviewed db tenant) :=
  inferInstanceAs (Decidable (∃ v ∈ _, _))

/-- Both statuses of every tenant mirror each other. -/
def Mirrored (db : PlatformDb) : Prop := ∀ tenant ∈ db.rows .tenants, Reviewed db tenant

instance (db : PlatformDb) : Decidable (Mirrored db) :=
  inferInstanceAs (Decidable (∀ tenant ∈ _, _))

section Writes

variable {db db' db'' : PlatformDb} {tenant : Tenant} {v v' : TenantVerification}

theorem Mirrored.of_rows (h : Mirrored db) (htenants : db'.rows .tenants = db.rows .tenants)
    (hverifications : db'.rows .tenantVerifications = db.rows .tenantVerifications) :
    Mirrored db' := by
  intro tenant htenant
  rw [htenants] at htenant
  rw [Reviewed, hverifications]
  exact h tenant htenant

/-- A tenant row written under a verification that goes with it. -/
theorem Mirrored.setTenant (h : Mirrored db) (hwrite : Db.Replaced .tenants tenant db db')
    (hreviewed : Reviewed db tenant) : Mirrored db' := by
  intro other hother
  rw [hwrite.rows_self] at hother
  rw [Reviewed, hwrite.rows_of_ne (by decide)]
  rcases mem_replaceRow hother with rfl | ⟨hold, -⟩
  · exact hreviewed
  · exact h other hold

/-- Both rows of a tenant written. -/
theorem Mirrored.setBoth (h : Mirrored db) (hv : v ∈ db.rows .tenantVerifications)
    (hid : v'.id = v.id) (htenantId : v'.tenantId = v.tenantId)
    (htenant : v.tenantId = tenant.id) (hmirrors : Mirrors tenant.status v'.status)
    (hwrite : Db.Replaced .tenants tenant db db')
    (hwrite' : Db.Replaced .tenantVerifications v' db' db'') : Mirrored db'' := by
  have hverifications : db''.rows .tenantVerifications =
      replaceRow schema .tenantVerifications v' (db.rows .tenantVerifications) := by
    rw [hwrite'.rows_self, hwrite.rows_of_ne (by decide)]
  intro other hother
  rw [hwrite'.rows_of_ne (by decide), hwrite.rows_self] at hother
  rw [Reviewed, hverifications]
  rcases mem_replaceRow hother with rfl | ⟨hold, hne⟩
  · exact ⟨v', mem_replaceRow_self hv hid.symm, htenantId.trans htenant, hmirrors⟩
  · obtain ⟨u, hu, hutenant, humirrors⟩ := h other hold
    refine ⟨u, mem_replaceRow_of_ne hu fun heq => hne ?_, hutenant, humirrors⟩
    obtain rfl : u = v := db.id_injOn hu hv (heq.trans hid)
    exact hutenant.symm.trans htenant

/-- A new tenant and its verification record. -/
theorem Mirrored.register (h : Mirrored db) (htenants : db'.rows .tenants = db.rows .tenants ++ [tenant])
    (hverifications : db'.rows .tenantVerifications = db.rows .tenantVerifications ++ [v])
    (htenant : v.tenantId = tenant.id) (hmirrors : Mirrors tenant.status v.status) :
    Mirrored db' := by
  intro other hother
  rw [htenants] at hother
  rw [Reviewed, hverifications]
  rcases List.mem_append.mp hother with hold | hnew
  · obtain ⟨u, hu, hutenant, humirrors⟩ := h other hold
    exact ⟨u, List.mem_append_left _ hu, hutenant, humirrors⟩
  · rw [List.mem_singleton.mp hnew]
    exact ⟨v, List.mem_append_right _ List.mem_cons_self, htenant, hmirrors⟩

end Writes

/-! ## Rules -/

section Rules

variable {α : Type} {world : PlatformWorld} {returns : α → PlatformWorld → Prop}
  {raises : Failure → PlatformWorld → Prop}

theorem always_requireTenant {tenantId : ℕ} {returns : Tenant → PlatformWorld → Prop}
    (hfound : ∀ tenant ∈ world.db.rows .tenants, tenant.id = tenantId → returns tenant world)
    (hraises : ∀ e, raises e world) :
    Always (fun _ => false) returns raises (requireTenant tenantId) world := by
  refine always_bind.mpr (always_getById rfl (fun tenant htenant _ hid => ?_) fun _ => hraises _)
  exact hfound tenant htenant hid

theorem always_getTenantAndVerification {tenantId : ℕ}
    {returns : Tenant × TenantVerification → PlatformWorld → Prop}
    (hfound : ∀ tenant ∈ world.db.rows .tenants, tenant.id = tenantId →
      ∀ v ∈ world.db.rows .tenantVerifications, v.tenantId = tenantId →
        returns (tenant, v) world)
    (hraises : ∀ e, raises e world) :
    Always (fun _ => false) returns raises (getTenantAndVerification tenantId) world := by
  refine always_bind.mpr (always_requireTenant (fun tenant htenant hid => ?_) hraises)
  refine always_bind.mpr (always_selectOne_found rfl (fun v hv hvtenant => ?_)
    (hraises _) (hraises _))
  exact hfound tenant htenant hid v hv (beq_iff_eq.mp hvtenant)

theorem always_setTenantStatus {tenant : Tenant} {status : TenantStatus}
    {returns : Tenant → PlatformWorld → Prop} (htenant : tenant ∈ world.db.rows .tenants)
    (hwritten : ∀ db, Db.Replaced .tenants { tenant with status } world.db db →
      returns { tenant with status } { world with db })
    (hraises : ∀ e, raises e world) :
    Always (fun _ => false) returns raises (setTenantStatus tenant status) world :=
  always_updateRow (t := .tenants) rfl htenant rfl (fun _ => rfl) (fun db _ => hwritten db)
    fun _ => hraises _

theorem always_review {tenantId : ℕ} {status : TenantStatus}
    {set : Timestamp → TenantVerification → TenantVerification}
    {metadata : List (Option String)} (hid : ∀ time v, (set time v).id = v.id)
    (htenantId : ∀ time v, (set time v).tenantId = v.tenantId)
    (hmirrors : ∀ time v, Mirrors status (set time v).status) (hdb : Mirrored world.db) :
    Always (fun _ => false) (fun _ world' => Mirrored world'.db) (fun _ _ => True)
      (review tenantId status set metadata) world := by
  refine always_bind.mpr (always_getTenantAndVerification
    (fun tenant htenant htenantid v hv hvtenant => ?_) fun _ => trivial)
  refine always_bind.mpr (always_now.mpr fun time => ?_)
  refine always_bind.mpr (always_setTenantStatus htenant (fun db hwrite => ?_) fun _ => trivial)
  have hv' : v ∈ db.rows .tenantVerifications := by
    rw [hwrite.rows_of_ne (by decide)]
    exact hv
  refine always_bind.mpr (always_updateRow (t := .tenantVerifications) rfl hv' (hid time v)
    (fun other => ?_) (fun db' _ hwrite' => ?_) fun _ => trivial)
  · simp only [rowConflict, htenantId]
  · refine always_bind.mpr (always_writeAuditLog ?_ trivial)
    refine hdb.setBoth hv (hid time v) (htenantId time v) ?_ ?_ hwrite hwrite'
    · exact hvtenant.trans htenantid.symm
    · exact hmirrors time v

theorem always_setStatus {tenantId : ℕ} {status : TenantStatus}
    {metadata : List (Option String)} (hdb : Mirrored world.db)
    (hmirrors : ∀ tenant ∈ world.db.rows .tenants, tenant.id = tenantId →
      Reviewed world.db { tenant with status }) :
    Always (fun _ => false) (fun _ world' => Mirrored world'.db) (fun _ _ => True)
      (setStatus tenantId status metadata) world := by
  refine always_bind.mpr (always_requireTenant (fun tenant htenant hid => ?_) fun _ => trivial)
  refine always_bind.mpr (always_setTenantStatus htenant (fun db hwrite => ?_) fun _ => trivial)
  refine always_bind.mpr (always_writeAuditLog ?_ trivial)
  exact hdb.setTenant hwrite (hmirrors tenant htenant hid)

/-- The feature flags are written without regard to either status. -/
theorem always_setFlags {tenantId : ℕ} {set : TenantFeatureFlags → TenantFeatureFlags}
    (hdb : Mirrored world.db) :
    Always (fun _ => false) (fun _ world' => Mirrored world'.db) (fun _ _ => True)
      (do let flags ← getFlags tenantId; updateRow .tenantFeatureFlags flags.id set :
        Tx TenantFeatureFlags) world := by
  refine always_bind.mpr (always_bind.mpr (always_selectOne_any rfl (fun flags => ?_)
    fun _ => trivial))
  refine always_orRaise (fun flags _ => ?_) fun _ => trivial
  refine always_updateRow_within rfl (fun _ final hfinal => ?_) trivial
  exact hdb.of_rows (hfinal.1 _ (by decide)) (hfinal.1 _ (by decide))

theorem always_getOrCreateWallet_within {tenantId : ℕ}
    {returns : TenantWallet → PlatformWorld → Prop}
    (hreturns : ∀ wallet world', Within (· = .tenantWallets) world world' →
      returns wallet world')
    (hraises : ∀ e, raises e world) :
    Always (fun _ => false) returns raises (WalletService.getOrCreateWallet tenantId) world := by
  refine always_bind.mpr (always_selectOne_found rfl (fun wallet _ _ => ?_) ?_ (hraises _))
  · exact hreturns wallet world ⟨fun _ _ => rfl, rfl⟩
  · exact always_create_within rfl hreturns (hraises _)

/-- The tenant and its verification record are the two rows of a registration that
matter here. -/
theorem always_createLocalRecords {ownerId : ℕ} {ownerRoleSeeded : Bool}
    (hdb : Mirrored world.db) :
    Always (fun _ => false) (fun _ world' => Mirrored world'.db) (fun _ _ => True)
      (OnboardingService.createLocalRecords ownerId ownerRoleSeeded) world := by
  refine always_bind.mpr (always_create rfl (fun tenant db htenant _ htenants => ?_)
    fun _ => trivial)
  refine always_bind.mpr (always_getById_any rfl fun profile => ?_)
  refine always_bind.mpr (always_orRaise (fun profile _ => ?_) fun _ => trivial)
  refine always_bind.mpr (always_updateRow_within rfl (fun _ claimed hclaimed => ?_) trivial)
  refine always_bind.mpr (always_require (fun _ => ?_) fun _ => trivial)
  refine always_bind.mpr (always_create rfl (fun v db' hv _ hverifications => ?_)
    fun _ => trivial)
  refine always_bind.mpr (always_create_within rfl (fun _ flagged hflagged => ?_) trivial)
  refine always_bind.mpr (always_getOrCreateWallet_within (fun _ final hfinal => ?_)
    fun _ => trivial)
  have hv' : v.tenantId = tenant.id ∧ v.status = .pendingVerification := by
    rw [hv]
    exact ⟨rfl, rfl⟩
  refine hdb.register ?_ ?_ hv'.1 ?_
  · rw [hfinal.1 _ (by decide), hflagged.1 _ (by decide), hverifications.rows_of_ne (by decide),
      hclaimed.1 _ (by decide), htenants.rows_self]
  · rw [hfinal.1 _ (by decide), hflagged.1 _ (by decide), hverifications.rows_self,
      hclaimed.1 _ (by decide), htenants.rows_of_ne (by decide)]
  · rw [htenant, hv'.2]
    rfl

end Rules

/-! ## Runs -/

inductive AdminOperation
  | register (ownerId : ℕ) (ownerRoleSeeded : Bool)
  | approve (tenantId actorId : ℕ)
  | reject (tenantId actorId : ℕ) (reason : String)
  | requestMoreInformation (tenantId actorId : ℕ) (message : String)
  | suspend (tenantId : ℕ) (reason : Option String)
  | reactivate (tenantId : ℕ)
  | setCollectionEnabled (tenantId : ℕ) (enabled : Bool)
  | setPayoutEnabled (tenantId : ℕ) (enabled : Bool)

/-- The operation, its result left to the caller. -/
def AdminOperation.program : AdminOperation → Tx Unit
  | register ownerId ownerRoleSeeded => do
    let _ ← OnboardingService.createLocalRecords ownerId ownerRoleSeeded
    pure ()
  | approve tenantId actorId => do
    let _ ← AdminTenantService.approve tenantId actorId
    pure ()
  | reject tenantId actorId reason => do
    let _ ← AdminTenantService.reject tenantId actorId reason
    pure ()
  | requestMoreInformation tenantId actorId message => do
    let _ ← AdminTenantService.requestMoreInformation tenantId actorId message
    pure ()
  | suspend tenantId reason => do
    let _ ← AdminTenantService.suspend tenantId reason
    pure ()
  | reactivate tenantId => do
    let _ ← AdminTenantService.reactivate tenantId
    pure ()
  | setCollectionEnabled tenantId enabled => do
    let _ ← AdminTenantService.setCollectionEnabled tenantId enabled
    pure ()
  | setPayoutEnabled tenantId enabled => do
    let _ ← AdminTenantService.setPayoutEnabled tenantId enabled
    pure ()

/-- One request of a super admin, or one registration. -/
structure AdminStep where
  operation : AdminOperation
  outside : Outside

def AdminStep.next (step : AdminStep) (world : PlatformWorld) : PlatformWorld :=
  (transact step.outside step.operation.program world).2

def runAdmin (steps : List AdminStep) (world : PlatformWorld) : PlatformWorld :=
  Runs.run AdminStep.next steps world

/-- The verification of the tenant, if it has one, is approved. -/
def Approved (db : PlatformDb) (tenantId : ℕ) : Prop :=
  ∀ v ∈ db.rows .tenantVerifications, v.tenantId = tenantId → v.status = .approved

/-- The step suspends or reactivates an approved tenant only. -/
def AdminStep.OnApproved (step : AdminStep) (world : PlatformWorld) : Prop :=
  match step.operation with
  | .suspend tenantId _ => Approved world.db tenantId
  | .reactivate tenantId => Approved world.db tenantId
  | _ => True

instance (db : PlatformDb) (tenantId : ℕ) : Decidable (Approved db tenantId) :=
  inferInstanceAs (Decidable (∀ v ∈ _, _))

instance : ∀ (step : AdminStep) world, Decidable (step.OnApproved world)
  | ⟨.suspend tenantId _, _⟩, world => inferInstanceAs (Decidable (Approved world.db tenantId))
  | ⟨.reactivate tenantId, _⟩, world => inferInstanceAs (Decidable (Approved world.db tenantId))
  | ⟨.register _ _, _⟩, _ => isTrue trivial
  | ⟨.approve _ _, _⟩, _ => isTrue trivial
  | ⟨.reject _ _ _, _⟩, _ => isTrue trivial
  | ⟨.requestMoreInformation _ _ _, _⟩, _ => isTrue trivial
  | ⟨.setCollectionEnabled _ _, _⟩, _ => isTrue trivial
  | ⟨.setPayoutEnabled _ _, _⟩, _ => isTrue trivial

theorem Reviewed.of_approved {db : PlatformDb} {tenant : Tenant} {status : TenantStatus}
    (h : Reviewed db tenant) (happroved : Approved db tenant.id)
    (hstatus : status = .active ∨ status = .suspended) :
    Reviewed db { tenant with status } := by
  obtain ⟨v, hv, htenant, -⟩ := h
  refine ⟨v, hv, htenant, ?_⟩
  rcases hstatus with rfl | rfl
  · exact happroved v hv htenant
  · exact happroved v hv htenant

/-- What one step keeps. -/
theorem AdminStep.mirrored (step : AdminStep) (world : PlatformWorld)
    (hstep : step.OnApproved world) (hdb : Mirrored world.db) :
    Mirrored (step.next world).db := by
  have halways : Always (fun _ => false) (fun _ world' => Mirrored world'.db)
      (fun _ _ => True) step.operation.program ⟨world.db, []⟩ := by
    rcases step with ⟨operation, outside⟩
    cases operation with
    | register ownerId ownerRoleSeeded =>
      exact always_bind.mpr (always_createLocalRecords hdb)
    | approve tenantId actorId =>
      exact always_bind.mpr (always_review (fun _ _ => rfl) (fun _ _ => rfl)
        (fun _ _ => rfl) hdb)
    | reject tenantId actorId reason =>
      exact always_bind.mpr (always_review (fun _ _ => rfl) (fun _ _ => rfl)
        (fun _ _ => rfl) hdb)
    | requestMoreInformation tenantId actorId message =>
      exact always_bind.mpr (always_review (fun _ _ => rfl) (fun _ _ => rfl)
        (fun _ _ => rfl) hdb)
    | suspend tenantId reason =>
      refine always_bind.mpr (always_setStatus hdb fun tenant htenant hid => ?_)
      exact (hdb tenant htenant).of_approved (hid ▸ hstep) (Or.inr rfl)
    | reactivate tenantId =>
      refine always_bind.mpr (always_setStatus hdb fun tenant htenant hid => ?_)
      exact (hdb tenant htenant).of_approved (hid ▸ hstep) (Or.inl rfl)
    | setCollectionEnabled tenantId enabled => exact always_bind.mpr (always_setFlags hdb)
    | setPayoutEnabled tenantId enabled => exact always_bind.mpr (always_setFlags hdb)
  rcases transact_db step.outside halways with ⟨_, hnext⟩ | hnext
  · exact hnext
  · rw [AdminStep.next, hnext]
    exact hdb

/-- As long as only approved tenants are suspended or reactivated, the statuses of every
tenant mirror each other. -/
theorem runAdmin_mirrored {steps : List AdminStep} {world : PlatformWorld}
    (hsteps : Runs.All AdminStep.next AdminStep.OnApproved steps world)
    (hdb : world.db.rows .tenants = []) : Mirrored (runAdmin steps world).db := by
  refine Runs.run_invariant (fun world : PlatformWorld => Mirrored world.db)
    AdminStep.mirrored hsteps fun tenant htenant => ?_
  rw [hdb] at htenant
  cases htenant

/-! ## A tenant that was never approved -/

/-- The profile of a new user, before anything else exists. -/
def signedUpDb : PlatformDb where
  rows
    | .profiles => [{ id := 5, tenantId := none, email := some "owner@example.com" }]
    | _ => []
  valid t := by cases t <;> decide +kernel
  apart t := by cases t <;> decide +kernel

def adminStep (operation : AdminOperation) : AdminStep := ⟨operation, answering []⟩

def registration : AdminStep := adminStep (.register 5 true)

/-- An approved tenant is suspended and reactivated. -/
theorem mirrored_reactivated :
    Mirrored (runAdmin [registration, adminStep (.approve 0 9),
      adminStep (.suspend 0 (some "fraud review")), adminStep (.reactivate 0)]
      ⟨signedUpDb, []⟩).db :=
  runAdmin_mirrored (by decide +kernel) rfl

/-- A tenant that is reactivated before any review is live. -/
theorem not_mirrored_unreviewed :
    ¬Mirrored (runAdmin [registration, adminStep (.reactivate 0)] ⟨signedUpDb, []⟩).db := by
  decide +kernel

end InfinityRadius.Services.AdminTenantService
