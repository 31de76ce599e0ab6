import InfinityRadius.Services.ApprovedTenants
import InfinityRadius.Services.CodeRuns

/-!
# Confirmed addresses

`get_account_status` stamps a tenant when Supabase reports any of its members confirmed, and a
withdrawal code goes to the address its requester has then.  Along a run it is recorded whose
account was reported confirmed under which address, and which of these answers stamped a tenant.
-/

namespace InfinityRadius.Services

open Database Models PayoutService Program Sql

namespace OnboardingService

/-- What becomes of `get_user`: the account, a `SupabaseAdminError`, or another exception. -/
inductive UserAnswer
  | detail (emailConfirmed : Bool)
  | supabaseAdminError
  | raised
deriving DecidableEq

/-- `detail.email_confirmed`, false where Supabase refuses to say. -/
def emailVerified : UserAnswer → Tx Bool
  | .detail emailConfirmed => pure emailConfirmed
  | .supabaseAdminError => pure false
  | .raised => throw (.runtimeError "")

/-- `get_account_status`, by the answer about the account it is called for. -/
def getAccountStatus (tenantId : ℕ) (answer : UserAnswer) :
    Tx (TenantStatus × Bool × Option TenantVerification) := do
  let tenant ← getById .tenants none tenantId
  let status := (tenant.map Tenant.status).getD .pendingVerification
  let emailVerified ← emailVerified answer
  let verification ← selectOne .tenantVerifications fun v => v.tenantId == tenantId
  match verification with
  | none => pure (status, emailVerified, none)
  | some v =>
    if emailVerified = true ∧ v.emailVerifiedAt = none then do
      let time ← now
      let v ← updateRow .tenantVerifications v.id fun stored =>
        { stored with emailVerifiedAt := some time }
      writeAuditLog []
      pure (status, emailVerified, some v)
    else pure (status, emailVerified, some v)

end OnboardingService

namespace ConfirmedAddresses

open OnboardingService

/-! ## Steps -/

inductive AddressStep
  | registered (ownerId : ℕ) (ownerRoleSeeded : Bool) (outside : Outside)
  /-- A profile is created, or changed by its user. -/
  | profileStored (profile : Profile)
  | statusChecked (tenantId ownerId : ℕ) (answer : UserAnswer) (outside : Outside)
  | payout (own : Step)

def AddressStep.next : AddressStep → PlatformWorld → PlatformWorld
  | registered ownerId ownerRoleSeeded outside, world =>
    (transact outside (createLocalRecords ownerId ownerRoleSeeded) world).2
  | profileStored profile, world =>
    match world.db.store .profiles profile with
    | some db => { world with db }
    | none => world
  | statusChecked tenantId _ answer outside, world =>
    (transact outside (getAccountStatus tenantId answer) world).2
  | payout own, world => own.next world

/-- The address of a user's profile. -/
def addressNow (db : PlatformDb) (userId : ℕ) : Option String :=
  ((db.rows .profiles).find? fun profile => profile.id == userId).bind Profile.email

/-- The tenant carries the stamp of a confirmed address. -/
def Verified (db : PlatformDb) (tenantId : ℕ) : Prop :=
  ∃ v ∈ db.rows .tenantVerifications, v.tenantId = tenantId ∧ v.emailVerifiedAt.isSome = true

instance (db : PlatformDb) (tenantId : ℕ) : Decidable (Verified db tenantId) :=
  inferInstanceAs (Decidable (∃ v ∈ _, _))

/-- An account was reported confirmed while its profile had the address. -/
structure Answered where
  tenantId : ℕ
  userId : ℕ
  address : Option String
deriving DecidableEq

/-- The answers that reported an account confirmed, and those among them that stamped the
tenant. -/
structure History where
  confirmed : List Answered
  stamps : List Answered

/-- What a step adds to the history. -/
def AddressStep.record : AddressStep → PlatformWorld → History → History
  | statusChecked tenantId ownerId (.detail true) outside, world, history =>
    let answered : Answered := ⟨tenantId, ownerId, addressNow world.db ownerId⟩
    let world' := (transact outside (getAccountStatus tenantId (.detail true)) world).2
    { confirmed := answered :: history.confirmed
      stamps :=
        if ¬Verified world.db tenantId ∧ Verified world'.db tenantId then
          answered :: history.stamps
        else history.stamps }
  | _, _, history => history

/-- A member of a tenant requests a withdrawal, or a new code for one. -/
def AddressStep.Requests (step : AddressStep) (tenantId userId : ℕ) : Prop :=
  ∃ own, step = .payout own ∧
    ((∃ destinationId amount,
      own.operation = .requestWithdrawal tenantId userId destinationId amount) ∨
    ∃ withdrawalId, own.operation = .resendOtp tenantId withdrawalId userId)

/-- The step issues a code to the address for the requester. -/
def AddressStep.Mails (step : AddressStep) (world : PlatformWorld) (userId : ℕ)
    (email : String) : Prop :=
  ∃ own tenantId, step = .payout own ∧ own.result world = .ok () ∧
    ((∃ destinationId amount,
      own.operation = .requestWithdrawal tenantId userId destinationId amount) ∨
    ∃ withdrawalId, own.operation = .resendOtp tenantId withdrawalId userId) ∧
    ∃ w ∈ (own.next world).db.rows .withdrawals, w ∉ world.db.rows .withdrawals ∧
      w.otpSentToEmail = some email

/-- Supabase reported the requester's own account confirmed while it had the address. -/
def Confirmed (history : History) (userId : ℕ) (email : String) : Prop :=
  ∃ answered ∈ history.confirmed, answered.userId = userId ∧ answered.address = some email

instance (history : History) (userId : ℕ) (email : String) :
    Decidable (Confirmed history userId email) :=
  inferInstanceAs (Decidable (∃ answered ∈ _, _))

/-- Whoever stamped the tenant of a requester is the requester, under the address of now. -/
def OwnStamp (step : AddressStep) (state : PlatformWorld × History) : Prop :=
  ∀ tenantId userId, step.Requests tenantId userId →
    ∀ stamp ∈ state.2.stamps, stamp.tenantId = tenantId →
      stamp.userId = userId ∧ stamp.address = addressNow state.1.db userId

/-! ## Where a code goes -/

variable {world : PlatformWorld} {history : History}

theorem addressNow_of_addressOf {db : PlatformDb} {tenantId userId : ℕ} {email : String}
    (h : addressOf db tenantId userId = some email) : addressNow db userId = some email := by
  unfold addressOf at h
  obtain ⟨profile, hfind, hemail⟩ := Option.bind_eq_some_iff.mp h
  have hmem := List.mem_of_find?_eq_some hfind
  have hfound := List.find?_some hfind
  have hid : profile.id = userId := by
    simp at hfound
    exact hfound.2
  cases hnow : (db.rows .profiles).find? fun profile => profile.id == userId with
  | none =>
    have hother := List.find?_eq_none.mp hnow profile hmem
    exact absurd (beq_iff_eq.mpr hid) hother
  | some now =>
    have hfoundNow := List.find?_some hnow
    have hnowId : now.id = userId := beq_iff_eq.mp hfoundNow
    obtain rfl : now = profile :=
      db.id_injOn (t := .profiles) (List.mem_of_find?_eq_some hnow) hmem (hnowId.trans hid.symm)
    rw [addressNow, hnow]
    exact hemail

/-- A code goes to the address the requester has now, and its tenant is stamped. -/
theorem AddressStep.Mails.resolves {step : AddressStep} {userId : ℕ} {email : String}
    (h : step.Mails world userId email) :
    ∃ tenantId, step.Requests tenantId userId ∧ Resolves world.db tenantId userId email := by
  obtain ⟨own, tenantId, hstep, hresult, hoperation, w', hw', hnew, hemail⟩ := h
  refine ⟨tenantId, ⟨own, hstep, hoperation⟩, ?_⟩
  rcases hoperation with ⟨destinationId, amount, hoperation⟩ | ⟨withdrawalId, hoperation⟩
  · obtain ⟨address, hresolves, hopened⟩ := Step.opened hoperation hresult
    obtain ⟨v, wallet, wallet', hrequested⟩ := Step.requestedAs hoperation hresult
    have hrows : (own.next world).db.rows .withdrawals = _ := hrequested.withdrawals
    rw [hrows] at hw'
    obtain rfl : w' = v := by
      rcases List.mem_append.mp hw' with hold | hlast
      · exact absurd hold hnew
      · exact List.mem_singleton.mp hlast
    rcases hopened w' (by rw [hrows]; exact hw') with ⟨w, hw, hid, -⟩ | hfirst
    · exact absurd hid (hrequested.fresh w hw)
    · obtain ⟨draft, hash, expiresAt, lastSentAt, -, rfl⟩ := hfirst
      obtain rfl := Option.some.inj hemail
      exact hresolves
  · obtain ⟨w, w'', -, hresent⟩ := Step.resent hoperation hresult
    obtain ⟨hash, address, expiresAt, i, j, -, -, hresolves, hissued⟩ := hresent.issued
    rw [hresent.replaced.rows_self] at hw'
    rcases mem_replaceRow hw' with hw' | ⟨hold, -⟩
    · rw [hw', hissued] at hemail
      obtain rfl := Option.some.inj hemail
      exact hresolves
    · exact absurd hold hnew

/-! ## Who stamps a tenant -/

/-- Every stamp of the second database is one of the first. -/
def Unstamped (db db' : PlatformDb) : Prop := ∀ tenantId, Verified db' tenantId → Verified db tenantId

theorem Unstamped.of_rows {db db' : PlatformDb}
    (h : db'.rows .tenantVerifications = db.rows .tenantVerifications) : Unstamped db db' := by
  intro tenantId hverified
  rw [Verified, h] at hverified
  exact hverified

theorem Unstamped.refl (db : PlatformDb) : Unstamped db db := fun _ h => h

/-- A registration stamps nothing. -/
theorem always_createLocalRecords {ownerId : ℕ} {ownerRoleSeeded : Bool} :
    Always (fun _ => false) (fun _ world' => Unstamped world.db world'.db) (fun _ _ => True)
      (createLocalRecords ownerId ownerRoleSeeded) world := by
  refine always_bind.mpr (always_create rfl (fun tenant db _ _ htenants => ?_) fun _ => trivial)
  refine always_bind.mpr (always_getById_any rfl fun profile => ?_)
  refine always_bind.mpr (always_orRaise (fun profile _ => ?_) fun _ => trivial)
  refine always_bind.mpr (always_updateRow_within rfl (fun _ claimed hclaimed => ?_) trivial)
  refine always_bind.mpr (always_require (fun _ => ?_) fun _ => trivial)
  refine always_bind.mpr (always_create rfl (fun v db' hv _ hverifications => ?_)
    fun _ => trivial)
  refine always_bind.mpr (always_create_within rfl (fun _ flagged hflagged => ?_) trivial)
  refine always_bind.mpr (AdminTenantService.always_getOrCreateWallet_within
    (fun _ final hfinal => ?_) fun _ => trivial)
  have hrows : final.db.rows .tenantVerifications = world.db.rows .tenantVerifications ++ [v] := by
    rw [hfinal.1 _ (by decide), hflagged.1 _ (by decide), hverifications.rows_self,
      hclaimed.1 _ (by decide), htenants.rows_of_ne (by decide)]
  intro tenantId hverified
  obtain ⟨stamped, hstamped, htenant, hat⟩ := hverified
  rw [hrows] at hstamped
  rcases List.mem_append.mp hstamped with hold | hnew
  · exact ⟨stamped, hold, htenant, hat⟩
  · rw [List.mem_singleton.mp hnew, hv] at hat
    cases hat

/-- Only an answer that confirms an account stamps a tenant, the one it is asked for. -/
theorem always_getAccountStatus {tenantId : ℕ} {answer : UserAnswer} :
    Always (fun _ => false)
      (fun _ world' => Unstamped world.db world'.db ∨
        (answer = .detail true ∧
          ∀ other, other ≠ tenantId → Verified world'.db other → Verified world.db other))
      (fun _ _ => True) (getAccountStatus tenantId answer) world := by
  refine always_bind.mpr (always_getById_any rfl fun tenant => ?_)
  refine always_bind.mpr ?_
  cases answer with
  | supabaseAdminError =>
    refine always_bind.mpr (always_selectOne_any rfl (fun verification => ?_) fun _ => trivial)
    cases verification with
    | none => exact Or.inl (.refl _)
    | some v => exact Or.inl (.refl _)
  | raised => trivial
  | detail emailConfirmed =>
    refine always_bind.mpr (always_selectOne_found rfl (fun v hv htenant => ?_) ?_ trivial)
    · dsimp only
      split
      · rename_i hstamps
        have htenant : v.tenantId = tenantId := beq_iff_eq.mp htenant
        refine always_bind.mpr (always_now.mpr fun time => ?_)
        refine always_bind.mpr (always_updateRow (t := .tenantVerifications) rfl hv rfl
          (fun _ => rfl) (fun db _ hwrite => ?_) fun _ => trivial)
        refine always_bind.mpr (always_writeAuditLog ?_ trivial)
        right
        refine ⟨by rw [hstamps.1], fun other hother hverified => ?_⟩
        obtain ⟨stamped, hstamped, hof, hat⟩ := hverified
        rw [hwrite.rows_self] at hstamped
        rcases mem_replaceRow hstamped with rfl | ⟨hold, -⟩
        · exact absurd (hof.symm.trans htenant) hother
        · exact ⟨stamped, hold, hof, hat⟩
      · exact Or.inl (.refl _)
    · exact Or.inl (.refl _)

/-! ## Every run -/

/-- Every stamped tenant was stamped by an answer on record, and these confirmed an account. -/
structure Traced (state : PlatformWorld × History) : Prop where
  stamps : ∀ tenantId, Verified state.1.db tenantId →
    ∃ stamp ∈ state.2.stamps, stamp.tenantId = tenantId
  confirmed : ∀ stamp ∈ state.2.stamps, stamp ∈ state.2.confirmed

theorem Traced.of_unstamped {world' : PlatformWorld} (h : Traced (world, history))
    (hunstamped : Unstamped world.db world'.db) : Traced (world', history) :=
  ⟨fun tenantId hverified => h.stamps tenantId (hunstamped tenantId hverified), h.confirmed⟩

/-- What a committed answer stamps. -/
theorem stamped_of_statusChecked (tenantId : ℕ) (answer : UserAnswer) (outside : Outside)
    (world : PlatformWorld) :
    Unstamped world.db (transact outside (getAccountStatus tenantId answer) world).2.db ∨
      (answer = .detail true ∧ ∀ other, other ≠ tenantId →
        Verified (transact outside (getAccountStatus tenantId answer) world).2.db other →
          Verified world.db other) := by
  have halways := @always_getAccountStatus ⟨world.db, []⟩ tenantId answer
  rcases transact_db outside halways with ⟨_, h⟩ | hsame
  · exact h
  · rw [hsame]
    exact Or.inl (.refl _)

/-- An answer that confirms an account is put on record, as the stamp it may be. -/
theorem Traced.confirm {tenantId ownerId : ℕ} {outside : Outside} (h : Traced (world, history)) :
    Traced ((AddressStep.statusChecked tenantId ownerId (.detail true) outside).next world,
      (AddressStep.statusChecked tenantId ownerId (.detail true) outside).record world
        history) := by
  have hother : ∀ other, other ≠ tenantId →
      Verified (transact outside (getAccountStatus tenantId (.detail true)) world).2.db other →
        Verified world.db other := by
    rcases stamped_of_statusChecked tenantId (.detail true) outside world with hsame | ⟨-, h⟩
    · exact fun other _ => hsame other
    · exact h
  rw [AddressStep.record]
  constructor
  · intro other hverified
    by_cases hsame : other = tenantId
    · subst hsame
      by_cases hold : Verified world.db other
      · rw [if_neg fun hnew => hnew.1 hold]
        exact h.stamps other hold
      · rw [if_pos ⟨hold, hverified⟩]
        exact ⟨_, List.mem_cons_self, rfl⟩
    · obtain ⟨stamp, hstamp, htenant⟩ := h.stamps other (hother other hsame hverified)
      use stamp
      split
      · exact ⟨List.mem_cons_of_mem _ hstamp, htenant⟩
      · exact ⟨hstamp, htenant⟩
  · intro stamp hstamp
    split at hstamp
    · rcases List.mem_cons.mp hstamp with rfl | hold
      · exact List.mem_cons_self
      · exact List.mem_cons_of_mem _ (h.confirmed stamp hold)
    · exact List.mem_cons_of_mem _ (h.confirmed stamp hstamp)

theorem Traced.step (step : AddressStep) (state : PlatformWorld × History) (h : Traced state) :
    Traced (Runs.recording AddressStep.record AddressStep.next step state) := by
  obtain ⟨world, history⟩ := state
  cases step with
  | registered ownerId ownerRoleSeeded outside =>
    apply h.of_unstamped
    have halways := @always_createLocalRecords ⟨world.db, []⟩ ownerId ownerRoleSeeded
    rcases transact_db outside halways with ⟨_, hunstamped⟩ | hsame
    · exact hunstamped
    · exact .of_rows (congrArg (fun db : PlatformDb => db.rows .tenantVerifications) hsame)
  | profileStored profile =>
    apply h.of_unstamped
    apply Unstamped.of_rows
    change ((AddressStep.profileStored profile).next world).db.rows .tenantVerifications = _
    rw [AddressStep.next]
    split
    · rename_i db hstore
      have hrows := (Db.store_eq_some hstore).2
      exact (congrFun hrows .tenantVerifications).trans (Function.update_of_ne (by decide) _ _)
    · rfl
  | statusChecked tenantId ownerId answer outside =>
    cases answer with
    | detail emailConfirmed =>
      cases emailConfirmed with
      | true => exact h.confirm
      | false =>
        apply h.of_unstamped
        exact (stamped_of_statusChecked tenantId _ outside world).resolve_right
          fun h => absurd h.1 (by decide)
    | supabaseAdminError =>
      apply h.of_unstamped
      exact (stamped_of_statusChecked tenantId _ outside world).resolve_right
        fun h => absurd h.1 (by decide)
    | raised =>
      apply h.of_unstamped
      exact (stamped_of_statusChecked tenantId _ outside world).resolve_right
        fun h => absurd h.1 (by decide)
  | payout own =>
    apply h.of_unstamped
    exact .of_rows (own.others world (by decide))

/-- The tenant of the owner, whose address nobody has confirmed. -/
def unconfirmedRows : (t : Table) → List (Row t)
  | .tenantVerifications => [{ id := 0, tenantId := 1 }]
  | t => openingRows t

def unconfirmedDb : PlatformDb where
  rows := unconfirmedRows
  valid t := by cases t <;> decide +kernel
  apart t := by cases t <;> decide +kernel

/-- The owner's account is reported confirmed. -/
def confirmedAnswer : AddressStep := .statusChecked 1 5 (.detail true) (answering [])

/-- The owner changes the address after the tenant was stamped, and withdraws. -/
def changedAddress : List AddressStep :=
  [confirmedAnswer,
    .profileStored { id := 5, tenantId := some 1, email := some "other@example.com" },
    .payout requestStep]

end ConfirmedAddresses

end InfinityRadius.Services
