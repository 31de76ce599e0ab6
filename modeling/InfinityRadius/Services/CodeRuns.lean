import InfinityRadius.Services.EventLog
import InfinityRadius.Services.Verification

/-!
# Codes along a run

What a step does with the code of a withdrawal: it leaves it alone, issues a new one, or has
one presented for it.
-/

namespace InfinityRadius.Services.PayoutService

open Amounts Database Payload Program Sql Models TwoFactorService

/-! ## Issued codes -/

/-- What `_resolve_verified_email` requires of an address. -/
structure Resolves (db : PlatformDb) (tenantId actorId : ℕ) (email : String) : Prop where
  address : addressOf db tenantId actorId = some email
  nonempty : email.isEmpty = false
  verified : ∃ verification ∈ db.rows .tenantVerifications,
    verification.tenantId = tenantId ∧ verification.emailVerifiedAt.isSome = true

section Issues

variable {env : Outside} {state : State schema Request HttpResult} {runtime : Runtime}
  {w : Withdrawal} {email : String} {tenantId actorId : ℕ} {world : PlatformWorld}

omit w email tenantId actorId world in
theorem hashCode_cases (withdrawalId : ℕ) (code : String) :
    (∃ hash, hashCode runtime withdrawalId code = pure hash) ∨
      hashCode runtime withdrawalId code = throw otpSecret.refusal := by
  cases hsecret : runtime.settings.otpVerificationSecret with
  | none =>
    right
    rw [hashCode, otpSecret, hsecret]
    rfl
  | some secret =>
    cases hempty : secret.isEmpty with
    | true =>
      right
      rw [hashCode, otpSecret, hsecret]
      dsimp only
      rw [hempty]
      rfl
    | false => exact Or.inl ⟨_, hashCode_eq hsecret hempty⟩

/-- A new code is stored, and the time it was sent is the third answer of the runtime. -/
theorem run_issueAndSendOtp (hw : w ∈ state.db.rows .withdrawals) :
    (∃ hash expiresAt sent db,
      Db.Replaced .withdrawals
        (issuedAs w hash email expiresAt (env.answer (state.tick + 2) .now)) state.db db ∧
      run (exec env) (issueAndSendOtp runtime w email) state =
        (.ok (issuedAs w hash email expiresAt (env.answer (state.tick + 2) .now), sent,
          runtime.settings.withdrawalOtpTtlSeconds), ⟨⟨db, state.sent⟩, state.tick + 4⟩)) ∨
    ∃ e db tick, run (exec env) (issueAndSendOtp runtime w email) state =
      (.error e, ⟨⟨db, state.sent⟩, tick⟩) := by
  let challenged (hash : String) (w : Withdrawal) : Withdrawal :=
    { w with
      twoFactorCodeHash := some hash
      twoFactorExpiresAt := some (env.answer (state.tick + 1) .now +
        runtime.settings.withdrawalOtpTtlSeconds * microsPerSecond)
      twoFactorAttempts := 0
      twoFactorConfirmedAt := none
      otpSentToEmail := some email }
  let counted (w : Withdrawal) : Withdrawal :=
    { w with
      otpLastSentAt := some (env.answer (state.tick + 2) .now)
      otpSendCount := w.otpSendCount + 1 }
  have hrun : run (exec env) (issueAndSendOtp runtime w email) state =
      run (exec env) (do
        let hash ← hashCode runtime w.id (env.answer state.tick .randomCode)
        let time ← now
        let w ← updateWithdrawal w fun w =>
          { w with
            twoFactorCodeHash := some hash
            twoFactorExpiresAt :=
              some (time + runtime.settings.withdrawalOtpTtlSeconds * microsPerSecond)
            twoFactorAttempts := 0
            twoFactorConfirmedAt := none
            otpSentToEmail := some email }
        let time ← now
        let w ← updateWithdrawal w fun w =>
          { w with otpLastSentAt := some time, otpSendCount := w.otpSendCount + 1 }
        let sent ← issue (.ask (.sendEmail email))
        pure (w, sent, runtime.settings.withdrawalOtpTtlSeconds))
        { state with tick := state.tick + 1 } := by
    simp only [issueAndSendOtp, issueChallenge, Prog.bind_assoc]
    rfl
  rw [hrun]
  rcases @hashCode_cases runtime w.id (env.answer state.tick .randomCode) with ⟨hash, hhash⟩ | hnone
  · rw [hhash, Prog.pure_bind]
    have hsame : w.SameRequest (challenged hash w) := by constructor <;> rfl
    have hcounted : (challenged hash w).SameRequest (counted (challenged hash w)) := by
      constructor <;> rfl
    cases hvalid : rowValid .withdrawals (challenged hash w) with
    | true =>
      left
      obtain ⟨middle, hreplaced, hupdate⟩ := @run_updateWithdrawal env
        { state with tick := state.tick + 2 } w (challenged hash) hw hsame hvalid
      obtain ⟨db, hreplaced', hupdate'⟩ := @run_updateWithdrawal env
        ⟨⟨middle, state.sent⟩, state.tick + 3⟩ (challenged hash w) counted
        (hreplaced.mem hw rfl) hcounted hvalid
      refine ⟨hash, _, env.answer (state.tick + 3) (.sendEmail email), db,
        hreplaced.trans hreplaced' rfl, ?_⟩
      calc run (exec env) _ _ = run (exec env) (do
              let w ← updateWithdrawal w (challenged hash)
              let time ← now
              let w ← updateWithdrawal w fun w =>
                { w with otpLastSentAt := some time, otpSendCount := w.otpSendCount + 1 }
              let sent ← issue (.ask (.sendEmail email))
              pure (w, sent, runtime.settings.withdrawalOtpTtlSeconds))
              { state with tick := state.tick + 2 } := rfl
        _ = run (exec env) (do
              let w ← updateWithdrawal (challenged hash w) counted
              let sent ← issue (.ask (.sendEmail email))
              pure (w, sent, runtime.settings.withdrawalOtpTtlSeconds))
              ⟨⟨middle, state.sent⟩, state.tick + 3⟩ := by
            rw [run_bind, hupdate]
            rfl
        _ = _ := by
            rw [run_bind, hupdate']
            rfl
    | false =>
      right
      use .database, state.db, state.tick + 2
      have hupdate := @run_updateWithdrawal_refused env { state with tick := state.tick + 2 } w
        (challenged hash) hw hsame hvalid
      exact @Eq.trans _ _ (run (exec env) (do
        let w ← updateWithdrawal w (challenged hash)
        let time ← now
        let w ← updateWithdrawal w fun w =>
          { w with otpLastSentAt := some time, otpSendCount := w.otpSendCount + 1 }
        let sent ← issue (.ask (.sendEmail email))
        pure (w, sent, runtime.settings.withdrawalOtpTtlSeconds))
        { state with tick := state.tick + 2 }) _ rfl (by rw [run_bind, hupdate])
  · right
    use otpSecret.refusal, state.db, state.tick + 1
    rw [hnone]
    rfl

/-- A lookup leaves the state alone, whatever it finds. -/
theorem run_selectOne_any {t : Table} (p : Row t → Bool) :
    (∃ found, run (exec env) (selectOne t p) state = (.ok found, state)) ∨
    ∃ e, run (exec env) (selectOne t p) state = (.error e, state) := by
  have hrun : run (exec env) (selectOne t p) state =
      run (exec env) (scalarOneOrNone ((state.db.rows t).filter p)) state := rfl
  rw [hrun]
  cases (state.db.rows t).filter p with
  | nil => exact Or.inl ⟨none, rfl⟩
  | cons row rest =>
    cases rest with
    | nil => exact Or.inl ⟨some row, rfl⟩
    | cons => exact Or.inr ⟨_, rfl⟩

/-- The end of `_resolve_verified_email`. -/
def verifiedEmail (address : Option String) (verification : Option TenantVerification) :
    Tx String :=
  match address, verification.bind TenantVerification.emailVerifiedAt with
  | some email, some _ =>
    if email.isEmpty then throw resolveVerifiedEmail.refusal else pure email
  | _, _ => throw resolveVerifiedEmail.refusal

theorem run_resolveVerifiedEmail (tenantId actorId : ℕ) :
    (∃ email, Resolves state.db tenantId actorId email ∧
      run (exec env) (resolveVerifiedEmail tenantId actorId) state = (.ok email, state)) ∨
    ∃ e, run (exec env) (resolveVerifiedEmail tenantId actorId) state = (.error e, state) := by
  let found := (state.db.rows .tenantVerifications).filter fun v => v.tenantId == tenantId
  have hrun : run (exec env) (resolveVerifiedEmail tenantId actorId) state =
      run (exec env) (do
        let verification ← scalarOneOrNone found
        verifiedEmail (addressOf state.db tenantId actorId) verification) state := by
    rw [resolveVerifiedEmail, run_bind, run_getById_find]
    rfl
  rw [hrun]
  cases hfound : found with
  | nil =>
    right
    use resolveVerifiedEmail.refusal
    cases addressOf state.db tenantId actorId <;> rfl
  | cons verification rest =>
    cases rest with
    | cons => exact Or.inr ⟨_, rfl⟩
    | nil =>
      have hmem : verification ∈ found := by rw [hfound]; exact List.mem_cons_self
      obtain ⟨hstored, htenant⟩ := List.mem_filter.mp hmem
      have hone : (scalarOneOrNone [verification] : Tx (Option TenantVerification)) =
          pure (some verification) := rfl
      rw [hone, Prog.pure_bind]
      unfold verifiedEmail
      rw [Option.bind_some]
      cases haddress : addressOf state.db tenantId actorId with
      | none => exact Or.inr ⟨_, rfl⟩
      | some email =>
        cases hverified : verification.emailVerifiedAt with
        | none => exact Or.inr ⟨_, rfl⟩
        | some verifiedAt =>
          dsimp only
          cases hempty : email.isEmpty with
          | true => exact Or.inr ⟨_, rfl⟩
          | false =>
            exact Or.inl ⟨email, ⟨haddress, hempty, verification, hstored, by simpa using htenant,
              by rw [hverified]; rfl⟩, rfl⟩

theorem run_requireCooldown (settings : Settings) (w : Withdrawal) :
    (∃ tick, state.tick ≤ tick ∧
      (∀ lastSent, w.otpLastSentAt = some lastSent →
        lastSent + settings.withdrawalOtpResendCooldownSeconds * microsPerSecond ≤
          env.answer state.tick .now) ∧
      run (exec env) (requireCooldown settings w) state = (.ok (), { state with tick })) ∨
    ∃ e tick, run (exec env) (requireCooldown settings w) state =
      (.error e, { state with tick }) := by
  cases hlast : w.otpLastSentAt with
  | none =>
    left
    refine ⟨state.tick, le_refl _, fun _ h => ?_, ?_⟩
    · cases h
    · rw [requireCooldown, hlast]
      rfl
  | some lastSent =>
    let remaining := settings.withdrawalOtpResendCooldownSeconds * microsPerSecond -
      (env.answer state.tick .now - lastSent)
    have hrun : run (exec env) (requireCooldown settings w) state =
        run (exec env) (Prog.require (remaining ≤ 0) (.rateLimited
          ("Please wait " ++ toString (remaining / microsPerSecond + 1) ++
            " seconds before requesting a new code.") (remaining / microsPerSecond + 1)))
          { state with tick := state.tick + 1 } := by
      rw [requireCooldown, hlast]
      rfl
    rw [hrun]
    by_cases hremaining : remaining ≤ 0
    · left
      refine ⟨state.tick + 1, Nat.le_succ _, fun sent hsent => ?_, ?_⟩
      · obtain rfl := Option.some.inj hsent
        have hremaining : settings.withdrawalOtpResendCooldownSeconds * microsPerSecond -
          (env.answer state.tick .now - lastSent) ≤ 0 := hremaining
        linarith
      · rw [Prog.require_true hremaining]
        rfl
    · right
      rw [Prog.require_false hremaining]
      exact ⟨_, _, rfl⟩

end Issues

/-! ## Resends -/

/-- What a resend checks, and the withdrawal it leaves: the recorded time of the send is
read from the clock after the time the cooldown was checked at. -/
structure Resent (own : Step) (world world' : PlatformWorld) (tenantId actorId : ℕ)
    (w w' : Withdrawal) : Prop where
  stored : w ∈ world.db.rows .withdrawals
  tenant : w.tenantId = tenantId
  requester : w.requestedBy = some actorId
  draft : w.status = .draft
  sends : (w.otpSendCount : ℤ) < own.runtime.settings.withdrawalOtpMaxSends
  issued : ∃ hash email expiresAt i j, i ≤ j ∧
    (∀ lastSent, w.otpLastSentAt = some lastSent →
      lastSent + own.runtime.settings.withdrawalOtpResendCooldownSeconds * microsPerSecond ≤
        own.reading i) ∧
    Resolves world.db tenantId actorId email ∧ w' = issuedAs w hash email expiresAt (own.reading j)
  replaced : Db.Replaced .withdrawals w' world.db world'.db

theorem Step.resent {own : Step} {world : PlatformWorld} {tenantId withdrawalId actorId : ℕ}
    (hoperation : own.operation = .resendOtp tenantId withdrawalId actorId)
    (hresult : own.result world = .ok ()) :
    ∃ w w', w.id = withdrawalId ∧ Resent own world (own.next world) tenantId actorId w w' := by
  have hconcludes : Concludes own.outside
      (fun _ world' => ∃ w w', w.id = withdrawalId ∧
        Resent own world world' tenantId actorId w w')
      (fun _ _ => True) own.program ⟨⟨world.db, []⟩, 0⟩ := by
    rw [Step.program, hoperation]
    dsimp only [Operation.program]
    rw [PayoutService.resendOtp]
    simp only [Prog.bind_assoc]
    rcases run_getById own.outside ⟨⟨world.db, []⟩, 0⟩ .withdrawals (some tenantId) withdrawalId
      with ⟨w, hw, htenant, hid, hfound⟩ | hnone
    · refine Concludes.bind hfound ?_
      rw [Prog.orRaise_some, Prog.pure_bind]
      refine Concludes.require (fun hrequester => ?_) fun _ => trivial
      refine Concludes.require (fun hdraft => ?_) fun _ => trivial
      refine Concludes.require (fun hsends => ?_) fun _ => trivial
      rcases @run_requireCooldown own.outside ⟨⟨world.db, []⟩, 0⟩ own.runtime.settings w with
        ⟨tick, htick, hcooldown, hrun⟩ | ⟨e, tick, hrun⟩
      · refine Concludes.bind hrun ?_
        rcases @run_resolveVerifiedEmail own.outside ⟨⟨world.db, []⟩, tick⟩ tenantId actorId with
          ⟨email, hresolves, hrun⟩ | ⟨e, hrun⟩
        · refine Concludes.bind hrun ?_
          rcases @run_issueAndSendOtp own.outside ⟨⟨world.db, []⟩, tick⟩ own.runtime w email hw with
            ⟨hash, expiresAt, sent, db, hreplaced, hrun⟩ | ⟨e, db, final, hrun⟩
          · refine Concludes.bind hrun (Always.concludes ?_)
            exact ⟨w, _, hid, hw, tenantId_of_ofTenant htenant, hrequester, hdraft, hsends,
              ⟨hash, email, expiresAt, 0, tick + 2, Nat.zero_le _, hcooldown, hresolves, rfl⟩,
              hreplaced⟩
          · exact Concludes.raised hrun trivial
        · exact Concludes.raised hrun trivial
      · exact Concludes.raised hrun trivial
    · refine Concludes.bind hnone ?_
      exact Concludes.of_run (y := throw _) rfl (Always.concludes trivial)
  rcases transact_concludes hconcludes with ⟨_, -, w, w', hid, hresent⟩ | ⟨e, _, herror, -, -⟩
  · exact ⟨w, w', hid, { hresent with }⟩
  · have herror : own.result world = .error e := herror
    rw [hresult] at herror
    cases herror

/-! ## Requests -/

/-- The first code of a withdrawal, sent to the address. -/
def FirstIssue (email : String) (w : Withdrawal) : Prop :=
  ∃ draft hash expiresAt lastSentAt, draft.otpSendCount = 0 ∧
    w = issuedAs draft hash email expiresAt lastSentAt

/-- Every withdrawal but a new one, whose first code was sent, was there with the same code. -/
def Opened (email : String) (db db' : PlatformDb) : Prop :=
  ∀ w' ∈ db'.rows .withdrawals,
    (∃ w ∈ db.rows .withdrawals, w.id = w'.id ∧ w.SameCode w') ∨ FirstIssue email w'

theorem Step.opened {own : Step} {world : PlatformWorld} {tenantId actorId destinationId : ℕ}
    {amount : Decimal}
    (hoperation : own.operation = .requestWithdrawal tenantId actorId destinationId amount)
    (hresult : own.result world = .ok ()) :
    ∃ email, Resolves world.db tenantId actorId email ∧
      Opened email world.db (own.next world).db := by
  have hconcludes : Concludes own.outside
      (fun _ world' => ∃ email, Resolves world.db tenantId actorId email ∧
        Opened email world.db world'.db)
      (fun _ _ => True) own.program ⟨⟨world.db, []⟩, 0⟩ := by
    rw [Step.program, hoperation]
    dsimp only [Operation.program]
    rw [PayoutService.requestWithdrawal]
    simp only [Prog.bind_assoc]
    refine Concludes.require (fun _ => ?_) fun _ => trivial
    refine Concludes.bind (run_getById_find _ _ _ _ _) ?_
    cases (world.db.rows .withdrawalDestinations).find? fun row =>
        ofTenant .withdrawalDestinations (some tenantId) row &&
          rowId .withdrawalDestinations row == destinationId with
    | none => exact Concludes.of_run (y := throw _) rfl (Always.concludes trivial)
    | some destination =>
    rw [Prog.orRaise_some, Prog.pure_bind]
    have hmode : run (exec own.outside) (SettlementConfigService.getMode tenantId)
        ⟨⟨world.db, []⟩, 0⟩ = (.ok _, ⟨⟨world.db, []⟩, 0⟩) := rfl
    refine Concludes.bind hmode ?_
    refine Concludes.require (fun _ => ?_) fun _ => trivial
    refine Concludes.require (fun _ => ?_) fun _ => trivial
    rcases @run_selectOne_any own.outside ⟨⟨world.db, []⟩, 0⟩ .tenantFeatureFlags
      (fun flags => flags.tenantId == tenantId) with ⟨flags, hrun⟩ | ⟨e, hrun⟩
    · refine Concludes.bind hrun ?_
      refine Concludes.require (fun _ => ?_) fun _ => trivial
      rcases @run_resolveVerifiedEmail own.outside ⟨⟨world.db, []⟩, 0⟩ tenantId actorId with
        ⟨email, hresolves, hrun⟩ | ⟨e, hrun⟩
      · refine Concludes.bind hrun (Always.concludes ?_)
        refine always_bind.mpr ((always_keptCodes (lets_enforceWithdrawalLimits lets_keepsCodes
          _ _ _)).mono (fun _ limited hlimited => ?_) fun _ _ _ => trivial)
        have hreserve := WalletService.lets_reserveForWithdrawal lets_keepsCodes tenantId amount
        refine always_bind.mpr ((always_keptCodes (Prog.All.tryCatch hreserve fun failure => ?_)).mono
          (fun wallet reserved hreserved => ?_) fun _ _ _ => trivial)
        · cases failure <;> trivial
        refine always_bind.mpr (always_uuidHex.mpr fun idempotencyKey => ?_)
        refine always_bind.mpr (always_create rfl (fun w stored hw _ hstored => ?_)
          fun _ => trivial)
        refine always_bind.mpr (always_createPlain rfl (fun _ => rfl) (fun _ _ => rfl)
          (fun event logged _ _ hlogged => ?_) fun _ _ => trivial)
        have hrows : logged.rows .withdrawals = reserved.db.rows .withdrawals ++ [w] := by
          rw [hlogged.rows_of_ne (by decide), hstored.rows_self]
        have hmem : w ∈ logged.rows .withdrawals := by
          rw [hrows]
          exact List.mem_append_right _ List.mem_cons_self
        refine always_bind.mpr (always_issuedAs (fun _ h => by cases h) hmem
          (fun code secret expiresAt lastSentAt sent expiresIn db _ hreplaced => ?_)
          fun _ _ => trivial)
        refine ⟨email, hresolves, fun v hv => ?_⟩
        rw [hreplaced.rows_self] at hv
        cases mem_replaceRow hv with
        | inl hv => exact Or.inr ⟨w, _, expiresAt, lastSentAt, by rw [hw], hv⟩
        | inr hv =>
          left
          obtain ⟨hold, hne⟩ := hv
          rw [hrows] at hold
          cases List.mem_append.mp hold with
          | inl hold => exact (hlimited.trans hreserved) v hold
          | inr hnew =>
            rw [List.mem_singleton.mp hnew] at hne
            exact absurd rfl hne
      · exact Concludes.raised hrun trivial
    · exact Concludes.raised hrun trivial
  rcases transact_concludes hconcludes with ⟨_, -, h⟩ | ⟨e, _, herror, -, -⟩
  · exact h
  · have herror : own.result world = .error e := herror
    rw [hresult] at herror
    cases herror

/-! ## What a step does with a code -/

/-- Operations that neither issue a code nor have one presented leave all codes alone. -/
theorem lets_approveWithdrawal (runtime : Runtime) (withdrawalId actorId : ℕ)
    (notes : Option String) :
    (approveWithdrawal runtime withdrawalId actorId notes).All keepsCodes.Allows :=
  .bind (lets_keepsCodes.getByIdForUpdate (by decide) _ _) fun _ =>
    .bind (Prog.all_orRaise _ _) fun _ => .bind (Prog.all_require _ _) fun _ =>
      .bind lets_keepsCodes.now fun _ => .bind (all_keepsCode (by constructor <;> rfl)) fun _ =>
        .bind (lets_transition lets_keepsCodes _ _ _) fun _ =>
          lets_submitToSelcom lets_keepsCodes _ _

theorem lets_rejectWithdrawal (withdrawalId actorId : ℕ) (reason : String) :
    (rejectWithdrawal withdrawalId actorId reason).All keepsCodes.Allows :=
  .bind (Prog.all_require _ _) fun _ =>
    .bind (lets_keepsCodes.getByIdForUpdate (by decide) _ _) fun _ =>
      .bind (Prog.all_orRaise _ _) fun _ => .bind (Prog.all_require _ _) fun _ =>
        .bind (WalletService.lets_releaseReservation lets_keepsCodes _ _) fun _ =>
          .bind lets_keepsCodes.now fun _ => .bind lets_keepsCodes.now fun _ =>
            .bind (all_keepsCode (by constructor <;> rfl)) fun _ =>
              lets_transition lets_keepsCodes _ _ _

/-- The operation issues a code or has one presented. -/
def Operation.handlesCode : Operation → Bool
  | .requestWithdrawal _ _ _ _ => true
  | .resendOtp _ _ _ => true
  | .confirmTwoFactor _ _ _ _ => true
  | _ => false

theorem Operation.all_keepsCodes {operation : Operation} (runtime : Runtime)
    (h : operation.handlesCode = false) :
    (operation.program runtime).All keepsCodes.Allows := by
  cases operation with
  | requestWithdrawal | resendOtp | confirmTwoFactor => cases h
  | approveWithdrawal => exact .bind (lets_approveWithdrawal _ _ _ _) fun _ => trivial
  | rejectWithdrawal => exact .bind (lets_rejectWithdrawal _ _ _) fun _ => trivial
  | cancelWithdrawal =>
    exact .bind (lets_cancelWithdrawal lets_keepsCodes _ _ _ _) fun _ => trivial
  | reverseWithdrawal =>
    exact .bind (lets_reverseWithdrawal lets_keepsCodes _ _ _ _) fun _ => trivial
  | reconcileWithdrawal =>
    exact .bind (lets_reconcileWithdrawal lets_keepsCodes _ _) fun _ => trivial
  | reconcileIfPending =>
    exact .bind (lets_reconcileIfPending lets_keepsCodes _ _) fun _ => trivial

section Turns

variable {kept : List Table} {world : PlatformWorld} {w w' : Withdrawal}

/-- A row that was not the one rewritten is as it was. -/
theorem eq_of_replaced {db : PlatformDb} {rows : List Withdrawal} {v v' : Withdrawal}
    (hrows : rows = replaceRow schema .withdrawals v' (db.rows .withdrawals))
    (hid' : v'.id = v.id) (hw : w ∈ db.rows .withdrawals) (hw' : w' ∈ rows) (hid : w.id = w'.id)
    (hne : v.id ≠ w.id) : w' = w := by
  rw [hrows] at hw'
  cases mem_replaceRow hw' with
  | inl h =>
    subst h
    exact absurd (hid'.symm.trans hid.symm) hne
  | inr h => exact db.id_injOn (t := .withdrawals) h.1 hw hid.symm

/-- The step was committed and issued a code for the withdrawal. -/
def PayoutStep.issues (withdrawalId : ℕ) (step : PayoutStep kept) (world : PlatformWorld) :
    Bool :=
  match step with
  | .operation own =>
    match own.operation with
    | .requestWithdrawal _ _ _ _ => (own.result world).isOk &&
      (world.db.rows .withdrawals).all (fun w => w.id != withdrawalId) &&
        ((own.next world).db.rows .withdrawals).any fun w => w.id == withdrawalId
    | .resendOtp _ id _ => id == withdrawalId && (own.result world).isOk
    | _ => false
  | _ => false

/-- What a step did with the code of a withdrawal. -/
inductive PayoutStep.Turn (step : PayoutStep kept) (world : PlatformWorld) (w w' : Withdrawal) :
    Prop
  | kept (hsame : w.SameCode w') (hissues : step.issues w.id world = false)
      (hpresented : ∀ own tenantId actorId code, step = .operation own →
        ¬Presented own world w tenantId actorId code)
  | reissued {own : Step} {tenantId actorId : ℕ} (hstep : step = .operation own)
      (hissues : step.issues w.id world = true)
      (h : Resent own world (own.next world) tenantId actorId w w')
  | presented {own : Step} {tenantId actorId : ℕ} {code : String} (hstep : step = .operation own)
      (hissues : step.issues w.id world = false) (h : Presented own world w tenantId actorId code)

/-- Every withdrawal has a code. -/
def Coded (db : PlatformDb) : Prop :=
  ∀ w ∈ db.rows .withdrawals, w.twoFactorCodeHash.isSome = true

theorem Step.keptCodes {own : Step} (hall : own.program.All keepsCodes.Allows) :
    KeptCodes world.db (own.next world).db := by
  have halways : Always (fun _ => false)
      (fun _ world' => KeptCodes world.db world'.db) (fun _ world' => KeptCodes world.db world'.db)
      own.program ⟨world.db, []⟩ := @always_keptCodes _ _ ⟨world.db, []⟩ hall
  cases transact_db own.outside halways with
  | inl hreturned => exact hreturned.elim fun _ h => h
  | inr hsame =>
    have hsame : (own.next world).db = world.db := hsame
    rw [hsame]
    exact .refl _

/-- A presented code leaves every other withdrawal alone. -/
theorem Step.eq_of_presented {own : Step} {v : Withdrawal} {tenantId actorId : ℕ} {code : String}
    (hcoded : Coded world.db) (h : Presented own world v tenantId actorId code)
    (hw : w ∈ world.db.rows .withdrawals) (hw' : w' ∈ (own.next world).db.rows .withdrawals)
    (hid : w.id = w'.id) (hne : v.id ≠ w.id) : w.SameCode w' := by
  have hsame : ∀ {v' : Withdrawal}, v'.id = v.id →
      (own.next world).db.rows .withdrawals =
        replaceRow schema .withdrawals v' (world.db.rows .withdrawals) → w.SameCode w' := by
    intro v' hid' hrows
    rw [eq_of_replaced hrows hid' hw hw' hid hne]
    exact .refl w
  cases Step.verdict h (hcoded v h.stored) with
  | raised _ hdb _ => exact (KeptCodes.of_rows (by rw [hdb])).same hw hw' hid
  | accepted _ _ _ _ hkept => exact hkept.same hw hw' hid
  | passed _ _ _ _ hdb => exact (KeptCodes.of_rows (by rw [hdb])).same hw hw' hid
  | counted _ _ _ _ hreplaced => exact @hsame (missed v) rfl hreplaced.rows_self
  | cancelled _ _ hv hmoved =>
    obtain ⟨wallet, wallet', hmoved⟩ := hmoved
    exact hsame hmoved.effect.same.id hmoved.effect.withdrawals

theorem Step.db_of_error {own : Step} {e : Failure} (h : own.result world = .error e) :
    (own.next world).db = world.db := transact_db_of_error h

/-- A committed request adds one withdrawal, in `DRAFT`. -/
theorem Step.requestedAs {own : Step} {tenantId actorId destinationId : ℕ} {amount : Decimal}
    (hoperation : own.operation = .requestWithdrawal tenantId actorId destinationId amount)
    (hresult : own.result world = .ok ()) :
    ∃ v wallet wallet', RequestedAs own.runtime tenantId actorId amount ⟨world.db, []⟩
      ⟨(own.next world).db, own.exchanges world.db⟩ v wallet wallet' := by
  have hprogram : Always (fun _ => false)
      (fun _ => Requested own.runtime tenantId actorId amount ⟨world.db, []⟩)
      (fun _ => Unsent ⟨world.db, []⟩) own.program ⟨world.db, []⟩ := by
    rw [Step.program, hoperation]
    exact always_bind.mpr ((requestWithdrawal_always fun _ h => by cases h).mono
      (fun _ _ h => h) fun _ _ h => h)
  rcases Step.next_cases hprogram with ⟨db, hnext, -, h⟩ | ⟨e, db, -, hraised, -⟩
  · rw [hnext]
    exact h
  · rw [hresult] at hraised
    cases hraised

/-- A confirmation that returns had a code presented. -/
theorem Step.presented_of_ok {own : Step} {tenantId withdrawalId actorId : ℕ} {code : String}
    (hoperation : own.operation = .confirmTwoFactor tenantId withdrawalId actorId code)
    (hresult : own.result world = .ok ()) :
    ∃ v, v.id = withdrawalId ∧ Presented own world v tenantId actorId code := by
  have hprogram : Always (fun _ => false)
      (fun _ _ => ∃ v, v.id = withdrawalId ∧ Presented own world v tenantId actorId code)
      (fun _ _ => True) own.program ⟨world.db, []⟩ := by
    rw [Step.program, hoperation]
    refine always_bind.mpr (confirmTwoFactor_presented.mono (fun _ _ h => ?_) fun _ _ h => h)
    obtain ⟨v, hv, rfl, htenant, hrequester, hdraft⟩ := h
    exact ⟨v, rfl, hoperation, hv, htenant, hrequester, hdraft⟩
  rcases Step.next_cases hprogram with ⟨db, -, -, h⟩ | ⟨e, db, -, hraised, -⟩
  · exact h
  · rw [hresult] at hraised
    cases hraised

theorem Step.turn {own : Step} (hcoded : Coded world.db) (hw : w ∈ world.db.rows .withdrawals)
    (hw' : w' ∈ (own.next world).db.rows .withdrawals) (hid : w.id = w'.id) :
    (PayoutStep.operation own : PayoutStep kept).Turn world w w' := by
  by_cases hhandles : own.operation.handlesCode = true
  case neg =>
    have hnot : own.operation.handlesCode = false := by simpa using hhandles
    refine .kept ((Step.keptCodes (Operation.all_keepsCodes _ hnot)).same hw hw' hid) ?_ ?_
    · rw [PayoutStep.issues]
      revert hnot
      cases own.operation <;> simp [Operation.handlesCode]
    · intro other tenantId actorId code heq hpresented
      obtain rfl := PayoutStep.operation.inj heq
      rw [hpresented.operation] at hnot
      cases hnot
  case pos =>
    have hraised : (own.next world).db = world.db → w.SameCode w' :=
      fun hdb => (KeptCodes.of_rows (by rw [hdb])).same hw hw' hid
    have hunpresented : ∀ {operation : Operation}, own.operation = operation →
        (∀ tenantId actorId code, operation ≠ .confirmTwoFactor tenantId w.id actorId code) →
        ∀ other tenantId actorId code,
          (PayoutStep.operation own : PayoutStep kept) = .operation other →
            ¬Presented other world w tenantId actorId code := by
      intro operation hoperation hne other tenantId actorId code heq hpresented
      obtain rfl := PayoutStep.operation.inj heq
      exact hne tenantId actorId code (hoperation.symm.trans hpresented.operation)
    cases hoperation : own.operation with
    | requestWithdrawal tenantId actorId destinationId amount =>
      refine .kept ?_ ?_ (hunpresented hoperation (by simp))
      · cases hresult : own.result world with
        | error e => exact hraised (Step.db_of_error hresult)
        | ok result =>
          obtain ⟨v, wallet, wallet', hrequested⟩ := Step.requestedAs hoperation hresult
          have hrows : (own.next world).db.rows .withdrawals = _ := hrequested.withdrawals
          rw [hrows] at hw'
          cases List.mem_append.mp hw' with
          | inl hold =>
            obtain rfl := world.db.id_injOn (t := .withdrawals) hold hw hid.symm
            exact .refl _
          | inr hnew =>
            rw [List.mem_singleton.mp hnew] at hid
            exact absurd hid (hrequested.fresh w hw)
      · have hnone : (world.db.rows .withdrawals).all (fun v => v.id != w.id) = false := by
          rw [List.all_eq_false]
          exact ⟨w, hw, by simp⟩
        simp only [PayoutStep.issues, hoperation, hnone, Bool.and_false, Bool.false_and]
    | resendOtp tenantId withdrawalId actorId =>
      have hnot := hunpresented hoperation (by simp)
      cases hresult : own.result world with
      | error e =>
        refine .kept (hraised (Step.db_of_error hresult)) ?_ hnot
        simp only [PayoutStep.issues, hoperation, hresult]
        exact Bool.and_false _
      | ok result =>
        obtain ⟨v, v', rfl, hresent⟩ := Step.resent hoperation hresult
        obtain ⟨hash, email, expiresAt, i, j, -, -, -, hissued⟩ := hresent.issued
        have hsameId : v'.id = v.id := by rw [hissued]; rfl
        have hissues : (PayoutStep.operation own : PayoutStep kept).issues w.id world =
            (v.id == w.id) := by
          simp only [PayoutStep.issues, hoperation, hresult]
          exact Bool.and_true _
        by_cases hsame : v.id = w.id
        · obtain rfl := world.db.id_injOn (t := .withdrawals) hresent.stored hw hsame
          have hmem : v' ∈ (own.next world).db.rows .withdrawals :=
            hresent.replaced.mem hw hsameId.symm
          obtain rfl := (own.next world).db.id_injOn (t := .withdrawals) hmem hw'
            (hsameId.trans hid)
          exact .reissued rfl (by rw [hissues]; simp) hresent
        · refine .kept ?_ (by rw [hissues]; simpa using hsame) hnot
          rw [eq_of_replaced hresent.replaced.rows_self hsameId hw hw' hid hsame]
          exact .refl w
    | confirmTwoFactor tenantId withdrawalId actorId code =>
      have hissues : (PayoutStep.operation own : PayoutStep kept).issues w.id world = false := by
        simp only [PayoutStep.issues, hoperation]
      by_cases hpresented : Presented own world w tenantId actorId code
      · exact .presented rfl hissues hpresented
      · refine .kept ?_ hissues ?_
        · cases hresult : own.result world with
          | error e => exact hraised (Step.db_of_error hresult)
          | ok result =>
            obtain ⟨v, -, hv⟩ := Step.presented_of_ok hoperation hresult
            apply Step.eq_of_presented hcoded hv hw hw' hid
            intro hsame
            obtain rfl := world.db.id_injOn (t := .withdrawals) hv.stored hw hsame
            exact hpresented hv
        · intro other tenantId' actorId' code' heq hother
          obtain rfl := PayoutStep.operation.inj heq
          obtain ⟨rfl, -, rfl, rfl⟩ := Operation.confirmTwoFactor.inj
            (hoperation.symm.trans hother.operation)
          exact hpresented hother
    | _ =>
      rw [hoperation] at hhandles
      cases hhandles

theorem PayoutStep.turn (step : PayoutStep kept) (hkept : Table.withdrawals ∈ kept)
    (hcoded : Coded world.db) (hw : w ∈ world.db.rows .withdrawals)
    (hw' : w' ∈ (step.next world).db.rows .withdrawals) (hid : w.id = w'.id) :
    step.Turn world w w' := by
  cases step with
  | operation own => exact Step.turn hcoded hw hw' hid
  | disbursementResult withdrawalId providerSucceeded providerReference detail outside =>
    refine .kept ?_ rfl fun own tenantId actorId code h => by cases h
    have halways := @always_keptCodes _ _ ⟨world.db, []⟩
      (lets_applyDisbursementResult lets_keepsCodes withdrawalId providerSucceeded
        providerReference detail)
    cases transact_db outside halways with
    | inl hreturned => exact hreturned.elim fun _ h => KeptCodes.same h hw hw' hid
    | inr hsame => exact (KeptCodes.of_rows (by rw [← hsame]; rfl)).same hw hw' hid
  | elsewhere change h =>
    refine .kept ?_ rfl fun own tenantId actorId code h => by cases h
    exact (KeptCodes.of_rows (h world.db _ hkept)).same hw hw' hid

/-! ### Statuses -/

theorem Course.of_draft {fromStatus : WithdrawalStatus}
    {edges : List (WithdrawalStatus × WithdrawalStatus)}
    (h : Course fromStatus edges .draft) : fromStatus = .draft := by
  induction edges generalizing fromStatus with
  | nil => exact h
  | cons edge rest ih =>
    obtain ⟨-, hedge, hrest⟩ := h
    rw [ih hrest] at hedge
    cases fromStatus <;> simp [successors] at hedge

/-- No step takes a withdrawal back to `DRAFT`. -/
theorem PayoutStep.Became.of_draft {step : PayoutStep kept} (h : step.Became world w w')
    (hdraft : w'.status = .draft) : w.status = .draft := by
  cases h with
  | same heq => exact heq ▸ hdraft
  | reissued _ _ _ hfrom _ => exact hfrom
  | handled _ _ _ h =>
    obtain ⟨wallets, entries, heffect⟩ := h.effect
    obtain ⟨edges, logged, hcourse, -⟩ := heffect.events
    rw [hdraft] at hcourse
    exact hcourse.of_draft

/-- No step takes a withdrawal out of `CANCELLED`. -/
theorem PayoutStep.Became.cancelled {step : PayoutStep kept} (h : step.Became world w w')
    (hcancelled : w.status = .cancelled) : w'.status = .cancelled := by
  cases h with
  | same heq => rw [heq, hcancelled]
  | reissued _ _ _ hdraft hissued => rw [hissued.status, hcancelled]
  | handled _ _ _ h =>
    obtain ⟨wallets, entries, heffect⟩ := h.effect
    obtain ⟨edges, logged, hcourse, -⟩ := heffect.events
    rw [hcancelled] at hcourse
    exact hcourse.eq_of_absorbing rfl

/-! ### Codes in every state -/

/-- A withdrawal that a step adds has its first code, sent in that step. -/
theorem PayoutStep.added (step : PayoutStep kept) (hkept : Table.withdrawals ∈ kept)
    (hw' : w' ∈ (step.next world).db.rows .withdrawals)
    (hnew : ∀ w ∈ world.db.rows .withdrawals, w.id ≠ w'.id) :
    w'.status = .draft ∧ step.issues w'.id world = true ∧
    ∃ own tenantId actorId destinationId amount email, step = .operation own ∧
      own.result world = .ok () ∧
      own.operation = .requestWithdrawal tenantId actorId destinationId amount ∧
      Resolves world.db tenantId actorId email ∧ FirstIssue email w' ∧ w'.tenantId = tenantId ∧
      w'.requestedBy = some actorId := by
  rcases step.came hkept hw' with ⟨w, hw, hsame, -⟩ | ⟨own, tenantId, actorId, destinationId,
    amount, wallet, wallet', rfl, hresult, hoperation, hrequested⟩
  · exact absurd hsame.id.symm (hnew w hw)
  · refine ⟨hrequested.status, ?_, ?_⟩
    · have hnone : (world.db.rows .withdrawals).all (fun v => v.id != w'.id) = true := by
        rw [List.all_eq_true]
        intro v hv
        simpa using hnew v hv
      have hthere : ((own.next world).db.rows .withdrawals).any (fun v => v.id == w'.id) = true :=
        List.any_eq_true.mpr ⟨w', hw', by simp⟩
      simp only [PayoutStep.issues, hoperation, hresult, hnone, hthere, Bool.and_true]
      rfl
    · obtain ⟨email, hresolves, hopened⟩ := Step.opened hoperation hresult
      cases hopened w' hw' with
      | inl hold =>
        obtain ⟨w, hw, hid, -⟩ := hold
        exact absurd hid (hnew w hw)
      | inr hfirst =>
        exact ⟨own, tenantId, actorId, destinationId, amount, email, rfl, hresult, hoperation,
          hresolves, hfirst, hrequested.tenantId, hrequested.requestedBy⟩

/-- The row that was rewritten. -/
theorem eq_of_rewritten {db : PlatformDb} {rows : List Withdrawal} {v' : Withdrawal}
    (hrows : rows = replaceRow schema .withdrawals v' (db.rows .withdrawals))
    (hid' : v'.id = w.id) (hw' : w' ∈ rows) (hid : w.id = w'.id) : w' = v' := by
  rw [hrows] at hw'
  cases mem_replaceRow hw' with
  | inl h => exact h
  | inr h => exact absurd (hid.symm.trans hid'.symm) h.2

/-- What a presented code leaves of a withdrawal. -/
theorem Presented.left {own : Step} {tenantId actorId : ℕ} {code : String}
    (hcoded : Coded world.db) (h : Presented own world w tenantId actorId code)
    (hw' : w' ∈ (own.next world).db.rows .withdrawals) (hid : w.id = w'.id) :
    w.SameCode w' ∨ ((missed w).SameCode w' ∧
      misses own.runtime w code (addressOf world.db tenantId actorId) (own.reading 0) = true) := by
  cases Step.verdict h (hcoded w h.stored) with
  | raised _ hdb _ => exact Or.inl ((KeptCodes.of_rows (by rw [hdb])).same h.stored hw' hid)
  | accepted _ _ _ _ hkept => exact Or.inl (hkept.same h.stored hw' hid)
  | passed _ _ _ _ hdb => exact Or.inl ((KeptCodes.of_rows (by rw [hdb])).same h.stored hw' hid)
  | counted _ _ hmisses _ hreplaced =>
    right
    obtain rfl : w' = missed w := eq_of_rewritten hreplaced.rows_self rfl hw' hid
    exact ⟨.refl _, hmisses⟩
  | cancelled _ _ hv hmoved =>
    obtain ⟨wallet, wallet', hmoved⟩ := hmoved
    have heq := eq_of_rewritten hmoved.effect.withdrawals hmoved.effect.same.id hw' hid
    rw [heq]
    rcases hv with ⟨rfl, -⟩ | ⟨rfl, hmisses⟩
    · exact Or.inl (by constructor <;> rfl)
    · exact Or.inr ⟨by constructor <;> rfl, hmisses⟩

/-- Every withdrawal has a code after a step if every one had before. -/
theorem Coded.next {step : PayoutStep kept} (hkept : Table.withdrawals ∈ kept)
    (hcoded : Coded world.db) : Coded (step.next world).db := by
  intro w' hw'
  by_cases hnew : ∃ w ∈ world.db.rows .withdrawals, w.id = w'.id
  · obtain ⟨w, hw, hid⟩ := hnew
    cases step.turn hkept hcoded hw hw' hid with
    | kept hsame _ _ =>
      rw [hsame.codeHash]
      exact hcoded w hw
    | reissued _ _ hresent =>
      obtain ⟨hash, email, expiresAt, i, j, -, -, -, hissued⟩ := hresent.issued
      rw [hissued]
      rfl
    | presented hstep _ hpresented =>
      subst hstep
      rcases hpresented.left hcoded hw' hid with hsame | ⟨hsame, -⟩
      · rw [hsame.codeHash]
        exact hcoded w hw
      · rw [hsame.codeHash]
        exact hcoded w hw
  · have hnew : ∀ w ∈ world.db.rows .withdrawals, w.id ≠ w'.id :=
      fun w hw hid => hnew ⟨w, hw, hid⟩
    obtain ⟨-, -, _, _, _, _, _, _, -, -, -, -, hfirst, -⟩ := step.added hkept hw' hnew
    obtain ⟨draft, hash, expiresAt, lastSentAt, -, rfl⟩ := hfirst
    rfl

end Turns

end InfinityRadius.Services.PayoutService
