import InfinityRadius.Services.PayoutRuns
import InfinityRadius.Services.Statements

/-!
# What becomes of a presented code

A code is compared with the stored hash where one was issued, is not used up or expired, and
went to the address the account still has.  A refusal is recorded only where the code was
compared, and the withdrawal is cancelled where the challenge is exhausted after it.
-/

namespace InfinityRadius.Services

open Amounts Database Payload Program Sql Models

/-! ## Codes that are left alone -/

/-- Writes that leave the codes of withdrawals alone. -/
def keepsCodes : Footprint Table Row Request where
  inserts
    | .withdrawals, _ => False
    | _, _ => True
  updates
    | .withdrawals, _, write => ∀ row : Withdrawal, row.SameCode (write row)
    | _, _, _ => True
  sends _ := True

/-- Every withdrawal was there before, with the same code. -/
def KeptCodes (db db' : PlatformDb) : Prop :=
  ∀ w' ∈ db'.rows .withdrawals, ∃ w ∈ db.rows .withdrawals, w.id = w'.id ∧ w.SameCode w'

theorem KeptCodes.refl (db : PlatformDb) : KeptCodes db db :=
  fun w hw => ⟨w, hw, rfl, .refl w⟩

theorem KeptCodes.of_rows {db db' : PlatformDb}
    (h : db'.rows .withdrawals = db.rows .withdrawals) : KeptCodes db db' :=
  fun w hw => ⟨w, h ▸ hw, rfl, .refl w⟩

theorem KeptCodes.trans {db db' db'' : PlatformDb} (h : KeptCodes db db')
    (h' : KeptCodes db' db'') : KeptCodes db db'' := by
  intro w'' hw''
  obtain ⟨w', hw', hid', hsame'⟩ := h' w'' hw''
  obtain ⟨w, hw, hid, hsame⟩ := h w' hw'
  exact ⟨w, hw, hid.trans hid', hsame.trans hsame'⟩

theorem KeptCodes.same {db db' : PlatformDb} {w w' : Withdrawal} (h : KeptCodes db db')
    (hw : w ∈ db.rows .withdrawals) (hw' : w' ∈ db'.rows .withdrawals) (hid : w.id = w'.id) :
    w.SameCode w' := by
  obtain ⟨v, hv, hvid, hsame⟩ := h w' hw'
  obtain rfl := db.id_injOn (t := .withdrawals) hv hw (hvid.trans hid.symm)
  exact hsame

/-- One row is rewritten, its code left alone. -/
theorem KeptCodes.of_replaced {db db' : PlatformDb} {w w' : Withdrawal}
    (hw : w ∈ db.rows .withdrawals) (hid : w.id = w'.id) (hsame : w.SameCode w')
    (h : Db.Replaced .withdrawals w' db db') : KeptCodes db db' := by
  intro v hv
  rw [h.rows_self] at hv
  cases mem_replaceRow hv with
  | inl hv =>
    subst hv
    exact ⟨w, hw, hid, hsame⟩
  | inr hv => exact ⟨v, hv.1, rfl, .refl v⟩

theorem all_keepsCode {w : Withdrawal} {set : Withdrawal → Withdrawal}
    (h : w.SameCode (set w)) : (updateWithdrawal w set).All keepsCodes.Allows :=
  ⟨fun row => Withdrawal.sameCode_flush h row, fun _ => Prog.all_orRaise _ _⟩

theorem lets_keepsCodes : Lets keepsCodes.Allows where
  select _ _ _ := trivial
  selectForUpdate _ _ _ := trivial
  scan _ _ _ := trivial
  insert t _ ht := by
    intro id
    cases t <;> trivial
  update t _ _ ht := by cases t <;> trivial
  rewrite w set h := by
    simp only [guarded, Prod.mk.injEq] at h
    apply Withdrawal.sameCode_flush
    exact ⟨h.1, h.2.1, h.2.2.1, h.2.2.2.2.1, h.2.2.2.2.2.1, h.2.2.2.2.2.2.1⟩
  ask _ := trivial
  send _ := trivial

theorem always_keptCodes {α : Type} {x : Tx α} {world : PlatformWorld}
    (hall : x.All keepsCodes.Allows) :
    Always (fun _ => false) (fun _ world' => KeptCodes world.db world'.db)
      (fun _ world' => KeptCodes world.db world'.db) x world := by
  refine @always_db_invariant _ _ _ _ _ _ _ _ _ _ _ _ _ _ (KeptCodes world.db) hall ?_ ?_ (.refl world.db)
  · intro db db' t row hinserts _ happended hdb
    apply hdb.trans
    by_cases ht : t = .withdrawals
    · subst ht
      exact hinserts.elim
    · exact .of_rows (happended.rows_of_ne fun heq => ht heq.symm)
  · intro db db' t old id write hupdates hold hid hid' hreplaced hdb
    apply hdb.trans
    by_cases ht : t = .withdrawals
    · subst ht
      exact .of_replaced hold (hid.trans hid'.symm) (hupdates old) hreplaced
    · exact .of_rows (hreplaced.rows_of_ne fun heq => ht heq.symm)

namespace TwoFactorService

/-! ## What a verification compares -/

section Comparison

variable (settings : Settings) (w : Withdrawal)

/-- `is_exhausted` at a reading of the clock. -/
def exhausted (time : Timestamp) : Bool :=
  decide (settings.withdrawalOtpMaxAttempts ≤ w.twoFactorAttempts) ||
    w.twoFactorExpiresAt.all fun expiresAt => decide (expiresAt < time)

/-- How often `is_exhausted` reads the clock. -/
def clockReads : ℕ :=
  if settings.withdrawalOtpMaxAttempts ≤ w.twoFactorAttempts ∨ w.twoFactorExpiresAt = none then 0
  else 1

/-- `verify` comes to the comparison: there is a code that can still be accepted, and the
account has no address or the one the code went to. -/
def compares (address : Option String) (time : Timestamp) : Bool :=
  w.twoFactorCodeHash.isSome && !exhausted settings w time &&
    (address.isNone || w.otpSentToEmail == address)

/-- The withdrawal after a wrong code. -/
def missed : Withdrawal := { w with twoFactorAttempts := w.twoFactorAttempts + 1 }

/-- The withdrawal after the right code. -/
def confirmed (time : Timestamp) : Withdrawal := { w with twoFactorConfirmedAt := some time }

end Comparison

/-- The code is compared and found wrong. -/
def misses (runtime : Runtime) (w : Withdrawal) (code : String) (address : Option String)
    (time : Timestamp) : Bool :=
  compares runtime.settings w address time &&
    runtime.settings.otpVerificationSecret.any fun secret => !secret.isEmpty &&
      w.twoFactorCodeHash != some (runtime.hmacSha256 secret (toString w.id ++ ":" ++ code))

section Runs

variable {env : Outside} {state : State schema Request HttpResult} {runtime : Runtime}
  {settings : Settings} {w : Withdrawal} {code : String} {address : Option String}
  {time : Timestamp}

/-- Where the clock is not read, what it shows does not matter. -/
theorem exhausted_of_clockReads (h : clockReads settings w = 0) :
    exhausted settings w time = true := by
  unfold clockReads at h
  split at h
  · rename_i hexhausted
    rcases hexhausted with hattempts | hexpires
    · simp [exhausted, hattempts]
    · simp [exhausted, hexpires]
  · cases h

theorem clockReads_of_not_exhausted (h : exhausted settings w time = false) :
    clockReads settings w = 1 := by
  by_cases hreads : settings.withdrawalOtpMaxAttempts ≤ w.twoFactorAttempts ∨
      w.twoFactorExpiresAt = none
  · have hexhausted : exhausted settings w time = true :=
      exhausted_of_clockReads (if_pos hreads)
    rw [hexhausted] at h
    cases h
  · exact if_neg hreads

/-- After a first look at a challenge the clock shows its second reading, where it matters. -/
theorem exhausted_clockReads :
    exhausted settings w (env.answer (0 + clockReads settings w) .now) =
      exhausted settings w (env.answer 1 .now) := by
  cases hexhausted : exhausted settings w (env.answer 1 .now) with
  | false => rw [clockReads_of_not_exhausted hexhausted, hexhausted]
  | true =>
    by_cases hreads : clockReads settings w = 0
    · exact exhausted_of_clockReads hreads
    · have hone : clockReads settings w = 1 := by
        unfold clockReads at hreads ⊢
        split at hreads
        · exact absurd rfl hreads
        · rename_i hopen
          exact if_neg hopen
      rw [hone, hexhausted]

theorem run_isExhausted :
    run (exec env) (isExhausted runtime w) state =
      (.ok (exhausted runtime.settings w (env.answer state.tick .now)),
        { state with tick := state.tick + clockReads runtime.settings w }) := by
  unfold isExhausted exhausted clockReads
  by_cases hattempts : runtime.settings.withdrawalOtpMaxAttempts ≤ w.twoFactorAttempts
  · simp [hattempts]
  · cases hexpires : w.twoFactorExpiresAt with
    | none => simp [hattempts]
    | some expiresAt =>
      simp only [hattempts, if_false, reduceCtorEq, or_self, decide_false, Bool.false_or,
        Option.all_some]
      rfl

theorem compares_iff :
    compares settings w address time = true ↔ w.twoFactorCodeHash.isSome = true ∧
      exhausted settings w time = false ∧ (address.isSome = true → w.otpSentToEmail = address) := by
  cases address <;> simp [compares, and_assoc]

/-- A code that is not compared is refused, and nothing is recorded. -/
theorem run_verify_uncompared (hissued : w.twoFactorCodeHash.isSome = true)
    (h : compares runtime.settings w address (env.answer state.tick .now) = false) :
    run (exec env) (verify runtime w code address) state =
      (.ok (w, false), { state with tick := state.tick + clockReads runtime.settings w }) := by
  obtain ⟨hash, hhash⟩ := Option.isSome_iff_exists.mp hissued
  rw [verify, hhash]
  dsimp only
  rw [run_bind, run_isExhausted]
  dsimp only
  split
  · rfl
  · rename_i hopen
    split
    · rfl
    · rename_i haddress
      exfalso
      rw [Bool.eq_false_iff, Ne, compares_iff] at h
      exact h ⟨hissued, by simpa using hopen, fun hsome => by
        by_contra hne
        exact haddress ⟨hsome, hne⟩⟩

/-- A code that is compared is hashed first. -/
theorem run_verify_compared
    (h : compares runtime.settings w address (env.answer state.tick .now) = true) :
    ∃ hash, w.twoFactorCodeHash = some hash ∧
    run (exec env) (verify runtime w code address) state =
      run (exec env) (do
        let candidate ← hashCode runtime w.id code
        if candidate = hash then do
          let time ← now
          let withdrawal ← updateWithdrawal w (confirmed · time)
          pure (withdrawal, true)
        else do
          let withdrawal ← updateWithdrawal w missed
          pure (withdrawal, false)) { state with tick := state.tick + 1 } := by
  obtain ⟨hissued, hopen, haddress⟩ := compares_iff.mp h
  obtain ⟨hash, hhash⟩ := Option.isSome_iff_exists.mp hissued
  use hash, hhash
  rw [verify, hhash]
  dsimp only
  rw [run_bind, run_isExhausted, hopen, clockReads_of_not_exhausted hopen]
  dsimp only
  rw [if_neg Bool.false_ne_true, if_neg]
  · rfl
  · rintro ⟨hsome, hne⟩
    exact hne (haddress hsome)

theorem hashCode_eq {secret : String} {withdrawalId : ℕ}
    (hsecret : runtime.settings.otpVerificationSecret = some secret)
    (hnonempty : secret.isEmpty = false) :
    hashCode runtime withdrawalId code =
      pure (runtime.hmacSha256 secret (toString withdrawalId ++ ":" ++ code)) := by
  rw [hashCode, otpSecret, hsecret]
  dsimp only
  rw [hnonempty, if_neg Bool.false_ne_true]
  rfl

/-- A wrong code is recorded. -/
theorem run_verify_missed (hw : w ∈ state.db.rows .withdrawals)
    (h : misses runtime w code address (env.answer state.tick .now) = true) :
    ∃ db, Db.Replaced .withdrawals (missed w) state.db db ∧
      run (exec env) (verify runtime w code address) state =
        (.ok (missed w, false), ⟨⟨db, state.sent⟩, state.tick + 1⟩) := by
  obtain ⟨hcompares, hwrong⟩ := Bool.and_eq_true_iff.mp h
  obtain ⟨hash, hhash, hrun⟩ := @run_verify_compared env state runtime w code address hcompares
  cases hsecret : runtime.settings.otpVerificationSecret with
  | none =>
    rw [hsecret] at hwrong
    cases hwrong
  | some secret =>
  rw [hsecret, Option.any_some] at hwrong
  obtain ⟨hnonempty, hdiffers⟩ := Bool.and_eq_true_iff.mp hwrong
  have hne : runtime.hmacSha256 secret (toString w.id ++ ":" ++ code) ≠ hash := by
    rintro rfl
    simp [hhash] at hdiffers
  have hvalid : rowValid .withdrawals w = true := PayoutService.rowValid_withdrawal hw
  obtain ⟨db, hreplaced, hupdate⟩ := @run_updateWithdrawal env
    { state with tick := state.tick + 1 } w missed hw (by constructor <;> rfl) hvalid
  use db, hreplaced
  rw [hrun, hashCode_eq hsecret (by simpa using hnonempty), Prog.pure_bind, if_neg hne]
  rw [run_bind, hupdate]
  rfl

/-- A code that is compared, and has the stored hash, is accepted. -/
theorem accepted_of_compares (h : compares runtime.settings w address time = true)
    (hhash : ∃ secret, runtime.settings.otpVerificationSecret = some secret ∧
      w.twoFactorCodeHash = some (runtime.hmacSha256 secret (toString w.id ++ ":" ++ code))) :
    PayoutService.Accepted runtime w code time := by
  obtain ⟨-, hopen, -⟩ := compares_iff.mp h
  obtain ⟨hattempts, hexpires⟩ := Bool.or_eq_false_iff.mp hopen
  constructor
  case hash => exact hhash
  case attempts => simpa using hattempts
  case expires =>
    cases hstored : w.twoFactorExpiresAt with
    | none =>
      rw [hstored] at hexpires
      cases hexpires
    | some expiresAt =>
      rw [hstored] at hexpires
      exact ⟨expiresAt, rfl, by simpa using hexpires⟩

/-- A code that is compared and not found wrong is accepted, unless it cannot be hashed. -/
theorem run_verify_matched (hw : w ∈ state.db.rows .withdrawals)
    (hcompares : compares runtime.settings w address (env.answer state.tick .now) = true)
    (hmatches : misses runtime w code address (env.answer state.tick .now) = false) :
    (∃ e, run (exec env) (verify runtime w code address) state =
      (.error e, { state with tick := state.tick + 1 })) ∨
    ∃ db time, PayoutService.Accepted runtime w code (env.answer state.tick .now) ∧
      Db.Replaced .withdrawals (confirmed w time) state.db db ∧
      run (exec env) (verify runtime w code address) state =
        (.ok (confirmed w time, true), ⟨⟨db, state.sent⟩, state.tick + 2⟩) := by
  obtain ⟨hash, hhash, hrun⟩ := @run_verify_compared env state runtime w code address hcompares
  rw [misses, hcompares, Bool.true_and] at hmatches
  rw [hrun]
  cases hsecret : runtime.settings.otpVerificationSecret with
  | none =>
    left
    use otpSecret.refusal
    rw [hashCode, otpSecret, hsecret]
    rfl
  | some secret =>
    rw [hsecret, Option.any_some] at hmatches
    cases hempty : secret.isEmpty with
    | true =>
      left
      use otpSecret.refusal
      rw [hashCode, otpSecret, hsecret]
      dsimp only
      rw [hempty]
      rfl
    | false =>
      right
      have hequal : runtime.hmacSha256 secret (toString w.id ++ ":" ++ code) = hash := by
        rw [hempty, Bool.not_false, Bool.true_and, bne_eq_false_iff_eq, hhash] at hmatches
        exact (Option.some.inj hmatches).symm
      have hvalid : rowValid .withdrawals w = true := PayoutService.rowValid_withdrawal hw
      obtain ⟨db, hreplaced, hupdate⟩ := @run_updateWithdrawal env
        { state with tick := state.tick + 2 } w
        (confirmed · (env.answer (state.tick + 1) .now)) hw (by constructor <;> rfl) hvalid
      have haccepted : PayoutService.Accepted runtime w code (env.answer state.tick .now) :=
        accepted_of_compares hcompares ⟨secret, hsecret, by rw [hequal, hhash]⟩
      refine ⟨db, env.answer (state.tick + 1) .now, haccepted, hreplaced, ?_⟩
      rw [hashCode_eq hsecret hempty, Prog.pure_bind, if_pos hequal]
      have hnow : run (exec env) now { state with tick := state.tick + 1 } =
          (.ok (env.answer (state.tick + 1) .now), { state with tick := state.tick + 2 }) := rfl
      rw [run_bind, hnow]
      dsimp only
      rw [run_bind, hupdate]
      rfl

end Runs

end TwoFactorService

namespace PayoutService

open TwoFactorService

/-! ## What a confirmation does -/

/-- The address the account of the actor has now. -/
def addressOf (db : PlatformDb) (tenantId actorId : ℕ) : Option String :=
  ((db.rows .profiles).find? fun profile =>
    ofTenant .profiles (some tenantId) profile && profile.id == actorId).bind Profile.email

/-- The end of `confirm_two_factor` where the code is right. -/
def advance (runtime : Runtime) (actorId : ℕ) (withdrawal : Withdrawal) :
    Tx TwoFactorConfirmationResult :=
  if withdrawal.approvalRequired = true then do
    let withdrawal ← transition withdrawal .pendingApproval (some actorId) none
    sendSuperAdminReviewEmail runtime.settings
    pure { withdrawal, verified := true, cancelled := false }
  else do
    let withdrawal ← transition withdrawal .approved (some actorId) none
    let withdrawal ← submitToSelcom runtime.settings withdrawal (some actorId)
    pure { withdrawal, verified := true, cancelled := false }

/-- The end of `confirm_two_factor` where the code is refused. -/
def refuse (runtime : Runtime) (tenantId actorId : ℕ) (withdrawal : Withdrawal) :
    Tx TwoFactorConfirmationResult := do
  let exhausted ← TwoFactorService.isExhausted runtime withdrawal
  if exhausted = true then do
    let _ ← WalletService.releaseReservation tenantId (ofNumeric withdrawal.amount)
    let withdrawal ← transition withdrawal .cancelled (some actorId)
      (some "2FA confirmation failed too many times or the code expired")
    pure { withdrawal, verified := false, cancelled := true }
  else pure { withdrawal, verified := false, cancelled := false }

theorem confirmTwoFactor_eq (runtime : Runtime) (tenantId withdrawalId actorId : ℕ)
    (code : String) :
    confirmTwoFactor runtime tenantId withdrawalId actorId code = (do
      let found ← getByIdForUpdate .withdrawals (some tenantId) withdrawalId
      let withdrawal ← Prog.orRaise found (.notFound "Withdrawal not found")
      Prog.require (withdrawal.requestedBy = some actorId) (.domainValidation
        "Only the requester can confirm this withdrawal's 2FA code")
      Prog.require (withdrawal.status = .draft) (.domainValidation
        ("Withdrawal is not awaiting 2FA confirmation (status: "
          ++ withdrawal.status.value ++ ")"))
      let profile ← getById .profiles (some tenantId) actorId
      let (withdrawal, verified) ← verify runtime withdrawal code (profile.bind Profile.email)
      if verified = true then advance runtime actorId withdrawal
      else refuse runtime tenantId actorId withdrawal) := rfl

variable {env : Outside} {state : State schema Request HttpResult} {runtime : Runtime}
  {w : Withdrawal} {code : String} {tenantId actorId : ℕ} {world : PlatformWorld}

theorem run_confirmTwoFactor (hw : w ∈ state.db.rows .withdrawals) (htenant : w.tenantId = tenantId)
    (hrequester : w.requestedBy = some actorId) (hdraft : w.status = .draft) :
    run (exec env) (confirmTwoFactor runtime tenantId w.id actorId code) state =
      run (exec env) (do
        let (withdrawal, verified) ← verify runtime w code (addressOf state.db tenantId actorId)
        if verified = true then advance runtime actorId withdrawal
        else refuse runtime tenantId actorId withdrawal) state := by
  have hfound : run (exec env) (getByIdForUpdate .withdrawals (some tenantId) w.id) state =
      (.ok (some w), state) :=
    run_getById_found env state (t := .withdrawals) hw (by simp [ofTenant, rowTenant, htenant])
  rw [confirmTwoFactor_eq, run_bind, hfound]
  dsimp only
  rw [Prog.orRaise_some, Prog.pure_bind, Prog.require_true hrequester, Prog.pure_bind,
    Prog.require_true hdraft, Prog.pure_bind, run_bind, run_getById_find]
  rfl

/-- A confirmation of anything but a `DRAFT` of the requester raises. -/
theorem confirmTwoFactor_presented {withdrawalId : ℕ} :
    Always (fun _ => false)
      (fun _ _ => ∃ w ∈ world.db.rows .withdrawals, w.id = withdrawalId ∧
        w.tenantId = tenantId ∧ w.requestedBy = some actorId ∧ w.status = .draft)
      (fun _ _ => True) (confirmTwoFactor runtime tenantId withdrawalId actorId code) world := by
  refine always_lockWithdrawal (fun _ h => by cases h) (fun w hw hid hofTenant => ?_) trivial
  refine always_bind.mpr (always_require (fun hrequester => ?_) fun _ => trivial)
  refine always_bind.mpr (always_require (fun hdraft => ?_) fun _ => trivial)
  have hpresented : ∃ w ∈ world.db.rows .withdrawals, w.id = withdrawalId ∧
      w.tenantId = tenantId ∧ w.requestedBy = some actorId ∧ w.status = .draft :=
    ⟨w, hw, hid, tenantId_of_ofTenant hofTenant, hrequester, hdraft⟩
  exact always_of_forall (fun _ _ => hpresented) fun _ _ => trivial

/-! ## Verdicts -/

/-- The requester of a withdrawal in `DRAFT` presents a code for it. -/
structure Presented (own : Step) (world : PlatformWorld) (w : Withdrawal)
    (tenantId actorId : ℕ) (code : String) : Prop where
  operation : own.operation = .confirmTwoFactor tenantId w.id actorId code
  stored : w ∈ world.db.rows .withdrawals
  tenantId : w.tenantId = tenantId
  requestedBy : w.requestedBy = some actorId
  draft : w.status = .draft

/-- What the clock shows when it is read for the `n`-th time after another `n` answers. -/
def Step.reading (own : Step) (n : ℕ) : Timestamp := own.outside.answer n .now

/-- What a confirmation that returns answers. -/
def Step.confirmation (own : Step) (world : PlatformWorld) :
    Option TwoFactorConfirmationResult :=
  match own.operation with
  | .confirmTwoFactor tenantId withdrawalId actorId code =>
    (transact own.outside
      (PayoutService.confirmTwoFactor own.runtime tenantId withdrawalId actorId code) world).1.toOption
  | _ => none

/-- What became of a presented code: `passed` is a refusal that is not recorded. -/
inductive Verdict (own : Step) (world : PlatformWorld) (w : Withdrawal) (code : String)
    (address : Option String) : Prop
  | raised {e : Failure} (hresult : own.result world = .error e)
      (hdb : (own.next world).db = world.db)
      (hmisses : misses own.runtime w code address (own.reading 0) = true →
        exhausted own.runtime.settings (missed w) (own.reading 1) = true ∧
          ¬WalletService.Movable WalletService.released world.db w.tenantId (ofNumeric w.amount))
  | accepted {result : TwoFactorConfirmationResult}
      (hresult : own.confirmation world = some result) (hverified : result.verified = true)
      (haccepted : Accepted own.runtime w code (own.reading 0))
      (hmatches : misses own.runtime w code address (own.reading 0) = false)
      (h : KeptCodes world.db (own.next world).db)
  | passed {result : TwoFactorConfirmationResult}
      (hresult : own.confirmation world = some result) (hverified : result.verified = false)
      (hcompares : compares own.runtime.settings w address (own.reading 0) = false)
      (hopen : exhausted own.runtime.settings w (own.reading 1) = false)
      (h : (own.next world).db = world.db)
  | counted {result : TwoFactorConfirmationResult}
      (hresult : own.confirmation world = some result) (hverified : result.verified = false)
      (hmisses : misses own.runtime w code address (own.reading 0) = true)
      (hopen : exhausted own.runtime.settings (missed w) (own.reading 1) = false)
      (h : Db.Replaced .withdrawals (missed w) world.db (own.next world).db)
  | cancelled {result : TwoFactorConfirmationResult} {v : Withdrawal}
      (hresult : own.confirmation world = some result) (hverified : result.verified = false)
      (hv : v = w ∧ compares own.runtime.settings w address (own.reading 0) = false ∨
        v = missed w ∧ misses own.runtime w code address (own.reading 0) = true)
      (h : Moved WalletService.released w world.db { v with status := .cancelled }
        (own.next world).db [])

/-- How the end of a confirmation concludes is how the step does. -/
theorem Step.concluded {own : Step} {withdrawalId : ℕ}
    (hoperation : own.operation = .confirmTwoFactor tenantId withdrawalId actorId code)
    {returns : TwoFactorConfirmationResult → PlatformWorld → Prop}
    {raises : Failure → PlatformWorld → Prop}
    (h : Concludes own.outside returns raises
      (confirmTwoFactor own.runtime tenantId withdrawalId actorId code) ⟨⟨world.db, []⟩, 0⟩) :
    (∃ result, own.confirmation world = some result ∧
      returns result ⟨(own.next world).db, own.exchanges world.db⟩) ∨
    ∃ e db, own.result world = .error e ∧ (own.next world).db = world.db ∧
      raises e ⟨db, own.exchanges world.db⟩ := by
  have hprogram : own.program = (do
      let _ ← confirmTwoFactor own.runtime tenantId withdrawalId actorId code
      pure ()) := by
    rw [Step.program, hoperation]
    rfl
  have hexchanges : own.exchanges world.db = Sql.exchanges own.outside
      (confirmTwoFactor own.runtime tenantId withdrawalId actorId code) world.db := by
    rw [Step.exchanges, hprogram, Sql.exchanges, run_discard]
    rfl
  rw [Step.confirmation, hoperation, Step.next, Step.result, hexchanges, hprogram,
    transact_discard_eq]
  dsimp only
  rcases transact_concludes h with ⟨result, hresult, hreturns⟩ | ⟨e, db, hresult, hdb, hraises⟩
  · left
    use result
    rw [hresult]
    exact ⟨rfl, hreturns⟩
  · right
    use e, db
    rw [hresult]
    exact ⟨rfl, hdb, hraises⟩

theorem run_refuse_open
    (hopen : exhausted runtime.settings w (env.answer state.tick .now) = false) :
    run (exec env) (refuse runtime tenantId actorId w) state =
      (.ok ⟨w, false, false⟩, { state with tick := state.tick + 1 }) := by
  rw [refuse, run_bind, run_isExhausted, hopen, clockReads_of_not_exhausted hopen]
  rfl

theorem concludes_refuse {returns : TwoFactorConfirmationResult → PlatformWorld → Prop}
    {raises : Failure → PlatformWorld → Prop} (hw : w ∈ state.db.rows .withdrawals)
    (hdraft : w.status = .draft)
    (hexhausted : exhausted runtime.settings w (env.answer state.tick .now) = true)
    (hreturns : ∀ result world', result.verified = false →
      Moved WalletService.released w state.db { w with status := .cancelled } world'.db [] →
        returns result world')
    (hraises : ¬WalletService.Movable WalletService.released state.db w.tenantId
      (ofNumeric w.amount) → ∀ e world', raises e world') :
    Concludes env returns raises (refuse runtime w.tenantId actorId w) state := by
  refine Concludes.bind run_isExhausted (Always.concludes ?_)
  rw [hexhausted, if_pos rfl]
  refine always_bind.mpr (WalletService.always_releaseReservation rfl ?_
    fun hnot e db => hraises hnot e _)
  intro wallet hwallet htenant wallet' db hreleased hreplaced
  have hkept : w ∈ db.rows .withdrawals := by
    rw [hreplaced.rows_of_ne (by decide)]
    exact hw
  have hmoved : Moved WalletService.released w state.db w db [] :=
    ⟨wallet, wallet', hwallet, htenant, hreleased, by simp, .of_wallet hw hreplaced⟩
  refine always_bind.mpr (always_transition (fun _ h => by cases h) hkept
    (by rw [hdraft]; decide) (fun _ => authorised_cancelled) (fun final hfinal => ?_)
    fun h => ?_)
  · exact hreturns _ _ rfl (hmoved.trans hfinal)
  · exact absurd h (by decide)

theorem always_advance :
    Always (fun _ => false)
      (fun result world' => result.verified = true ∧ KeptCodes world.db world'.db)
      (fun _ _ => True) (advance runtime actorId w) world := by
  have hall : (advance runtime actorId w).All keepsCodes.Allows := by
    apply Prog.All.ite
    · exact fun _ => .bind (lets_transition lets_keepsCodes _ _ _) fun _ =>
        .bind (lets_sendSuperAdminReviewEmail lets_keepsCodes _) fun _ => trivial
    · exact fun _ => .bind (lets_transition lets_keepsCodes _ _ _) fun _ =>
        .bind (lets_submitToSelcom lets_keepsCodes _ _) fun _ => trivial
  have hverified : Always (fun _ => false)
      (fun (result : TwoFactorConfirmationResult) _ => result.verified = true)
      (fun _ _ => True) (advance runtime actorId w) world := by
    rw [advance]
    split
    · exact always_bind.mpr (always_of_forall (fun _ _ => always_bind.mpr
        (always_of_forall (fun _ _ => rfl) fun _ _ => trivial)) fun _ _ => trivial)
    · exact always_bind.mpr (always_of_forall (fun _ _ => always_bind.mpr
        (always_of_forall (fun _ _ => rfl) fun _ _ => trivial)) fun _ _ => trivial)
  exact (hverified.and (always_keptCodes hall)).mono (fun _ _ h => h) fun _ _ _ => trivial

/-- The balances are all that decides whether an amount can be moved. -/
theorem movable_of_rows {move : Decimal → TenantWallet → Option TenantWallet}
    {db db' : PlatformDb} {amount : Decimal}
    (h : db'.rows .tenantWallets = db.rows .tenantWallets)
    (hmovable : WalletService.Movable move db tenantId amount) :
    WalletService.Movable move db' tenantId amount := by
  obtain ⟨hamount, wallet, hwallet, hmoves⟩ := hmovable
  exact ⟨hamount, wallet, h ▸ hwallet, hmoves⟩

theorem Step.verdict {own : Step} (h : Presented own world w tenantId actorId code)
    (hissued : w.twoFactorCodeHash.isSome = true) :
    Verdict own world w code (addressOf world.db tenantId actorId) := by
  obtain rfl := h.tenantId
  have hstart : run (exec own.outside)
      (confirmTwoFactor own.runtime w.tenantId w.id actorId code) ⟨⟨world.db, []⟩, 0⟩ = _ :=
    run_confirmTwoFactor h.stored rfl h.requestedBy h.draft
  cases hcompares : compares own.runtime.settings w (addressOf world.db w.tenantId actorId)
      (own.reading 0) with
  | false =>
    have hnot : misses own.runtime w code (addressOf world.db w.tenantId actorId)
        (own.reading 0) = false := by
      rw [misses, hcompares, Bool.false_and]
    have hverify := @run_verify_uncompared own.outside ⟨⟨world.db, []⟩, 0⟩ own.runtime w code _
      hissued hcompares
    have hsecond : exhausted own.runtime.settings w (own.outside.answer
        (0 + clockReads own.runtime.settings w) .now) =
          exhausted own.runtime.settings w (own.reading 1) := exhausted_clockReads
    cases hspent : exhausted own.runtime.settings w (own.reading 1) with
    | false =>
      have hconcludes : Concludes own.outside
          (fun result world' => result.verified = false ∧ world'.db = world.db) (fun _ _ => False)
          (confirmTwoFactor own.runtime w.tenantId w.id actorId code) ⟨⟨world.db, []⟩, 0⟩ :=
        .of_run hstart (.bind hverify (.of_run (y := pure _)
          (run_refuse_open (hsecond.trans hspent)) (Always.concludes ⟨rfl, rfl⟩)))
      rcases Step.concluded h.operation hconcludes with ⟨result, hresult, hverified, hdb⟩ |
        ⟨_, _, -, -, habsurd⟩
      · exact .passed hresult hverified hcompares hspent hdb
      · exact habsurd.elim
    | true =>
      have hconcludes : Concludes own.outside
          (fun result world' => result.verified = false ∧
            Moved WalletService.released w world.db { w with status := .cancelled } world'.db [])
          (fun _ _ => True)
          (confirmTwoFactor own.runtime w.tenantId w.id actorId code) ⟨⟨world.db, []⟩, 0⟩ :=
        .of_run hstart (.bind hverify (concludes_refuse h.stored h.draft (hsecond.trans hspent)
          (fun result world' hverified hmoved => ⟨hverified, hmoved⟩) fun _ _ _ => trivial))
      rcases Step.concluded h.operation hconcludes with ⟨result, hresult, hverified, hmoved⟩ |
        ⟨e, _, hresult, hdb, -⟩
      · exact .cancelled hresult hverified (Or.inl ⟨rfl, hcompares⟩) hmoved
      · exact .raised hresult hdb fun hmisses => absurd (hnot.symm.trans hmisses) (by decide)
  | true =>
    cases hmisses : misses own.runtime w code (addressOf world.db w.tenantId actorId)
        (own.reading 0) with
    | true =>
      obtain ⟨db, hreplaced, hverify⟩ :=
        @run_verify_missed own.outside ⟨⟨world.db, []⟩, 0⟩ _ w code _ h.stored hmisses
      have heffect : Effect world.db db w (missed w) id [] :=
        .of_written w hreplaced (by constructor <;> rfl) rfl rfl rfl rfl
      have hmissed : missed w ∈ db.rows .withdrawals := heffect.mem h.stored
      cases hspent : exhausted own.runtime.settings (missed w) (own.reading 1) with
      | false =>
        have hconcludes : Concludes own.outside
            (fun result world' => result.verified = false ∧
              Db.Replaced .withdrawals (missed w) world.db world'.db)
            (fun _ _ => False)
            (confirmTwoFactor own.runtime w.tenantId w.id actorId code)
            ⟨⟨world.db, []⟩, 0⟩ :=
          .of_run hstart (.bind hverify (.of_run (y := pure _) (run_refuse_open hspent)
            (Always.concludes ⟨rfl, hreplaced⟩)))
        rcases Step.concluded h.operation hconcludes with ⟨result, hresult, hverified, hdb⟩ |
          ⟨_, _, -, -, habsurd⟩
        · exact .counted hresult hverified hmisses hspent hdb
        · exact habsurd.elim
      | true =>
        have hconcludes : Concludes own.outside
            (fun result world' => result.verified = false ∧
              Moved WalletService.released w world.db { missed w with status := .cancelled }
                world'.db [])
            (fun _ _ => ¬WalletService.Movable WalletService.released world.db w.tenantId
              (ofNumeric w.amount))
            (confirmTwoFactor own.runtime w.tenantId w.id actorId code)
            ⟨⟨world.db, []⟩, 0⟩ := by
          refine .of_run hstart (.bind hverify (concludes_refuse (w := missed w) hmissed h.draft
            hspent (fun result world' hverified hmoved => ⟨hverified, hmoved.of_prior heffect⟩)
            fun hnot e world' hmovable => hnot (movable_of_rows heffect.wallets hmovable)))
        rcases Step.concluded h.operation hconcludes with ⟨result, hresult, hverified, hmoved⟩ |
          ⟨e, _, hresult, hdb, hnot⟩
        · exact .cancelled hresult hverified (Or.inr ⟨rfl, hmisses⟩) hmoved
        · exact .raised hresult hdb fun _ => ⟨hspent, hnot⟩
    | false =>
      have hconcludes : Concludes own.outside
          (fun result world' => result.verified = true ∧
            Accepted own.runtime w code (own.reading 0) ∧ KeptCodes world.db world'.db)
          (fun _ _ => True)
          (confirmTwoFactor own.runtime w.tenantId w.id actorId code) ⟨⟨world.db, []⟩, 0⟩ := by
        apply Concludes.of_run hstart
        rcases @run_verify_matched own.outside ⟨⟨world.db, []⟩, 0⟩ _ w code _ h.stored hcompares
          hmisses with ⟨e, hverify⟩ | ⟨db, time, haccepted, hreplaced, hverify⟩
        · exact .raised hverify trivial
        · have hkept : KeptCodes world.db db :=
            @KeptCodes.of_replaced _ _ w (confirmed w time) h.stored rfl (by constructor <;> rfl)
              hreplaced
          exact .bind hverify (Always.concludes (always_advance.mono
            (fun _ _ hadvanced => ⟨hadvanced.1, haccepted, hkept.trans hadvanced.2⟩) fun _ _ h => h))
      rcases Step.concluded h.operation hconcludes with
        ⟨result, hresult, hverified, haccepted, hkept⟩ | ⟨e, _, hresult, hdb, -⟩
      · exact .accepted hresult hverified haccepted hmisses hkept
      · exact .raised hresult hdb fun h => absurd (hmisses.symm.trans h) (by decide)

end PayoutService

end InfinityRadius.Services
