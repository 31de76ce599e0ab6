import InfinityRadius.Services.CodeRuns

/-!
# Refused confirmations

Each refusal of a code counts: it is recorded on the withdrawal, or the withdrawal is cancelled.
The exception is a code presented from an account whose address changed after the code was
sent: `verify` refuses it before it records anything, so that any number of them leave the
withdrawal in `DRAFT`.
-/

namespace InfinityRadius.Services.PayoutService

open Amounts Database Payload Program Sql Models TwoFactorService

/-! ## Refusals -/

/-- The confirmation of the withdrawal returns that the code was refused. -/
def Step.refuses (withdrawalId : ℕ) (own : Step) (world : PlatformWorld) : Bool :=
  match own.operation with
  | .confirmTwoFactor _ id _ _ =>
    id == withdrawalId && (own.confirmation world).any fun result => !result.verified
  | _ => false

/-- A refused confirmation is recorded on the withdrawal, or cancels it and releases its
amount. -/
def Step.CountsRefusal (own : Step) (world : PlatformWorld) : Prop :=
  ∀ withdrawalId, own.refuses withdrawalId world = true →
    ∃ w ∈ world.db.rows .withdrawals, w.id = withdrawalId ∧ w.status = .draft ∧
    ∃ w' ∈ (own.next world).db.rows .withdrawals, w'.id = withdrawalId ∧
      ((w'.status = .draft ∧ w'.twoFactorAttempts = w.twoFactorAttempts + 1) ∨
        (w'.status = .cancelled ∧
          Moved WalletService.released w world.db w' (own.next world).db []))

/-- A code is presented while it can still be accepted, from an account that has another
address than the one the code went to. -/
def Step.Readdressed (own : Step) (world : PlatformWorld) : Prop :=
  ∃ w tenantId actorId code address, Presented own world w tenantId actorId code ∧
    addressOf world.db tenantId actorId = some address ∧ w.otpSentToEmail ≠ some address ∧
    exhausted own.runtime.settings w (own.reading 1) = false

/-- No code is presented from another address, and the clock does not run backwards while one
is verified. -/
def PayoutStep.SameAddress {kept : List Table} (step : PayoutStep kept) (world : PlatformWorld) :
    Prop :=
  ∀ own, step = .operation own → ¬own.Readdressed world ∧ own.reading 0 ≤ own.reading 1

section Steps

variable {kept : List Table} {world : PlatformWorld} {own : Step} {w w' : Withdrawal}
  {tenantId actorId withdrawalId : ℕ} {code : String}

theorem exhausted_mono {settings : Settings} {first second : Timestamp} (hle : first ≤ second)
    (h : exhausted settings w second = false) : exhausted settings w first = false := by
  simp only [exhausted, Bool.or_eq_false_iff] at h ⊢
  refine ⟨h.1, ?_⟩
  cases hexpires : w.twoFactorExpiresAt with
  | none =>
    rw [hexpires] at h
    cases h.2
  | some expiresAt =>
    rw [hexpires] at h
    simp only [Option.all_some, decide_eq_false_iff_not, not_lt] at h ⊢
    exact hle.trans h.2

theorem Step.ok_of_confirmation {result : TwoFactorConfirmationResult}
    (h : own.confirmation world = some result) : own.result world = .ok () := by
  unfold Step.confirmation at h
  split at h
  · rename_i tenantId withdrawalId actorId code hoperation
    rw [Step.result, Step.program, hoperation]
    dsimp only [Operation.program]
    rw [transact_discard_eq]
    dsimp only
    cases htransact : (transact own.outside
        (PayoutService.confirmTwoFactor own.runtime tenantId withdrawalId actorId code) world).1 with
    | ok result => rfl
    | error e =>
      rw [htransact] at h
      cases h
  · cases h

/-- A refusal is the answer to a presented code. -/
theorem Step.presented_of_refuses (h : own.refuses withdrawalId world = true) :
    ∃ w tenantId actorId code result, w.id = withdrawalId ∧
      Presented own world w tenantId actorId code ∧ own.confirmation world = some result ∧
      result.verified = false := by
  unfold Step.refuses at h
  split at h
  · rename_i tenantId id actorId code hoperation
    obtain ⟨hid, hrefused⟩ := Bool.and_eq_true_iff.mp h
    cases hresult : own.confirmation world with
    | none =>
      rw [hresult] at hrefused
      cases hrefused
    | some result =>
      rw [hresult, Option.any_some] at hrefused
      obtain ⟨w, rfl, hpresented⟩ :=
        Step.presented_of_ok hoperation (Step.ok_of_confirmation hresult)
      exact ⟨w, tenantId, actorId, code, result, by simpa using hid, hpresented, rfl,
        by simpa using hrefused⟩
  · cases h

/-- The verdict on a code presented from the address it went to, the clock running on. -/
theorem PayoutStep.SameAddress.not_passed {step : PayoutStep kept} (h : step.SameAddress world)
    (hstep : step = .operation own) (hpresented : Presented own world w tenantId actorId code)
    (hissued : w.twoFactorCodeHash.isSome = true)
    (hcompares : compares own.runtime.settings w (addressOf world.db tenantId actorId)
      (own.reading 0) = false) :
    exhausted own.runtime.settings w (own.reading 1) = true := by
  obtain ⟨haddress, hclock⟩ := h own hstep
  by_contra hopen
  have hopen : exhausted own.runtime.settings w (own.reading 1) = false := by simpa using hopen
  rw [Bool.eq_false_iff, Ne, compares_iff] at hcompares
  refine hcompares ⟨hissued, exhausted_mono hclock hopen, fun hsome => ?_⟩
  obtain ⟨address, hcurrent⟩ := Option.isSome_iff_exists.mp hsome
  by_contra hne
  rw [hcurrent] at hne
  exact haddress ⟨w, tenantId, actorId, code, address, hpresented, hcurrent, hne, hopen⟩

theorem PayoutStep.SameAddress.countsRefusal {step : PayoutStep kept}
    (h : step.SameAddress world) (hcoded : Coded world.db) (hstep : step = .operation own) :
    own.CountsRefusal world := by
  intro withdrawalId hrefuses
  obtain ⟨w, tenantId, actorId, code, result, rfl, hpresented, hresult, hverified⟩ :=
    Step.presented_of_refuses hrefuses
  have hissued := hcoded w hpresented.stored
  use w, hpresented.stored, rfl, hpresented.draft
  cases Step.verdict hpresented hissued with
  | raised herror =>
    rw [Step.ok_of_confirmation hresult] at herror
    cases herror
  | accepted haccepted htrue =>
    obtain rfl := Option.some.inj (hresult.symm.trans haccepted)
    exact absurd (hverified.symm.trans htrue) (by decide)
  | passed _ _ hcompares hopen =>
    have hspent := h.not_passed hstep hpresented hissued hcompares
    exact absurd (hopen.symm.trans hspent) (by decide)
  | counted _ _ _ _ hreplaced =>
    exact ⟨missed w, hreplaced.mem hpresented.stored rfl, rfl, Or.inl ⟨hpresented.draft, rfl⟩⟩
  | @cancelled _ v _ _ hv hmoved =>
    have hmem : ({ v with status := .cancelled } : Withdrawal) ∈
        (own.next world).db.rows .withdrawals := by
      obtain ⟨wallet, wallet', hmoved⟩ := hmoved
      exact hmoved.effect.mem hpresented.stored
    have hid : v.id = w.id := by rcases hv with ⟨rfl, -⟩ | ⟨rfl, -⟩ <;> rfl
    exact ⟨_, hmem, hid, Or.inr ⟨rfl, hmoved⟩⟩

end Steps

/-! ## Counting refusals -/

def PayoutStep.refuses {kept : List Table} (withdrawalId : ℕ) (step : PayoutStep kept)
    (world : PlatformWorld) : Bool :=
  match step with
  | .operation own => own.refuses withdrawalId world
  | _ => false

/-- The refused confirmations of each withdrawal since its code was issued last. -/
def countRefusals {kept : List Table} (step : PayoutStep kept) (world : PlatformWorld)
    (count : ℕ → ℕ) (withdrawalId : ℕ) : ℕ :=
  if step.issues withdrawalId world = true then 0
  else if step.refuses withdrawalId world = true then count withdrawalId + 1
  else count withdrawalId

def refusals {kept : List Table} (steps : List (PayoutStep kept)) (start : PlatformWorld) :
    ℕ → ℕ :=
  (Runs.run (Runs.recording countRefusals PayoutStep.next) steps (start, fun _ => 0)).2

/-- The attempts allowed are never more than the bound. -/
def PayoutStep.AtMost {kept : List Table} (bound : ℤ) (step : PayoutStep kept) : Prop :=
  ∀ own, step = .operation own → own.runtime.settings.withdrawalOtpMaxAttempts ≤ bound

/-- Unless it is cancelled a withdrawal had fewer refusals than the bound, and in `DRAFT` each
of them is recorded on it. -/
structure Counted (bound : ℤ) (state : PlatformWorld × (ℕ → ℕ)) : Prop where
  coded : Coded state.1.db
  below : ∀ w ∈ state.1.db.rows .withdrawals, w.status ≠ .cancelled → (state.2 w.id : ℤ) < bound
  recorded : ∀ w ∈ state.1.db.rows .withdrawals, w.status = .draft →
    state.2 w.id = w.twoFactorAttempts

section Counting

variable {kept : List Table} {bound : ℤ} {world : PlatformWorld} {count : ℕ → ℕ}
  {step : PayoutStep kept} {w w' : Withdrawal}

theorem countRefusals_issued {withdrawalId : ℕ} (h : step.issues withdrawalId world = true) :
    countRefusals step world count withdrawalId = 0 := if_pos h

theorem countRefusals_refused {withdrawalId : ℕ}
    (hissues : step.issues withdrawalId world = false)
    (h : step.refuses withdrawalId world = true) :
    countRefusals step world count withdrawalId = count withdrawalId + 1 := by
  rw [countRefusals, hissues, if_neg Bool.false_ne_true, if_pos h]

theorem countRefusals_kept {withdrawalId : ℕ} (hissues : step.issues withdrawalId world = false)
    (h : ∀ own, step = .operation own → own.refuses withdrawalId world = false) :
    countRefusals step world count withdrawalId = count withdrawalId := by
  have hrefuses : step.refuses withdrawalId world = false := by
    cases step with
    | operation own => exact h own rfl
    | disbursementResult => rfl
    | elsewhere => rfl
  rw [countRefusals, hissues, hrefuses, if_neg Bool.false_ne_true, if_neg Bool.false_ne_true]

theorem Step.refuses_eq_false {own : Step}
    (h : ∀ tenantId actorId code result, Presented own world w tenantId actorId code →
      own.confirmation world = some result → result.verified = true)
    (hw : w ∈ world.db.rows .withdrawals) : own.refuses w.id world = false := by
  rw [Bool.eq_false_iff]
  intro hrefuses
  obtain ⟨v, tenantId, actorId, code, result, hid, hpresented, hresult, hverified⟩ :=
    Step.presented_of_refuses hrefuses
  obtain rfl := world.db.id_injOn (t := .withdrawals) hpresented.stored hw hid
  exact absurd (hverified.symm.trans (h tenantId actorId code result hpresented hresult))
    (by decide)

/-- What a step leaves of the count and the recorded attempts of a withdrawal that was there
before it. -/
theorem Counted.turn (h : Counted bound (world, count)) (hkept : Table.withdrawals ∈ kept)
    (haddress : step.SameAddress world) (hbound : 0 < bound) (hmost : step.AtMost bound)
    (hw : w ∈ world.db.rows .withdrawals) (hw' : w' ∈ (step.next world).db.rows .withdrawals)
    (hid : w.id = w'.id) (hopen : w.status ≠ .cancelled) (hopen' : w'.status ≠ .cancelled)
    (hdraft : w'.status = .draft → w.status = .draft) :
    (countRefusals step world count w.id : ℤ) < bound ∧
      (w'.status = .draft → countRefusals step world count w.id = w'.twoFactorAttempts) := by
  have hbelow : (count w.id : ℤ) < bound := h.below w hw hopen
  have hrecorded : w.status = .draft → count w.id = w.twoFactorAttempts := h.recorded w hw
  cases step.turn hkept h.coded hw hw' hid with
  | kept hsame hissues hunpresented =>
    have hcount : countRefusals step world count w.id = count w.id := by
      apply countRefusals_kept hissues
      intro own hstep
      apply Step.refuses_eq_false _ hw
      intro tenantId actorId code result hpresented
      exact absurd hpresented (hunpresented own tenantId actorId code hstep)
    rw [hcount, hsame.attempts]
    exact ⟨hbelow, fun hdraft' => hrecorded (hdraft hdraft')⟩
  | reissued _ hissues hresent =>
    obtain ⟨hash, email, expiresAt, i, j, -, -, -, hissued⟩ := hresent.issued
    rw [countRefusals_issued hissues, hissued]
    exact ⟨by exact_mod_cast hbound, fun _ => rfl⟩
  | @presented own tenantId actorId code hstep hissues hpresented =>
    have hkept : (∀ tenantId actorId code result, Presented own world w tenantId actorId code →
        own.confirmation world = some result → result.verified = true) → w.SameCode w' →
        (countRefusals step world count w.id : ℤ) < bound ∧
          (w'.status = .draft → countRefusals step world count w.id = w'.twoFactorAttempts) := by
      intro hverified hsame
      have hcount : countRefusals step world count w.id = count w.id := by
        apply countRefusals_kept hissues
        intro other hother
        obtain rfl := PayoutStep.operation.inj (hstep.symm.trans hother)
        exact Step.refuses_eq_false hverified hw
      rw [hcount, hsame.attempts]
      exact ⟨hbelow, fun hdraft' => hrecorded (hdraft hdraft')⟩
    subst hstep
    cases Step.verdict hpresented (h.coded w hw) with
    | raised herror hdb =>
      refine hkept (fun _ _ _ result _ hresult => ?_)
        ((KeptCodes.of_rows (by rw [← hdb]; rfl)).same hw hw' hid)
      rw [Step.ok_of_confirmation hresult] at herror
      cases herror
    | accepted hresult hverified _ _ hsame =>
      refine hkept (fun _ _ _ result _ hother => ?_) (hsame.same hw hw' hid)
      rw [Option.some.inj (hother.symm.trans hresult)]
      exact hverified
    | passed _ _ hcompares hlive =>
      have hspent := haddress.not_passed rfl hpresented (h.coded w hw) hcompares
      exact absurd (hlive.symm.trans hspent) (by decide)
    | counted hresult hverified _ hlive hreplaced =>
      have hrefuses : own.refuses w.id world = true := by
        simp only [Step.refuses, hpresented.operation, hresult, Option.any_some, hverified,
          BEq.rfl, Bool.not_false, Bool.and_self]
      obtain rfl : w' = missed w := eq_of_rewritten hreplaced.rows_self rfl hw' hid
      rw [countRefusals_refused hissues hrefuses, hrecorded hpresented.draft]
      simp only [exhausted, Bool.or_eq_false_iff, decide_eq_false_iff_not, not_le] at hlive
      exact ⟨hlive.1.trans_le (hmost own rfl), fun _ => rfl⟩
    | cancelled _ _ _ hmoved =>
      obtain ⟨wallet, wallet', hmoved⟩ := hmoved
      have heq := eq_of_rewritten hmoved.effect.withdrawals hmoved.effect.same.id hw' hid
      rw [heq] at hopen'
      exact absurd rfl hopen'

theorem Counted.next (hkept : Table.withdrawals ∈ kept) (haddress : step.SameAddress world)
    (hbound : 0 < bound) (hmost : step.AtMost bound) (h : Counted bound (world, count)) :
    Counted bound (step.next world, countRefusals step world count) := by
  have hrow : ∀ w' ∈ (step.next world).db.rows .withdrawals, w'.status ≠ .cancelled →
      (countRefusals step world count w'.id : ℤ) < bound ∧
        (w'.status = .draft → countRefusals step world count w'.id = w'.twoFactorAttempts) := by
    intro w' hw' hopen'
    by_cases hold : ∃ w ∈ world.db.rows .withdrawals, w.id = w'.id
    · obtain ⟨v, hv, hvid⟩ := hold
      obtain ⟨u, hu, hsame, hbecame⟩ := step.became hkept hv
      obtain rfl := (step.next world).db.id_injOn (t := .withdrawals) hu hw'
        (hsame.id.trans hvid)
      rw [hsame.id]
      exact h.turn hkept haddress hbound hmost hv hw' hvid
        (fun hcancelled => hopen' (hbecame.cancelled hcancelled)) hopen' hbecame.of_draft
    · have hnew : ∀ w ∈ world.db.rows .withdrawals, w.id ≠ w'.id :=
        fun w hw hid => hold ⟨w, hw, hid⟩
      obtain ⟨-, hissues, _, _, _, _, _, _, -, -, -, -, hfirst, -⟩ := step.added hkept hw' hnew
      obtain ⟨draft, hash, expiresAt, lastSentAt, -, hfirst⟩ := hfirst
      rw [countRefusals_issued hissues]
      refine ⟨by exact_mod_cast hbound, fun _ => ?_⟩
      rw [hfirst]
      rfl
  constructor
  case coded => exact h.coded.next hkept
  case below => exact fun w hw hopen => (hrow w hw hopen).1
  case recorded => exact fun w hw hdraft => (hrow w hw (by rw [hdraft]; decide)).2 hdraft

end Counting

/-- In every run that starts with no withdrawal, and in which no code is presented from another
address than it went to: each refused confirmation is recorded or cancels the withdrawal, and a
withdrawal with as many refusals since its last issue as attempts are allowed is cancelled. -/
theorem countsRefusals_of_run {steps : List (PayoutStep [.withdrawals])} {start : PlatformWorld}
    (hstart : start.db.rows .withdrawals = [])
    (hsteps : Runs.All PayoutStep.next PayoutStep.SameAddress steps start) :
    Runs.All PayoutStep.next
      (fun step world => ∀ own, step = .operation own → own.CountsRefusal world) steps start ∧
    ∀ bound : ℤ, 0 < bound → (∀ step ∈ steps, step.AtMost bound) →
      ∀ w ∈ (runPayouts steps start).db.rows .withdrawals,
        bound ≤ refusals steps start w.id → w.status = .cancelled := by
  have hnone : ∀ w ∈ start.db.rows .withdrawals, False := by
    intro w hw
    rw [hstart] at hw
    cases hw
  constructor
  · have hcoded : Coded start.db := fun w hw => (hnone w hw).elim
    have hstep : ∀ (step : PayoutStep [.withdrawals]) (world : PlatformWorld),
        step.SameAddress world → Coded world.db →
          (∀ own, step = .operation own → own.CountsRefusal world) ∧
            Coded (step.next world).db :=
      fun step world haddress hcoded =>
        ⟨fun own => haddress.countsRefusal hcoded, hcoded.next (by decide)⟩
    exact Runs.All.of_invariant hstep hsteps hcoded
  · intro bound hbound hmost w hw hrefusals
    have hall : Runs.All PayoutStep.next
        (fun step world => step.SameAddress world ∧ step.AtMost bound) steps start :=
      hsteps.and (.of_forall (fun step hstep _ => hmost step hstep) start)
    have hcounted : Counted bound
        (Runs.run (Runs.recording countRefusals PayoutStep.next) steps (start, fun _ => 0)) := by
      refine Runs.run_invariant (Counted bound) (fun step state h hinv => ?_)
        (Runs.All.recording countRefusals hall) ⟨?_, ?_, ?_⟩
      · exact hinv.next (by decide) h.1 hbound h.2
      · exact fun w hw => (hnone w hw).elim
      · exact fun w hw => (hnone w hw).elim
      · exact fun w hw => (hnone w hw).elim
    by_contra hopen
    have hw : w ∈ (Runs.run (Runs.recording countRefusals PayoutStep.next) steps
        (start, fun _ => 0)).1.db.rows .withdrawals := by
      rw [Runs.run_recording_fst]
      exact hw
    exact absurd hrefusals (not_le.mpr (hcounted.below w hw hopen))

/-! ## A changed address -/

/-- The sample service, where two attempts are allowed and another code has another hash. -/
def guessRuntime : Runtime :=
  { sampleRuntime with
    settings := { sampleSettings with withdrawalOtpMaxAttempts := 2 }
    hmacSha256 := fun _ message =>
      if message = "0:123456" then
        "8858ccea84c2c9c96b9c6c4756b0a5ed94cc32c5d70fb680f1aa7bc2eec1db77"
      else "01ed30dbd97847cd2826f145237a26a81025297856cd97b598e31f00e978266e" }

def guessStep : Step := ⟨.confirmTwoFactor 1 0 5 "000000", guessRuntime, answering []⟩

/-- A withdrawal for which a wrong code is presented so often. -/
def guessedRun (guesses : ℕ) : List (PayoutStep [.withdrawals]) :=
  .operation ⟨.requestWithdrawal 1 5 0 5000, guessRuntime, answering []⟩ ::
    List.replicate guesses (.operation guessStep)

theorem PayoutStep.sameAddress_of_rows {kept : List Table} {own : Step} {world : PlatformWorld}
    {tenantId withdrawalId actorId : ℕ} {code : String}
    (hoperation : own.operation = .confirmTwoFactor tenantId withdrawalId actorId code)
    (haddress : ∀ w ∈ world.db.rows .withdrawals,
      w.otpSentToEmail = addressOf world.db tenantId actorId)
    (hclock : own.reading 0 ≤ own.reading 1) :
    (PayoutStep.operation own : PayoutStep kept).SameAddress world := by
  intro other heq
  obtain rfl := PayoutStep.operation.inj heq
  refine ⟨?_, hclock⟩
  rintro ⟨w, tenantId', actorId', code', address, hpresented, hcurrent, hne, -⟩
  obtain ⟨rfl, -, rfl, -⟩ := Operation.confirmTwoFactor.inj
    (hoperation.symm.trans hpresented.operation)
  exact hne ((haddress w hpresented.stored).trans hcurrent)

/-- The second wrong code cancels the withdrawal. -/
theorem countsRefusals_guessed :
    ((runPayouts (guessedRun 2) ⟨openingDb, []⟩).db.rows .withdrawals).length = 1 ∧
      ∀ w ∈ (runPayouts (guessedRun 2) ⟨openingDb, []⟩).db.rows .withdrawals,
        w.status = .cancelled := by
  have hrun := @countsRefusals_of_run (guessedRun 2) ⟨openingDb, []⟩ rfl (by
    refine ⟨?_, ?_, ?_, trivial⟩
    · intro own heq
      obtain rfl := PayoutStep.operation.inj heq
      refine ⟨?_, le_refl _⟩
      rintro ⟨w, tenantId, actorId, code, address, hpresented, -⟩
      cases hpresented.operation
    · exact PayoutStep.sameAddress_of_rows rfl (by decide +kernel) (le_refl _)
    · exact PayoutStep.sameAddress_of_rows rfl (by decide +kernel) (le_refl _))
  refine ⟨by decide +kernel, fun w hw => hrun.2 2 (by decide) ?_ w hw ?_⟩
  · intro step hstep own heq
    subst heq
    simp [guessedRun, guessStep] at hstep
    rcases hstep with rfl | rfl <;> decide
  · revert w
    decide +kernel

/-- The owner of the profile gives it another address. -/
def readdress (db : PlatformDb) : PlatformDb :=
  ((db.update .profiles 5 fun profile =>
    { profile with email := some "new@example.com" }).map Prod.snd).getD db

theorem readdress_withdrawals (db : PlatformDb) :
    ∀ t ∈ [Table.withdrawals], (readdress db).rows t = db.rows t := by
  intro t ht
  obtain rfl := List.mem_singleton.mp ht
  unfold readdress
  cases hupdate : db.update .profiles 5 fun profile =>
      { profile with email := some "new@example.com" } with
  | none => rfl
  | some stored =>
    obtain ⟨old, -, -, -, -, -, hreplaced⟩ := Db.update_eq_some hupdate
    exact hreplaced.rows_of_ne (by decide)

/-- The address is changed after the code was sent, and then three codes are presented. -/
def readdressedRun : List (PayoutStep [.withdrawals]) :=
  [.operation ⟨.requestWithdrawal 1 5 0 5000, guessRuntime, answering []⟩,
    .elsewhere readdress readdress_withdrawals, .operation guessStep, .operation guessStep,
    .operation guessStep]

/-- Two attempts are allowed, three were refused, and none of them counts. -/
theorem not_countsRefusals_readdressed :
    (¬Runs.All PayoutStep.next
      (fun step world => ∀ own, step = .operation own → own.CountsRefusal world)
      readdressedRun ⟨openingDb, []⟩) ∧
    refusals readdressedRun ⟨openingDb, []⟩ 0 = 3 ∧
    ∀ w ∈ (runPayouts readdressedRun ⟨openingDb, []⟩).db.rows .withdrawals,
      w.id = 0 ∧ w.status = .draft ∧ w.twoFactorAttempts = 0 := by
  have hleft : ∀ w ∈ (runPayouts (readdressedRun.take 3) ⟨openingDb, []⟩).db.rows .withdrawals,
      w.status = .draft ∧ w.twoFactorAttempts = 0 := by
    decide +kernel
  refine ⟨fun h => ?_, by decide +kernel, by decide +kernel⟩
  have hcounts : guessStep.CountsRefusal (runPayouts (readdressedRun.take 2) ⟨openingDb, []⟩) :=
    h.2.2.1 guessStep rfl
  obtain ⟨w, -, -, -, w', hw', -, hchanged⟩ := hcounts 0 (by decide +kernel)
  have hkept : w'.status = .draft ∧ w'.twoFactorAttempts = 0 := hleft w' hw'
  rcases hchanged with ⟨-, hattempts⟩ | ⟨hcancelled, -⟩
  · rw [hkept.2] at hattempts
    cases hattempts
  · rw [hkept.1] at hcancelled
    cases hcancelled

end InfinityRadius.Services.PayoutService
