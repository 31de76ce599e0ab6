import InfinityRadius.Services.Authorisation
import InfinityRadius.Services.RefusedConfirmations

/-!
# The limit on guesses

A withdrawal code can be guessed only so often: the sends are limited and apart, each send allows
only so many tries, and a code that is accepted is the one sent last.  The limit rests on the
cancellation that the last try brings.  Where the amount cannot be released the cancellation
fails, the try is rolled back with it, and the code can be guessed for as long as it lives.
-/

namespace InfinityRadius.Services.PayoutService

open Amounts Database Payload Program Sql Models TwoFactorService

/-! ## What a run does with the code of a withdrawal -/

/-- A wrong code is compared with the stored hash, also where the step is rolled back. -/
def Step.guesses (withdrawalId : ℕ) (own : Step) (world : PlatformWorld) : Bool :=
  match own.operation with
  | .confirmTwoFactor tenantId id actorId code =>
    id == withdrawalId && (world.db.rows .withdrawals).any fun w =>
      w.id == id && w.tenantId == tenantId && w.requestedBy == some actorId &&
        w.status == .draft &&
          misses own.runtime w code (addressOf world.db tenantId actorId) (own.reading 0)
  | _ => false

def PayoutStep.guesses {kept : List Table} (withdrawalId : ℕ) (step : PayoutStep kept)
    (world : PlatformWorld) : Bool :=
  match step with
  | .operation own => own.guesses withdrawalId world
  | _ => false

/-- The sends of a code as they were recorded, the last one first, the wrong codes compared, and
those of them since the last send. -/
structure Tally where
  sends : List (Option Timestamp)
  guesses : ℕ
  tries : ℕ

/-- The time of the last send that is recorded on the withdrawal. -/
def recordedSend (db : PlatformDb) (withdrawalId : ℕ) : Option Timestamp :=
  ((db.rows .withdrawals).find? fun w => w.id == withdrawalId).bind Withdrawal.otpLastSentAt

def countGuesses {kept : List Table} (step : PayoutStep kept) (world : PlatformWorld)
    (tally : ℕ → Tally) (withdrawalId : ℕ) : Tally :=
  let before := tally withdrawalId
  if step.issues withdrawalId world = true then
    { before with
      sends := recordedSend (step.next world).db withdrawalId :: before.sends, tries := 0 }
  else if step.guesses withdrawalId world = true then
    { before with guesses := before.guesses + 1, tries := before.tries + 1 }
  else before

def noTally : ℕ → Tally := fun _ => ⟨[], 0, 0⟩

def tallies {kept : List Table} (steps : List (PayoutStep kept)) (start : PlatformWorld) :
    ℕ → Tally :=
  (Runs.run (Runs.recording countGuesses PayoutStep.next) steps (start, noTally)).2

/-! ## The limits -/

/-- The limits that the settings put on codes. -/
structure Limits where
  attempts : ℤ
  sends : ℤ
  cooldown : ℤ

def Limits.of (settings : Settings) : Limits where
  attempts := settings.withdrawalOtpMaxAttempts
  sends := settings.withdrawalOtpMaxSends
  cooldown := settings.withdrawalOtpResendCooldownSeconds

/-- The later of two recorded sends came after the cooldown. -/
def Apart (cooldown : ℤ) (later earlier : Option Timestamp) : Prop :=
  ∃ sent sent', earlier = some sent ∧ later = some sent' ∧
    sent + cooldown * microsPerSecond ≤ sent'

/-- What the limits allow for the code of a withdrawal. -/
structure Tally.Within (limits : Limits) (tally : Tally) : Prop where
  sends : (tally.sends.length : ℤ) ≤ limits.sends
  apart : tally.sends.IsChain (Apart limits.cooldown)
  guesses : (tally.guesses : ℤ) ≤ limits.attempts * limits.sends

/-- The settings have the limits, and the clock does not run backwards. -/
def Step.Under (limits : Limits) (own : Step) : Prop :=
  Limits.of own.runtime.settings = limits ∧ ∀ i j, i ≤ j → own.reading i ≤ own.reading j

def PayoutStep.Under {kept : List Table} (limits : Limits) (step : PayoutStep kept) : Prop :=
  ∀ own, step = .operation own → own.Under limits

/-- The wrong code after which nothing more is accepted finds an amount that can be released. -/
def PayoutStep.CanCancel {kept : List Table} (step : PayoutStep kept) (world : PlatformWorld) :
    Prop :=
  ∀ own w tenantId actorId code, step = .operation own →
    Presented own world w tenantId actorId code →
    misses own.runtime w code (addressOf world.db tenantId actorId) (own.reading 0) = true →
    exhausted own.runtime.settings (missed w) (own.reading 1) = true →
    WalletService.Movable WalletService.released world.db w.tenantId (ofNumeric w.amount)

/-- A confirmation succeeds with the code sent last, in time, and before the tries since then
ran out. -/
def ConfirmsWithin (limits : Limits) (start : PlatformWorld) (steps : Steps) : Prop :=
  ∀ own result, own.Under limits → own.confirmation (runPayouts steps start) = some result →
    result.verified = true →
    ∃ w ∈ (runPayouts steps start).db.rows .withdrawals, Confirmation start steps own w ∧
      ((tallies steps start w.id).tries : ℤ) < limits.attempts

/-! ## What is spent of the limits -/

/-- What is recorded on a withdrawal of what its code went through. -/
structure Spent (limits : Limits) (w : Withdrawal) (tally : Tally) : Prop where
  last : ∃ sent earlier, w.otpLastSentAt = some sent ∧ tally.sends = some sent :: earlier
  count : tally.sends.length = w.otpSendCount
  sends : (w.otpSendCount : ℤ) ≤ limits.sends
  apart : tally.sends.IsChain (Apart limits.cooldown)
  tries : (tally.tries : ℤ) ≤ limits.attempts
  guesses : (tally.guesses : ℤ) ≤ limits.attempts * (w.otpSendCount - 1) + tally.tries
  draft : w.status = .draft →
    tally.tries = w.twoFactorAttempts ∧ (w.twoFactorAttempts : ℤ) < limits.attempts

section Spending

variable {limits : Limits} {w w' : Withdrawal} {tally : Tally}

/-- Every guess belongs to a send, and a send allows only so many. -/
theorem Spent.within (h : Spent limits w tally) (hattempts : 0 < limits.attempts) :
    tally.Within limits := by
  constructor
  case sends =>
    rw [h.count]
    exact h.sends
  case apart => exact h.apart
  case guesses =>
    calc (tally.guesses : ℤ)
        ≤ limits.attempts * (w.otpSendCount - 1) + tally.tries := h.guesses
      _ ≤ limits.attempts * (w.otpSendCount - 1) + limits.attempts := by
          have htries := h.tries
          omega
      _ = limits.attempts * w.otpSendCount := by ring
      _ ≤ limits.attempts * limits.sends :=
          mul_le_mul_of_nonneg_left h.sends hattempts.le

theorem Spent.same (h : Spent limits w tally) (hsame : w.SameCode w')
    (hdraft : w'.status = .draft → w.status = .draft) : Spent limits w' tally := by
  constructor
  case last =>
    rw [hsame.lastSentAt]
    exact h.last
  case count =>
    rw [hsame.sendCount]
    exact h.count
  case sends =>
    rw [hsame.sendCount]
    exact h.sends
  case apart => exact h.apart
  case tries => exact h.tries
  case guesses =>
    rw [hsame.sendCount]
    exact h.guesses
  case draft =>
    intro hopen
    rw [hsame.attempts]
    exact h.draft (hdraft hopen)

theorem Spent.first {email : String} (h : FirstIssue email w) (hattempts : 0 < limits.attempts)
    (hsends : 0 < limits.sends) : Spent limits w ⟨[w.otpLastSentAt], 0, 0⟩ := by
  obtain ⟨draft, hash, expiresAt, lastSentAt, hcount, rfl⟩ := h
  have hone : (issuedAs draft hash email expiresAt lastSentAt).otpSendCount = 1 := by
    rw [issuedAs, hcount]
  constructor
  case last => exact ⟨lastSentAt, [], rfl, rfl⟩
  case count =>
    rw [hone]
    rfl
  case sends =>
    rw [hone]
    exact hsends
  case apart => exact .singleton _
  case tries => exact hattempts.le
  case guesses =>
    rw [hone]
    simp
  case draft => exact fun _ => ⟨rfl, hattempts⟩

theorem Spent.resent {own : Step} {world world' : PlatformWorld} {tenantId actorId : ℕ}
    (h : Spent limits w tally) (hunder : own.Under limits) (hattempts : 0 < limits.attempts)
    (hresent : Resent own world world' tenantId actorId w w') :
    Spent limits w' { tally with sends := w'.otpLastSentAt :: tally.sends, tries := 0 } := by
  obtain ⟨rfl, hclock⟩ := hunder
  obtain ⟨hash, email, expiresAt, i, j, hij, hcooldown, -, rfl⟩ := hresent.issued
  obtain ⟨sent, earlier, hlast, hsends⟩ := h.last
  constructor
  case last => exact ⟨own.reading j, tally.sends, rfl, rfl⟩
  case count => exact congrArg (· + 1) h.count
  case sends =>
    have hless : (w.otpSendCount : ℤ) < own.runtime.settings.withdrawalOtpMaxSends :=
      hresent.sends
    exact_mod_cast hless
  case apart =>
    have happart := h.apart
    rw [hsends] at happart ⊢
    exact List.isChain_cons_cons.mpr
      ⟨⟨sent, own.reading j, rfl, rfl, (hcooldown sent hlast).trans (hclock i j hij)⟩, happart⟩
  case tries => exact hattempts.le
  case guesses =>
    have hguesses := h.guesses
    have htries := h.tries
    have hmore : (w.otpSendCount : ℤ) + 1 - 1 = (w.otpSendCount - 1) + 1 := by ring
    simp only [issuedAs, Nat.cast_add, Nat.cast_one, Nat.cast_zero, add_zero, hmore, mul_add,
      mul_one]
    omega
  case draft => exact fun _ => ⟨rfl, hattempts⟩

/-- A wrong code is a guess and a try. -/
theorem Spent.guessed (h : Spent limits w tally) (hopen : w.status = .draft)
    (hsame : (missed w).SameCode w')
    (hdraft : w'.status = .draft → (w.twoFactorAttempts : ℤ) + 1 < limits.attempts) :
    Spent limits w' { tally with guesses := tally.guesses + 1, tries := tally.tries + 1 } := by
  obtain ⟨htries, hless⟩ := h.draft hopen
  have hcount : w'.otpSendCount = w.otpSendCount := hsame.sendCount
  have hlast : w'.otpLastSentAt = w.otpLastSentAt := hsame.lastSentAt
  have hattempts : w'.twoFactorAttempts = w.twoFactorAttempts + 1 := hsame.attempts
  constructor
  case last =>
    rw [hlast]
    exact h.last
  case count =>
    rw [hcount]
    exact h.count
  case sends =>
    rw [hcount]
    exact h.sends
  case apart => exact h.apart
  case tries =>
    rw [htries]
    exact_mod_cast hless
  case guesses =>
    have hguesses := h.guesses
    rw [hcount]
    push_cast
    omega
  case draft =>
    intro hopen'
    rw [hattempts]
    exact ⟨congrArg (· + 1) htries, by exact_mod_cast hdraft hopen'⟩

end Spending

/-! ## Steps -/

section Steps

variable {kept : List Table} {limits : Limits} {world : PlatformWorld} {step : PayoutStep kept}
  {own : Step} {w w' : Withdrawal} {tally : ℕ → Tally} {withdrawalId tenantId actorId : ℕ}
  {code : String}

/-- A guess is a presented code. -/
theorem Step.presented_of_guesses (h : own.guesses withdrawalId world = true) :
    ∃ w tenantId actorId code, w.id = withdrawalId ∧
      Presented own world w tenantId actorId code ∧
      misses own.runtime w code (addressOf world.db tenantId actorId) (own.reading 0) = true := by
  unfold Step.guesses at h
  split at h
  · rename_i tenantId id actorId code hoperation
    obtain ⟨hid, hany⟩ := Bool.and_eq_true_iff.mp h
    obtain ⟨w, hw, hpresented⟩ := List.any_eq_true.mp hany
    simp only [Bool.and_eq_true, beq_iff_eq] at hpresented hid
    obtain ⟨⟨⟨⟨hwid, htenant⟩, hrequester⟩, hdraft⟩, hmisses⟩ := hpresented
    subst hwid
    exact ⟨w, tenantId, actorId, code, hid, ⟨hoperation, hw, htenant, hrequester, hdraft⟩, hmisses⟩
  · cases h

theorem Step.guesses_of_presented (h : Presented own world w tenantId actorId code) :
    own.guesses w.id world =
      misses own.runtime w code (addressOf world.db tenantId actorId) (own.reading 0) := by
  cases hmisses : misses own.runtime w code (addressOf world.db tenantId actorId)
      (own.reading 0) with
  | true =>
    have hany : ((world.db.rows .withdrawals).any fun v =>
        v.id == w.id && v.tenantId == tenantId && v.requestedBy == some actorId &&
          v.status == .draft &&
            misses own.runtime v code (addressOf world.db tenantId actorId) (own.reading 0))
          = true :=
      List.any_eq_true.mpr ⟨w, h.stored, by simp [h.tenantId, h.requestedBy, h.draft, hmisses]⟩
    simp only [Step.guesses, h.operation, BEq.rfl, Bool.true_and]
    exact hany
  | false =>
    rw [Bool.eq_false_iff]
    intro hguesses
    obtain ⟨v, tenantId', actorId', code', hid, hpresented, hmissed⟩ :=
      Step.presented_of_guesses hguesses
    obtain rfl := world.db.id_injOn (t := .withdrawals) hpresented.stored h.stored hid
    obtain ⟨rfl, -, rfl, rfl⟩ := Operation.confirmTwoFactor.inj
      (h.operation.symm.trans hpresented.operation)
    exact absurd (hmisses.symm.trans hmissed) (by decide)

theorem Step.guesses_of_unpresented (hw : w ∈ world.db.rows .withdrawals)
    (h : ∀ tenantId actorId code, ¬Presented own world w tenantId actorId code) :
    own.guesses w.id world = false := by
  rw [Bool.eq_false_iff]
  intro hguesses
  obtain ⟨v, tenantId, actorId, code, hid, hpresented, -⟩ := Step.presented_of_guesses hguesses
  obtain rfl := world.db.id_injOn (t := .withdrawals) hpresented.stored hw hid
  exact h tenantId actorId code hpresented

/-- A code is issued for a withdrawal that is there after the step. -/
theorem PayoutStep.stored_of_issues (h : step.issues withdrawalId world = true) :
    ∃ w ∈ (step.next world).db.rows .withdrawals, w.id = withdrawalId := by
  unfold PayoutStep.issues at h
  split at h
  · rename_i own
    split at h
    · obtain ⟨w, hw, hid⟩ := List.any_eq_true.mp (Bool.and_eq_true_iff.mp h).2
      exact ⟨w, hw, by simpa using hid⟩
    · rename_i tenantId id actorId hoperation
      obtain ⟨hid, hok⟩ := Bool.and_eq_true_iff.mp h
      cases hresult : own.result world with
      | error e =>
        rw [hresult] at hok
        cases hok
      | ok result =>
        obtain ⟨v, v', hvid, hresent⟩ := Step.resent hoperation hresult
        obtain ⟨hash, email, expiresAt, i, j, -, -, -, hissued⟩ := hresent.issued
        have hid' : v'.id = v.id := by
          rw [hissued]
          rfl
        exact ⟨v', hresent.replaced.mem hresent.stored hid'.symm,
          (hid'.trans hvid).trans (by simpa using hid)⟩
    · cases h
  · cases h

theorem recordedSend_eq {db : PlatformDb} (hw : w ∈ db.rows .withdrawals) :
    recordedSend db w.id = w.otpLastSentAt := by
  unfold recordedSend
  cases hfind : (db.rows .withdrawals).find? fun v => v.id == w.id with
  | none =>
    have hnone := List.find?_eq_none.mp hfind w hw
    exact absurd (BEq.rfl (a := w.id)) hnone
  | some v =>
    have hid : v.id = w.id :=
      beq_iff_eq.mp (List.find?_some (p := fun v : Withdrawal => v.id == w.id) hfind)
    obtain rfl := db.id_injOn (t := .withdrawals) (List.mem_of_find?_eq_some hfind) hw hid
    rfl

theorem countGuesses_issued (h : step.issues withdrawalId world = true) :
    countGuesses step world tally withdrawalId =
      { tally withdrawalId with
        sends := recordedSend (step.next world).db withdrawalId :: (tally withdrawalId).sends
        tries := 0 } := if_pos h

theorem countGuesses_guessed (hissues : step.issues withdrawalId world = false)
    (h : step.guesses withdrawalId world = true) :
    countGuesses step world tally withdrawalId =
      { tally withdrawalId with
        guesses := (tally withdrawalId).guesses + 1
        tries := (tally withdrawalId).tries + 1 } := by
  rw [countGuesses, hissues, if_neg Bool.false_ne_true, if_pos h]

theorem countGuesses_kept (hissues : step.issues withdrawalId world = false)
    (h : ∀ own, step = .operation own → own.guesses withdrawalId world = false) :
    countGuesses step world tally withdrawalId = tally withdrawalId := by
  have hguesses : step.guesses withdrawalId world = false := by
    cases step with
    | operation own => exact h own rfl
    | disbursementResult => rfl
    | elsewhere => rfl
  rw [countGuesses, hissues, hguesses, if_neg Bool.false_ne_true, if_neg Bool.false_ne_true]

/-- What a step leaves of the limits for a withdrawal that was there before it. -/
theorem Spent.turn (h : Spent limits w (tally w.id)) (hkept : Table.withdrawals ∈ kept)
    (hcoded : Coded world.db) (hunder : step.Under limits) (hcan : step.CanCancel world)
    (hattempts : 0 < limits.attempts) (hw : w ∈ world.db.rows .withdrawals)
    (hw' : w' ∈ (step.next world).db.rows .withdrawals) (hid : w.id = w'.id)
    (hdraft : w'.status = .draft → w.status = .draft) :
    Spent limits w' (countGuesses step world tally w.id) := by
  cases step.turn hkept hcoded hw hw' hid with
  | kept hsame hissues hunpresented =>
    rw [countGuesses_kept hissues fun own hstep => Step.guesses_of_unpresented hw
      fun tenantId actorId code => hunpresented own tenantId actorId code hstep]
    exact h.same hsame hdraft
  | @reissued own tenantId actorId hstep hissues hresent =>
    rw [countGuesses_issued hissues, hid, recordedSend_eq hw', ← hid]
    exact h.resent (hunder own hstep) hattempts hresent
  | @presented own tenantId actorId code hstep hissues hpresented =>
    subst hstep
    have hunguessed : misses own.runtime w code (addressOf world.db tenantId actorId)
        (own.reading 0) = false → w.SameCode w' →
        Spent limits w' (countGuesses (.operation own : PayoutStep kept) world tally w.id) := by
      intro hmisses hsame
      rw [countGuesses_kept hissues fun other hother => by
        obtain rfl := PayoutStep.operation.inj hother
        rw [Step.guesses_of_presented hpresented, hmisses]]
      exact h.same hsame hdraft
    have hguessed : misses own.runtime w code (addressOf world.db tenantId actorId)
        (own.reading 0) = true → (missed w).SameCode w' →
        (w'.status = .draft → (w.twoFactorAttempts : ℤ) + 1 < limits.attempts) →
        Spent limits w' (countGuesses (.operation own : PayoutStep kept) world tally w.id) := by
      intro hmisses hsame hless
      rw [countGuesses_guessed hissues
        ((Step.guesses_of_presented hpresented).trans hmisses)]
      exact h.guessed hpresented.draft hsame hless
    cases Step.verdict hpresented (hcoded w hw) with
    | raised _ hdb hmissed =>
      refine hunguessed ?_ ((KeptCodes.of_rows (by rw [← hdb]; rfl)).same hw hw' hid)
      rw [Bool.eq_false_iff]
      intro hmisses
      obtain ⟨hspent, hnot⟩ := hmissed hmisses
      exact hnot (hcan own w tenantId actorId code rfl hpresented hmisses hspent)
    | accepted _ _ _ hmatches hsame => exact hunguessed hmatches (hsame.same hw hw' hid)
    | passed _ _ hcompares _ hdb =>
      exact hunguessed (by rw [misses, hcompares, Bool.false_and])
        ((KeptCodes.of_rows (by rw [← hdb]; rfl)).same hw hw' hid)
    | counted _ _ hmisses hopen hreplaced =>
      obtain rfl : w' = missed w := eq_of_rewritten hreplaced.rows_self rfl hw' hid
      refine hguessed hmisses (.refl _) fun _ => ?_
      obtain ⟨hlimits, -⟩ := hunder own rfl
      simp only [exhausted, Bool.or_eq_false_iff, decide_eq_false_iff_not, not_le] at hopen
      rw [← hlimits]
      exact_mod_cast hopen.1
    | cancelled _ _ hv hmoved =>
      obtain ⟨wallet, wallet', hmoved⟩ := hmoved
      have heq := eq_of_rewritten hmoved.effect.withdrawals hmoved.effect.same.id hw' hid
      rw [heq] at hunguessed hguessed ⊢
      rcases hv with ⟨rfl, hcompares⟩ | ⟨rfl, hmisses⟩
      · exact hunguessed (by rw [misses, hcompares, Bool.false_and]) (by constructor <;> rfl)
      · exact hguessed hmisses (by constructor <;> rfl) fun habsurd => by cases habsurd

/-- Every withdrawal has a code, and its tally is within the limits. -/
structure Tallied (limits : Limits) (state : PlatformWorld × (ℕ → Tally)) : Prop where
  coded : Coded state.1.db
  unopened : ∀ id, (∀ w ∈ state.1.db.rows .withdrawals, w.id ≠ id) → state.2 id = ⟨[], 0, 0⟩
  spent : ∀ w ∈ state.1.db.rows .withdrawals, Spent limits w (state.2 w.id)

theorem Tallied.next (hkept : Table.withdrawals ∈ kept) (hunder : step.Under limits)
    (hcan : step.CanCancel world) (hattempts : 0 < limits.attempts) (hsends : 0 < limits.sends)
    (h : Tallied limits (world, tally)) :
    Tallied limits (step.next world, countGuesses step world tally) := by
  constructor
  case coded => exact h.coded.next hkept
  case unopened =>
    intro id hnone
    have hbefore : ∀ w ∈ world.db.rows .withdrawals, w.id ≠ id := by
      intro w hw hid
      obtain ⟨w', hw', hsame, -⟩ := step.became hkept hw
      exact hnone w' hw' (hsame.id.trans hid)
    have hissues : step.issues id world = false := by
      rw [Bool.eq_false_iff]
      intro hissues
      obtain ⟨w, hw, hid⟩ := PayoutStep.stored_of_issues hissues
      exact hnone w hw hid
    refine (countGuesses_kept hissues fun own hstep => ?_).trans (h.unopened id hbefore)
    rw [Bool.eq_false_iff]
    intro hguesses
    obtain ⟨w, _, _, _, hid, hpresented, -⟩ := Step.presented_of_guesses hguesses
    exact hbefore w hpresented.stored hid
  case spent =>
    intro w' hw'
    by_cases hold : ∃ w ∈ world.db.rows .withdrawals, w.id = w'.id
    · obtain ⟨v, hv, hvid⟩ := hold
      obtain ⟨u, hu, hsame, hbecame⟩ := step.became hkept hv
      obtain rfl := (step.next world).db.id_injOn (t := .withdrawals) hu hw'
        (hsame.id.trans hvid)
      have hturn := (h.spent v hv).turn hkept h.coded hunder hcan hattempts hv hw' hvid
        hbecame.of_draft
      rw [hvid] at hturn
      exact hturn
    · have hnew : ∀ w ∈ world.db.rows .withdrawals, w.id ≠ w'.id :=
        fun w hw hid => hold ⟨w, hw, hid⟩
      obtain ⟨-, hissues, _, _, _, _, _, _, -, -, -, -, hfirst, -⟩ := step.added hkept hw' hnew
      have hempty : tally w'.id = ⟨[], 0, 0⟩ := h.unopened w'.id hnew
      have hcount := @countGuesses_issued _ world step tally _ hissues
      rw [hempty, recordedSend_eq hw'] at hcount
      have hspent : Spent limits w' (countGuesses step world tally w'.id) := by
        rw [hcount]
        exact .first hfirst hattempts hsends
      exact hspent

end Steps

/-! ## Runs -/

theorem tallied_of_run {limits : Limits} {steps : Steps} {start : PlatformWorld}
    (hstart : start.db.rows .withdrawals = []) (hattempts : 0 < limits.attempts)
    (hsends : 0 < limits.sends) (hunder : ∀ step ∈ steps, step.Under limits)
    (hcan : Runs.All PayoutStep.next PayoutStep.CanCancel steps start) :
    Tallied limits (runPayouts steps start, tallies steps start) := by
  have hnone : ∀ w ∈ start.db.rows .withdrawals, False := by
    intro w hw
    rw [hstart] at hw
    cases hw
  have hall : Runs.All PayoutStep.next
      (fun step world => step.CanCancel world ∧ step.Under limits) steps start :=
    hcan.and (.of_forall (fun step hstep _ => hunder step hstep) start)
  have htallied : Tallied limits
      (Runs.run (Runs.recording countGuesses PayoutStep.next) steps (start, noTally)) := by
    refine Runs.run_invariant (Tallied limits) (fun step state h hinv => ?_)
      (Runs.All.recording countGuesses hall) ⟨?_, ?_, ?_⟩
    · exact hinv.next (by decide) h.2 h.1 hattempts hsends
    · exact fun w hw => (hnone w hw).elim
    · exact fun _ _ => rfl
    · exact fun w hw => (hnone w hw).elim
  have hworld : (Runs.run (Runs.recording countGuesses PayoutStep.next) steps
      (start, noTally)).1 = runPayouts steps start := Runs.run_recording_fst countGuesses _ _
  rw [tallies, ← hworld]
  exact htallied

/-- The sample service, where a code is sent once and two attempts are allowed. -/
def limitedRuntime : Runtime :=
  { guessRuntime with
    settings := { guessRuntime.settings with withdrawalOtpMaxSends := 1 } }

def wrongStep : Step := ⟨.confirmTwoFactor 1 0 5 "000000", limitedRuntime, answering []⟩

def rightStep : Step :=
  ⟨.confirmTwoFactor 1 0 5 "123456", limitedRuntime, answering [lookupFound]⟩

/-- An amount is requested, and a wrong code is presented so often. -/
def guessingRun (amount : Decimal) (guesses : ℕ) : Steps :=
  .operation ⟨.requestWithdrawal 1 5 0 amount, limitedRuntime, answering []⟩ ::
    List.replicate guesses (.operation wrongStep)

theorem under_guessingRun (amount : Decimal) (guesses : ℕ) :
    ∀ step ∈ guessingRun amount guesses, step.Under ⟨2, 1, 60⟩ := by
  intro step hstep own heq
  subst heq
  cases List.mem_cons.mp hstep with
  | inl hrequest =>
    obtain rfl := PayoutStep.operation.inj hrequest
    exact ⟨rfl, fun _ _ _ => le_refl _⟩
  | inr hwrong =>
    obtain rfl := PayoutStep.operation.inj (List.eq_of_mem_replicate hwrong)
    exact ⟨rfl, fun _ _ _ => le_refl _⟩

theorem PayoutStep.canCancel_of_rows {kept : List Table} {own : Step} {world : PlatformWorld}
    (h : ∀ w ∈ world.db.rows .withdrawals, 0 < ofNumeric w.amount ∧
      ∃ wallet ∈ world.db.rows .tenantWallets, wallet.tenantId = w.tenantId ∧
        (WalletService.released (ofNumeric w.amount) wallet).isSome) :
    (PayoutStep.operation own : PayoutStep kept).CanCancel world := by
  intro other w tenantId actorId code heq hpresented _ _
  exact h w hpresented.stored

end InfinityRadius.Services.PayoutService
