import InfinityRadius.Core.HalfCents
import InfinityRadius.Core.Notes
import InfinityRadius.Services.Finishing
import InfinityRadius.Services.Statements

/-!
# Withdrawals requested side by side

Calls of `request_withdrawal` of one tenant, interleaved statement by statement.  A request reads
the totals of the day before it takes any lock, so the limits are kept where the totals it read
are still the totals when it is committed.
-/

namespace InfinityRadius.Services.PayoutService

open Amounts Database Interleaving Models Program Sql

/-! ## The requests of one tenant -/

structure WithdrawalCall where
  actorId : ℕ
  destinationId : ℕ
  amount : Decimal
  /-- `now()` of its transaction -/
  started : Timestamp

/-- What happens next: a request goes on, or something else commits a table besides the
withdrawals; or a withdrawal comes to another status. -/
inductive RequestEvent
  | request (event : Event Row Ask Answer HttpResult WithdrawalCall)
  | settle (withdrawalId : ℕ) (status : WithdrawalStatus)

/-- The open requests, with the withdrawals each of them counted. -/
abbrev Requests := Noted schema Ask Request Answer HttpResult Failure OtpResult
  (Option (List Withdrawal))

/-- `daily_totals` reads the withdrawals it counts. -/
def noteCounted : (s : Stmt Table Row Ask Request) → Reply Answer HttpResult s →
    Option (List Withdrawal) → Option (List Withdrawal)
  | .scan .withdrawals _, rows, _ => some rows
  | _, _, counted => counted

def besidesWithdrawals (t : Table) : Bool := decide (t ≠ .withdrawals)

/-- A withdrawal that is cancelled, rejected or failed stays so. -/
def settleRow (withdrawalId : ℕ) (status : WithdrawalStatus) (w : Withdrawal) : Withdrawal :=
  if w.id = withdrawalId ∧ dailyLimitExcluded w.status = false then { w with status } else w

/-- The withdrawals of the tenant that count for the day. -/
def countedOn (tenantId : ℕ) (day : ℤ) (rows : List Withdrawal) : List Withdrawal :=
  rows.filter fun w => w.tenantId == tenantId && w.createdAt / microsPerDay == day &&
    !dailyLimitExcluded w.status

def totalOf (rows : List Withdrawal) : Numeric := (rows.map Withdrawal.amount).sum

/-- The daily limits hold for every day. -/
structure WithinLimits (settings : Settings) (tenantId : ℕ) (rows : List Withdrawal) : Prop where
  amount : ∀ limit, settings.withdrawalDailyLimitTzs = some limit →
    ∀ day, ofNumeric (totalOf (countedOn tenantId day rows)) ≤ limit
  count : ∀ limit, settings.withdrawalDailyCountLimit = some limit →
    ∀ day, ((countedOn tenantId day rows).length : ℤ) ≤ limit

section Next

variable (runtime : Runtime) (tenantId : ℕ)

def WithdrawalCall.program (call : WithdrawalCall) : Tx OtpResult :=
  requestWithdrawal { runtime with transactionTime := call.started } tenantId call.actorId
    call.destinationId call.amount

def nextRequests (event : RequestEvent) (state : Requests) : Requests :=
  match event with
  | .request event => state.next (WithdrawalCall.program runtime tenantId) (fun _ => none)
      noteCounted besidesWithdrawals event
  | .settle withdrawalId status =>
    { state with
      committed := Function.update state.committed .withdrawals
        ((state.committed .withdrawals).map (settleRow withdrawalId status)) }

/-- The day of the new withdrawal has no more to count than the request counted. -/
def UpToDate (committed : Tables Row) (counted : List Withdrawal) (w : Withdrawal) : Prop :=
  let now := countedOn tenantId (w.createdAt / microsPerDay) (committed .withdrawals)
  totalOf now ≤ totalOf counted ∧ now.length ≤ counted.length

/-- Where the event commits a request, what it counted is up to date. -/
def Current : RequestEvent → Requests → Prop
  | .request (.finish index), state => ∀ party ∈ state.parties[index]?,
      ∀ counted ∈ party.2, ∀ w ∈ party.1.own.written .withdrawals,
        UpToDate tenantId state.committed counted w
  | _, _ => True

instance UpToDate.decidable (committed : Tables Row) (counted : List Withdrawal)
    (w : Withdrawal) : Decidable (UpToDate tenantId committed counted w) :=
  inferInstanceAs (Decidable (_ ∧ _))

instance Current.decidable : ∀ event state, Decidable (Current tenantId event state)
  | .request (.finish index), state => inferInstanceAs (Decidable (
      ∀ party ∈ state.parties[index]?, ∀ counted ∈ party.2,
        ∀ w ∈ party.1.own.written .withdrawals, UpToDate tenantId state.committed counted w))
  | .request (.call _), _ => isTrue trivial
  | .request (.advance _ _), _ => isTrue trivial
  | .request (.abort _), _ => isTrue trivial
  | .request (.elsewhere _ _), _ => isTrue trivial
  | .settle _ _, _ => isTrue trivial

/-- After the event the limits hold. -/
def Limited (event : RequestEvent) (state : Requests) : Prop :=
  WithinLimits runtime.settings tenantId
    ((nextRequests runtime tenantId event state).committed .withdrawals)

end Next

/-! ## What a request counts and writes -/

/-- The statement neither reads what counts for the limits nor writes a withdrawal. -/
def quiet : Stmt Table Row Ask Request → Prop
  | .scan t _ => t ≠ .withdrawals
  | .insert t _ => t ≠ .withdrawals
  | .update t _ _ => t ≠ .withdrawals
  | _ => True

section Statements

variable {own own' : Own Row} {counted : Option (List Withdrawal)} {w : Withdrawal}

theorem note_of_quiet {s : Stmt Table Row Ask Request} (h : quiet s)
    (reply : Reply Answer HttpResult s) : noteCounted s reply counted = counted := by
  cases s with
  | scan t p =>
    cases t with
    | withdrawals => exact absurd rfl h
    | _ => rfl
  | _ => rfl

theorem spares_of_quiet {s : Stmt Table Row Ask Request} (h : quiet s) :
    (sparing Table.withdrawals).Allows s := by
  cases s with
  | insert t build => exact fun _ => h
  | update t id write => exact h
  | _ => trivial

theorem notesEnd_of_quiet {α : Type} {x : Tx α} (hall : x.All quiet) :
    NotesEnd schema noteCounted (fun _ own' counted' =>
      own'.written .withdrawals = own.written .withdrawals ∧ counted' = counted) x own counted := by
  have hspares : x.All (sparing Table.withdrawals).Allows :=
    hall.mono fun _ h => spares_of_quiet h
  have hnotes : x.All fun s => ∀ (reply : Reply Answer HttpResult s) counted,
      noteCounted s reply counted = counted :=
    hall.mono fun _ h reply _ => note_of_quiet h reply
  exact (endsWith_of_spares hspares).notesEnd hnotes

theorem notesEnd_require {condition : Prop} [Decidable condition] {failure : Failure} :
    NotesEnd schema noteCounted (fun _ own' counted' => condition ∧ own' = own ∧ counted' = counted)
      (Prog.require condition failure : Tx Unit) own counted := by
  by_cases h : condition
  · rw [Prog.require_true h]
    exact ⟨h, rfl, rfl⟩
  · rw [Prog.require_false h]
    trivial

/-- The new withdrawal is the only one the transaction wrote. -/
theorem endsWith_createWithdrawal {build : ℕ → Withdrawal}
    (h : own.written .withdrawals = []) :
    EndsWith schema (fun w own' => own'.written .withdrawals = [w] ∧ ∃ id, w = build id)
      (create .withdrawals build) own := by
  intro committed held draw keys reply own' hreply
  simp only [Own.reply] at hreply
  split at hreply
  · rcases Own.tryWrite_eq_some hreply with ⟨rfl, -⟩ | ⟨rfl, rfl, -, -⟩
    · trivial
    · refine ⟨?_, draw.id, rfl⟩
      rw [Own.written_write, h, storeRow_nil]
  · cases hreply

theorem endsWith_updateWithdrawal {set : Withdrawal → Withdrawal}
    (h : own.written .withdrawals = [w]) :
    EndsWith schema (fun w' own' => own'.written .withdrawals = [w'] ∧ w.SameRequest w')
      (updateWithdrawal w set) own := by
  intro committed held draw keys reply own' hreply
  rcases Own.reply_update hreply with ⟨rfl, -⟩ | ⟨old, hold, hid, hkept, rfl, rfl⟩
  · trivial
  · rw [overlay_of_written h] at hold
    obtain rfl : old = w := (mem_storeRow.mp hold).resolve_right fun hother => hother.2 hid
    constructor
    · rw [Own.written_write, h]
      exact @storeRow_singleton _ _ schema .withdrawals _ _ hkept.symm
    · exact Withdrawal.sameRequest_flush old (set old) old

/-- The limits that are set let the amount through, after what was counted. -/
structure Allowed (settings : Settings) (amount : Decimal) (counted : Option (List Withdrawal)) :
    Prop where
  amount : ∀ limit, settings.withdrawalDailyLimitTzs = some limit → ∃ rows, counted = some rows ∧
    context (ofNumeric (totalOf rows) + amount) ≤ limit
  count : ∀ limit, settings.withdrawalDailyCountLimit = some limit → ∃ rows, counted = some rows ∧
    (rows.length : ℤ) + 1 ≤ limit

theorem notesEnd_enforceWithdrawalLimits {settings : Settings} {tenantId : ℕ} {amount : Decimal} :
    NotesEnd schema noteCounted (fun _ own' counted' =>
      own'.written .withdrawals = own.written .withdrawals ∧ Allowed settings amount counted')
      (enforceWithdrawalLimits settings tenantId amount) own counted := by
  rw [enforceWithdrawalLimits]
  apply NotesEnd.bind notesEnd_require
  rintro _ own₁ counted₁ ⟨-, rfl, rfl⟩
  apply NotesEnd.bind notesEnd_require
  rintro _ own₂ counted₂ ⟨-, rfl, rfl⟩
  split
  · rename_i hunset
    exact ⟨rfl, fun limit h => absurd (hunset.1.symm.trans h) (by simp),
      fun limit h => absurd (hunset.2.symm.trans h) (by simp)⟩
  · have hnow : (now : Tx Timestamp).All quiet := ⟨trivial, fun _ => trivial⟩
    apply NotesEnd.bind (notesEnd_of_quiet hnow)
    rintro time own₃ counted₃ ⟨hown, rfl⟩
    rw [← hown]
    intro committed held draw keys rows own₄ hreply
    obtain ⟨-, rfl⟩ := Prod.mk.inj (Option.some.inj hreply)
    apply NotesEnd.bind notesEnd_require
    rintro _ own₅ counted₅ ⟨hamount, rfl, rfl⟩
    apply notesEnd_require.mono
    rintro _ own₆ counted₆ ⟨hcount, rfl, rfl⟩
    refine ⟨rfl, fun limit h => ⟨rows, rfl, ?_⟩, fun limit h => ⟨rows, rfl, ?_⟩⟩
    · simpa [h, totalOf] using hamount
    · simpa [h] using hcount

theorem quiet_hashCode {runtime : Runtime} {withdrawalId : ℕ} {code : String} :
    (TwoFactorService.hashCode runtime withdrawalId code).All quiet :=
  TwoFactorService.all_hashCode _ _ _

theorem quiet_issue_ask (question : Ask) : (issue (.ask question)).All quiet :=
  ⟨trivial, fun _ => trivial⟩

theorem notesEnd_updateWithdrawal {set : Withdrawal → Withdrawal}
    (h : own.written .withdrawals = [w]) :
    NotesEnd schema noteCounted (fun w' own' counted' =>
      (own'.written .withdrawals = [w'] ∧ w.SameRequest w') ∧ counted' = counted)
      (updateWithdrawal w set) own counted :=
  (endsWith_updateWithdrawal h).notesEnd ⟨fun _ _ => rfl, fun _ => Prog.all_orRaise _ _⟩

/-- The code that is sent is written to the new withdrawal. -/
theorem notesEnd_issueAndSendOtp {runtime : Runtime} {email : String}
    (h : own.written .withdrawals = [w]) :
    NotesEnd schema noteCounted (fun _ own' counted' =>
      (∃ w', own'.written .withdrawals = [w'] ∧ w.SameRequest w') ∧ counted' = counted)
      (issueAndSendOtp runtime w email) own counted := by
  have hnow : now.All quiet := quiet_issue_ask .now
  have hchallenge : NotesEnd schema noteCounted (fun challenge own' counted' =>
      (own'.written .withdrawals = [challenge.1] ∧ w.SameRequest challenge.1) ∧ counted' = counted)
      (TwoFactorService.issueChallenge runtime w email) own counted := by
    apply NotesEnd.bind (notesEnd_of_quiet (quiet_issue_ask .randomCode))
    rintro code own₁ _ ⟨h₁, rfl⟩
    apply NotesEnd.bind (notesEnd_of_quiet quiet_hashCode)
    rintro hash own₂ _ ⟨h₂, rfl⟩
    apply NotesEnd.bind (notesEnd_of_quiet hnow)
    rintro time own₃ _ ⟨h₃, rfl⟩
    apply NotesEnd.bind (notesEnd_updateWithdrawal (h₃.trans (h₂.trans (h₁.trans h))))
    exact fun _ _ _ hchallenged => hchallenged
  apply NotesEnd.bind hchallenge
  rintro challenge own₁ _ ⟨⟨h₁, hsame⟩, rfl⟩
  apply NotesEnd.bind (notesEnd_of_quiet hnow)
  rintro time own₂ _ ⟨h₂, rfl⟩
  apply NotesEnd.bind (notesEnd_updateWithdrawal (h₂.trans h₁))
  rintro sentTo own₃ _ ⟨⟨h₃, hsame'⟩, rfl⟩
  apply NotesEnd.bind (notesEnd_of_quiet (quiet_issue_ask (.sendEmail email)))
  rintro sent own₄ _ ⟨h₄, rfl⟩
  exact ⟨⟨sentTo, h₄.trans h₃, hsame.trans hsame'⟩, rfl⟩

theorem quiet_selectOne {t : Table} (p : Row t → Bool) : (selectOne t p).All quiet :=
  ⟨trivial, fun _ => all_scalarOneOrNone _⟩

theorem quiet_resolveVerifiedEmail {tenantId actorId : ℕ} :
    (resolveVerifiedEmail tenantId actorId).All quiet := by
  refine .bind (quiet_selectOne _) fun profile =>
    .bind (quiet_selectOne _) fun verification => ?_
  split
  · exact .ite (fun _ => trivial) fun _ => trivial
  · trivial

theorem quiet_reserveForWithdrawal {tenantId : ℕ} {amount : Decimal} :
    (WalletService.reserveForWithdrawal tenantId amount).All quiet := by
  have hne : Table.tenantWallets ≠ .withdrawals := by decide
  have hlocked : (WalletService.lockedWallet tenantId).All quiet :=
    WalletService.all_lockedWallet (fun _ => trivial) (fun _ => trivial) (fun _ => hne) _
  have hmoved : ∀ wallet bucket delta, (WalletService.moveBucket wallet bucket delta).All quiet :=
    WalletService.all_moveBucket fun _ _ => hne
  exact .bind (Prog.all_require _ _) fun _ => .bind hlocked fun _ =>
    .bind (hmoved _ _ _) fun _ => .bind (hmoved _ _ _) fun _ => trivial

/-- What a request that returns has written, after what it counted. -/
def WroteOne (settings : Settings) (tenantId : ℕ) (own : Own Row)
    (counted : Option (List Withdrawal)) : Prop :=
  ∃ w amount, own.written .withdrawals = [w] ∧ w.tenantId = tenantId ∧ 0 < amount ∧
    w.amount = toNumeric amount ∧ Allowed settings amount counted

theorem notesEnd_program {runtime : Runtime} {tenantId : ℕ} (call : WithdrawalCall) :
    NotesEnd schema noteCounted (fun _ => WroteOne runtime.settings tenantId)
      (call.program runtime tenantId) {} none := by
  rw [WithdrawalCall.program, requestWithdrawal]
  apply NotesEnd.bind notesEnd_require
  rintro _ own₁ _ ⟨hpositive, rfl, rfl⟩
  apply NotesEnd.bind (notesEnd_of_quiet (quiet_selectOne _))
  rintro destination own₂ _ ⟨h₂, rfl⟩
  apply NotesEnd.bind (notesEnd_of_quiet (Prog.all_orRaise _ _))
  rintro destination own₃ _ ⟨h₃, rfl⟩
  have hmode : (SettlementConfigService.getMode tenantId).All quiet := ⟨trivial, fun _ => trivial⟩
  apply NotesEnd.bind (notesEnd_of_quiet hmode)
  rintro mode own₄ _ ⟨h₄, rfl⟩
  apply NotesEnd.bind notesEnd_require
  rintro _ own₅ _ ⟨-, rfl, rfl⟩
  apply NotesEnd.bind notesEnd_require
  rintro _ own₆ _ ⟨-, rfl, rfl⟩
  apply NotesEnd.bind (notesEnd_of_quiet (quiet_selectOne _))
  rintro flags own₇ _ ⟨h₇, rfl⟩
  apply NotesEnd.bind notesEnd_require
  rintro _ own₈ _ ⟨-, rfl, rfl⟩
  apply NotesEnd.bind (notesEnd_of_quiet quiet_resolveVerifiedEmail)
  rintro email own₉ _ ⟨h₉, rfl⟩
  apply NotesEnd.bind notesEnd_enforceWithdrawalLimits
  rintro _ own₁₀ counted ⟨h₁₀, hallowed⟩
  refine NotesEnd.bind
    (notesEnd_of_quiet (Prog.All.tryCatch quiet_reserveForWithdrawal ?_)) ?_
  · intro failure
    split
    · trivial
    · trivial
  rintro wallet own₁₁ _ ⟨h₁₁, rfl⟩
  apply NotesEnd.bind (notesEnd_of_quiet (quiet_issue_ask .uuidHex))
  rintro idempotencyKey own₁₂ _ ⟨h₁₂, rfl⟩
  have hunwritten : own₁₂.written .withdrawals = [] :=
    h₁₂.trans (h₁₁.trans (h₁₀.trans (h₉.trans (h₇.trans (h₄.trans (h₃.trans h₂))))))
  apply NotesEnd.bind ((endsWith_createWithdrawal hunwritten).notesEnd
    ⟨fun _ _ => rfl, fun _ => Prog.all_orRaise _ _⟩)
  rintro w own₁₃ _ ⟨⟨h₁₃, id, hw⟩, rfl⟩
  have hne : Table.withdrawalEvents ≠ .withdrawals := by decide
  have hevent : ∀ build, (create .withdrawalEvents build).All quiet :=
    fun _ => ⟨hne, fun _ => Prog.all_orRaise _ _⟩
  apply NotesEnd.bind (notesEnd_of_quiet (hevent _))
  rintro _ own₁₄ _ ⟨h₁₄, rfl⟩
  apply NotesEnd.bind (notesEnd_issueAndSendOtp (h₁₄.trans h₁₃))
  rintro ⟨w', sent, expiresIn⟩ own₁₅ _ ⟨⟨w'', h₁₅, hsame⟩, rfl⟩
  refine ⟨w'', call.amount, h₁₅, ?_, hpositive, ?_, hallowed⟩
  · rw [hsame.tenantId, hw]
  · rw [hsame.amount, hw]

end Statements

/-! ## What counts for a day -/

theorem ofNumeric_mono {a b : Numeric} (h : a ≤ b) : ofNumeric a ≤ ofNumeric b :=
  div_le_div_of_nonneg_right (Int.cast_le.mpr h) (by norm_num)

/-- An amount that was let through by its rounded sum is let through as it is stored. -/
theorem ofNumeric_add_toNumeric_le {total : Numeric} {amount limit : Decimal} (htotal : 0 ≤ total)
    (hamount : 0 < amount) (hcents : TwoDecimals limit) (hfits : limit < 10 ^ 23)
    (h : context (ofNumeric total + amount) ≤ limit) :
    ofNumeric (total + toNumeric amount) ≤ limit := by
  have hsum : 0 ≤ ofNumeric total + amount := add_nonneg (zero_le_ofNumeric.mpr htotal) hamount.le
  have hlimit : 0 ≤ limit := (context_nonneg hsum).trans h
  rw [← hcents] at h hfits hlimit ⊢
  generalize toNumeric limit = cents at h hfits hlimit ⊢
  have hcents : 0 ≤ cents := zero_le_ofNumeric.mp hlimit
  have hlarge : cents < 10 ^ 25 := by
    rw [ofNumeric, div_lt_iff₀ (by norm_num)] at hfits
    have hcast : (cents : ℚ) < ((10 ^ 25 : ℤ) : ℚ) := by
      push_cast
      linarith
    exact_mod_cast hcast
  by_contra hover
  have hmore : cents + 1 ≤ total + toNumeric amount := by
    by_contra hless
    apply hover
    have hle : total + toNumeric amount ≤ cents :=
      Int.not_lt.mp fun hlt => hless (Int.add_one_le_iff.mpr hlt)
    exact ofNumeric_mono hle
  have hhalf := half_le_of_toNumeric hamount.le
  have hreached : ((2 * cents + 1 : ℤ) : ℚ) / 200 ≤ ofNumeric total + amount := by
    have hcast : ((cents + 1 : ℤ) : ℚ) ≤ ((total + toNumeric amount : ℤ) : ℚ) := by
      exact_mod_cast hmore
    rw [ofNumeric]
    push_cast at hcast ⊢
    linarith
  have hcontext := le_context (by linarith) (by linarith) hreached
  have hread : ofNumeric cents = (cents : ℚ) / 100 := rfl
  rw [hread] at h
  push_cast at hcontext
  linarith

section Days

variable {tenantId : ℕ} {day : ℤ} {rows : List Withdrawal} {w : Withdrawal}

def countsOn (tenantId : ℕ) (day : ℤ) (w : Withdrawal) : Bool :=
  w.tenantId == tenantId && w.createdAt / microsPerDay == day && !dailyLimitExcluded w.status

/-- What a withdrawal adds to a total of the day. -/
def share (tenantId : ℕ) (day : ℤ) (measure : Withdrawal → ℤ) (w : Withdrawal) : ℤ :=
  if countsOn tenantId day w then measure w else 0

theorem sum_countedOn (measure : Withdrawal → ℤ) :
    ((countedOn tenantId day rows).map measure).sum =
      (rows.map (share tenantId day measure)).sum := by
  induction rows with
  | nil => rfl
  | cons w rows ih =>
    rw [List.map_cons, List.sum_cons, ← ih, share, countsOn, countedOn, List.filter_cons]
    split
    · rw [List.map_cons, List.sum_cons]
      rfl
    · rw [zero_add]
      rfl

theorem length_countedOn : ((countedOn tenantId day rows).length : ℤ) =
    (rows.map (share tenantId day fun _ => 1)).sum := by
  rw [← sum_countedOn]
  simp

/-- The keys are apart, and the tenant's amounts are none below zero. -/
structure Orderly (tenantId : ℕ) (rows : List Withdrawal) : Prop where
  apart : rows.Pairwise fun left right => left.id ≠ right.id
  amounts : ∀ w ∈ rows, w.tenantId = tenantId → 0 ≤ w.amount

/-- A new row adds its share at most. -/
theorem sum_storeRow_le {measure : Withdrawal → ℤ}
    (hapart : rows.Pairwise fun left right => left.id ≠ right.id)
    (hrows : ∀ w ∈ rows, 0 ≤ measure w) :
    ((storeRow schema .withdrawals w rows).map measure).sum ≤ (rows.map measure).sum + measure w := by
  unfold storeRow
  split
  · rename_i hstored
    obtain ⟨old, hold, hid⟩ := hstored
    rw [@sum_replaceRow _ _ schema .withdrawals w old rows hapart hold hid measure]
    linarith [hrows old hold]
  · rw [List.map_append, List.sum_append]
    simp

theorem share_nonneg {measure : Withdrawal → ℤ} (h : w.tenantId = tenantId → 0 ≤ measure w) :
    0 ≤ share tenantId day measure w := by
  unfold share
  split
  · rename_i hcounts
    simp only [countsOn, Bool.and_eq_true, beq_iff_eq] at hcounts
    exact h hcounts.1.1
  · exact le_rfl

/-- A withdrawal that comes to another status does not count for more. -/
theorem share_settleRow_le {measure : Withdrawal → ℤ} {withdrawalId : ℕ}
    {status : WithdrawalStatus} (h : w.tenantId = tenantId → 0 ≤ measure w)
    (hmeasure : measure (settleRow withdrawalId status w) = measure w) :
    share tenantId day measure (settleRow withdrawalId status w) ≤ share tenantId day measure w := by
  have hcounts : countsOn tenantId day (settleRow withdrawalId status w) = true →
      countsOn tenantId day w = true := by
    unfold settleRow
    split
    · rename_i hsettled
      simp only [countsOn, Bool.and_eq_true]
      rintro ⟨hday, -⟩
      exact ⟨hday, by rw [hsettled.2]; rfl⟩
    · exact id
  by_cases hcounted : countsOn tenantId day (settleRow withdrawalId status w) = true
  · rw [share, share, if_pos hcounted, if_pos (hcounts hcounted), hmeasure]
  · rw [share, if_neg hcounted]
    exact share_nonneg h

theorem settleRow_kept (withdrawalId : ℕ) (status : WithdrawalStatus) (w : Withdrawal) :
    (settleRow withdrawalId status w).id = w.id ∧
      (settleRow withdrawalId status w).tenantId = w.tenantId ∧
      (settleRow withdrawalId status w).amount = w.amount := by
  unfold settleRow
  split
  · exact ⟨rfl, rfl, rfl⟩
  · exact ⟨rfl, rfl, rfl⟩

variable {settings : Settings}

theorem Orderly.settle (h : Orderly tenantId rows) (withdrawalId : ℕ) (status : WithdrawalStatus) :
    Orderly tenantId (rows.map (settleRow withdrawalId status)) where
  apart := by
    apply List.pairwise_map.mpr
    apply h.apart.imp
    intro left right hne
    rw [(settleRow_kept _ _ left).1, (settleRow_kept _ _ right).1]
    exact hne
  amounts := by
    intro w hw htenant
    obtain ⟨old, hold, rfl⟩ := List.mem_map.mp hw
    obtain ⟨-, hsame, hamount⟩ := settleRow_kept withdrawalId status old
    rw [hamount]
    exact h.amounts old hold (hsame.symm.trans htenant)

/-- What is cancelled, rejected or failed makes room. -/
theorem WithinLimits.settle (h : WithinLimits settings tenantId rows)
    (hrows : Orderly tenantId rows) (withdrawalId : ℕ) (status : WithdrawalStatus) :
    WithinLimits settings tenantId (rows.map (settleRow withdrawalId status)) where
  amount limit hlimit day := by
    apply le_trans _ (h.amount limit hlimit day)
    apply ofNumeric_mono
    rw [totalOf, sum_countedOn, totalOf, sum_countedOn, List.map_map]
    apply List.sum_le_sum
    intro w hw
    exact share_settleRow_le (hrows.amounts w hw) (settleRow_kept withdrawalId status w).2.2
  count limit hlimit day := by
    apply le_trans _ (h.count limit hlimit day)
    rw [length_countedOn, length_countedOn, List.map_map]
    apply List.sum_le_sum
    intro w _
    exact share_settleRow_le (fun _ => zero_le_one) rfl

theorem Orderly.store (h : Orderly tenantId rows) (hw : 0 ≤ w.amount) :
    Orderly tenantId (storeRow schema .withdrawals w rows) where
  apart := by
    unfold storeRow
    split
    · apply List.pairwise_map.mpr
      have hkeys : ∀ old : Withdrawal, (if old.id = w.id then w else old).id = old.id := by
        intro old
        split
        · rename_i hid
          exact hid.symm
        · rfl
      apply h.apart.imp
      intro left right hne
      exact fun hsame => hne ((hkeys left).symm.trans (hsame.trans (hkeys right)))
    · rename_i hfresh
      apply List.pairwise_append.mpr
      refine ⟨h.apart, List.pairwise_singleton _ _, fun old hold new hnew hid => hfresh ?_⟩
      rw [List.mem_singleton.mp hnew] at hid
      exact ⟨old, hold, hid⟩
  amounts := by
    intro other hother htenant
    rcases mem_storeRow.mp hother with rfl | ⟨hstored, -⟩
    · exact hw
    · exact h.amounts other hstored htenant

/-- What a request counted and is still right lets its withdrawal in. -/
theorem WithinLimits.store {committed : Tables Row} {counted : Option (List Withdrawal)}
    {amount : Decimal} (h : WithinLimits settings tenantId (committed .withdrawals))
    (hrows : Orderly tenantId (committed .withdrawals)) (hpositive : 0 < amount)
    (hstored : w.amount = toNumeric amount) (hallowed : Allowed settings amount counted)
    (hcurrent : ∀ rows ∈ counted, UpToDate tenantId committed rows w)
    (hcents : ∀ limit, settings.withdrawalDailyLimitTzs = some limit →
      TwoDecimals limit ∧ limit < 10 ^ 23) :
    WithinLimits settings tenantId (storeRow schema .withdrawals w (committed .withdrawals)) where
  amount limit hlimit day := by
    have hnonneg : ∀ day, ∀ old ∈ committed .withdrawals,
        0 ≤ share tenantId day Withdrawal.amount old :=
      fun day old hold => share_nonneg (hrows.amounts old hold)
    obtain ⟨rows, hcounted, hfits⟩ := hallowed.amount limit hlimit
    have hadded := @sum_storeRow_le (committed .withdrawals) w
      (share tenantId day Withdrawal.amount) hrows.apart (hnonneg day)
    rw [totalOf, sum_countedOn]
    by_cases hday : countsOn tenantId day w = true
    · have hnow := (hcurrent rows hcounted).1
      simp only [countsOn, Bool.and_eq_true, beq_iff_eq] at hday
      rw [hday.1.2, totalOf, sum_countedOn] at hnow
      have htotal : 0 ≤ totalOf rows :=
        (List.sum_nonneg (List.forall_mem_map.mpr (hnonneg day))).trans hnow
      have hshare : share tenantId day Withdrawal.amount w ≤ w.amount := by
        unfold share
        split
        · exact le_rfl
        · rw [hstored]
          exact roundHalfUp_nonneg (by linarith)
      apply le_trans _ (ofNumeric_add_toNumeric_le htotal hpositive (hcents limit hlimit).1
        (hcents limit hlimit).2 hfits)
      apply ofNumeric_mono
      linarith
    · have hshare : share tenantId day Withdrawal.amount w = 0 := if_neg hday
      have hbefore := h.amount limit hlimit day
      rw [totalOf, sum_countedOn] at hbefore
      apply le_trans (ofNumeric_mono _) hbefore
      linarith
  count limit hlimit day := by
    obtain ⟨rows, hcounted, hfits⟩ := hallowed.count limit hlimit
    have hadded := @sum_storeRow_le (committed .withdrawals) w (share tenantId day fun _ => 1)
      hrows.apart fun old _ => share_nonneg fun _ => zero_le_one
    rw [length_countedOn]
    by_cases hday : countsOn tenantId day w = true
    · have hnow := (hcurrent rows hcounted).2
      have hshare : share tenantId day (fun _ => 1) w = 1 := if_pos hday
      simp only [countsOn, Bool.and_eq_true, beq_iff_eq] at hday
      rw [hday.1.2] at hnow
      have hcast : ((countedOn tenantId day (committed .withdrawals)).length : ℤ) ≤ rows.length := by
        exact_mod_cast hnow
      rw [length_countedOn] at hcast
      linarith
    · have hshare : share tenantId day (fun _ => 1) w = 0 := if_neg hday
      have hbefore := h.count limit hlimit day
      rw [length_countedOn] at hbefore
      linarith

end Days

/-! ## Every interleaving -/

section Runs

variable {runtime : Runtime} {tenantId : ℕ} {state : Requests}

/-- The withdrawals are in order and within the limits, and every open request writes one that it
let through. -/
structure Keeping (runtime : Runtime) (tenantId : ℕ) (state : Requests) : Prop where
  orderly : Orderly tenantId (state.committed .withdrawals)
  within : WithinLimits runtime.settings tenantId (state.committed .withdrawals)
  ends : state.AllEnd noteCounted fun _ => WroteOne runtime.settings tenantId

theorem Keeping.next (h : Keeping runtime tenantId state)
    (hcents : ∀ limit, runtime.settings.withdrawalDailyLimitTzs = some limit →
      TwoDecimals limit ∧ limit < 10 ^ 23)
    {event : RequestEvent} (hcurrent : Current tenantId event state) :
    Keeping runtime tenantId (nextRequests runtime tenantId event state) := by
  cases event with
  | settle withdrawalId status =>
    have hcommitted : (nextRequests runtime tenantId (.settle withdrawalId status) state).committed
        .withdrawals = (state.committed .withdrawals).map (settleRow withdrawalId status) := by
      simp only [nextRequests, Function.update_self]
    constructor
    · rw [hcommitted]
      exact h.orderly.settle withdrawalId status
    · rw [hcommitted]
      exact h.within.settle h.orderly withdrawalId status
    · exact h.ends
  | request event =>
    have hends : (nextRequests runtime tenantId (.request event) state).AllEnd noteCounted
        fun _ => WroteOne runtime.settings tenantId :=
      Noted.AllEnd.next (fun call => notesEnd_program call) h.ends event
    have hkept : ∀ rows, (nextRequests runtime tenantId (.request event) state).committed
        .withdrawals = rows → Orderly tenantId rows → WithinLimits runtime.settings tenantId rows →
          Keeping runtime tenantId (nextRequests runtime tenantId (.request event) state) := by
      intro rows hrows horderly hwithin
      exact ⟨hrows ▸ horderly, hrows ▸ hwithin, hends⟩
    rcases @Noted.committed_next _ _ _ _ _ _ _ _ _ schema _ noteCounted _
      (WithdrawalCall.program runtime tenantId) (fun _ => none) besidesWithdrawals state event with
      hsame | ⟨index, session, counted, result, rfl, hparty, hprogram, hcommitted⟩ |
      ⟨t, rows, -, hshared, hcommitted⟩
    · exact hkept _ (congrFun hsame .withdrawals) h.orderly h.within
    · have hwrote := h.ends _ (List.mem_of_getElem? hparty)
      rw [hprogram] at hwrote
      obtain ⟨w, amount, hwritten, -, hpositive, hstored, hallowed⟩ := hwrote
      have hoverlay := (congrFun hcommitted .withdrawals).trans (overlay_of_written hwritten)
      have hnew : 0 ≤ w.amount := by
        rw [hstored]
        exact roundHalfUp_nonneg (by linarith)
      apply hkept _ hoverlay (h.orderly.store hnew)
      apply h.within.store h.orderly hpositive hstored hallowed _ hcents
      intro rows hrows
      apply hcurrent _ hparty rows hrows
      rw [hwritten]
      exact List.mem_singleton_self w
    · have hne : Table.withdrawals ≠ t := (of_decide_eq_true hshared).symm
      exact hkept _ ((congrFun hcommitted .withdrawals).trans (Function.update_of_ne hne _ _))
        h.orderly h.within

/-- Where every request is committed while what it counted is up to date, the daily limits hold in
every interleaving. -/
theorem limits_hold {db : PlatformDb} {events : List RequestEvent}
    (hcents : ∀ limit, runtime.settings.withdrawalDailyLimitTzs = some limit →
      TwoDecimals limit ∧ limit < 10 ^ 23)
    (hamounts : ∀ w ∈ db.rows .withdrawals, w.tenantId = tenantId → 0 ≤ w.amount)
    (hwithin : WithinLimits runtime.settings tenantId (db.rows .withdrawals))
    (hcurrent : Runs.All (nextRequests runtime tenantId) (Current tenantId) events ⟨db.rows, []⟩) :
    Runs.All (nextRequests runtime tenantId) (Limited runtime tenantId) events ⟨db.rows, []⟩ := by
  have hstart : Keeping runtime tenantId ⟨db.rows, []⟩ := by
    refine ⟨⟨?_, hamounts⟩, hwithin, ?_⟩
    · exact (db.apart .withdrawals).imp fun h => h.1
    · intro party hparty
      cases hparty
  exact Runs.All.of_invariant
    (fun event state hcurrent (h : Keeping runtime tenantId state) =>
      ⟨(h.next hcents hcurrent).within, h.next hcents hcurrent⟩) hcurrent hstart

end Runs

/-! ## Two requests at a time -/

/-- At most one withdrawal and 5000 TZS a day. -/
def dailyRuntime (count : ℤ) : Runtime :=
  { sampleRuntime with
    settings :=
      { sampleSettings with
        withdrawalDailyLimitTzs := some 5000
        withdrawalDailyCountLimit := some count } }

def smallCall : WithdrawalCall := ⟨5, 0, 2000, 0⟩

/-- The keys and random values of a request. -/
def drawing (id : ℕ) : Draw Ask Answer HttpResult where
  answer
    | .uuidHex => toString id
    | other => sampleAnswer 0 other
  response := .transportError "unused"
  id

/-- The steps of the request at the index, whose keys are these. -/
def works (index id : ℕ) : List RequestEvent :=
  List.replicate 60 (.request (.advance index (drawing id)))

/-- The second request counts the withdrawals before the first one is committed. -/
def overlapping : List RequestEvent :=
  [.request (.call smallCall), .request (.call smallCall)] ++ works 0 0 ++ works 1 1 ++
    [.request (.finish 0)] ++ works 0 1

theorem not_limits_hold_overlapping :
    ¬Runs.All (nextRequests (dailyRuntime 1) 1) (Limited (dailyRuntime 1) 1)
      (overlapping ++ [.request (.finish 0)]) ⟨openingDb.rows, []⟩ := by
  intro h
  have hcount := h.append.2.1.count 1 rfl 0
  revert hcount
  decide +kernel

/-- One request after the other. -/
theorem limits_hold_serially :
    Runs.All (nextRequests (dailyRuntime 2) 1) (Limited (dailyRuntime 2) 1)
      ([.request (.call smallCall)] ++ works 0 0 ++
        [.request (.finish 0), .request (.call smallCall)] ++ works 0 1 ++ [.request (.finish 0)])
      ⟨openingDb.rows, []⟩ :=
  limits_hold
    (fun limit hlimit => by
      obtain rfl := Option.some.inj hlimit
      exact ⟨by decide +kernel, by norm_num⟩)
    (fun w hw => by cases hw)
    ⟨fun limit hlimit day => by
        obtain rfl := Option.some.inj hlimit
        exact (by decide +kernel : ofNumeric 0 ≤ 5000),
      fun limit hlimit day => by
        obtain rfl := Option.some.inj hlimit
        exact (by decide : (0 : ℤ) ≤ 2)⟩
    (by decide +kernel)

end InfinityRadius.Services.PayoutService
