import InfinityRadius.Services.ReportedFailure
import InfinityRadius.Services.WalletRules

/-!
# Results of the provider

Which results complete a payout, and what a result does to the withdrawal and to its
tenant's wallet.
-/

namespace InfinityRadius.Services.PayoutService

open Amounts Database Payload Program Sql Models Integrations.SelcomBusiness

/-! ## Results that match -/

/-- The amount is the principal, or the principal and a charge that is stored. -/
def Explained (w : Withdrawal) (amount : Decimal) : Prop :=
  amount = ofNumeric w.amount ∨
    ∃ charge, w.providerCharge = some charge ∧ 0 ≤ charge ∧
      amount = ofNumeric w.amount + ofNumeric charge

/-- What the result names is the withdrawal's own. -/
structure Matches (w : Withdrawal) (result : ProviderResult) : Prop where
  transId : ∀ transId, result.transId = some transId → transId = w.idempotencyKey
  currency : ∀ currency, result.currency = some currency → currency = w.currency
  amount : ∀ amount, result.amount = some amount → Explained w amount

variable {db db' : PlatformDb} {w w' : Withdrawal} {result : ProviderResult}

theorem matchProviderAmount_isSome_iff (hw : rowValid .withdrawals w = true) {amount : Decimal} :
    (matchProviderAmount amount (ofNumeric w.amount)
      (w.providerCharge.map ofNumeric)).isSome = true ↔ Explained w amount := by
  have hfits : ∀ c ∈ w.amount :: w.providerCharge.toList, |c| < 10 ^ 14 := by
    simp only [rowValid, amountsFit, Bool.and_eq_true, List.all_eq_true] at hw
    exact fun c hc => Numeric.fits_iff.mp (hw.1.1 c hc)
  unfold matchProviderAmount Explained
  by_cases hprincipal : amount = ofNumeric w.amount
  · simp [hprincipal]
  · cases hcharge : w.providerCharge with
    | none => simp [hprincipal]
    | some charge =>
      have hsum : |w.amount + charge| < 10 ^ 28 := by
        have hamount := hfits w.amount List.mem_cons_self
        have hadded := hfits charge (by simp [hcharge])
        calc |w.amount + charge| ≤ |w.amount| + |charge| := abs_add_le _ _
          _ < 10 ^ 14 + 10 ^ 14 := add_lt_add hamount hadded
          _ < 10 ^ 28 := by norm_num
      have hexact : context (ofNumeric w.amount + ofNumeric charge) =
          ofNumeric w.amount + ofNumeric charge := by
        rw [ofNumeric_add, context_ofNumeric hsum]
      simp only [Option.map_some, if_neg hprincipal, hexact, zero_le_ofNumeric]
      by_cases htotal : 0 ≤ charge ∧ amount = ofNumeric w.amount + ofNumeric charge
      · simp [htotal]
      · simp [htotal, hprincipal]

theorem resultMismatch_eq_none_iff (hw : rowValid .withdrawals w = true) :
    resultMismatch w result = none ↔ Matches w result := by
  unfold resultMismatch
  by_cases htransId : result.transId.isSome ∧ result.transId ≠ some w.idempotencyKey
  · rw [if_pos htransId]
    obtain ⟨transId, hresult⟩ := Option.isSome_iff_exists.mp htransId.1
    refine ⟨nofun, fun h => absurd ?_ htransId.2⟩
    rw [hresult, h.transId transId hresult]
  rw [if_neg htransId]
  by_cases hcurrency : result.currency.isSome ∧ result.currency ≠ some w.currency
  · rw [if_pos hcurrency]
    obtain ⟨currency, hresult⟩ := Option.isSome_iff_exists.mp hcurrency.1
    refine ⟨nofun, fun h => absurd ?_ hcurrency.2⟩
    rw [hresult, h.currency currency hresult]
  rw [if_neg hcurrency]
  have hnamed : ∀ transId, result.transId = some transId → transId = w.idempotencyKey := by
    grind
  have hdenominated : ∀ currency, result.currency = some currency → currency = w.currency := by
    grind
  cases hamount : result.amount with
  | none => exact iff_of_true rfl ⟨hnamed, hdenominated, by simp [hamount]⟩
  | some amount =>
    have hmatches : Matches w result ↔ Explained w amount :=
      ⟨fun h => h.amount amount hamount, fun h => ⟨hnamed, hdenominated, by simpa [hamount]⟩⟩
    rw [hmatches, ← matchProviderAmount_isSome_iff hw]
    cases hmatch : matchProviderAmount amount (ofNumeric w.amount)
      (w.providerCharge.map ofNumeric) <;> simp [hmatch]

/-- What completes the payout: a success that matches, for a withdrawal that is not
resolved. -/
structure Completes (w : Withdrawal) (result : ProviderResult) : Prop where
  status : w.status ∈ [.processing, .ambiguous]
  code : SuccessCode result.resultcode
  own : Matches w result

theorem pending_iff {status : WithdrawalStatus} :
    status.pending = true ↔ status ∈ [.processing, .ambiguous] := by
  cases status <;> decide

theorem decision_of_success (hpending : w.status.pending = true)
    (hcode : SuccessCode result.resultcode) : decision w result =
      match resultMismatch w result with
      | some mismatch => .mismatched mismatch
      | none => .complete := by
  rw [decision, if_neg (by simp [hpending]), interpretResultcode_outcome, hcode]
  rfl

theorem decision_eq_complete_iff (hw : rowValid .withdrawals w = true) :
    decision w result = .complete ↔ Completes w result := by
  constructor
  · intro h
    unfold decision at h
    split at h
    · cases h
    · rename_i hpending
      rw [interpretResultcode_outcome] at h
      rcases outcomeOfCode_cases (strip (result.resultcode.getD "")) with
        ⟨houtcome, hcode⟩ | ⟨houtcome, -⟩ | ⟨houtcome, -⟩ | ⟨houtcome, -⟩ <;> rw [houtcome] at h
      · refine ⟨pending_iff.mp (Bool.eq_true_of_not_eq_false hpending), hcode,
          (resultMismatch_eq_none_iff hw).mp ?_⟩
        cases hmismatch : resultMismatch w result with
        | none => rfl
        | some mismatch =>
          rw [hmismatch] at h
          cases h
      · cases h
      · cases h
      · cases h
  · rintro ⟨hstatus, hcode, hown⟩
    rw [decision_of_success (pending_iff.mpr hstatus) hcode,
      (resultMismatch_eq_none_iff hw).mpr hown]

/-! ## What a result does -/

/-- The principal moved from what is reserved to what is disbursed, in the wallet of the
tenant alone. -/
def PaidOut (w : Withdrawal) (db db' : PlatformDb) : Prop :=
  ∃ wallet ∈ db.rows .tenantWallets, ∃ wallet' : TenantWallet,
    wallet.tenantId = w.tenantId ∧ wallet'.id = wallet.id ∧ wallet'.tenantId = w.tenantId ∧
    db'.rows .tenantWallets = replaceRow schema .tenantWallets wallet' (db.rows .tenantWallets) ∧
    ∀ bucket, balance wallet' bucket = balance wallet bucket -
      (if bucket = .reserved then w.amount else 0) +
      if bucket = .totalDisbursed then w.amount else 0

/-- What a call that returned has done. -/
structure Applied (w : Withdrawal) (result : ProviderResult) (db : PlatformDb) (w' : Withdrawal)
    (db' : PlatformDb) : Prop where
  stored : w' ∈ db'.rows .withdrawals ∧ w'.id = w.id
  success : w'.status = .success → w.status ≠ .success → Completes w result
  completed : Completes w result → w'.status = .success ∧ PaidOut w db db'
  mismatched : w.status ∈ [.processing, .ambiguous] → SuccessCode result.resultcode →
    ¬Matches w result →
      w'.status = .ambiguous ∧ db'.rows .tenantWallets = db.rows .tenantWallets

theorem Moved.paidOut {entries : List LedgerEntry} (hw : w ∈ db.rows .withdrawals)
    (h : Moved WalletService.disbursed w db w' db' entries) : PaidOut w db db' := by
  obtain ⟨wallet, wallet', h⟩ := h
  have hamount : |w.amount| < 10 ^ 15 :=
    (Numeric.fits_iff.mp (fits_amount hw)).trans (by norm_num)
  refine ⟨wallet, h.stored, wallet', h.tenant, WalletService.movedTwice_id h.moved,
    (WalletService.movedTwice_tenantId h.moved).trans h.tenant, h.effect.wallets, ?_⟩
  exact WalletService.movedTwice_cents (db.valid _ _ h.stored) hamount h.moved

theorem Carried.mem {decision : Decision} (h : Carried decision w db w' db')
    (hw : w ∈ db.rows .withdrawals) : w' ∈ db'.rows .withdrawals := by
  obtain ⟨-, h⟩ := h
  cases decision with
  | ignored =>
    obtain ⟨rfl, rfl⟩ := h
    exact hw
  | keep => exact h.2.mem hw
  | mismatched _ => exact h.2.mem hw
  | ambiguous => exact h.2.mem hw
  | complete =>
    obtain ⟨-, entry, -, wallet, wallet', hmoved⟩ := h
    exact hmoved.effect.mem hw
  | fail =>
    obtain ⟨-, wallet, wallet', hmoved⟩ := h
    exact hmoved.effect.mem hw

/-- Only a completed payout becomes a success. -/
theorem Carried.completes (hw : rowValid .withdrawals w = true)
    (h : Carried (decision w result) w db w' db') (hto : w'.status = .success)
    (hfrom : w.status ≠ .success) : Completes w result := by
  rw [← decision_eq_complete_iff hw]
  obtain ⟨-, h⟩ := h
  have hkept : w'.status ≠ w.status := fun heq => hfrom (heq.symm.trans hto)
  cases hdecision : decision w result <;> rw [hdecision] at h
  case ignored => exact absurd (congrArg Withdrawal.status h.1) hkept
  case keep => exact absurd h.1 hkept
  all_goals
    rw [hto] at h
    cases h.1

theorem Carried.applied (hw : w ∈ db.rows .withdrawals)
    (h : Carried (decision w result) w db w' db') : Applied w result db w' db' := by
  have hvalid := rowValid_withdrawal hw
  refine ⟨⟨h.mem hw, h.1.id⟩, h.completes hvalid, fun hcompletes => ?_,
    fun hstatus hcode hother => ?_⟩
  · rw [(decision_eq_complete_iff hvalid).mpr hcompletes] at h
    obtain ⟨-, hstatus, entry, -, hmoved⟩ := h
    exact ⟨hstatus, hmoved.paidOut hw⟩
  · rw [decision_of_success (pending_iff.mpr hstatus) hcode] at h
    cases hmismatch : resultMismatch w result with
    | none => exact absurd ((resultMismatch_eq_none_iff hvalid).mp hmismatch) hother
    | some mismatch =>
      rw [hmismatch] at h
      exact ⟨h.2.1, h.2.2.wallets⟩

/-- A text of the result that a mismatch is reported with cannot be stored. -/
def Unstorable (result : ProviderResult) : Prop :=
  ∃ text, (result.transId = some text ∨ result.currency = some text) ∧ storable text = false

theorem storable_decimalText (amount : Decimal) : storable (decimalText amount) = true := by
  unfold decimalText
  dsimp only
  rw [storable_append, storable_append, storable_append, storable_append, storable_toString,
    storable_toString, storable_toString]
  split <;> decide +kernel

theorem storable_mismatch_message {mismatch : Mismatch}
    (h : resultMismatch w result = some mismatch) (hstorable : ¬Unstorable result) :
    storable mismatch.message = true := by
  have htext : ∀ prefixed text, storable prefixed = true →
      (result.transId = some text ∨ result.currency = some text) →
      storable (prefixed ++ text) = true := by
    intro prefixed text hprefixed htext
    rw [storable_append, hprefixed, Bool.true_and]
    exact Bool.eq_true_of_not_eq_false fun hfalse => hstorable ⟨text, htext, hfalse⟩
  unfold resultMismatch at h
  split at h
  · rename_i hother
    obtain ⟨transId, htransId⟩ := Option.isSome_iff_exists.mp hother.1
    obtain rfl := Option.some.inj h
    rw [htransId]
    exact htext _ _ (by decide +kernel) (Or.inl htransId)
  · split at h
    · rename_i hother
      obtain ⟨currency, hcurrency⟩ := Option.isSome_iff_exists.mp hother.1
      obtain rfl := Option.some.inj h
      rw [hcurrency]
      exact htext _ _ (by decide +kernel) (Or.inr hcurrency)
    · split at h
      · cases h
      · split at h
        · cases h
        · obtain rfl := Option.some.inj h
          rw [storable_append, storable_decimalText]
          decide +kernel

/-- Where a result does not match, nothing but the `UPDATE` that records it can be refused. -/
theorem always_mismatched {world : PlatformWorld} {actorId : Option ℕ}
    (hw : w ∈ world.db.rows .withdrawals) (hstatus : w.status ∈ [.processing, .ambiguous])
    (hcode : SuccessCode result.resultcode) (hother : ¬Matches w result) :
    Always (fun _ => false) (fun _ _ => True)
      (fun _ world' => Unstorable result ∧ world'.db = world.db)
      (applyProviderResult w result actorId) world := by
  have hvalid := rowValid_withdrawal hw
  have hpending := pending_iff.mpr hstatus
  have hsuccess : (interpretResultcode result.resultcode result.message).outcome = .success := by
    rw [interpretResultcode_outcome, hcode]
    rfl
  have hresultcode : (interpretResultcode result.resultcode result.message).resultcode = "000" := by
    rw [interpretResultcode_resultcode, hcode]
  rw [applyProviderResult, if_neg (by simp [hpending])]
  simp only [hsuccess, hresultcode]
  cases hmismatch : resultMismatch w result with
  | none => exact absurd ((resultMismatch_eq_none_iff hvalid).mp hmismatch) hother
  | some mismatch =>
    refine always_bind.mpr (always_updateWithdrawal rfl hw (by constructor <;> rfl)
      (fun recorded _ hwritten => ?_) fun hinvalid => ⟨?_, rfl⟩)
    · refine always_transition (fun _ h => by cases h) (hwritten.mem hw rfl)
        (mem_successors_of_pending hpending (by decide)) (.of_pending _ hpending)
        (fun _ _ => trivial) fun hreason => ?_
      rw [storableOpt_some, storable_mismatch_reason hmismatch] at hreason
      cases hreason
    · by_contra hstorable
      have hmessage := storable_mismatch_message hmismatch hstorable
      have hreference : storableOpt w.providerReference = true := by
        simp only [rowValid, textsStorable, List.all_cons, Bool.and_eq_true] at hvalid
        exact hvalid.2.2.2.1
      rw [rowValid_reported hvalid hreference (by decide)
        ((storableOpt_some _).trans hmessage)] at hinvalid
      cases hinvalid

/-- Results that are applied one after the other. -/
def applyProviderResults (w : Withdrawal) (results : List (ProviderResult × Option ℕ)) :
    Tx Withdrawal :=
  results.foldlM (fun w applied => applyProviderResult w applied.1 applied.2) w

/-- A resolved withdrawal is left alone, whatever else is reported. -/
theorem applyProviderResults_resolved (hresolved : w.status.pending = false)
    (results : List (ProviderResult × Option ℕ)) : applyProviderResults w results = pure w := by
  induction results with
  | nil => rfl
  | cons applied rest ih =>
    have hignored : applyProviderResult w applied.1 applied.2 = pure w := if_pos hresolved
    rw [applyProviderResults, List.foldlM_cons, hignored, Prog.pure_bind]
    exact ih

theorem applied_of_run {outside : Outside} {state final : State schema Request HttpResult}
    {actorId : Option ℕ} (hw : w ∈ state.db.rows .withdrawals)
    (hrun : run (exec outside) (applyProviderResult w result actorId) state = (.ok w', final)) :
    Applied w result state.db w' final.db := by
  have hreturns : Always (fun _ => false)
      (fun w' world' => Applied w result state.db w' world'.db) (fun _ _ => True)
      (applyProviderResult w result actorId) state.toWorld :=
    always_applyProviderResult (fun _ h => by cases h) hw
      (fun w' db' hcarried => hcarried.applied hw) fun _ _ _ => trivial
  have h := hreturns.run outside
  rw [hrun] at h
  exact h

/-- A result completes the payout exactly where it is a success that matches, and then the
principal alone is moved; one that does not match is left for review, unless it holds a
text that cannot be stored; and a resolved withdrawal stays as it is. -/
theorem finalisation_sound (outside : Outside) {state : State schema Request HttpResult}
    (hw : w ∈ state.db.rows .withdrawals) (result : ProviderResult) (actorId : Option ℕ) :
    (∀ w' final, run (exec outside) (applyProviderResult w result actorId) state =
      (.ok w', final) → Applied w result state.db w' final.db) ∧
    (∀ failure final, run (exec outside) (applyProviderResult w result actorId) state =
      (.error failure, final) → w.status ∈ [.processing, .ambiguous] →
        SuccessCode result.resultcode → ¬Matches w result →
          Unstorable result ∧ final.db = state.db) ∧
    (w.status = .success ∨ w.status = .failed →
      ∀ results, applyProviderResults w results = pure w) := by
  refine ⟨fun w' final hrun => applied_of_run hw hrun,
    fun failure final hrun hstatus hcode hother => ?_, fun hresolved results => ?_⟩
  · have hraises : Always (fun _ => false) (fun _ _ => True)
        (fun _ world' => Unstorable result ∧ world'.db = state.db)
        (applyProviderResult w result actorId) state.toWorld :=
      always_mismatched hw hstatus hcode hother
    have h := hraises.run outside
    rw [hrun] at h
    exact h
  · apply applyProviderResults_resolved
    cases hresolved with
    | inl hsuccess => rw [hsuccess]; rfl
    | inr hfailed => rw [hfailed]; rfl

/-! ## A payout -/

/-- A payout of 5000 TZS whose transfer is under way, with a charge of 150. -/
def payout : Withdrawal :=
  { id := 0, tenantId := 1, walletId := 0, destinationId := 0, amount := 500000, currency := "TZS",
    status := .processing, idempotencyKey := "4f1c", providerCharge := some 15000,
    approvalRequired := false, requestedBy := some 5, createdAt := 0 }

def payoutRows : (t : Table) → List (Row t)
  | .withdrawals => [payout]
  | .tenantWallets =>
    [{ id := 0, tenantId := 1, currency := "TZS", availableBalanceTzs := 500000,
       reservedBalanceTzs := 500000 }]
  | _ => []

def payoutDb : PlatformDb where
  rows := payoutRows
  valid t := by cases t <;> decide +kernel
  apart t := by cases t <;> decide +kernel

/-- A success that reports this reference of the transfer and this amount. -/
def successOf (transId : String) (amount : Decimal) : ProviderResult :=
  { resultcode := some "000", message := none, amount := some amount, currency := some "TZS",
    transId := some transId, reference := "4f1c" }

theorem payout_completes : Completes payout (successOf "4f1c" 5150) where
  status := by decide
  code := by decide +kernel
  own :=
    { transId := fun _ h => (Option.some.inj h).symm
      currency := fun _ h => (Option.some.inj h).symm
      amount := fun _ h => Option.some.inj h ▸ Or.inr ⟨15000, rfl, by decide, by decide +kernel⟩ }

/-- The principal and its charge are reported, and the principal is paid out. -/
theorem payout_finalised : ∃ w' final,
    run (exec (answering [])) (applyProviderResult payout (successOf "4f1c" 5150) none)
      ⟨⟨payoutDb, []⟩, 0⟩ = (.ok w', final) ∧
    w'.status = .success ∧ PaidOut payout payoutDb final.db := by
  have hpayout : payout ∈ payoutDb.rows .withdrawals := List.mem_cons_self
  have hsound := @finalisation_sound _ (answering []) ⟨⟨payoutDb, []⟩, 0⟩ hpayout
    (successOf "4f1c" 5150) none
  cases hrun : run (exec (answering [])) (applyProviderResult payout (successOf "4f1c" 5150) none)
    ⟨⟨payoutDb, []⟩, 0⟩ with
  | mk outcome final =>
    cases outcome with
    | ok w' =>
      exact ⟨w', final, rfl, (hsound.1 w' final hrun).completed payout_completes⟩
    | error e =>
      have hreturned : (run (exec (answering []))
          (applyProviderResult payout (successOf "4f1c" 5150) none)
          ⟨⟨payoutDb, []⟩, 0⟩).1.toBool = true := by
        decide +kernel
      rw [hrun] at hreturned
      cases hreturned

/-- A success for another transfer, whose reference holds a NUL, is not recorded at all. -/
theorem not_ambiguous_unstorable :
    ¬∀ (outside : Outside) (state : State schema Request HttpResult) (w : Withdrawal),
      w ∈ state.db.rows .withdrawals → w.status ∈ [.processing, .ambiguous] →
      ∀ (result : ProviderResult) (actorId : Option ℕ), SuccessCode result.resultcode →
        ¬Matches w result → ∃ w' final,
          run (exec outside) (applyProviderResult w result actorId) state = (.ok w', final) ∧
          w'.status = .ambiguous ∧
          final.db.rows .tenantWallets = state.db.rows .tenantWallets := by
  intro h
  obtain ⟨w', final, hrun, -⟩ := h (answering []) ⟨⟨payoutDb, []⟩, 0⟩ payout List.mem_cons_self
    (by decide) (successOf "\x00" 5000) none (by decide +kernel)
    fun hmatches => absurd (hmatches.transId _ rfl) (by decide)
  have hraised : (run (exec (answering []))
      (applyProviderResult payout (successOf "\x00" 5000) none)
      ⟨⟨payoutDb, []⟩, 0⟩).1.toBool = false := by
    decide +kernel
  rw [hrun] at hraised
  cases hraised

end InfinityRadius.Services.PayoutService
