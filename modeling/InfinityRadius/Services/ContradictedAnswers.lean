import InfinityRadius.Services.ProviderResults

/-!
# Answers that contradict themselves

An answer of Selcom carries a result code and the status of the transfer.  The code alone
decides: a status other than `COMPLETED` is read only where no code is given, and only by
the query.
-/

namespace InfinityRadius.Services.PayoutService

open Amounts Database Payload Program Sql Models Integrations.SelcomBusiness

/-- An answer to the transfer or to a query of it. -/
inductive Answered
  | process (response : TransactionProcessResponse)
  | query (response : TransactionQueryResponse)

namespace Answered

/-- `data.status`. -/
def status : Answered → Option String
  | process response => response.data.bind TransactionProcessData.status
  | query response => response.data.bind TransactionQueryData.status

def resultcode : Answered → Option String
  | process response => response.resultcode
  | query response => response.resultcode

/-- What is handed to `_apply_provider_result`. -/
def result (w : Withdrawal) : Answered → ProviderResult
  | process response => processResult w response
  | query response => queryResult w response

/-- What `_submit_to_selcom` and `_reconcile_locked` do with the answer. -/
def handle (settings : Settings) (w : Withdrawal) (actorId : Option ℕ) :
    Answered → Tx Withdrawal
  | process response => applyProcessAnswer settings w (.ok response) actorId
  | query response => applyProviderResult w (queryResult w response) actorId

/-- The direct answer is recorded before it is looked at. -/
def Recorded : Answered → Prop
  | process response => storableOpt response.resultcode = true ∧ storableOpt response.message = true
  | query _ => True

end Answered

/-- `complete_disbursement` for the withdrawal. -/
def payOut (w : Withdrawal) (description : Option String) : Tx LedgerEntry :=
  WalletService.completeDisbursement w.tenantId (ofNumeric w.amount) (some w.id) description

/-- The withdrawal becomes a success, or `complete_disbursement` is called for it. -/
def Finalises (outside : Outside) (w : Withdrawal) (handling : Tx Withdrawal)
    (state : State schema Request HttpResult) : Prop :=
  (∃ w' final, run (exec outside) handling state = (.ok w', final) ∧ w'.status = .success) ∨
    ∃ description, Calls (exec outside) (payOut w description) handling state

/-- A query without a code takes no status but `COMPLETED` for a success. -/
theorem successCode_query {query : TransactionQueryResponse} {status : String}
    (hstatus : query.data.bind TransactionQueryData.status = some status)
    (hother : status ≠ "COMPLETED") :
    SuccessCode (queryResultcode query) ↔ SuccessCode query.resultcode := by
  unfold queryResultcode
  rw [hstatus]
  by_cases hgiven : given query.resultcode = true
  · simp [hgiven]
  · have hblank : ¬SuccessCode query.resultcode := by
      cases hcode : query.resultcode with
      | none => decide +kernel
      | some code =>
        have hempty : code = "" := by simpa [given, hcode] using hgiven
        rw [hempty]
        decide +kernel
    simp only [hgiven, Bool.false_eq_true, if_false, Option.getD_some, hother, hblank, iff_false]
    split
    · decide +kernel
    · split
      · decide +kernel
      · exact hblank

/-! ## Calls of `complete_disbursement` -/

/-- Statements that write no ledger entry. -/
def entryless : Footprint Table Row Request := .within (· ≠ .ledgerEntries)

variable {w w' : Withdrawal} {result : ProviderResult} {description : Option String}

theorem All.of_lockedWallet {α : Type} {footprint : Footprint Table Row Request} {tenantId : ℕ}
    {next : TenantWallet → Tx α}
    (h : (WalletService.lockedWallet tenantId >>= next).All footprint.Allows)
    (wallet : TenantWallet) : (next wallet).All footprint.Allows := (h.2 [wallet]).2 [wallet]

theorem All.of_moveBucket {α : Type} {footprint : Footprint Table Row Request}
    {wallet : TenantWallet} {bucket : WalletBucket} {delta : Decimal}
    {next : WalletService.Move → Tx α}
    (h : (WalletService.moveBucket wallet bucket delta >>= next).All footprint.Allows)
    (hvalue : 0 ≤ WalletService.movedValue wallet bucket delta) (wallet' : TenantWallet) :
    (next ⟨wallet', WalletService.movedValue wallet bucket delta⟩).All footprint.Allows := by
  rw [WalletService.moveBucket, Prog.bind_assoc] at h
  rw [WalletService.movedValue] at hvalue
  rw [Prog.require_true hvalue] at h
  exact h.2 (some wallet')

/-- A payout of a positive amount may write its entry. -/
theorem not_entryless_payOut (hw : rowValid .withdrawals w = true) (hamount : 0 < w.amount) :
    ¬(payOut w description).All entryless.Allows := by
  intro h
  have hpositive : 0 < ofNumeric w.amount := zero_lt_ofNumeric.mpr hamount
  have hfits : |w.amount| < 10 ^ 28 := by
    simp only [rowValid, amountsFit, Bool.and_eq_true, List.all_eq_true] at hw
    exact (Numeric.fits_iff.mp (hw.1.1 _ List.mem_cons_self)).trans (by norm_num)
  rw [payOut, WalletService.completeDisbursement, Prog.require_true hpositive,
    Prog.pure_bind] at h
  have hlocked := All.of_lockedWallet h
    { id := 0, tenantId := w.tenantId, currency := "TZS", reservedBalanceTzs := w.amount }
  have hdebited := All.of_moveBucket hlocked (by
    rw [WalletService.movedValue, WalletService.negate_ofNumeric hfits]
    apply context_nonneg
    rw [balance, ofNumeric_add, add_neg_cancel]
    exact zero_le_ofNumeric.mpr le_rfl)
    { id := 0, tenantId := w.tenantId, currency := "TZS" }
  have hcredited := All.of_moveBucket hdebited (by
    apply context_nonneg
    rw [balance, ofNumeric_add, zero_add]
    exact hpositive.le)
    { id := 0, tenantId := w.tenantId, currency := "TZS" }
  exact hcredited.1 0 rfl

/-- A withdrawal of no positive amount is refused. -/
theorem payOut_of_not_positive (hamount : ¬0 < w.amount) : payOut w description =
    throw (.domainValidation "disbursement amount must be positive") := by
  rw [payOut, WalletService.completeDisbursement, Prog.require_false, Prog.throw_bind]
  rwa [zero_lt_ofNumeric]

/-- Nothing calls it that writes no ledger entry and does not raise its refusal. -/
theorem not_calls_payOut {outside : Outside} {x : Tx Withdrawal}
    {state : State schema Request HttpResult} (hw : rowValid .withdrawals w = true)
    (hall : x.All entryless.Allows)
    (hraises : ¬0 < w.amount → (run (exec outside) x state).1 ≠
      .error (.domainValidation "disbursement amount must be positive")) :
    ¬Calls (exec outside) (payOut w description) x state := by
  intro hcalls
  by_cases hamount : 0 < w.amount
  · exact not_entryless_payOut hw hamount (hcalls.all hall)
  · rw [payOut_of_not_positive hamount] at hcalls
    exact hraises hamount hcalls.raises

/-! ## What is not a completion -/

theorem entryless_updateWithdrawal (set : Withdrawal → Withdrawal) :
    (updateWithdrawal w set).All entryless.Allows := all_updateRow Table.noConfusion

theorem entryless_transition (toStatus : WithdrawalStatus) (actorId : Option ℕ)
    (reason : Option String) : (transition w toStatus actorId reason).All entryless.Allows :=
  .bind (entryless_updateWithdrawal _) fun _ =>
    .bind (all_create fun _ => Table.noConfusion) fun _ => trivial

theorem entryless_failWithdrawal (reason : String) (actorId : Option ℕ) :
    (failWithdrawal w reason actorId).All entryless.Allows :=
  .bind (WalletService.all_releaseReservation (fun _ => trivial) (fun _ => trivial)
    (fun _ _ => Table.noConfusion) (fun _ _ => Table.noConfusion) _ _) fun _ => .bind all_now fun _ =>
      .bind (entryless_updateWithdrawal _) fun _ => entryless_transition _ _ _

/-- What a result does that does not complete the payout. -/
inductive Incomplete (w : Withdrawal) (actorId : Option ℕ) : Tx Withdrawal → Prop
  | ignored : Incomplete w actorId (pure w)
  | kept {set : Withdrawal → Withdrawal} (hset : w.SameRequest (set w)) :
      Incomplete w actorId (updateWithdrawal w set)
  | moved {set : Withdrawal → Withdrawal} {reason : Option String} (hset : w.SameRequest (set w)) :
      Incomplete w actorId
        (updateWithdrawal w set >>= fun w => transition w .ambiguous actorId reason)
  | failed {set : Withdrawal → Withdrawal} {reason : String} (hset : w.SameRequest (set w)) :
      Incomplete w actorId
        (updateWithdrawal w set >>= fun w => failWithdrawal w reason actorId)

theorem incomplete_applyProviderResult (hdecision : decision w result ≠ .complete)
    (actorId : Option ℕ) : Incomplete w actorId (applyProviderResult w result actorId) := by
  rw [decision] at hdecision
  rw [applyProviderResult]
  split at hdecision
  · rename_i hresolved
    rw [if_pos hresolved]
    exact .ignored
  · rename_i hpending
    rw [if_neg hpending]
    dsimp only
    cases houtcome : (interpretResultcode result.resultcode result.message).outcome with
    | success =>
      rw [houtcome] at hdecision
      cases hmismatch : resultMismatch w result with
      | some mismatch => exact .moved (by constructor <;> rfl)
      | none =>
        rw [hmismatch] at hdecision
        exact absurd rfl hdecision
    | inprogress => exact .kept (by constructor <;> rfl)
    | ambiguous => exact .moved (by constructor <;> rfl)
    | fail => exact .failed (by constructor <;> rfl)

theorem Incomplete.entryless {actorId : Option ℕ} {x : Tx Withdrawal}
    (h : Incomplete w actorId x) : x.All entryless.Allows := by
  cases h with
  | ignored => trivial
  | kept _ => exact entryless_updateWithdrawal _
  | moved _ => exact .bind (entryless_updateWithdrawal _) fun _ => entryless_transition _ _ _
  | failed _ => exact .bind (entryless_updateWithdrawal _) fun _ => entryless_failWithdrawal _ _

/-- The failure is not the one `complete_disbursement` refuses an amount with. -/
def Other (e : Failure) : Prop :=
  e ≠ .domainValidation "disbursement amount must be positive"

theorem other_database : Other .database := Failure.noConfusion

section Raises

variable {world : PlatformWorld} {actorId : Option ℕ}

/-- A withdrawal that is written before anything else. -/
theorem always_recorded {set : Withdrawal → Withdrawal} {next : Withdrawal → Tx Withdrawal}
    (hw : w ∈ world.db.rows .withdrawals) (hset : w.SameRequest (set w))
    (hnext : ∀ db : PlatformDb, set w ∈ db.rows .withdrawals →
      Always (fun _ => false) (fun _ _ => True) (fun e _ => Other e) (next (set w))
        { world with db }) :
    Always (fun _ => false) (fun _ _ => True) (fun e _ => Other e)
      (updateWithdrawal w set >>= next) world :=
  always_bind.mpr (always_updateWithdrawal rfl hw hset
    (fun db _ hwritten => hnext db (hwritten.mem hw hset.id.symm)) fun _ => other_database)

theorem other_transition {toStatus : WithdrawalStatus} {reason : Option String}
    (hw : w ∈ world.db.rows .withdrawals) :
    Always (fun _ => false) (fun _ _ => True) (fun e _ => Other e)
      (transition w toStatus actorId reason) world :=
  always_recorded hw (by constructor <;> rfl) fun _ _ =>
    always_bind.mpr (always_create rfl (fun _ _ _ _ _ => trivial) fun _ => other_database)

theorem Incomplete.other {x : Tx Withdrawal} (h : Incomplete w actorId x)
    (hw : w ∈ world.db.rows .withdrawals) (hamount : ¬0 < w.amount) :
    Always (fun _ => false) (fun _ _ => True) (fun e _ => Other e) x world := by
  cases h with
  | ignored => trivial
  | kept hset =>
    exact always_updateWithdrawal rfl hw hset (fun _ _ _ => trivial) fun _ => other_database
  | moved hset => exact always_recorded hw hset fun _ h => other_transition h
  | failed hset =>
    refine always_recorded hw hset fun _ _ => always_bind.mpr (always_bind.mpr
      (always_require (fun hpositive => ?_) fun _ h => ?_))
    · rw [zero_lt_ofNumeric, hset.amount] at hpositive
      exact absurd hpositive hamount
    · exact absurd (Failure.domainValidation.inj h) (by decide)

end Raises

/-! ## Both entry points -/

section Entries

variable {outside : Outside} {state : State schema Request HttpResult} {actorId : Option ℕ}

/-- A result finalises the payout exactly where it completes it. -/
theorem finalises_applyProviderResult_iff (hw : w ∈ state.db.rows .withdrawals)
    (hfrom : w.status ≠ .success) :
    Finalises outside w (applyProviderResult w result actorId) state ↔ Completes w result := by
  have hvalid := rowValid_withdrawal hw
  constructor
  · intro h
    by_contra hnot
    have hdecision : decision w result ≠ .complete :=
      fun h => hnot ((decision_eq_complete_iff hvalid).mp h)
    rcases h with ⟨w', final, hrun, hsuccess⟩ | ⟨description, hcalls⟩
    · exact hnot ((applied_of_run hw hrun).success hsuccess hfrom)
    · have hincomplete := incomplete_applyProviderResult hdecision actorId
      refine not_calls_payOut hvalid hincomplete.entryless (fun hamount heq => ?_) hcalls
      have hother : Always (fun _ => false) (fun _ _ => True) (fun e _ => Other e)
          (applyProviderResult w result actorId) state.toWorld :=
        hincomplete.other hw hamount
      have hended := hother.run outside
      cases hrun : run (exec outside) (applyProviderResult w result actorId) state with
      | mk outcome final =>
        rw [hrun] at hended heq
        obtain rfl : outcome = _ := heq
        exact hended rfl
  · rintro ⟨hstatus, hcode, hown⟩
    have hsuccess : (interpretResultcode result.resultcode result.message).outcome = .success := by
      rw [interpretResultcode_outcome, hcode]
      rfl
    right
    use some ("Selcom disbursement " ++ result.reference)
    rw [applyProviderResult, if_neg (by simp [pending_iff.mpr hstatus])]
    simp only [hsuccess, (resultMismatch_eq_none_iff hvalid).mpr hown]
    exact .here _ state

/-- A program that starts with the `UPDATE` of a withdrawal calls what it calls after it. -/
theorem calls_updateWithdrawal {set : Withdrawal → Withdrawal} {next : Withdrawal → Tx Withdrawal}
    (hw : rowValid .withdrawals w = true)
    (h : Calls (exec outside) (payOut w description) (updateWithdrawal w set >>= next) state) :
    ∃ w' middle, run (exec outside) (updateWithdrawal w set) state = (.ok w', middle) ∧
      Calls (exec outside) (payOut w description) (next w') middle := by
  have hupdate : updateWithdrawal w set >>= next =
      .step (.update .withdrawals w.id (w.flush (set w)))
        fun stored => Prog.orRaise stored .database >>= next := rfl
  generalize hx : updateWithdrawal w set >>= next = x at h
  rw [hupdate] at hx
  cases h with
  | here k state =>
    by_cases hamount : 0 < w.amount
    · rw [payOut, WalletService.completeDisbursement,
        Prog.require_true (zero_lt_ofNumeric.mpr hamount)] at hx
      cases hx
    · rw [payOut_of_not_positive hamount] at hx
      cases hx
  | step h =>
    cases hx
    have hrun : run (exec outside) (updateWithdrawal w set) state =
      run (exec outside) (Prog.orRaise
        (exec outside (.update .withdrawals w.id (w.flush (set w))) state).1 .database)
        (exec outside (.update .withdrawals w.id (w.flush (set w))) state).2 := rfl
    cases hstored : (exec outside (.update .withdrawals w.id (w.flush (set w))) state).1 with
    | some w' =>
      rw [hstored] at h hrun
      exact ⟨w', _, hrun, h⟩
    | none =>
      rw [hstored] at h
      exact absurd h (not_calls_payOut hw (Prog.all_throw _) fun _ => by simp)

/-- The direct answer finalises the payout where it is recorded and its result completes it. -/
theorem finalises_applyProcessAnswer_iff {settings : Settings}
    {response : TransactionProcessResponse} (hw : w ∈ state.db.rows .withdrawals)
    (hfrom : w.status ≠ .success) :
    Finalises outside w (applyProcessAnswer settings w (.ok response) actorId) state ↔
      Completes w (processResult w response) ∧
        storableOpt response.resultcode = true ∧ storableOpt response.message = true := by
  have hvalid := rowValid_withdrawal hw
  let set (w : Withdrawal) : Withdrawal :=
    { w with
      providerReference := some w.idempotencyKey
      providerResultCode := response.resultcode
      providerMessage := response.message }
  let next (w : Withdrawal) : Tx Withdrawal :=
    applyProviderResult w (processResult w response) actorId
  have hprogram : applyProcessAnswer settings w (.ok response) actorId =
      updateWithdrawal w set >>= next := rfl
  have hsame : w.SameRequest (set w) := by constructor <;> rfl
  have hcompletes : Completes (set w) (processResult (set w) response) ↔
      Completes w (processResult w response) := by
    constructor <;> exact fun h => ⟨h.status, h.code, h.own.transId, h.own.currency, h.own.amount⟩
  have hrecorded : rowValid .withdrawals (set w) = true ↔
      storableOpt response.resultcode = true ∧ storableOpt response.message = true := by
    simp only [rowValid, textsStorable, List.all_cons, List.all_nil, Bool.and_eq_true,
      storableOpt_some] at hvalid
    simp [set, rowValid, textsStorable, hvalid]
  have halways : Always (fun _ => false)
      (fun w' (world' : PlatformWorld) => w' = set w ∧ set w ∈ world'.db.rows .withdrawals ∧
        rowValid .withdrawals (set w) = true)
      (fun _ _ => rowValid .withdrawals (set w) = false) (updateWithdrawal w set) state.toWorld :=
    always_updateWithdrawal rfl hw hsame
      (fun db hset hwritten => ⟨rfl, hwritten.mem hw hsame.id.symm, hset⟩) fun h => h
  have hupdated := halways.run outside
  rw [hprogram, ← hrecorded, ← hcompletes]
  cases hrun : run (exec outside) (updateWithdrawal w set) state with
  | mk outcome middle =>
    rw [hrun] at hupdated
    cases outcome with
    | ok w' =>
      obtain ⟨rfl, hstored, hset⟩ := hupdated
      rw [and_iff_left hset, ← finalises_applyProviderResult_iff hstored hfrom]
      constructor
      · rintro (⟨w', final, hran, hsuccess⟩ | ⟨description, hcalls⟩)
        · left
          rw [run_bind, hrun] at hran
          exact ⟨w', final, hran, hsuccess⟩
        · right
          obtain ⟨w', middle', hran, hnext⟩ := calls_updateWithdrawal hvalid hcalls
          rw [hrun] at hran
          cases hran
          exact ⟨description, hnext⟩
      · rintro (⟨w', final, hran, hsuccess⟩ | ⟨description, hcalls⟩)
        · left
          refine ⟨w', final, ?_, hsuccess⟩
          rw [run_bind, hrun]
          exact hran
        · exact Or.inr ⟨description, Calls.of_run hrun hcalls⟩
    | error e =>
      refine iff_of_false ?_ (fun h => Bool.eq_false_iff.mp hupdated h.2)
      rintro (⟨w', final, hran, -⟩ | ⟨description, hcalls⟩)
      · rw [run_bind, hrun] at hran
        cases hran
      · obtain ⟨w', middle', hran, -⟩ := calls_updateWithdrawal hvalid hcalls
        rw [hrun] at hran
        cases hran

end Entries

/-- An answer that gives a status other than `COMPLETED` finalises an unresolved withdrawal
exactly where its code is a success and what it names is the withdrawal's own. -/
theorem not_finalises_iff {outside : Outside} {state : State schema Request HttpResult}
    (settings : Settings) (actorId : Option ℕ) {answer : Answered} {status : String}
    (hw : w ∈ state.db.rows .withdrawals) (hstatus : w.status ∈ [.processing, .ambiguous])
    (hgiven : answer.status = some status) (hother : status ≠ "COMPLETED") :
    ¬Finalises outside w (answer.handle settings w actorId) state ↔
      ¬(SuccessCode answer.resultcode ∧ Matches w (answer.result w) ∧ answer.Recorded) := by
  have hfrom : w.status ≠ .success := by
    intro h
    rw [h] at hstatus
    exact absurd hstatus (by decide)
  have hcompletes : ∀ result, Completes w result ↔
      SuccessCode result.resultcode ∧ Matches w result :=
    fun result => ⟨fun h => ⟨h.code, h.own⟩, fun h => ⟨hstatus, h.1, h.2⟩⟩
  rw [not_iff_not]
  cases answer with
  | process response =>
    have hprocess := @finalises_applyProcessAnswer_iff _ outside state actorId settings response
      hw hfrom
    rw [hcompletes, and_assoc] at hprocess
    exact hprocess
  | query query =>
    have hcode : SuccessCode (queryResult w query).resultcode ↔ SuccessCode query.resultcode :=
      successCode_query hgiven hother
    refine (finalises_applyProviderResult_iff hw hfrom).trans ?_
    rw [hcompletes, hcode]
    exact ⟨fun h => ⟨h.1, h.2, trivial⟩, fun h => ⟨h.1, h.2.1⟩⟩

/-- An answer to a query of the payout, of this code and status. -/
def queryAnswer (resultcode status : String) : Answered :=
  .query
    { success := true
      result := none
      resultcode := some resultcode
      message := none
      data := some
        { transId := some "4f1c"
          status := some status
          amount := some 5000
          currency := some "TZS"
          selcomReceipt := none
          transDatetime := none
          senderAccount := none
          senderName := none } }

/-- A code of a transfer in progress. -/
theorem accepted_not_finalised : ¬Finalises (answering []) payout
    ((queryAnswer "111" "ACCEPTED").handle sampleSettings payout none) ⟨⟨payoutDb, []⟩, 0⟩ :=
  (not_finalises_iff sampleSettings none List.mem_cons_self (by decide)
    (show _ = some "ACCEPTED" from rfl) (by decide)).mpr fun h => absurd h.1 (by decide +kernel)

/-- A transfer that failed is paid out where its code is a success. -/
theorem failed_finalised : ¬∀ (outside : Outside) (state : State schema Request HttpResult)
    (settings : Settings) (w : Withdrawal) (actorId : Option ℕ) (answer : Answered)
    (status : String), w ∈ state.db.rows .withdrawals → w.status ∈ [.processing, .ambiguous] →
      answer.status = some status → status ≠ "COMPLETED" →
        ¬Finalises outside w (answer.handle settings w actorId) state := by
  intro h
  refine h (answering []) ⟨⟨payoutDb, []⟩, 0⟩ sampleSettings payout none
    (queryAnswer "000" "FAILED") "FAILED" List.mem_cons_self (by decide) rfl (by decide) ?_
  left
  have hsuccess : (run (exec (answering [])) ((queryAnswer "000" "FAILED").handle sampleSettings
      payout none) ⟨⟨payoutDb, []⟩, 0⟩).1.toOption.map Withdrawal.status = some .success := by
    decide +kernel
  cases hrun : run (exec (answering [])) ((queryAnswer "000" "FAILED").handle sampleSettings
    payout none) ⟨⟨payoutDb, []⟩, 0⟩ with
  | mk outcome final =>
    rw [hrun] at hsuccess
    cases outcome with
    | ok w' => exact ⟨w', final, rfl, Option.some.inj hsuccess⟩
    | error e => cases hsuccess

end InfinityRadius.Services.PayoutService
