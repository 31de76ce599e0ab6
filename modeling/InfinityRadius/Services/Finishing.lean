import InfinityRadius.Services.Reservations

/-!
# Finishing a withdrawal

An open withdrawal is closed by one more operation, its requester's cancellation or a
query that is answered with a failure, as long as it is not `APPROVED`: no operation
takes a withdrawal out of that status.
-/

namespace InfinityRadius.Services.PayoutService

open Amounts Database Payload Program Sql Models Integrations.SelcomBusiness

variable {db db' : PlatformDb} {w w' : Withdrawal}

/-- The withdrawal was closed with its amount released, or paid out. -/
def Finished (db db' : PlatformDb) (w : Withdrawal) : Prop :=
  ∃ w' ∈ db'.rows .withdrawals, w'.id = w.id ∧
    ((w'.status ∈ [.failed, .cancelled, .rejected] ∧ Shifted db db' w .reserved .available) ∨
      (w'.status = .success ∧ Shifted db db' w .reserved .totalDisbursed))

/-- Some operations, the last of which finishes it, are still possible. -/
def CanFinish (world : PlatformWorld) (w : Withdrawal) : Prop :=
  ∃ (before : List Step) (last : Step), ∃ v ∈ (runSteps before world).db.rows .withdrawals,
    v.id = w.id ∧ Finished (runSteps before world).db (runSteps (before ++ [last]) world).db v

/-! ## Operations that finish -/

section Rules

variable {world : PlatformWorld} {runtime : Runtime}

theorem not_set_aside : ∀ t : Table, (fun _ : Table => false) t = true → t = .paymentWebhooks :=
  fun _ h => by cases h

/-- A withdrawal that is there is found. -/
theorem always_lockKnown {α : Type} {returns : α → PlatformWorld → Prop}
    {raises : Failure → PlatformWorld → Prop} {tenantId : Option ℕ} {next : Withdrawal → Tx α}
    (hw : w ∈ world.db.rows .withdrawals) (htenant : ofTenant .withdrawals tenantId w = true)
    (h : Always (fun _ => false) returns raises (next w) world) :
    Always (fun _ => false) returns raises (do
      let found ← getByIdForUpdate .withdrawals tenantId w.id
      let withdrawal ← Prog.orRaise found (.notFound "Withdrawal not found")
      next withdrawal) world := by
  refine always_bind.mpr (always_getByIdForUpdate (t := .withdrawals) rfl
    (fun v hv _ hid => ?_) (fun hnone => absurd rfl (hnone w hw htenant)))
  obtain rfl : v = w := world.db.id_injOn (t := .withdrawals) hv hw hid
  exact h

theorem cancelWithdrawal_finishes {actorId : ℕ} (hw : w ∈ world.db.rows .withdrawals)
    (hrequester : w.requestedBy = some actorId)
    (hopen : w.status = .draft ∨ w.status = .pendingApproval)
    (hmovable : WalletService.Movable WalletService.released world.db w.tenantId
      (ofNumeric w.amount)) :
    Always (fun _ => false)
      (fun _ world' => ∃ w', w'.status = .cancelled ∧
        Moved WalletService.released w world.db w' world'.db [])
      (fun _ _ => False) (cancelWithdrawal w.tenantId w.id actorId none) world := by
  refine always_lockKnown hw (by simp [ofTenant, rowTenant]) ?_
  refine always_bind.mpr (always_require (fun _ => ?_) fun h => h hrequester)
  refine always_bind.mpr (always_require (fun _ => ?_) fun h => h hopen)
  have hedge : WithdrawalStatus.cancelled ∈ successors w.status := by
    rcases hopen with h | h <;> rw [h] <;> decide
  refine always_bind.mpr (WalletService.always_releaseReservation rfl ?_
    (fun hnot => absurd hmovable hnot))
  intro wallet hwallet htenant wallet' released hreleased hreplaced
  have hkept : w ∈ released.rows .withdrawals := by
    rw [hreplaced.rows_of_ne (by decide)]
    exact hw
  have hmoved : Moved WalletService.released w world.db w released [] :=
    ⟨wallet, wallet', hwallet, htenant, hreleased, by simp, .of_wallet hw hreplaced⟩
  refine always_bind.mpr (always_now.mpr fun time => ?_)
  refine always_bind.mpr (always_updateWithdrawal rfl hkept (by constructor <;> rfl)
    (fun stamped _ hwritten => ?_) (fun hinvalid => ?_))
  · have heffect := Effect.of_written w hwritten (by constructor <;> rfl) rfl rfl rfl rfl
    exact always_transition not_set_aside (heffect.mem hkept) hedge
      (fun _ => authorised_cancelled)
      (fun final hfinal => ⟨_, rfl, (hmoved.trans heffect).trans hfinal⟩) (fun h => by cases h)
  · exact absurd ((rowValid_withdrawal hkept).symm.trans hinvalid) (by decide)

/-- A query answered with the result code of a failure. -/
def refused : HttpResult :=
  .response 200 (some (.obj [("success", .bool true), ("resultcode", .str "900")]))

theorem reconcileWithdrawal_finishes (hready : Ready runtime.settings)
    (hw : w ∈ world.db.rows .withdrawals) (hpending : w.status.pending = true)
    (hmovable : WalletService.Movable WalletService.released world.db w.tenantId
      (ofNumeric w.amount)) :
    Always (fun _ => false)
      (fun _ world' => ∃ request answer, world'.sent = world.sent ++ [(request, answer)] ∧
        (answer = refused → ∃ w', w'.status = .failed ∧
          Moved WalletService.released w world.db w' world'.db []))
      (fun _ world' => ∃ request answer, world'.sent = world.sent ++ [(request, answer)] ∧
        answer ≠ refused)
      (reconcileWithdrawal runtime w.id) world := by
  refine always_lockKnown hw rfl (always_reconcileLocked not_set_aside hw (fun answer => ?_)
    fun h => absurd hready h)
  by_cases hanswer : answer = refused
  · subst hanswer
    obtain ⟨query, hquery, hcode, hmessage⟩ : ∃ query : TransactionQueryResponse,
        validated transactionQueryResponse refused = .ok query ∧
          queryResultcode query = some "900" ∧ query.message = none :=
      ⟨_, rfl, by decide +kernel, rfl⟩
    have hdecision : decision w (queryResult w query) = .fail := by
      have hfail : outcomeOfCode (strip "900") = .fail := by decide +kernel
      simp only [decision, hpending, Bool.true_eq_false, if_false, interpretResultcode_outcome,
        queryResult, hcode, Option.getD_some, hfail]
    simp only [hquery, hdecision]
    refine ⟨fun w' db hcarried => ⟨_, _, rfl, fun _ => ⟨w', hcarried.2.1, hcarried.2.2⟩⟩,
      fun hnot => absurd ?_ hnot⟩
    have hstorable : storable (strip "900") = true := by decide +kernel
    simp only [Recordable, hdecision]
    simp only [queryResult, hcode, hmessage, Option.getD_some, hstorable, hmovable, and_self,
      storableOpt, Option.all_none]
  · cases validated transactionQueryResponse answer with
    | ok query =>
      exact ⟨fun w' db _ => ⟨_, _, rfl, fun h => absurd h hanswer⟩,
        fun _ e db => ⟨_, _, rfl, hanswer⟩⟩
    | error e =>
      cases e with
      | selcomBusiness error => exact ⟨_, _, rfl, fun h => absurd h hanswer⟩
      | _ => exact ⟨_, _, rfl, hanswer⟩

end Rules

theorem Moved.finished (hw : w ∈ db.rows .withdrawals)
    (hto : w'.status ∈ [.failed, .cancelled, .rejected])
    (h : Moved WalletService.released w db w' db' []) : Finished db db' w := by
  obtain ⟨wallet, wallet', h⟩ := h
  exact ⟨w', h.effect.mem hw, h.effect.same.id,
    Or.inl ⟨hto, MovedIn.balanceOf .reserved .available hw h⟩⟩

theorem Step.finished_of_cancelled {step : Step} {world : PlatformWorld} {actorId : ℕ}
    (hoperation : step.operation = .cancelWithdrawal w.tenantId w.id actorId none)
    (hw : w ∈ world.db.rows .withdrawals) (hrequester : w.requestedBy = some actorId)
    (hopen : w.status = .draft ∨ w.status = .pendingApproval)
    (hmovable : WalletService.Movable WalletService.released world.db w.tenantId
      (ofNumeric w.amount)) : Finished world.db (step.next world).db w := by
  have halways : Always (fun _ => false)
      (fun _ world' => ∃ w', w'.status = .cancelled ∧
        Moved WalletService.released w world.db w' world'.db [])
      (fun _ _ => False) step.program ⟨world.db, []⟩ := by
    rw [Step.program, hoperation]
    exact always_bind.mpr (@cancelWithdrawal_finishes w ⟨world.db, []⟩ actorId hw hrequester hopen
      hmovable)
  rcases Step.next_cases halways with ⟨db, hnext, -, w', hstatus, hmoved⟩ | ⟨_, _, -, -, habsurd⟩
  · rw [hnext]
    exact hmoved.finished hw (by rw [hstatus]; decide)
  · exact habsurd.elim

theorem Step.finished_of_refused {step : Step} {world : PlatformWorld}
    (hoperation : step.operation = .reconcileWithdrawal w.id)
    (hready : Ready step.runtime.settings) (hanswer : step.outside.respond 0 = refused)
    (hw : w ∈ world.db.rows .withdrawals) (hpending : w.status.pending = true)
    (hmovable : WalletService.Movable WalletService.released world.db w.tenantId
      (ofNumeric w.amount)) : Finished world.db (step.next world).db w := by
  have halways : Always (fun _ => false)
      (fun _ world' => ∃ request answer, world'.sent = [(request, answer)] ∧
        (answer = refused → ∃ w', w'.status = .failed ∧
          Moved WalletService.released w world.db w' world'.db []))
      (fun _ world' => ∃ request answer, world'.sent = [(request, answer)] ∧ answer ≠ refused)
      step.program ⟨world.db, []⟩ := by
    rw [Step.program, hoperation]
    exact always_bind.mpr (@reconcileWithdrawal_finishes w ⟨world.db, []⟩ step.runtime hready hw
      hpending hmovable)
  have hanswered : ∀ request answer, step.exchanges world.db = [(request, answer)] →
      answer = refused := by
    intro request answer hsent
    have hfirst : (step.exchanges world.db)[0]? = some (request, answer) := by rw [hsent]; rfl
    exact (exchanges_respond hfirst).trans hanswer
  rcases Step.next_cases halways with ⟨db, hnext, -, request, answer, hsent, hrefused⟩ |
    ⟨_, _, -, -, request, answer, hsent, hne⟩
  · obtain ⟨w', hstatus, hmoved⟩ := hrefused (hanswered request answer hsent)
    rw [hnext]
    exact hmoved.finished hw (by rw [hstatus]; decide)
  · exact absurd (hanswered request answer hsent) hne

/-- An open withdrawal that is not approved can be finished if its amount can be released. -/
theorem canFinish_of_movable {world : PlatformWorld} (hw : w ∈ world.db.rows .withdrawals)
    (hheld : w.status.held = true) (happroved : w.status ≠ .approved)
    (hrequester : w.requestedBy.isSome = true)
    (hmovable : WalletService.Movable WalletService.released world.db w.tenantId
      (ofNumeric w.amount)) : CanFinish world w := by
  obtain ⟨actorId, hactor⟩ := Option.isSome_iff_exists.mp hrequester
  by_cases hpending : w.status.pending = true
  · have hready : Ready sampleRuntime.settings := ⟨by decide +kernel, by decide +kernel, rfl⟩
    exact ⟨[], ⟨.reconcileWithdrawal w.id, sampleRuntime, answering [refused]⟩, w, hw, rfl,
      Step.finished_of_refused rfl hready rfl hw hpending hmovable⟩
  · have hopen : w.status = .draft ∨ w.status = .pendingApproval := by
      revert hheld happroved hpending
      cases w.status <;> decide
    exact ⟨[], ⟨.cancelWithdrawal w.tenantId w.id actorId none, sampleRuntime, answering []⟩, w,
      hw, rfl, Step.finished_of_cancelled rfl hw hactor hopen hmovable⟩

/-! ## What keeps an amount releasable -/

/-- What the tenant's wallet holds for its withdrawals, paid out or not. -/
def payableOf (db : PlatformDb) (tenantId : ℕ) : Numeric :=
  balanceOf db tenantId .available + balanceOf db tenantId .reserved +
    balanceOf db tenantId .totalDisbursed

/-- No withdrawal is approved, and the amount of each open one can be released. -/
structure Releasable (db : PlatformDb) : Prop where
  nonneg : ∀ wallet ∈ db.rows .tenantWallets, WalletService.Nonneg wallet
  unapproved : ∀ w ∈ db.rows .withdrawals, w.status ≠ .approved
  requester : ∀ w ∈ db.rows .withdrawals, w.requestedBy.isSome = true
  positive : ∀ w ∈ db.rows .withdrawals, 0 < w.amount
  covered : ∀ tenantId, drawnOf db tenantId .reserved ≤ balanceOf db tenantId .reserved
  room : ∀ tenantId, payableOf db tenantId < 10 ^ 14

theorem le_drawnOf (hw : w ∈ db.rows .withdrawals) (hheld : w.status.held = true)
    (hpositive : ∀ v ∈ db.rows .withdrawals, 0 < v.amount) :
    w.amount ≤ drawnOf db w.tenantId .reserved := by
  have hterm : ∀ v ∈ db.rows .withdrawals,
      0 ≤ if v.tenantId = w.tenantId then drawn .reserved v.status * v.amount else 0 := by
    intro v hv
    have hamount := (hpositive v hv).le
    have hdrawn : drawn .reserved v.status = if v.status.held = true then 1 else 0 := rfl
    rw [hdrawn]
    split_ifs <;> linarith
  calc w.amount = if w.tenantId = w.tenantId then drawn .reserved w.status * w.amount else 0 := by
        simp only [if_pos, drawn, hheld, one_mul]
    _ ≤ drawnOf db w.tenantId .reserved := db.le_total _ hw hterm

theorem Releasable.movable (h : Releasable db) (hw : w ∈ db.rows .withdrawals)
    (hheld : w.status.held = true) :
    WalletService.Movable WalletService.released db w.tenantId (ofNumeric w.amount) := by
  have hpositive := h.positive w hw
  have hreserved : w.amount ≤ balanceOf db w.tenantId .reserved :=
    (le_drawnOf hw hheld h.positive).trans (h.covered w.tenantId)
  obtain ⟨wallet, hwallet, htenant⟩ :
      ∃ wallet ∈ db.rows .tenantWallets, wallet.tenantId = w.tenantId := by
    by_contra hnone
    have hzero : balanceOf db w.tenantId .reserved = 0 :=
      db.total_eq_zero _ fun wallet hwallet => if_neg fun htenant => hnone ⟨wallet, hwallet, htenant⟩
    rw [hzero] at hreserved
    exact absurd hpositive (not_lt.mpr hreserved)
  have hroom := h.room w.tenantId
  have hnonneg := h.nonneg wallet hwallet
  rw [payableOf, ← htenant, balanceOf_of_mem hwallet, balanceOf_of_mem hwallet,
    balanceOf_of_mem hwallet] at hroom
  rw [← htenant, balanceOf_of_mem hwallet] at hreserved
  refine ⟨zero_lt_ofNumeric.mpr hpositive, wallet, hwallet, htenant, ?_⟩
  refine WalletService.movedTwice_isSome (by decide) (db.valid .tenantWallets wallet hwallet)
    (hnonneg _) hpositive hreserved ?_
  have hdisbursed := hnonneg .totalDisbursed
  linarith

/-- One withdrawal is rewritten, and its tenant's balances move as its status does. -/
theorem Releasable.rewritten (moved : WalletBucket → Numeric) (h : Releasable db) (hw : w ∈ db.rows .withdrawals)
    (hsame : w.SameRequest w')
    (hrows : db'.rows .withdrawals = replaceRow schema .withdrawals w' (db.rows .withdrawals))
    (hto : w'.status ≠ .approved)
    (hnonneg : ∀ wallet ∈ db'.rows .tenantWallets, WalletService.Nonneg wallet)
    (hbalances : ∀ tenantId bucket, balanceOf db' tenantId bucket =
      balanceOf db tenantId bucket + if tenantId = w.tenantId then moved bucket else 0)
    (hreserved : (drawn .reserved w'.status - drawn .reserved w.status) * w.amount ≤
      moved .reserved)
    (hpayable : moved .available + moved .reserved + moved .totalDisbursed = 0) :
    Releasable db' := by
  have hrewritten : ∀ {P : Withdrawal → Prop}, P w' → (∀ v ∈ db.rows .withdrawals, P v) →
      ∀ v ∈ db'.rows .withdrawals, P v := by
    intro P hnew hold v hv
    rw [hrows] at hv
    rcases mem_replaceRow hv with rfl | ⟨hv, -⟩
    · exact hnew
    · exact hold v hv
  constructor
  case nonneg => exact hnonneg
  case unapproved => exact hrewritten hto h.unapproved
  case requester => exact hrewritten (by rw [hsame.requestedBy]; exact h.requester w hw) h.requester
  case positive => exact hrewritten (by rw [hsame.amount]; exact h.positive w hw) h.positive
  case covered =>
    intro tenantId
    rw [drawnOf_replaced hw hsame hrows, hbalances]
    have hcovered := h.covered tenantId
    split <;> linarith
  case room =>
    intro tenantId
    have hroom := h.room tenantId
    rw [payableOf] at hroom ⊢
    simp only [hbalances]
    split <;> linarith

theorem Releasable.of_rows (h : Releasable db)
    (hwithdrawals : db'.rows .withdrawals = db.rows .withdrawals)
    (hwallets : db'.rows .tenantWallets = db.rows .tenantWallets) : Releasable db' where
  nonneg := hwallets ▸ h.nonneg
  unapproved := hwithdrawals ▸ h.unapproved
  requester := hwithdrawals ▸ h.requester
  positive := hwithdrawals ▸ h.positive
  covered tenantId := by
    rw [drawnOf_of_rows hwithdrawals, balanceOf_of_rows hwallets]
    exact h.covered tenantId
  room tenantId := by
    simp only [payableOf, balanceOf_of_rows hwallets]
    exact h.room tenantId

/-- A move of the withdrawal's amount to the bucket its new status calls for. -/
theorem MovedIn.releasable (first second : WalletBucket) {wallet wallet' : TenantWallet}
    {entries : List LedgerEntry} (h : Releasable db) (hw : w ∈ db.rows .withdrawals)
    (hto : w'.status ≠ .approved)
    (hmoved : MovedIn (fun amount => WalletService.movedTwice first second
      (negate amount) amount) w db w' db' entries wallet wallet')
    (hreserved : (drawn .reserved w'.status - drawn .reserved w.status) * w.amount ≤
      transferred first second w.amount .reserved)
    (hfirst : first ∈ [.available, .reserved, .totalDisbursed])
    (hsecond : second ∈ [.available, .reserved, .totalDisbursed]) : Releasable db' := by
  have hnonneg := nonneg_of_replaced h.nonneg
    (WalletService.movedTwice_nonneg hmoved.moved (h.nonneg wallet hmoved.stored))
    hmoved.effect.wallets
  refine h.rewritten (transferred first second w.amount) hw hmoved.effect.same
    hmoved.effect.withdrawals hto hnonneg (hmoved.balanceOf first second hw) hreserved ?_
  simp only [List.mem_cons, List.not_mem_nil, or_false] at hfirst hsecond
  rcases hfirst with rfl | rfl | rfl <;> rcases hsecond with rfl | rfl | rfl <;>
    simp [transferred]

theorem Handled.releasable (h : Releasable db) (hw : w ∈ db.rows .withdrawals)
    (hto : w'.status ≠ .approved) (hhandled : Handled db db' w w') : Releasable db' := by
  have hheld : ∀ {v : Withdrawal}, v.status.held = true → drawn .reserved v.status = 1 :=
    fun hv => if_pos hv
  have hnot : ∀ {v : Withdrawal}, v.status.held = false → drawn .reserved v.status = 0 :=
    fun hv => if_neg (by rw [hv]; decide)
  cases hhandled with
  | kept hfrom hheld' heffect =>
    refine h.rewritten (fun _ => 0) hw heffect.same heffect.withdrawals hto
      (heffect.wallets ▸ h.nonneg) (fun tenantId bucket => ?_) ?_ rfl
    · rw [balanceOf_of_rows heffect.wallets]
      simp
    · rw [hheld hfrom, hheld hheld']
      simp
  | released hfrom hclosed hmoved =>
    obtain ⟨wallet, wallet', hmoved⟩ := hmoved
    refine MovedIn.releasable .reserved .available h hw hto hmoved ?_ (by decide)
      (by decide)
    rw [hheld hfrom, drawn_of_closed hclosed]
    simp [transferred]
  | disbursed hfrom hsuccess _ hmoved =>
    obtain ⟨wallet, wallet', hmoved⟩ := hmoved
    refine MovedIn.releasable .reserved .totalDisbursed h hw hto hmoved ?_ (by decide)
      (by decide)
    rw [hheld hfrom, hnot (by rw [hsuccess]; rfl)]
    simp [transferred]
  | returned hfrom hreversed _ hmoved =>
    obtain ⟨wallet, wallet', hmoved⟩ := hmoved
    refine MovedIn.releasable .totalDisbursed .available h hw hto hmoved ?_ (by decide)
      (by decide)
    rw [hnot (by rw [hreversed]; rfl), hnot (by rw [hfrom]; rfl)]
    simp [transferred]

/-! ## Requests and lookups -/

/-- An amount that can be reserved is not stored as nothing, and what the reservation
rounds up leaves the wallet room to take the amount back. -/
def Requestable (db : PlatformDb) (tenantId : ℕ) (amount : Decimal) : Prop :=
  ∀ wallet ∈ db.rows .tenantWallets, wallet.tenantId = tenantId → 0 < amount →
    ∀ wallet', WalletService.reserved amount wallet = some wallet' → 0 < toNumeric amount ∧
      balance wallet' .available + balance wallet' .reserved + balance wallet' .totalDisbursed <
        10 ^ 14

/-- The step requests an amount that can be taken back, and no lookup of the account of a
withdrawal it moves to `APPROVED` goes unanswered. -/
def Step.Recoverable (step : Step) (world : PlatformWorld) : Prop :=
  (∀ tenantId actorId destinationId amount,
    step.operation = .requestWithdrawal tenantId actorId destinationId amount →
      Requestable world.db tenantId amount) ∧
  ∀ w ∈ world.db.rows .withdrawals, step.operation.Grants step.runtime w .approved →
    LooksUp step.runtime.settings w world.db →
      ∀ detail, step.outside.respond 0 ≠ .transportError detail

/-- The tables a run keeps for the withdrawals it can finish. -/
def finishTables : List Table := [.withdrawals, .tenantWallets]

def PayoutStep.Recoverable : PayoutStep finishTables → PlatformWorld → Prop
  | .operation step, world => step.Recoverable world
  | _, _ => True

theorem RequestedAs.releasable {runtime : Runtime} {tenantId actorId : ℕ} {amount : Decimal}
    {world world' : PlatformWorld} {wallet wallet' : TenantWallet} (h : Releasable world.db)
    (hrequestable : Requestable world.db tenantId amount)
    (hrequested : RequestedAs runtime tenantId actorId amount world world' w wallet wallet') :
    Releasable world'.db := by
  obtain ⟨hpositive, hroom⟩ := hrequestable wallet hrequested.stored hrequested.tenant
    hrequested.positive wallet' hrequested.reserved
  have hwallet := h.nonneg wallet hrequested.stored
  have hvalid := world.db.valid .tenantWallets wallet hrequested.stored
  have hadded : ∀ {P : Withdrawal → Prop}, P w → (∀ v ∈ world.db.rows .withdrawals, P v) →
      ∀ v ∈ world'.db.rows .withdrawals, P v := by
    intro P hnew hold v hv
    rw [hrequested.withdrawals] at hv
    rcases List.mem_append.mp hv with hv | hv
    · exact hold v hv
    · exact List.mem_singleton.mp hv ▸ hnew
  have hw : w ∈ world'.db.rows .withdrawals := by
    rw [hrequested.withdrawals]
    exact List.mem_append_right _ (List.mem_singleton_self w)
  have hfits : toNumeric amount < 10 ^ 14 := by
    have hstored := Numeric.fits_iff.mp (fits_amount hw)
    rw [hrequested.amount] at hstored
    exact (abs_lt.mp hstored).2
  constructor
  case nonneg =>
    exact nonneg_of_replaced h.nonneg
      (WalletService.movedTwice_nonneg hrequested.reserved hwallet) hrequested.wallets
  case unapproved => exact hadded (by rw [hrequested.status]; decide) h.unapproved
  case requester => exact hadded (by rw [hrequested.requestedBy]; rfl) h.requester
  case positive => exact hadded (by rw [hrequested.amount]; exact hpositive) h.positive
  case covered =>
    intro owner
    rw [drawnOf_append hrequested.withdrawals, hrequested.balanceOf_sub, hrequested.tenantId,
      hrequested.status, hrequested.amount]
    have hcovered := h.covered owner
    have hcovers := WalletService.reserved_covers hvalid hwallet hrequested.positive.le hpositive
      hfits hrequested.reserved
    have hdrawn : drawn .reserved .draft = 1 := rfl
    rw [hdrawn, one_mul]
    split <;> linarith
  case room =>
    intro owner
    have hkept := h.room owner
    rw [payableOf] at hkept ⊢
    simp only [hrequested.balanceOf_sub]
    split
    · rename_i howner
      have htenant := hrequested.tenant
      rw [howner, ← htenant, balanceOf_of_mem hrequested.stored,
        balanceOf_of_mem hrequested.stored, balanceOf_of_mem hrequested.stored]
      linarith
    · linarith

/-- What has at most two decimals and a wallet can reserve, it can take back. -/
theorem Releasable.requestable {tenantId : ℕ} {amount : Decimal} (h : Releasable db)
    (hamount : TwoDecimals amount) (hsmall : |toNumeric amount| < 10 ^ 15) :
    Requestable db tenantId amount := by
  intro wallet hwallet htenant hpositive wallet' hreserved
  rw [← hamount] at hpositive hreserved
  have hroom := h.room tenantId
  rw [payableOf, ← htenant, balanceOf_of_mem hwallet, balanceOf_of_mem hwallet,
    balanceOf_of_mem hwallet] at hroom
  have hcents := WalletService.movedTwice_cents (db.valid .tenantWallets wallet hwallet) hsmall
    hreserved
  refine ⟨zero_lt_ofNumeric.mp hpositive, ?_⟩
  rw [hcents, hcents, hcents]
  simpa using hroom

/-! ## Steps -/

theorem Change.releasable {runtime : Runtime} {operation : Operation}
    {world world' : PlatformWorld} (hchange : Change runtime operation world world')
    (h : Releasable world.db)
    (hrequestable : ∀ tenantId actorId destinationId amount,
      operation = .requestWithdrawal tenantId actorId destinationId amount →
        Requestable world.db tenantId amount)
    (hanswered : ∀ w ∈ world.db.rows .withdrawals, operation.Grants runtime w .approved →
      ¬Unanswered runtime.settings w world world') : Releasable world'.db := by
  cases hchange with
  | unchanged heq => exact heq ▸ h
  | requested hoperation hrequested =>
    exact hrequested.releasable h (hrequestable _ _ _ _ hoperation)
  | @reissued _ _ w w' code _ hw hdraft hissued hreplaced =>
    have hwallets : world'.db.rows .tenantWallets = world.db.rows .tenantWallets :=
      hreplaced.rows_of_ne (by decide)
    refine h.rewritten (fun _ => 0) hw hissued.same hreplaced.rows_self
      (by rw [hissued.status, hdraft]; decide) (hwallets ▸ h.nonneg)
      (fun tenantId bucket => ?_) (by rw [hissued.status]; simp) rfl
    rw [balanceOf_of_rows hwallets]
    simp
  | @handled w w' hw hfrom _ hgranted hunanswered hhandled =>
    refine hhandled.releasable h hw fun happroved => ?_
    have hgrants : operation.Grants runtime w .approved := by
      rcases hgranted (by rw [happroved]; decide) with hsame | hgrants
      · exact absurd (hsame.symm.trans happroved) hfrom
      · rwa [happroved] at hgrants
    exact hanswered w hw hgrants (hunanswered happroved)

theorem PayoutStep.releasable {step : PayoutStep finishTables} {world : PlatformWorld}
    (hstep : step.Recoverable world) (h : Releasable world.db) :
    Releasable (step.next world).db := by
  cases step.changed world with
  | unchanged hrows => exact h.of_rows (hrows _ (by decide)) (hrows _ (by decide))
  | @operated own hown _ hchange =>
    subst hown
    have hanswered : ∀ w ∈ world.db.rows .withdrawals,
        own.operation.Grants own.runtime w .approved → ¬Unanswered own.runtime.settings w
          ⟨world.db, []⟩ ⟨(own.next world).db, own.exchanges world.db⟩ := by
      rintro w hw hgrants ⟨hlooksUp, request, detail, hsent⟩
      have hfirst : (own.exchanges world.db)[0]? = some (request, .transportError detail) :=
        congrArg (fun sent => sent[0]?) hsent
      exact hstep.2 w hw hgrants hlooksUp detail (exchanges_respond hfirst).symm
    exact hchange.releasable h hstep.1 hanswered
  | resulted hw _ hto hhandled =>
    refine hhandled.releasable h hw fun happroved => ?_
    rw [happroved] at hto
    cases hto

/-- No withdrawal was requested, and the wallets hold nothing for one. -/
structure Opening (db : PlatformDb) : Prop where
  withdrawals : db.rows .withdrawals = []
  nonneg : ∀ wallet ∈ db.rows .tenantWallets, WalletService.Nonneg wallet
  unused : ∀ wallet ∈ db.rows .tenantWallets, wallet.reservedBalanceTzs = 0 ∧
    wallet.totalDisbursedTzs = 0

theorem Opening.releasable (hdb : Opening db) : Releasable db where
  nonneg := hdb.nonneg
  unapproved := by simp [hdb.withdrawals]
  requester := by simp [hdb.withdrawals]
  positive := by simp [hdb.withdrawals]
  covered tenantId := by
    have hdrawn : drawnOf db tenantId .reserved = 0 := by
      rw [drawnOf, Db.total, hdb.withdrawals]
      rfl
    rw [hdrawn, balanceOf]
    refine List.sum_nonneg fun value hvalue => ?_
    obtain ⟨wallet, hwallet, rfl⟩ := List.mem_map.mp hvalue
    split
    · exact hdb.nonneg wallet hwallet .reserved
    · exact le_rfl
  room tenantId := by
    by_cases hnone : ∃ wallet ∈ db.rows .tenantWallets, wallet.tenantId = tenantId
    · obtain ⟨wallet, hwallet, rfl⟩ := hnone
      have hfits := Numeric.fits_iff.mp (WalletService.fits_of_rowValid
        (db.valid .tenantWallets wallet hwallet) .available)
      have hreserved : balance wallet .reserved = 0 := (hdb.unused wallet hwallet).1
      have hdisbursed : balance wallet .totalDisbursed = 0 := (hdb.unused wallet hwallet).2
      rw [payableOf, balanceOf_of_mem hwallet, balanceOf_of_mem hwallet,
        balanceOf_of_mem hwallet, hreserved, hdisbursed, add_zero, add_zero]
      exact (abs_lt.mp hfits).2
    · have hzero : ∀ bucket, balanceOf db tenantId bucket = 0 := fun bucket =>
        db.total_eq_zero _ fun wallet hwallet => if_neg fun h => hnone ⟨wallet, hwallet, h⟩
      rw [payableOf, hzero, hzero, hzero]
      norm_num

/-- In every run whose requested amounts can be taken back and whose lookups are answered,
every open withdrawal can be finished in every state. -/
theorem canFinish_of_run {db : PlatformDb} {steps : List (PayoutStep finishTables)}
    (hdb : Opening db)
    (hsteps : Runs.All PayoutStep.next PayoutStep.Recoverable steps ⟨db, []⟩) :
    ∀ w ∈ (runPayouts steps ⟨db, []⟩).db.rows .withdrawals,
      w.status ∈ [.draft, .pendingApproval, .approved, .processing, .ambiguous] →
        CanFinish (runPayouts steps ⟨db, []⟩) w := by
  intro w hw hopen
  have h : Releasable (runPayouts steps ⟨db, []⟩).db :=
    Runs.run_invariant (fun world : PlatformWorld => Releasable world.db)
      (fun _ _ hstep h => PayoutStep.releasable hstep h) hsteps hdb.releasable
  have hheld : w.status.held = true := by
    revert hopen
    cases w.status <;> decide
  exact canFinish_of_movable hw hheld (h.unapproved w hw) (h.requester w hw) (h.movable hw hheld)

/-- A withdrawal is requested and confirmed, the provider's answers being these. -/
def confirmedRun (answers : List HttpResult) : List (PayoutStep finishTables) :=
  [.operation requestStep,
    .operation ⟨.confirmTwoFactor 1 0 5 "123456", sampleRuntime, answering answers⟩]

theorem opening_openingDb : Opening openingDb where
  withdrawals := rfl
  nonneg wallet hwallet := by
    obtain rfl := List.mem_singleton.mp hwallet
    intro bucket
    cases bucket <;> decide
  unused wallet hwallet := by
    obtain rfl := List.mem_singleton.mp hwallet
    exact ⟨rfl, rfl⟩

/-- The sample withdrawal, its transfer left without an answer. -/
theorem canFinish_timedOut :
    ((runPayouts (confirmedRun [lookupFound]) ⟨openingDb, []⟩).db.rows .withdrawals).length = 1 ∧
    ∀ w ∈ (runPayouts (confirmedRun [lookupFound]) ⟨openingDb, []⟩).db.rows .withdrawals,
      w.status ∈ [.draft, .pendingApproval, .approved, .processing, .ambiguous] →
        CanFinish (runPayouts (confirmedRun [lookupFound]) ⟨openingDb, []⟩) w :=
  ⟨by decide +kernel,
    canFinish_of_run opening_openingDb
      ⟨⟨fun _ _ _ _ hoperation => by
          cases hoperation
          exact opening_openingDb.releasable.requestable (by decide +kernel) (by decide +kernel),
        fun _ _ hgrants => hgrants.elim⟩,
      ⟨fun _ _ _ _ hoperation => (by cases hoperation),
        fun _ _ _ _ _ hanswer => (by cases hanswer)⟩,
      trivial⟩⟩

/-! ## Withdrawals left in `APPROVED` -/

/-- No step takes a withdrawal out of `APPROVED`. -/
theorem PayoutStep.approved_kept {kept : List Table} (step : PayoutStep kept)
    {world : PlatformWorld} (hkept : Table.withdrawals ∈ kept)
    (hw : w ∈ world.db.rows .withdrawals) (happroved : w.status = .approved) :
    w ∈ (step.next world).db.rows .withdrawals := by
  obtain ⟨w', hw', -, hbecame⟩ := step.became hkept hw
  cases hbecame with
  | same heq => exact heq ▸ hw'
  | reissued _ _ _ hdraft _ =>
    rw [happroved] at hdraft
    cases hdraft
  | handled hfrom _ _ _ => exact absurd happroved hfrom

theorem runPayouts_approved {kept : List Table} (steps : List (PayoutStep kept))
    {world : PlatformWorld} (hkept : Table.withdrawals ∈ kept)
    (hw : w ∈ world.db.rows .withdrawals) (happroved : w.status = .approved) :
    w ∈ (runPayouts steps world).db.rows .withdrawals :=
  Runs.run_kept (fun world : PlatformWorld => w ∈ world.db.rows .withdrawals)
    (fun step _ hw => step.approved_kept hkept hw happroved) steps hw

theorem not_canFinish_of_approved {world : PlatformWorld}
    (hw : w ∈ world.db.rows .withdrawals) (happroved : w.status = .approved) :
    ¬CanFinish world w := by
  have hkept : ∀ steps, w ∈ (runSteps steps world).db.rows .withdrawals := fun steps =>
    @runSteps_kept (fun world : PlatformWorld => w ∈ world.db.rows .withdrawals)
      (fun step _ hw => (PayoutStep.operation step : PayoutStep finishTables).approved_kept
        (by decide) hw happroved) steps world hw
  rintro ⟨before, last, v, -, hid, w', hw', hid', hfinished⟩
  obtain rfl : w' = w :=
    (runSteps (before ++ [last]) world).db.id_injOn (t := .withdrawals) hw'
      (hkept (before ++ [last])) (hid'.trans hid)
  rcases hfinished with ⟨hstatus, -⟩ | ⟨hstatus, -⟩ <;> rw [happroved] at hstatus
  · simp at hstatus
  · cases hstatus

/-- The lookup of the account times out: the withdrawal stays in `APPROVED`, and nothing
finishes it. -/
theorem not_canFinish_lookupLost :
    ¬∀ w ∈ (runPayouts (confirmedRun []) ⟨openingDb, []⟩).db.rows .withdrawals,
      w.status ∈ [.draft, .pendingApproval, .approved, .processing, .ambiguous] →
        CanFinish (runPayouts (confirmedRun []) ⟨openingDb, []⟩) w := by
  intro h
  have happroved : (runPayouts (confirmedRun []) ⟨openingDb, []⟩).db.rows .withdrawals |>.any
      fun w => w.status == .approved := by decide +kernel
  obtain ⟨w, hw, hstatus⟩ := List.any_eq_true.mp happroved
  have hstatus : w.status = .approved := eq_of_beq hstatus
  exact not_canFinish_of_approved hw hstatus (h w hw (by rw [hstatus]; decide))

end InfinityRadius.Services.PayoutService
