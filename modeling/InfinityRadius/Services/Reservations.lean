import InfinityRadius.Services.Books

/-!
# Reservations

Reserving an amount writes no ledger entry: what a wallet holds in reserve is the
amounts of the withdrawals still open, and the adjustments of the bucket.
-/

namespace InfinityRadius.Services

open Amounts Database Payload Program Sql Models PayoutService WalletService

/-- The amounts of the tenant's withdrawals that are still open. -/
def openOf (db : PlatformDb) (tenantId : ℕ) : Numeric :=
  db.total .withdrawals fun w =>
    if w.tenantId = tenantId ∧
        w.status ∈ [.draft, .pendingApproval, .approved, .processing, .ambiguous] then
      w.amount
    else 0

/-- The adjustments of the tenant's reserved bucket, credits minus debits. -/
def adjustedOf (db : PlatformDb) (tenantId : ℕ) : Numeric :=
  db.total .ledgerEntries fun entry =>
    if entry.tenantId = tenantId ∧ entry.entryType = .adjustment ∧
        entry.walletBucket = some .reserved then
      signed entry
    else 0

variable {db db' : PlatformDb}

theorem drawnOf_reserved (db : PlatformDb) (tenantId : ℕ) :
    drawnOf db tenantId .reserved = openOf db tenantId := by
  rw [drawnOf, openOf]
  congr 1
  funext w
  by_cases htenant : w.tenantId = tenantId
  · rw [if_pos htenant]
    cases hstatus : w.status <;> simp [drawn, WithdrawalStatus.held, htenant]
  · rw [if_neg htenant, if_neg fun h => htenant h.1]

theorem netOf_reserved (hdb : Sound db) (tenantId : ℕ) :
    netOf db tenantId .reserved = adjustedOf db tenantId := by
  rw [netOf, adjustedOf, Db.total, Db.total]
  congr 1
  apply List.map_congr_left
  intro entry hentry
  rw [net_cons, net_nil, add_zero]
  by_cases htenant : entry.tenantId = tenantId
  · by_cases hbucket : entry.walletBucket = some .reserved
    · simp only [htenant, hbucket, hdb.adjusted entry hentry hbucket, and_self, if_true]
    · simp only [htenant, hbucket, and_false, if_false, if_true]
  · simp only [htenant, false_and, if_false]

/-- An amount went from one bucket of the withdrawal's tenant to another, and nothing
else moved. -/
def Shifted (db db' : PlatformDb) (w : Withdrawal) (first second : WalletBucket) : Prop :=
  ∀ tenantId bucket, balanceOf db' tenantId bucket = balanceOf db tenantId bucket +
    if tenantId = w.tenantId then transferred first second w.amount bucket else 0

/-- The withdrawal `w` was rewritten as `w'`, and no other one. -/
def Rewrites (db db' : PlatformDb) (w w' : Withdrawal) : Prop :=
  w ∈ db.rows .withdrawals ∧ w.SameRequest w' ∧
    db'.rows .withdrawals = replaceRow schema .withdrawals w' (db.rows .withdrawals)

/-- What a step did with the amounts of withdrawals: none moved, or one of them was
reserved, left the reserve, or came back after its payout. -/
inductive Flow (db db' : PlatformDb) : Prop
  | kept (hwithdrawals : db'.rows .withdrawals = db.rows .withdrawals ∨
        ∃ w w', Rewrites db db' w w' ∧ w'.status.held = w.status.held)
      (h : ∀ tenantId, balanceOf db' tenantId .reserved - adjustedOf db' tenantId =
        balanceOf db tenantId .reserved - adjustedOf db tenantId)
  | reserved {w : Withdrawal} (hstatus : w.status = .draft)
      (hwithdrawals : db'.rows .withdrawals = db.rows .withdrawals ++ [w])
      (h : Shifted db db' w .available .reserved)
  | released {w w' : Withdrawal} (hfrom : w.status.held = true)
      (hto : w'.status ∈ [.cancelled, .rejected, .failed]) (hwritten : Rewrites db db' w w')
      (h : Shifted db db' w .reserved .available)
  | disbursed {w w' : Withdrawal} (hfrom : w.status.held = true) (hto : w'.status = .success)
      (hwritten : Rewrites db db' w w') (h : Shifted db db' w .reserved .totalDisbursed)
  | returned {w w' : Withdrawal} (hfrom : w.status = .success) (hto : w'.status = .reversed)
      (hwritten : Rewrites db db' w w') (h : Shifted db db' w .totalDisbursed .available)

/-- The amount of the withdrawal leaves the reserve. -/
def Departs (db db' : PlatformDb) (withdrawalId : ℕ) : Prop :=
  (∃ w ∈ db.rows .withdrawals, w.id = withdrawalId ∧ w.status.held = true) ∧
    ∃ w' ∈ db'.rows .withdrawals, w'.id = withdrawalId ∧ w'.status.held = false

section Flow

variable {w w' : Withdrawal}

theorem PayoutService.Effect.rewrites {wallets : List TenantWallet → List TenantWallet}
    {entries : List LedgerEntry} (hw : w ∈ db.rows .withdrawals)
    (h : Effect db db' w w' wallets entries) : Rewrites db db' w w' :=
  ⟨hw, h.same, h.withdrawals⟩

theorem PayoutService.Handled.flow (hw : w ∈ db.rows .withdrawals) (h : Handled db db' w w') :
    Flow db db' := by
  cases h with
  | kept hfrom hto h =>
    refine .kept (Or.inr ⟨w, w', h.rewrites hw, hto.trans hfrom.symm⟩) fun tenantId => ?_
    rw [balanceOf_of_rows h.wallets, adjustedOf, Db.total_append _ h.ledger, adjustedOf]
    simp
  | released hfrom hto h =>
    obtain ⟨wallet, wallet', h⟩ := h
    refine .released hfrom ?_ (h.effect.rewrites hw)
      (MovedIn.balanceOf .reserved .available hw h)
    revert hto
    cases w'.status <;> decide
  | disbursed hfrom hto _ h =>
    obtain ⟨wallet, wallet', h⟩ := h
    exact .disbursed hfrom hto (h.effect.rewrites hw)
      (MovedIn.balanceOf .reserved .totalDisbursed hw h)
  | returned hfrom hto _ h =>
    obtain ⟨wallet, wallet', h⟩ := h
    exact .returned hfrom hto (h.effect.rewrites hw)
      (MovedIn.balanceOf .totalDisbursed .available hw h)

end Flow

/-- Where the amounts are exact, a step moves the amount of one withdrawal or of none. -/
theorem Booked.flow {step : MoneyStep} {world : PlatformWorld} (h : Booked step world db')
    (hexact : ∀ bucket, step.Exact bucket world) (hsound : Sound world.db) :
    Flow world.db db' := by
  have hsound' := h.sound hsound
  cases h with
  | unchanged h =>
    refine .kept (Or.inl (h _ (by decide))) fun tenantId => ?_
    rw [balanceOf_of_rows (h _ (by decide)), adjustedOf, Db.total_of_rows _ (h _ (by decide)),
      adjustedOf]
  | requested hamount h =>
    have hrequested := h.balanceOf (hamount .reserved (by decide) (hexact _))
    rw [← h.tenantId] at hrequested
    exact .reserved h.status h.withdrawals hrequested
  | @reissued w w' hw hsame hstatus h =>
    refine .kept (Or.inr ⟨w, w', ⟨hw, hsame, h.rows_self⟩, by rw [hstatus]⟩) fun tenantId => ?_
    rw [balanceOf_of_rows (h.rows_of_ne (by decide)), adjustedOf,
      Db.total_of_rows _ (h.rows_of_ne (by decide)), adjustedOf]
  | handled hw _ h => exact h.flow hw
  | posted hexplained h =>
    refine .kept (Or.inl (h.others _ (by decide))) fun tenantId => ?_
    have hreserved := hexplained .reserved (hexact _)
    rw [← netOf_reserved hsound', ← netOf_reserved hsound, h.balanceOf,
      netOf_append h.ledger h.ofTenant, hreserved, settledInto_eq]
    split <;> simp [settledSign]

theorem Rewrites.not_held {w w' : Withdrawal} (h : Rewrites db db' w w')
    (hheld : w.status.held = false → w'.status.held = false) {v : Withdrawal}
    (hv : v ∈ db.rows .withdrawals) (hvheld : v.status.held = false) :
    ∃ v' ∈ db'.rows .withdrawals, v'.id = v.id ∧ v'.status.held = false := by
  obtain ⟨hw, hsame, hrows⟩ := h
  rw [hrows]
  by_cases hid : v.id = w.id
  · obtain rfl := db.id_injOn (t := .withdrawals) hv hw hid
    exact ⟨w', mem_replaceRow_self hv hsame.id.symm, hsame.id, hheld hvheld⟩
  · exact ⟨v, mem_replaceRow_of_ne hv fun h => hid (h.trans hsame.id), rfl, hvheld⟩

/-- What left the reserve is not reserved again. -/
theorem Flow.not_held (h : Flow db db') {v : Withdrawal} (hv : v ∈ db.rows .withdrawals)
    (hvheld : v.status.held = false) :
    ∃ v' ∈ db'.rows .withdrawals, v'.id = v.id ∧ v'.status.held = false := by
  cases h with
  | kept hwithdrawals _ =>
    rcases hwithdrawals with hrows | ⟨w, w', hwritten, hheld⟩
    · exact ⟨v, hrows ▸ hv, rfl, hvheld⟩
    · exact hwritten.not_held (fun h => hheld.trans h) hv hvheld
  | reserved _ hrows _ => exact ⟨v, by rw [hrows]; exact List.mem_append_left _ hv, rfl, hvheld⟩
  | released _ hto hwritten _ =>
    refine hwritten.not_held (fun _ => ?_) hv hvheld
    revert hto
    generalize Withdrawal.status _ = status
    cases status <;> decide
  | disbursed _ hto hwritten _ =>
    exact hwritten.not_held (fun _ => by rw [hto]; rfl) hv hvheld
  | returned _ hto hwritten _ =>
    exact hwritten.not_held (fun _ => by rw [hto]; rfl) hv hvheld

theorem Departs.not_again {w : Withdrawal} (hw : w ∈ db.rows .withdrawals)
    (hheld : w.status.held = false) : ¬Departs db db' w.id := by
  rintro ⟨⟨v, hv, hid, hvheld⟩, -⟩
  obtain rfl := db.id_injOn (t := .withdrawals) hw hv hid.symm
  rw [hheld] at hvheld
  cases hvheld

/-! ## Runs -/

theorem MoneyStep.TwoDecimals.flow {step : MoneyStep} (hstep : step.TwoDecimals)
    (world : PlatformWorld) (hsound : Sound world.db) :
    Flow world.db (step.next world).db :=
  (step.booked hsound.nonneg).flow (fun bucket => hstep.exact bucket world) hsound

theorem runMoney_not_held {steps : List MoneyStep} {world : PlatformWorld} {w : Withdrawal}
    (hsteps : ∀ step ∈ steps, step.TwoDecimals) (hsound : Sound world.db)
    (hw : w ∈ world.db.rows .withdrawals) (hheld : w.status.held = false) :
    ∃ w' ∈ (runMoney steps world).db.rows .withdrawals, w'.id = w.id ∧
      w'.status.held = false := by
  induction steps generalizing world w with
  | nil => exact ⟨w, hw, rfl, hheld⟩
  | cons step steps ih =>
    have hstep := hsteps step List.mem_cons_self
    obtain ⟨v, hv, hid, hvheld⟩ := (hstep.flow world hsound).not_held hw hheld
    obtain ⟨w', hw', hid', hheld'⟩ := ih
      (fun other hother => hsteps other (List.mem_cons_of_mem _ hother)) (step.sound hsound) hv
      hvheld
    exact ⟨w', hw', hid'.trans hid, hheld'⟩

/-- In every run from empty books on amounts of at most two decimals: what a wallet
holds in reserve is the amounts of its open withdrawals and the adjustments; each step
moves the amount of one withdrawal, as its status is moved, or of none; and no amount
leaves the reserve twice. -/
theorem reserved_eq_open {db : PlatformDb} {steps : List MoneyStep} (hdb : Unopened db)
    (hsteps : ∀ step ∈ steps, step.TwoDecimals) :
    (∀ wallet ∈ (runMoney steps ⟨db, []⟩).db.rows .tenantWallets,
      wallet.reservedBalanceTzs = openOf (runMoney steps ⟨db, []⟩).db wallet.tenantId +
        adjustedOf (runMoney steps ⟨db, []⟩).db wallet.tenantId) ∧
    (∀ step : MoneyStep, step.TwoDecimals →
      Flow (runMoney steps ⟨db, []⟩).db (runMoney (steps ++ [step]) ⟨db, []⟩).db) ∧
    ∀ (first last : MoneyStep) (between : List MoneyStep) (withdrawalId : ℕ),
      (∀ step ∈ first :: between, step.TwoDecimals) →
      Departs (runMoney steps ⟨db, []⟩).db (runMoney (steps ++ [first]) ⟨db, []⟩).db
        withdrawalId →
      ¬Departs (runMoney (steps ++ first :: between) ⟨db, []⟩).db
        (runMoney (steps ++ first :: between ++ [last]) ⟨db, []⟩).db withdrawalId := by
  have hsound : Sound (runMoney steps ⟨db, []⟩).db := runMoney_sound steps hdb.sound
  have hexact : Runs.All MoneyStep.next (MoneyStep.Exact .reserved) steps ⟨db, []⟩ :=
    .of_forall (fun step hstep state => (hsteps step hstep).exact .reserved state) _
  have hbalanced := runMoney_balanced hexact hdb.sound (hdb.balanced .reserved)
  refine ⟨fun wallet hwallet => ?_, fun step hstep => ?_, ?_⟩
  · have hsign : settledSign .reserved = 0 := rfl
    have hwalletOf := balanceOf_of_mem hwallet .reserved
    rw [hbalanced wallet.tenantId, recorded, drawnOf_reserved, netOf_reserved hsound, hsign,
      zero_mul, add_zero] at hwalletOf
    rw [add_comm]
    exact hwalletOf.symm
  · rw [runMoney_append]
    exact hstep.flow _ hsound
  · rintro first last between withdrawalId hbetween ⟨-, w, hw, rfl, hheld⟩
    rw [runMoney_append] at hw
    obtain ⟨w', hw', hid, hheld'⟩ := runMoney_not_held
      (fun step hstep => hbetween step (List.mem_cons_of_mem _ hstep))
      ((first.booked hsound.nonneg).sound hsound) hw hheld
    rw [← hid, runMoney_append, runMoney_cons]
    exact Departs.not_again hw' hheld'

/-- The transfer of the sample run times out: its 5000 TZS stay in reserve. -/
theorem reserved_eq_open_timedOut :
    (∀ wallet ∈ (runMoney (withdrawalRun []) ⟨unopenedDb, []⟩).db.rows .tenantWallets,
      wallet.reservedBalanceTzs =
        openOf (runMoney (withdrawalRun []) ⟨unopenedDb, []⟩).db wallet.tenantId +
          adjustedOf (runMoney (withdrawalRun []) ⟨unopenedDb, []⟩).db wallet.tenantId) ∧
    openOf (runMoney (withdrawalRun []) ⟨unopenedDb, []⟩).db 1 = 500000 :=
  ⟨(reserved_eq_open unopened_unopenedDb (twoDecimals_withdrawalRun [])).1, by decide +kernel⟩

end InfinityRadius.Services
