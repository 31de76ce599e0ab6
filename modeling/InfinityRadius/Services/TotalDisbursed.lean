import InfinityRadius.Services.Books

/-!
# Total disbursed

A completed payout is entered on the bucket it adds to.  A payout taken back is
entered on the bucket it returns to alone, so the ledger explains what a tenant was
paid in all only while no payout is taken back.
-/

namespace InfinityRadius.Services

open Amounts Database Payload Program Sql Models PayoutService WalletService

/-- Every wallet's total is its tenant's credits minus debits on the bucket. -/
def TotalExplained (db : PlatformDb) : Prop :=
  ∀ wallet ∈ db.rows .tenantWallets,
    wallet.totalDisbursedTzs = netOf db wallet.tenantId .totalDisbursed

/-- The wallet does not refuse to take the payout of the withdrawal back. -/
def Returnable (db : PlatformDb) (w : Withdrawal) : Prop :=
  ∃ wallet ∈ db.rows .tenantWallets, wallet.tenantId = w.tenantId ∧
    (returned (ofNumeric w.amount) wallet).isSome = true

/-- The step takes no payout back, and an adjustment of the bucket rounds to two decimals
as its amount does. -/
structure KeepsTotal (step : MoneyStep) (world : PlatformWorld) : Prop where
  notReturned : ∀ w ∈ world.db.rows .withdrawals, step.Reverses w → ¬Returnable world.db w
  exact : step.Exact .totalDisbursed world

/-- No payout was taken back. -/
def NoneReversed (db : PlatformDb) : Prop :=
  ∀ w ∈ db.rows .withdrawals, w.status ≠ .reversed

variable {db db' : PlatformDb} {w w' : Withdrawal}

theorem NoneReversed.replaced (hdb : NoneReversed db) (hw' : w'.status ≠ .reversed)
    (h : db'.rows .withdrawals = replaceRow schema .withdrawals w' (db.rows .withdrawals)) :
    NoneReversed db' := by
  intro v hv
  rw [h] at hv
  rcases mem_replaceRow hv with rfl | ⟨hold, -⟩
  · exact hw'
  · exact hdb v hold

theorem Booked.noneReversed {step : MoneyStep} {world : PlatformWorld}
    (h : Booked step world db') (hstep : KeepsTotal step world)
    (hdb : NoneReversed world.db) : NoneReversed db' := by
  cases h with
  | unchanged h =>
    rw [NoneReversed, h _ (by decide)]
    exact hdb
  | requested _ h =>
    intro v hv
    have hrows := h.withdrawals
    rw [hrows] at hv
    rcases List.mem_append.mp hv with hold | hnew
    · exact hdb v hold
    · rw [List.mem_singleton.mp hnew, h.status]
      decide
  | @reissued w w' hw _ hstatus h => exact hdb.replaced (hstatus ▸ hdb w hw) h.rows_self
  | @handled w w' hw hreverses h =>
    obtain ⟨wallets, entries, heffect⟩ := h.effect
    refine hdb.replaced (fun hto => ?_) heffect.withdrawals
    refine hstep.notReturned w hw (hreverses hto) ?_
    cases h with
    | kept _ hheld _ =>
      rw [hto] at hheld
      cases hheld
    | released _ hclosed _ =>
      rw [hto] at hclosed
      cases hclosed
    | disbursed _ hsuccess _ _ =>
      rw [hto] at hsuccess
      cases hsuccess
    | returned _ _ _ h =>
      obtain ⟨wallet, wallet', h⟩ := h
      exact ⟨wallet, h.stored, h.tenant, Option.isSome_iff_exists.mpr ⟨wallet', h.moved⟩⟩
  | posted _ h =>
    rw [NoneReversed, h.others _ (by decide)]
    exact hdb

theorem Balanced.totalExplained (hbalanced : Balanced .totalDisbursed db)
    (hdb : NoneReversed db) : TotalExplained db := by
  intro wallet hwallet
  have hsign : settledSign .totalDisbursed = 0 := rfl
  have hdrawn : drawnOf db wallet.tenantId .totalDisbursed = 0 := by
    apply Db.total_eq_zero
    intro w hw
    rw [drawn, if_neg (hdb w hw), zero_mul, ite_self]
  calc wallet.totalDisbursedTzs = balanceOf db wallet.tenantId .totalDisbursed :=
        (balanceOf_of_mem hwallet .totalDisbursed).symm
    _ = recorded db wallet.tenantId .totalDisbursed := hbalanced _
    _ = netOf db wallet.tenantId .totalDisbursed := by
        rw [recorded, hdrawn, hsign, zero_mul, add_zero, add_zero]

/-- In every run from empty books that takes no payout back, and whose adjustments of
the bucket round as their amounts do, the ledger explains the totals. -/
theorem totalExplained_of_run {steps : List MoneyStep} (hdb : Unopened db)
    (hsteps : Runs.All MoneyStep.next KeepsTotal steps ⟨db, []⟩) :
    TotalExplained (runMoney steps ⟨db, []⟩).db := by
  have hstart : NoneReversed db := by
    intro w hw
    rw [hdb _ (by decide)] at hw
    cases hw
  have hend := Runs.run_invariant
    (fun world : PlatformWorld =>
      Sound world.db ∧ Balanced .totalDisbursed world.db ∧ NoneReversed world.db)
    (fun step world hstep ⟨hsound, hbalanced, hnone⟩ => by
      have hbooked := step.booked hsound.nonneg
      exact ⟨hbooked.sound hsound, hbooked.balanced hstep.exact hbalanced,
        hbooked.noneReversed hstep hnone⟩)
    hsteps ⟨hdb.sound, hdb.balanced .totalDisbursed, hstart⟩
  exact hend.2.1.totalExplained hend.2.2

/-! ## Runs of each kind -/

/-- The transfer succeeded. -/
def transferred000 : HttpResult :=
  .response 200 (some (.obj [("success", .bool true), ("resultcode", .str "000")]))

/-- The 5000 TZS of the sample run are paid out, and entered on the bucket. -/
theorem totalExplained_paid :
    TotalExplained (runMoney (withdrawalRun [transferred000]) ⟨unopenedDb, []⟩).db ∧
      netOf (runMoney (withdrawalRun [transferred000]) ⟨unopenedDb, []⟩).db 1
        .totalDisbursed = 500000 := by
  refine ⟨totalExplained_of_run unopened_unopenedDb ?_, by decide +kernel⟩
  have hdeposit : ∀ world, KeepsTotal depositStep world :=
    fun _ => ⟨fun _ _ h => h.elim, fun _ _ _ h => by cases h⟩
  have hrequest : ∀ world, KeepsTotal (.payout (.operation requestStep)) world :=
    fun _ => ⟨fun _ _ h => h.elim, fun h => by simp at h⟩
  have hconfirm : ∀ world, KeepsTotal (.payout (.operation (confirmStep [transferred000]))) world :=
    fun _ => ⟨fun _ _ h => h.elim, fun h => by simp at h⟩
  exact ⟨hdeposit _, hrequest _, hconfirm _, trivial⟩

def reverseStep : MoneyStep :=
  .payout (.operation
    ⟨.reverseWithdrawal 1 0 none "sent back", sampleRuntime, answering []⟩)

/-- The payout of the sample run is taken back: the total is 0 TZS, the ledger's credits
on the bucket are still 5000 TZS. -/
theorem not_totalExplained_reversed :
    ¬TotalExplained
      (runMoney (withdrawalRun [transferred000] ++ [reverseStep]) ⟨unopenedDb, []⟩).db := by
  unfold TotalExplained
  decide +kernel

end InfinityRadius.Services
