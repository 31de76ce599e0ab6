import InfinityRadius.Services.PayoutChanges
import InfinityRadius.Services.Statements

/-!
# Maker and checker

Who may review a withdrawal: the columns say that the reviewer is never the requester, and the
operations compare neither.  Only an approval or a rejection writes the reviewer, so that the
rows are as good as the actors these two are called with.
-/

namespace InfinityRadius.Services

open Amounts Database Payload Program Sql Models Integrations.SelcomBusiness

/-- Writes that leave the requester of a withdrawal alone and its reviewer too, unless the
relation lets an actor review it. -/
def reviews (reviewer : ℕ → ℕ → Prop) : Footprint Table Row Request where
  inserts
    | .withdrawals, row => row.reviewedBy = none ∧ ∀ actorId, ¬reviewer row.id actorId
    | _, _ => True
  updates
    | .withdrawals, id, write => ∀ row : Withdrawal, (write row).requestedBy = row.requestedBy ∧
      ((write row).reviewedBy = row.reviewedBy ∨
        ∃ actorId, reviewer id actorId ∧ (write row).reviewedBy = some actorId)
    | _, _, _ => True
  sends _ := True

section Reviews

variable {reviewer : ℕ → ℕ → Prop} {w : Withdrawal} {set : Withdrawal → Withdrawal}

theorem all_updateWithdrawal (h : (set w).reviewedBy = w.reviewedBy) :
    (updateWithdrawal w set).All (reviews reviewer).Allows := by
  apply all_updateRow
  intro row
  have hsame := Withdrawal.sameRequest_flush w (set w) row
  refine ⟨hsame.requestedBy, .inl ?_⟩
  simp [Withdrawal.flush, written, h]

theorem all_reviewWithdrawal {actorId : ℕ} (hactor : reviewer w.id actorId)
    (h : (set w).reviewedBy = some actorId) :
    (updateWithdrawal w set).All (reviews reviewer).Allows := by
  apply all_updateRow
  intro row
  have hsame := Withdrawal.sameRequest_flush w (set w) row
  refine ⟨hsame.requestedBy, ?_⟩
  by_cases hwritten : (set w).reviewedBy = w.reviewedBy
  · left
    simp [Withdrawal.flush, written, hwritten]
  · right
    refine ⟨actorId, hactor, ?_⟩
    rw [← h]
    exact if_neg hwritten

theorem lets_reviews : Lets (reviews reviewer).Allows where
  select _ _ _ := trivial
  selectForUpdate _ _ _ := trivial
  scan _ _ _ := trivial
  insert t _ ht := by
    intro id
    cases t <;> trivial
  update t _ _ ht := by cases t <;> trivial
  rewrite w set h := by
    have hreviewed : (set w).reviewedBy = w.reviewedBy := congrArg (fun g => g.2.2.2.2.2.2.2) h
    exact (all_updateWithdrawal hreviewed).1
  ask _ := trivial
  send _ := trivial

theorem letsCodes_reviews : LetsCodes (reviews reviewer).Allows where
  toLets := lets_reviews
  code _ _ h := (all_updateWithdrawal h).1

/-! ## Operations -/

namespace PayoutService

theorem all_requestWithdrawal (runtime : Runtime) (tenantId actorId destinationId : ℕ)
    (amount : Decimal) :
    (requestWithdrawal runtime tenantId actorId destinationId amount).All
      (reviews fun _ _ => False).Allows := by
  refine .bind (Prog.all_require _ _) fun _ => .bind (all_getById _ _) fun _ =>
    .bind (Prog.all_orRaise _ _) fun _ => .bind (.bind (all_selectFirst _) fun _ => trivial)
      fun _ => .bind (Prog.all_require _ _) fun _ => .bind (Prog.all_require _ _) fun _ =>
        .bind (all_selectOne _) fun _ => .bind (Prog.all_require _ _) fun _ =>
          .bind (lets_resolveVerifiedEmail lets_reviews _ _) fun _ =>
            .bind (lets_enforceWithdrawalLimits lets_reviews _ _ _) fun _ => ?_
  have hreserved := WalletService.lets_reserveForWithdrawal (@lets_reviews fun _ _ => False)
  refine .bind (Prog.All.tryCatch (hreserved _ _) fun failure => ?_)
    fun _ => .bind all_uuidHex fun _ => .bind (all_create fun _ => ⟨rfl, fun _ h => h⟩) fun _ =>
      .bind (all_create fun _ => trivial) fun _ =>
        .bind (lets_issueAndSendOtp letsCodes_reviews _ _) fun _ => trivial
  cases failure <;> trivial

end PayoutService

/-! ## What the writes keep -/

/-- The withdrawal was reviewed by the one who requested it. -/
def SelfReviewed (w : Withdrawal) : Prop := w.reviewedBy.isSome ∧ w.reviewedBy = w.requestedBy

instance (w : Withdrawal) : Decidable (SelfReviewed w) := inferInstanceAs (Decidable (_ ∧ _))

/-- No withdrawal is reviewed by its requester, nor is any that the relation offers for review. -/
def Reviewable (reviewer : ℕ → ℕ → Prop) (db : PlatformDb) : Prop :=
  ∀ w ∈ db.rows .withdrawals, ¬SelfReviewed w ∧
    ∀ actorId, reviewer w.id actorId → w.requestedBy ≠ some actorId

variable {α : Type} {x : Tx α} {world : PlatformWorld}

theorem always_reviews (hall : x.All (reviews reviewer).Allows)
    (h : Reviewable reviewer world.db) :
    Always (fun _ => false) (fun _ world' => Reviewable reviewer world'.db)
      (fun _ world' => Reviewable reviewer world'.db) x world := by
  refine always_db_invariant hall ?_ ?_ h
  · intro db db' t row hinserts _ happended hdb w hw
    by_cases ht : t = .withdrawals
    · subst ht
      rw [happended.rows_self] at hw
      cases List.mem_append.mp hw with
      | inl hw => exact hdb w hw
      | inr hw =>
        obtain rfl := List.mem_singleton.mp hw
        obtain ⟨hnone, hnobody⟩ := hinserts
        refine ⟨fun hself => ?_, fun actorId hreviewer => absurd hreviewer (hnobody actorId)⟩
        rw [SelfReviewed, hnone] at hself
        cases hself.1
    · rw [happended.rows_of_ne fun heq => ht heq.symm] at hw
      exact hdb w hw
  · intro db db' t old id write hupdates hold hid hid' hreplaced hdb w hw
    by_cases ht : t = .withdrawals
    · subst ht
      rw [hreplaced.rows_self] at hw
      cases mem_replaceRow hw with
      | inr hw => exact hdb w hw.1
      | inl hw =>
        obtain ⟨hkept, hoffered⟩ := hdb old hold
        obtain ⟨hrequested, hreviewed⟩ := hupdates old
        have hold : old.id = id := hid
        have hsameId : w.id = old.id := hw ▸ hid'.trans hid.symm
        rw [SelfReviewed, hsameId, hw, hrequested]
        refine ⟨?_, hoffered⟩
        cases hreviewed with
        | inl hreviewed =>
          rw [hreviewed]
          exact hkept
        | inr hreviewed =>
          obtain ⟨actorId, hreviewer, hreviewed⟩ := hreviewed
          rw [hreviewed]
          exact fun hself => hoffered actorId (hold ▸ hreviewer) hself.2.symm
    · rw [hreplaced.rows_of_ne fun heq => ht heq.symm] at hw
      exact hdb w hw

theorem Reviewable.mono {reviewer' : ℕ → ℕ → Prop} {db : PlatformDb}
    (h : Reviewable reviewer db)
    (hoffered : ∀ w ∈ db.rows .withdrawals, ∀ actorId, reviewer' w.id actorId →
      w.requestedBy ≠ some actorId) : Reviewable reviewer' db :=
  fun w hw => ⟨(h w hw).1, hoffered w hw⟩

end Reviews

namespace PayoutService

/-! ## Reviews -/

variable {world : PlatformWorld} {runtime : Runtime} {withdrawalId actorId : ℕ}

/-- No withdrawal is reviewed by its requester. -/
abbrev NoneSelfReviewed (db : PlatformDb) : Prop := Reviewable (fun _ _ => False) db

/-- The actor requested the withdrawal, which waits to be reviewed. -/
def OwnRequest (withdrawalId actorId : ℕ) (db : PlatformDb) : Prop :=
  ∃ w ∈ db.rows .withdrawals, w.id = withdrawalId ∧ w.status = .pendingApproval ∧
    w.requestedBy = some actorId

instance (withdrawalId actorId : ℕ) (db : PlatformDb) :
    Decidable (OwnRequest withdrawalId actorId db) :=
  inferInstanceAs (Decidable (∃ w ∈ db.rows .withdrawals, _))

/-- A review by someone who did not request the withdrawal. -/
theorem always_review {α : Type} {y : Tx α} {w : Withdrawal} (hw : w ∈ world.db.rows .withdrawals)
    (hpending : w.status = .pendingApproval) (hown : ¬OwnRequest w.id actorId world.db)
    (hdb : NoneSelfReviewed world.db)
    (hall : y.All (reviews fun id actor => id = w.id ∧ actor = actorId).Allows) :
    Always (fun _ => false) (fun _ world' => NoneSelfReviewed world'.db)
      (fun _ world' => NoneSelfReviewed world'.db) y world := by
  have hoffered : Reviewable (fun id actor => id = w.id ∧ actor = actorId) world.db := by
    apply hdb.mono
    rintro v hv actor ⟨hid, rfl⟩ hrequested
    obtain rfl : v = w := world.db.id_injOn (t := .withdrawals) hv hw hid
    exact hown ⟨v, hv, rfl, hpending, hrequested⟩
  have hnone : ∀ db : PlatformDb,
      Reviewable (fun id actor => id = w.id ∧ actor = actorId) db → NoneSelfReviewed db :=
    fun db h => h.mono fun _ _ _ hfalse => hfalse.elim
  exact (always_reviews hall hoffered).mono (fun _ world' => hnone world'.db)
    fun _ world' => hnone world'.db

theorem approveWithdrawal_reviews {notes : Option String}
    (hown : ¬OwnRequest withdrawalId actorId world.db) (hdb : NoneSelfReviewed world.db) :
    Always (fun _ => false) (fun _ world' => NoneSelfReviewed world'.db)
      (fun _ world' => NoneSelfReviewed world'.db)
      (approveWithdrawal runtime withdrawalId actorId notes) world := by
  refine always_lockWithdrawal (fun _ h => by cases h) (fun w hw hid _ => ?_) hdb
  subst hid
  refine always_bind.mpr (always_require (fun hpending => ?_) fun _ => hdb)
  apply always_review hw hpending hown hdb
  exact .bind all_now fun _ => .bind (all_reviewWithdrawal ⟨rfl, rfl⟩ rfl) fun _ =>
    .bind (lets_transition lets_reviews _ _ _) fun _ => lets_submitToSelcom lets_reviews _ _

theorem rejectWithdrawal_reviews {reason : String}
    (hown : strip reason ≠ "" → ¬OwnRequest withdrawalId actorId world.db)
    (hdb : NoneSelfReviewed world.db) :
    Always (fun _ => false) (fun _ world' => NoneSelfReviewed world'.db)
      (fun _ world' => NoneSelfReviewed world'.db)
      (rejectWithdrawal withdrawalId actorId reason) world := by
  refine always_bind.mpr (always_require (fun hreason => ?_) fun _ => hdb)
  refine always_lockWithdrawal (fun _ h => by cases h) (fun w hw hid _ => ?_) hdb
  subst hid
  refine always_bind.mpr (always_require (fun hpending => ?_) fun _ => hdb)
  apply always_review hw hpending (hown hreason) hdb
  exact .bind (WalletService.lets_releaseReservation lets_reviews _ _) fun _ =>
    .bind all_now fun _ => .bind all_now fun _ => .bind (all_reviewWithdrawal ⟨rfl, rfl⟩ rfl) fun _ =>
      lets_transition lets_reviews _ _ _

/-! ## Runs -/

/-- The operation has an actor approve or reject what it requested. -/
def Operation.SelfReview (db : PlatformDb) : Operation → Prop
  | .approveWithdrawal withdrawalId actorId _ => OwnRequest withdrawalId actorId db
  | .rejectWithdrawal withdrawalId actorId reason =>
    strip reason ≠ "" ∧ OwnRequest withdrawalId actorId db
  | _ => False

def PayoutStep.SelfReview {kept : List Table} (step : PayoutStep kept) (world : PlatformWorld) :
    Prop :=
  match step with
  | .operation own => own.operation.SelfReview world.db
  | _ => False

theorem Operation.always_noneSelfReviewed (operation : Operation)
    (hown : ¬operation.SelfReview world.db) (hdb : NoneSelfReviewed world.db) :
    Always (fun _ => false) (fun _ world' => NoneSelfReviewed world'.db)
      (fun _ world' => NoneSelfReviewed world'.db) (operation.program runtime) world := by
  cases operation with
  | approveWithdrawal withdrawalId actorId notes =>
    exact always_bind.mpr (approveWithdrawal_reviews hown hdb)
  | rejectWithdrawal withdrawalId actorId reason =>
    exact always_bind.mpr (rejectWithdrawal_reviews (fun hreason h => hown ⟨hreason, h⟩) hdb)
  | requestWithdrawal =>
    exact always_bind.mpr (always_reviews (all_requestWithdrawal _ _ _ _ _) hdb)
  | resendOtp =>
    exact always_bind.mpr (always_reviews (lets_resendOtp letsCodes_reviews _ _ _ _) hdb)
  | confirmTwoFactor =>
    exact always_bind.mpr (always_reviews (lets_confirmTwoFactor letsCodes_reviews _ _ _ _ _) hdb)
  | cancelWithdrawal =>
    exact always_bind.mpr (always_reviews (lets_cancelWithdrawal lets_reviews _ _ _ _) hdb)
  | reverseWithdrawal =>
    exact always_bind.mpr (always_reviews (lets_reverseWithdrawal lets_reviews _ _ _ _) hdb)
  | reconcileWithdrawal =>
    exact always_bind.mpr (always_reviews (lets_reconcileWithdrawal lets_reviews _ _) hdb)
  | reconcileIfPending =>
    exact always_bind.mpr (always_reviews (lets_reconcileIfPending lets_reviews _ _) hdb)

theorem PayoutStep.noneSelfReviewed {kept : List Table} (hkept : Table.withdrawals ∈ kept)
    (step : PayoutStep kept) (hown : ¬step.SelfReview world) (hdb : NoneSelfReviewed world.db) :
    NoneSelfReviewed (step.next world).db := by
  cases step with
  | operation own =>
    have halways := @Operation.always_noneSelfReviewed ⟨world.db, []⟩ own.runtime own.operation
      hown hdb
    cases transact_db own.outside halways with
    | inl hreturned => exact hreturned.elim fun _ h => h
    | inr hsame => exact hsame ▸ hdb
  | disbursementResult withdrawalId providerSucceeded providerReference detail outside =>
    have halways := @always_reviews (fun _ _ => False) _ _ ⟨world.db, []⟩
      (lets_applyDisbursementResult lets_reviews withdrawalId providerSucceeded providerReference
        detail) hdb
    cases transact_db outside halways with
    | inl hreturned => exact hreturned.elim fun _ h => h
    | inr hsame => exact hsame ▸ hdb
  | elsewhere change h =>
    intro w hw
    rw [PayoutStep.next, h world.db _ hkept] at hw
    exact hdb w hw

/-- In a run in which nobody reviews what they requested, no withdrawal ends up reviewed by
its requester. -/
theorem not_selfReviewed_of_run {steps : List (PayoutStep [.withdrawals])}
    {world : PlatformWorld} (hstart : ∀ w ∈ world.db.rows .withdrawals, ¬SelfReviewed w)
    (hsteps : Runs.All PayoutStep.next (fun step world => ¬step.SelfReview world) steps world) :
    ∀ w ∈ (runPayouts steps world).db.rows .withdrawals, ¬SelfReviewed w := by
  have hreviewed : NoneSelfReviewed (runPayouts steps world).db :=
    Runs.run_invariant (fun world : PlatformWorld => NoneSelfReviewed world.db)
      (fun step _ hown hdb => step.noneSelfReviewed (by decide) hown hdb) hsteps
      fun w hw => ⟨hstart w hw, fun _ hfalse => hfalse.elim⟩
  exact fun w hw => (hreviewed w hw).1

/-! ## A requester that approves -/

/-- The sample service, where a withdrawal of more than 1000 is reviewed. -/
def reviewRuntime : Runtime :=
  { sampleRuntime with
    settings := { sampleSettings with selcomWithdrawalApprovalThresholdTzs := 1000 } }

/-- A withdrawal that actor 5 requests and confirms and the given actor approves. -/
def approvedRun (actorId : ℕ) : List (PayoutStep [.withdrawals]) :=
  [.operation ⟨.requestWithdrawal 1 5 0 5000, reviewRuntime, answering []⟩,
    .operation ⟨.confirmTwoFactor 1 0 5 "123456", reviewRuntime, answering []⟩,
    .operation ⟨.approveWithdrawal 0 actorId none, reviewRuntime, answering []⟩]

theorem not_selfReviewed_another :
    ((runPayouts (approvedRun 6) ⟨openingDb, []⟩).db.rows .withdrawals).all
      (fun w => !decide (SelfReviewed w)) = true := by
  have hrun : ∀ w ∈ (runPayouts (approvedRun 6) ⟨openingDb, []⟩).db.rows .withdrawals,
      ¬SelfReviewed w := by
    apply not_selfReviewed_of_run
    · intro w hw
      cases hw
    · refine ⟨fun h => h, fun h => h, ?_, trivial⟩
      have hanother : ¬OwnRequest 0 6
          (runPayouts ((approvedRun 6).take 2) ⟨openingDb, []⟩).db := by
        decide +kernel
      exact hanother
  apply List.all_eq_true.mpr
  intro w hw
  simpa using hrun w hw

theorem selfReviewed_own : ¬∀ w ∈
    (runPayouts (approvedRun 5) ⟨openingDb, []⟩).db.rows .withdrawals, ¬SelfReviewed w := by
  decide +kernel

end PayoutService

end InfinityRadius.Services
