import InfinityRadius.Core.Endings
import InfinityRadius.Core.SerialOrders
import InfinityRadius.Services.PayoutRuns
import InfinityRadius.Services.Statements

/-!
# Decisions side by side

Requests that decide about one withdrawal, interleaved statement by statement.  Each of them locks
the row before it reads anything else, so together they do what they do in some order one after
the other.
-/

namespace InfinityRadius.Services.PayoutService

open Database Interleaving Models Payload Program Sql

/-! ## The requests -/

/-- A request about a withdrawal that is there already. -/
inductive Handling
  | resendOtp (tenantId actorId : ℕ)
  | confirmTwoFactor (tenantId actorId : ℕ) (code : String)
  | approveWithdrawal (actorId : ℕ) (notes : Option String)
  | rejectWithdrawal (actorId : ℕ) (reason : String)
  | cancelWithdrawal (tenantId actorId : ℕ) (reason : Option String)
  | reverseWithdrawal (tenantId : ℕ) (actorId : Option ℕ) (reason : String)
  | reconcileWithdrawal
  | reconcileIfPending

def Handling.operation (withdrawalId : ℕ) : Handling → Operation
  | resendOtp tenantId actorId => .resendOtp tenantId withdrawalId actorId
  | confirmTwoFactor tenantId actorId code =>
    .confirmTwoFactor tenantId withdrawalId actorId code
  | approveWithdrawal actorId notes => .approveWithdrawal withdrawalId actorId notes
  | rejectWithdrawal actorId reason => .rejectWithdrawal withdrawalId actorId reason
  | cancelWithdrawal tenantId actorId reason =>
    .cancelWithdrawal tenantId withdrawalId actorId reason
  | reverseWithdrawal tenantId actorId reason =>
    .reverseWithdrawal tenantId withdrawalId actorId reason
  | reconcileWithdrawal => .reconcileWithdrawal withdrawalId
  | reconcileIfPending => .reconcileIfPending withdrawalId

/-- The transaction of a request, that its route commits. -/
def handled (withdrawalId : ℕ) (call : Runtime × Handling) : Tx Unit :=
  (call.2.operation withdrawalId).program call.1

/-! ## Whose withdrawal it is -/

/-- No withdrawal is created, and none is moved to another tenant. -/
def housed : Footprint Table Row Request where
  inserts
    | .withdrawals, _ => False
    | _, _ => True
  updates
    | .withdrawals, _, write => ∀ row : Withdrawal, (write row).tenantId = row.tenantId
    | _, _, _ => True
  sends _ := True

theorem all_updateWithdrawal_housed (w : Withdrawal) (set : Withdrawal → Withdrawal) :
    (updateWithdrawal w set).All housed.Allows := by
  apply all_updateRow
  intro row
  exact (Withdrawal.sameRequest_flush w (set w) row).tenantId

theorem letsCodes_housed : LetsCodes housed.Allows where
  select _ _ _ := trivial
  selectForUpdate _ _ _ := trivial
  scan _ _ _ := trivial
  insert t _ ht := by
    intro id
    cases t with
    | withdrawals => exact absurd (List.mem_cons_of_mem _ List.mem_cons_self) ht
    | _ => trivial
  update t _ _ ht := by
    cases t with
    | withdrawals => exact absurd (List.mem_cons_of_mem _ List.mem_cons_self) ht
    | _ => trivial
  rewrite w set _ := (all_updateWithdrawal_housed w set).1
  ask _ := trivial
  send _ := trivial
  code w set _ := (all_updateWithdrawal_housed w set).1

theorem all_handled (withdrawalId : ℕ) (call : Runtime × Handling) :
    (handled withdrawalId call).All housed.Allows := by
  have hcodes := letsCodes_housed
  have hlets := hcodes.toLets
  obtain ⟨runtime, handling⟩ := call
  cases handling with
  | resendOtp => exact .bind (lets_resendOtp hcodes _ _ _ _) fun _ => trivial
  | confirmTwoFactor => exact .bind (lets_confirmTwoFactor hcodes _ _ _ _ _) fun _ => trivial
  | approveWithdrawal =>
    refine .bind ?_ fun _ => trivial
    exact .bind (all_getByIdForUpdate _ _) fun _ => .bind (Prog.all_orRaise _ _) fun _ =>
      .bind (Prog.all_require _ _) fun _ => .bind all_now fun _ =>
        .bind (all_updateWithdrawal_housed _ _) fun _ =>
          .bind (lets_transition hlets _ _ _) fun _ => lets_submitToSelcom hlets _ _
  | rejectWithdrawal =>
    refine .bind ?_ fun _ => trivial
    exact .bind (Prog.all_require _ _) fun _ => .bind (all_getByIdForUpdate _ _) fun _ =>
      .bind (Prog.all_orRaise _ _) fun _ => .bind (Prog.all_require _ _) fun _ =>
        .bind (WalletService.lets_releaseReservation hlets _ _) fun _ => .bind all_now fun _ =>
          .bind all_now fun _ => .bind (all_updateWithdrawal_housed _ _) fun _ =>
            lets_transition hlets _ _ _
  | cancelWithdrawal => exact .bind (lets_cancelWithdrawal hlets _ _ _ _) fun _ => trivial
  | reverseWithdrawal => exact .bind (lets_reverseWithdrawal hlets _ _ _ _) fun _ => trivial
  | reconcileWithdrawal => exact .bind (lets_reconcileWithdrawal hlets _ _) fun _ => trivial
  | reconcileIfPending => exact .bind (lets_reconcileIfPending hlets _ _) fun _ => trivial

section Tenants

variable {withdrawalId : ℕ} {tenant : Option ℕ} {w : Withdrawal} {committed : Tables Row}
  {own own' : Own Row}

/-- The withdrawal is the tenant's, or there is none. -/
def HousedBy (withdrawalId : ℕ) (tenant : Option ℕ) (rows : List Withdrawal) : Prop :=
  column schema .withdrawals withdrawalId Withdrawal.tenantId rows = tenant.toList

def householding (withdrawalId : ℕ) (tenant : Option ℕ) : Discipline Row where
  inv committed := HousedBy withdrawalId tenant (committed .withdrawals)
  rely _ _ _ := True
  refl _ _ := trivial
  trans _ _ := trivial
  mono _ _ := trivial

theorem HousedBy.tenantId_eq {rows : List Withdrawal} (h : HousedBy withdrawalId tenant rows)
    (hw : w ∈ rows) (hid : w.id = withdrawalId) : some w.tenantId = tenant := by
  have hmem : w.tenantId ∈ column schema .withdrawals withdrawalId Withdrawal.tenantId rows :=
    @mem_column _ _ schema .withdrawals _ _ _ _ _ hw hid
  rw [h, Option.mem_toList] at hmem
  exact hmem.symm

/-- Every write of the transaction leaves the withdrawal with its tenant. -/
def Houses (withdrawalId : ℕ) (tenant : Option ℕ) (own : Own Row) : Prop :=
  ∀ w ∈ own.written .withdrawals, w.id = withdrawalId → some w.tenantId = tenant

theorem HousedBy.overlay {written rows : List Withdrawal}
    (h : HousedBy withdrawalId tenant rows)
    (hwritten : ∀ w ∈ written, w.id = withdrawalId → some w.tenantId = tenant) :
    HousedBy withdrawalId tenant
      (written.foldl (fun rows w => storeRow schema .withdrawals w rows) rows) := by
  induction written generalizing rows with
  | nil => exact h
  | cons w written ih =>
    obtain ⟨hw, hrest⟩ := List.forall_mem_cons.mp hwritten
    apply ih _ hrest
    apply (@column_storeRow _ _ schema .withdrawals _ _ _ _ _ _ _).trans h
    · intro hid
      obtain rfl := hw hid
      exact @exists_of_column_ne_nil _ _ schema .withdrawals _ _ _ _ (by rw [h]; simp)
    · intro old hold hkey hid
      exact Option.some.inj ((hw hid).trans (h.tenantId_eq hold hkey).symm)

theorem Houses.reply {held : Held Row} {draw : Draw Ask Answer HttpResult}
    {keys : List (Key Table)} {s : Stmt Table Row Ask Request}
    {reply : Reply Answer HttpResult s} (hs : housed.Allows s)
    (hcommitted : HousedBy withdrawalId tenant (committed .withdrawals))
    (h : Houses withdrawalId tenant own)
    (hreply : own.reply schema committed held draw keys s = some (reply, own')) :
    Houses withdrawalId tenant own' := by
  cases s with
  | select t p =>
    obtain ⟨-, rfl⟩ := Prod.mk.inj (Option.some.inj hreply)
    exact h
  | selectForUpdate t p =>
    obtain ⟨-, rfl⟩ := Prod.mk.inj (Option.some.inj hreply)
    exact h
  | scan t p =>
    obtain ⟨-, rfl⟩ := Prod.mk.inj (Option.some.inj hreply)
    exact h
  | insert t build =>
    have hne : t ≠ .withdrawals := by
      rintro rfl
      exact hs 0
    have hspares : (sparing Table.withdrawals).Allows
        (.insert t build : Stmt Table Row Ask Request) := fun _ => hne
    intro w hw
    rw [Own.reply_spares hspares hreply] at hw
    exact h w hw
  | update t id write =>
    by_cases ht : t = .withdrawals
    · subst ht
      rcases Own.reply_update hreply with ⟨-, rfl⟩ | ⟨old, hold, hid, hkept, -, rfl⟩
      · exact h
      · intro w hw hkey
        rw [Own.written_write] at hw
        rcases mem_storeRow.mp hw with rfl | ⟨hbefore, -⟩
        · rw [hs old]
          have hkey : old.id = withdrawalId := hid.trans (hkept.symm.trans hkey)
          rcases mem_overlay hold with hstored | hwritten
          · exact hcommitted.tenantId_eq hstored hkey
          · exact h old hwritten hkey
        · exact h w hbefore hkey
    · have hspares : (sparing Table.withdrawals).Allows
          (.update t id write : Stmt Table Row Ask Request) := ht
      intro w hw
      rw [Own.reply_spares hspares hreply] at hw
      exact h w hw
  | ask question =>
    obtain ⟨-, rfl⟩ := Prod.mk.inj (Option.some.inj hreply)
    exact h
  | send request =>
    obtain ⟨-, rfl⟩ := Prod.mk.inj (Option.some.inj hreply)
    exact h

/-- Whatever is answered, the withdrawal stays with its tenant. -/
theorem ensures_housed {α : Type} {x : Tx α} (hall : x.All housed.Allows)
    (hown : Houses withdrawalId tenant own) :
    Ensures schema (householding withdrawalId tenant)
      (fun _ own' later => (householding withdrawalId tenant).inv
        (overlay schema later own'.written)) x own committed := by
  induction x generalizing own committed with
  | done result =>
    cases result with
    | ok a => exact fun later _ hinv => HousedBy.overlay hinv hown
    | error e => trivial
  | step s next ih =>
    intro later _ hinv held draw keys reply own' hreply
    exact ih reply (hall.2 reply) (hown.reply hall.1 hinv hreply)

/-! ## The row that is locked -/

/-- Which keys a request asks for depends on the tenant alone. -/
theorem wanted_withdrawal {tenantId : Option ℕ}
    (h : HousedBy withdrawalId tenant (committed .withdrawals)) :
    ({} : Own Row).wanted schema committed (.selectForUpdate .withdrawals fun row =>
        ofTenant .withdrawals tenantId row && rowId .withdrawals row == withdrawalId :
          Stmt Table Row Ask Request) =
      (tenant.toList.filter fun id => tenantId.all (· == id)).map fun _ =>
        (.withdrawals, withdrawalId) := by
  have hkeys : ({} : Own Row).wanted schema committed (.selectForUpdate .withdrawals fun row =>
        ofTenant .withdrawals tenantId row && rowId .withdrawals row == withdrawalId :
          Stmt Table Row Ask Request) =
      ((committed .withdrawals).filter fun w => tenantId.all (fun id => some w.tenantId == some id)
        && w.id == withdrawalId).map fun w => (.withdrawals, w.id) := rfl
  have hcolumn : (column schema .withdrawals withdrawalId Withdrawal.tenantId
        (committed .withdrawals)).filter (fun id => tenantId.all (· == id)) =
      ((committed .withdrawals).filter fun w => tenantId.all (fun id => some w.tenantId == some id)
        && w.id == withdrawalId).map Withdrawal.tenantId := by
    rw [column, List.filter_map, List.filter_filter]
    congr 2
    funext w
    cases tenantId with
    | none => rfl
    | some id =>
      rw [Function.comp_apply, Option.all_some, Option.all_some, Option.some_beq_some]
      congr 1
      exact Bool.beq_comm
  rw [hkeys, ← h, hcolumn, List.map_map]
  apply List.map_congr_left
  intro w hw
  have hid := (Bool.and_eq_true_iff.mp (List.mem_filter.mp hw).2).2
  rw [beq_iff_eq.mp hid]
  rfl

theorem first_handled (call : Runtime × Handling) :
    (∃ e, handled withdrawalId call = .done (.error e)) ∨
      ∃ tenantId next, handled withdrawalId call = .step (.selectForUpdate .withdrawals fun row =>
        ofTenant .withdrawals tenantId row && rowId .withdrawals row == withdrawalId) next ∧
          ∃ e, next [] = .done (.error e) := by
  obtain ⟨runtime, handling⟩ := call
  cases handling with
  | resendOtp tenantId actorId => exact Or.inr ⟨some tenantId, _, rfl, _, rfl⟩
  | confirmTwoFactor tenantId actorId code => exact Or.inr ⟨some tenantId, _, rfl, _, rfl⟩
  | approveWithdrawal actorId notes => exact Or.inr ⟨none, _, rfl, _, rfl⟩
  | rejectWithdrawal actorId reason =>
    by_cases hreason : strip reason ≠ ""
    · right
      refine ⟨none, ?_⟩
      simp only [handled, Handling.operation, Operation.program, rejectWithdrawal,
        Prog.require_true hreason, Prog.pure_bind]
      exact ⟨_, rfl, _, rfl⟩
    · left
      simp only [handled, Handling.operation, Operation.program, rejectWithdrawal,
        Prog.require_false hreason, Prog.throw_bind]
      exact ⟨_, rfl⟩
  | cancelWithdrawal tenantId actorId reason => exact Or.inr ⟨some tenantId, _, rfl, _, rfl⟩
  | reverseWithdrawal tenantId actorId reason =>
    by_cases hreason : strip reason ≠ ""
    · right
      refine ⟨some tenantId, ?_⟩
      simp only [handled, Handling.operation, Operation.program, reverseWithdrawal,
        Prog.require_true hreason, Prog.pure_bind]
      exact ⟨_, rfl, _, rfl⟩
    · left
      simp only [handled, Handling.operation, Operation.program, reverseWithdrawal,
        Prog.require_false hreason, Prog.throw_bind]
      exact ⟨_, rfl⟩
  | reconcileWithdrawal => exact Or.inr ⟨none, _, rfl, _, rfl⟩
  | reconcileIfPending => exact Or.inr ⟨none, _, rfl, _, rfl⟩

theorem locks_handled :
    Locks schema (handled withdrawalId) (householding withdrawalId tenant).inv
      (.withdrawals, withdrawalId) where
  first call := by
    rcases first_handled call with hraises | ⟨tenantId, next, hprogram, hnone⟩
    · exact Or.inl hraises
    · refine Or.inr ⟨.withdrawals, _, next, _, hprogram, hnone, fun committed hinv =>
        wanted_withdrawal hinv, ?_⟩
      intro key hkey
      obtain ⟨_, -, rfl⟩ := List.mem_map.mp hkey
      rfl
  kept call draws committed hinv := by
    have hinv : (householding withdrawalId tenant).inv committed := hinv
    apply Session.inv_alone hinv
    apply ensures_housed (all_handled withdrawalId call)
    intro w hw
    cases hw

end Tenants

/-! ## Every interleaving -/

/-- The withdrawal has one tenant, if it is there. -/
theorem exists_tenant (db : PlatformDb) (withdrawalId : ℕ) :
    ∃ tenant, HousedBy withdrawalId tenant (db.rows .withdrawals) := by
  have hunique : ∀ w ∈ db.rows .withdrawals, ∀ other ∈ db.rows .withdrawals,
      (w.id == withdrawalId) = true → (other.id == withdrawalId) = true → w = other := by
    intro w hw other hother hid hid'
    exact db.id_injOn (t := .withdrawals) hw hother
      ((beq_iff_eq.mp hid).trans (beq_iff_eq.mp hid').symm)
  rcases Db.filter_cases (db.nodup .withdrawals) hunique with ⟨hnone, -⟩ | ⟨w, -, -, hone⟩
  · use none
    rw [HousedBy, column]
    exact congrArg (List.map Withdrawal.tenantId) hnone
  · use some w.tenantId
    rw [HousedBy, column]
    exact congrArg (List.map Withdrawal.tenantId) hone

end InfinityRadius.Services.PayoutService
