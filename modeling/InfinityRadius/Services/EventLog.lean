import InfinityRadius.Services.PayoutChanges
import InfinityRadius.Services.SubmittedOnce

/-!
# The event log of a withdrawal

The events of a withdrawal are a path of its state machine: they start with its
creation, each leaves from where the one before arrived, and the last arrives at its
status.
-/

namespace InfinityRadius.Services.PayoutService

open Amounts Database Payload Program Sql Models Integrations.SelcomBusiness

variable {db db' : PlatformDb} {w w' : Withdrawal} {world world' : PlatformWorld}

/-- The tables that hold the withdrawals and their events. -/
def logTables : List Table := [.withdrawals, .withdrawalEvents]

/-- The events of a withdrawal, in the order they were inserted. -/
def eventsOf (db : PlatformDb) (withdrawalId : ℕ) : List WithdrawalEvent :=
  (db.rows .withdrawalEvents).filter fun event => event.withdrawalId == withdrawalId

/-- The events start with the creation and follow a path to the status. -/
def FaithfulLog (db : PlatformDb) (w : Withdrawal) : Prop :=
  ∃ edges, Course .draft edges w.status ∧
    (eventsOf db w.id).map (fun event => (event.fromStatus, event.toStatus)) =
      (none, .draft) :: edges.map fun edge => (some edge.1, edge.2)

/-- Every log is faithful, and every event is about a stored withdrawal of its tenant. -/
structure Logged (db : PlatformDb) : Prop where
  faithful : ∀ w ∈ db.rows .withdrawals, FaithfulLog db w
  known : ∀ event ∈ db.rows .withdrawalEvents, ∃ w ∈ db.rows .withdrawals,
    w.id = event.withdrawalId ∧ w.tenantId = event.tenantId

theorem Course.eq_of_absorbing {fromStatus toStatus : WithdrawalStatus}
    {edges : List (WithdrawalStatus × WithdrawalStatus)}
    (habsorbing : successors fromStatus = []) (h : Course fromStatus edges toStatus) :
    toStatus = fromStatus := by
  cases edges with
  | nil => exact h.symm
  | cons edge rest =>
    obtain ⟨-, hedge, -⟩ := h
    rw [habsorbing] at hedge
    cases hedge

/-! ## One step -/

theorem Logs.of_mem {edges : List (WithdrawalStatus × WithdrawalStatus)}
    {logged : List WithdrawalEvent} (h : Logs w.tenantId w.id edges logged)
    {event : WithdrawalEvent} (hevent : event ∈ logged) :
    event.tenantId = w.tenantId ∧ event.withdrawalId = w.id := by
  have hmem := List.mem_map_of_mem (f := fun event : WithdrawalEvent =>
    (event.tenantId, event.withdrawalId, event.fromStatus, event.toStatus)) hevent
  rw [h] at hmem
  obtain ⟨edge, -, hedge⟩ := List.mem_map.mp hmem
  exact ⟨(congrArg Prod.fst hedge).symm, (congrArg (fun key => key.2.1) hedge).symm⟩

theorem Logs.eq_nil_of_ne {edges : List (WithdrawalStatus × WithdrawalStatus)}
    {logged : List WithdrawalEvent} (h : Logs w.tenantId w.id edges logged) {id : ℕ}
    (hne : w.id ≠ id) : logged.filter (fun event => event.withdrawalId == id) = [] := by
  refine List.filter_eq_nil_iff.mpr fun event hevent => ?_
  rw [(h.of_mem hevent).2]
  simpa using hne

theorem Logs.filter_self {edges : List (WithdrawalStatus × WithdrawalStatus)}
    {logged : List WithdrawalEvent} (h : Logs w.tenantId w.id edges logged) :
    (logged.filter fun event => event.withdrawalId == w.id).map
        (fun event => (event.fromStatus, event.toStatus)) =
      edges.map fun edge => (some edge.1, edge.2) := by
  have hall : logged.filter (fun event => event.withdrawalId == w.id) = logged := by
    refine List.filter_eq_self.mpr fun event hevent => ?_
    simpa using (h.of_mem hevent).2
  have hpairs := congrArg (List.map fun key => key.2.2) h
  rw [hall]
  simpa [Function.comp_def] using hpairs

/-- The events after an effect on `w`. -/
theorem Effect.eventsOf {wallets : List TenantWallet → List TenantWallet}
    {entries : List LedgerEntry} (h : Effect db db' w w' wallets entries) (id : ℕ) :
    ∃ edges, Course w.status edges w'.status ∧
      (eventsOf db' id).map (fun event => (event.fromStatus, event.toStatus)) =
        (eventsOf db id).map (fun event => (event.fromStatus, event.toStatus)) ++
          if w.id = id then edges.map fun edge => (some edge.1, edge.2) else [] := by
  obtain ⟨edges, logged, hcourse, hlogs, hevents⟩ := h.events
  refine ⟨edges, hcourse, ?_⟩
  unfold PayoutService.eventsOf
  rw [hevents, List.filter_append, List.map_append]
  by_cases hid : w.id = id
  · subst hid
    rw [if_pos rfl, hlogs.filter_self]
  · rw [if_neg hid, hlogs.eq_nil_of_ne hid, List.map_nil]

theorem Logged.effect {wallets : List TenantWallet → List TenantWallet}
    {entries : List LedgerEntry} (hlogged : Logged db) (hw : w ∈ db.rows .withdrawals)
    (h : Effect db db' w w' wallets entries) : Logged db' := by
  refine ⟨fun v hv => ?_, fun event hevent => ?_⟩
  · rw [h.withdrawals] at hv
    rcases mem_replaceRow hv with rfl | ⟨hv, hne⟩
    · obtain ⟨edges, hcourse, hlog⟩ := hlogged.faithful w hw
      obtain ⟨more, hmore, hevents⟩ := h.eventsOf w.id
      refine ⟨edges ++ more, hcourse.append hmore, ?_⟩
      rw [h.same.id, hevents, hlog, if_pos rfl, List.map_append, List.cons_append]
    · have hne : w.id ≠ v.id := fun hid => hne (hid.symm.trans h.same.id.symm)
      obtain ⟨edges, hcourse, hlog⟩ := hlogged.faithful v hv
      obtain ⟨more, -, hevents⟩ := h.eventsOf v.id
      refine ⟨edges, hcourse, ?_⟩
      rw [hevents, hlog, if_neg hne, List.append_nil]
  · have hkept : ∀ v ∈ db.rows .withdrawals, ∃ v' ∈ db'.rows .withdrawals, v'.id = v.id ∧
        v'.tenantId = v.tenantId := by
      intro v hv
      rw [h.withdrawals]
      by_cases hid : v.id = w'.id
      · obtain rfl := db.id_injOn (t := .withdrawals) hv hw (hid.trans h.same.id)
        exact ⟨w', mem_replaceRow_self hv hid, hid.symm, h.same.tenantId⟩
      · exact ⟨v, List.mem_map.mpr ⟨v, hv, if_neg hid⟩, rfl, rfl⟩
    obtain ⟨edges, logged, -, hlogs, hevents⟩ := h.events
    rw [hevents] at hevent
    rcases List.mem_append.mp hevent with hold | hnew
    · obtain ⟨v, hv, hid, htenant⟩ := hlogged.known event hold
      obtain ⟨v', hv', hid', htenant'⟩ := hkept v hv
      exact ⟨v', hv', hid'.trans hid, htenant'.trans htenant⟩
    · obtain ⟨w'', hw'', hid, htenant⟩ := hkept w hw
      obtain ⟨howner, habout⟩ := hlogs.of_mem hnew
      exact ⟨w'', hw'', hid.trans habout.symm, htenant.trans howner.symm⟩

theorem RequestedAs.logged {runtime : Runtime} {tenantId actorId : ℕ} {amount : Decimal}
    {wallet wallet' : TenantWallet}
    (h : RequestedAs runtime tenantId actorId amount world world' w wallet wallet')
    (hlogged : Logged world.db) : Logged world'.db := by
  obtain ⟨event, htenant, hid, hfrom, hto, hevents⟩ := h.events
  have heventsOf : ∀ id, eventsOf world'.db id =
      eventsOf world.db id ++ if event.withdrawalId = id then [event] else [] := by
    intro id
    unfold eventsOf
    rw [hevents, List.filter_append]
    by_cases h : event.withdrawalId = id <;> simp [h]
  refine ⟨fun v hv => ?_, fun other hother => ?_⟩
  · rw [h.withdrawals] at hv
    rcases List.mem_append.mp hv with hv | hv
    · have hne : event.withdrawalId ≠ v.id := fun heq => h.fresh v hv (heq.symm.trans hid)
      obtain ⟨edges, hcourse, hlog⟩ := hlogged.faithful v hv
      refine ⟨edges, hcourse, ?_⟩
      rw [heventsOf, if_neg hne, List.append_nil, hlog]
    · obtain rfl := List.mem_singleton.mp hv
      have hnone : eventsOf world.db v.id = [] := by
        refine List.filter_eq_nil_iff.mpr fun other hother => ?_
        obtain ⟨old, hold, holdId, -⟩ := hlogged.known other hother
        simpa [← holdId] using h.fresh old hold
      refine ⟨[], h.status.symm, ?_⟩
      rw [heventsOf, hnone, if_pos hid, List.nil_append, List.map_singleton, hfrom, hto,
        List.map_nil]
  · rw [h.withdrawals]
    rw [hevents] at hother
    rcases List.mem_append.mp hother with hold | hnew
    · obtain ⟨v, hv, hvid⟩ := hlogged.known other hold
      exact ⟨v, List.mem_append_left _ hv, hvid⟩
    · obtain rfl := List.mem_singleton.mp hnew
      exact ⟨w, List.mem_append_right _ List.mem_cons_self, hid.symm, htenant.symm⟩

/-- A code leaves the statuses and the events alone. -/
theorem Logged.reissued (hlogged : Logged db) (hw : w ∈ db.rows .withdrawals)
    (hsame : w.SameRequest w') (hstatus : w'.status = w.status)
    (h : Db.Replaced .withdrawals w' db db') : Logged db' := by
  have hevents : db'.rows .withdrawalEvents = db.rows .withdrawalEvents :=
    h.rows_of_ne (by decide)
  refine ⟨fun v hv => ?_, fun event hevent => ?_⟩
  · unfold FaithfulLog eventsOf
    rw [hevents]
    rw [h.rows_self] at hv
    rcases mem_replaceRow hv with rfl | ⟨hv, -⟩
    · rw [hsame.id, hstatus]
      exact hlogged.faithful w hw
    · exact hlogged.faithful v hv
  · rw [hevents] at hevent
    obtain ⟨v, hv, hvid, htenant⟩ := hlogged.known event hevent
    rw [h.rows_self]
    by_cases hid : v.id = w'.id
    · obtain rfl := db.id_injOn (t := .withdrawals) hv hw (hid.trans hsame.id)
      exact ⟨w', mem_replaceRow_self hv hid, hid.symm.trans hvid, hsame.tenantId.trans htenant⟩
    · exact ⟨v, List.mem_map.mpr ⟨v, hv, if_neg hid⟩, hvid, htenant⟩

theorem Logged.of_rows (hlogged : Logged db)
    (h : ∀ t ∈ logTables, db'.rows t = db.rows t) : Logged db' := by
  have hwithdrawals : db'.rows .withdrawals = db.rows .withdrawals := h _ (by decide)
  have hevents : db'.rows .withdrawalEvents = db.rows .withdrawalEvents := h _ (by decide)
  constructor
  · intro w hw
    rw [hwithdrawals] at hw
    have hfaithful := hlogged.faithful w hw
    rw [FaithfulLog, PayoutService.eventsOf] at hfaithful ⊢
    rwa [hevents]
  · intro event hevent
    rw [hevents] at hevent
    rw [hwithdrawals]
    exact hlogged.known event hevent

theorem Logged.handled (hlogged : Logged db) (hw : w ∈ db.rows .withdrawals)
    (h : Handled db db' w w') : Logged db' := by
  obtain ⟨wallets, entries, h⟩ := h.effect
  exact hlogged.effect hw h

theorem Logged.next (step : PayoutStep logTables) (hlogged : Logged world.db) :
    Logged (step.next world).db := by
  cases step.changed world with
  | unchanged h => exact hlogged.of_rows h
  | operated hstep _ h =>
    subst hstep
    cases h with
    | unchanged h => exact hlogged.of_rows fun t _ => congrFun (congrArg Db.rows h) t
    | requested _ h => exact h.logged hlogged
    | reissued _ hw _ hissued h => exact hlogged.reissued hw hissued.same hissued.status h
    | handled hw _ _ _ _ h => exact hlogged.handled hw h
  | resulted hw _ _ h => exact hlogged.handled hw h

/-- A step moves a withdrawal along a path of the state machine. -/
theorem PayoutStep.Became.course {step : PayoutStep logTables}
    (h : step.Became world w w') : ∃ edges, Course w.status edges w'.status := by
  cases h with
  | same h => exact ⟨[], congrArg Withdrawal.status h.symm⟩
  | reissued _ _ _ _ hissued => exact ⟨[], hissued.status.symm⟩
  | handled _ _ _ h =>
    obtain ⟨wallets, entries, h⟩ := h.effect
    obtain ⟨edges, -, hcourse, -⟩ := h.events
    exact ⟨edges, hcourse⟩

/-! ## Runs -/

/-- A withdrawal from whose status no edge leads stays as it is. -/
theorem runPayouts_absorbing (steps : List (PayoutStep logTables))
    (hw : w ∈ world.db.rows .withdrawals) (habsorbing : successors w.status = []) :
    ∃ w' ∈ (runPayouts steps world).db.rows .withdrawals, w'.id = w.id ∧
      w'.status = w.status := by
  let Stays : PlatformWorld → Prop := fun world =>
    ∃ w' ∈ world.db.rows .withdrawals, w'.id = w.id ∧ w'.status = w.status
  refine Runs.run_kept Stays ?_ steps ⟨w, hw, rfl, rfl⟩
  rintro step world ⟨w', hw', hid, hstatus⟩
  obtain ⟨w'', hw'', hsame, hbecame⟩ := step.became (by decide) hw'
  obtain ⟨edges, hcourse⟩ := hbecame.course
  rw [hstatus] at hcourse
  exact ⟨w'', hw'', hsame.id.trans hid, hcourse.eq_of_absorbing habsorbing⟩

/-- In every run that starts with no withdrawal, the events of each withdrawal are a
path of the state machine to its status, and nothing leaves an absorbing status. -/
theorem faithfulLog_of_run {before : List (PayoutStep logTables)}
    (hwithdrawals : db.rows .withdrawals = []) (hevents : db.rows .withdrawalEvents = []) :
    ∀ w ∈ (runPayouts before ⟨db, []⟩).db.rows .withdrawals,
      FaithfulLog (runPayouts before ⟨db, []⟩).db w ∧
      (w.status ∈ [.cancelled, .rejected, .failed, .reversed] → ∀ after,
        ∃ w' ∈ (runPayouts (before ++ after) ⟨db, []⟩).db.rows .withdrawals,
          w'.id = w.id ∧ w'.status = w.status) := by
  have hstart : Logged (⟨db, []⟩ : PlatformWorld).db := by
    constructor
    · simp [hwithdrawals]
    · simp [hevents]
  have hlogged := Runs.run_kept (fun world : PlatformWorld => Logged world.db)
    (fun step _ h => h.next step) before hstart
  intro w hw
  refine ⟨hlogged.faithful w hw, fun hstatus after => ?_⟩
  rw [runPayouts, Runs.run_append]
  apply runPayouts_absorbing after hw
  revert hstatus
  cases w.status <;> decide

/-- A withdrawal is requested and confirmed, and its transfer times out. -/
def sampleSteps : List (PayoutStep logTables) :=
  [.operation requestStep, .operation (confirmStep [])]

/-- The sample withdrawal, requested, confirmed and left to a query. -/
theorem faithfulLog_timedOut :
    ((runPayouts sampleSteps ⟨openingDb, []⟩).db.rows .withdrawals).length = 1 ∧
    ∀ w ∈ (runPayouts sampleSteps ⟨openingDb, []⟩).db.rows .withdrawals,
      FaithfulLog (runPayouts sampleSteps ⟨openingDb, []⟩).db w ∧
      (w.status ∈ [.cancelled, .rejected, .failed, .reversed] → ∀ after,
        ∃ w' ∈ (runPayouts (sampleSteps ++ after) ⟨openingDb, []⟩).db.rows .withdrawals,
          w'.id = w.id ∧ w'.status = w.status) :=
  ⟨by decide +kernel, faithfulLog_of_run rfl rfl⟩

end InfinityRadius.Services.PayoutService
