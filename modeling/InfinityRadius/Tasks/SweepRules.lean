import InfinityRadius.Tasks.Reconciliation

/-!
# When a sweep survives its rows

One lemma for the body of the loop, one for the loop, and the exact condition under which
a sweep attempts every row it listed.
-/

namespace InfinityRadius.Tasks

open Database Program Models

section Rules

variable {Row : Type} {key : Row → ℕ} {table : List Row} {env : WorkerEnv}

/-! ## One row -/

/-- What the counts of the rows add up to. -/
def Counts.total (counts : Counts) : ℕ := counts.resolved + counts.stillPending + counts.failed

theorem Counts.total_resolved (counts : Counts) :
    { counts with resolved := counts.resolved + 1 }.total = counts.total + 1 := by
  simp only [total]
  omega

theorem Counts.total_stillPending (counts : Counts) :
    { counts with stillPending := counts.stillPending + 1 }.total = counts.total + 1 := by
  simp only [total]
  omega

theorem Counts.total_failed (counts : Counts) :
    { counts with failed := counts.failed + 1 }.total = counts.total + 1 := rfl

/-- What an alert step may do to the counts. -/
structure Counts.SameTotals (before after : Counts) : Prop where
  scanned : after.scanned = before.scanned
  total : after.total = before.total

/-- How the step after an unchanged status ends: it raises exactly where `raises` says, and
then only in an open transaction. -/
structure EndsBy (key : Row → ℕ) (table : List Row) (env : WorkerEnv)
    (afterSame : ℕ → Worker Row Unit) (raises : Row → Bool) : Prop where
  ok : ∀ row state, state.session.attributes (key row) = some row → raises row = false →
    ∃ begun counts, state.counts.SameTotals counts ∧
      run (perform key table env) (afterSame (key row)) state =
        (.ok (), { state with session := { state.session with begun }, counts })
  error : ∀ row state, state.session.attributes (key row) = some row → raises row = true →
    ∃ e after, after.session.begun = true ∧
      run (perform key table env) (afterSame (key row)) state = (.error e, after)

/-- The call reports the status the row has, and the step after it raises. -/
def raisesAfter (env : WorkerEnv) (key : Row → ℕ) (status : Row → String)
    (raises : Row → Bool) (row : Row) : Bool :=
  env.reconcile (key row) == some (status row) && raises row

/-- The states before and after a row the loop survived. -/
structure Passed (rows : List ℕ) (before after : WorkerState Row) : Prop where
  attributes : after.session.attributes = before.session.attributes
  added : after.session.added = before.session.added
  committed : after.session.committed = before.session.committed
  attempted : after.attempted = before.attempted ++ rows
  scanned : after.counts.scanned = before.counts.scanned
  total : after.counts.total = before.counts.total + rows.length

variable {status : Row → String} {afterSame : ℕ → Worker Row Unit} {raises : Row → Bool}
  {row : Row} {state : WorkerState Row}

@[simp]
theorem run_readAttribute {α : Type} {f : Row → α}
    (hloaded : state.session.attributes (key row) = some row) :
    run (perform key table env) (readAttribute (key row) f) state = (.ok (f row), state) := by
  simp [readAttribute, act, perform, hloaded]

variable (key table env) in
/-- The handler of a failure in an open transaction cannot name the row any more. -/
theorem run_rowFailed_of_begun (id : ℕ) (h : state.session.begun = true) :
    ∃ after, run (perform key table env) (rowFailed id) state =
      (.error .missingGreenlet, after) := by
  have hread := state.session.rollback_attributes h id
  simp [rowFailed, act, readAttribute, perform, hread]

/-- Outside a transaction the handler counts the failure and the loop goes on. -/
theorem run_rowFailed (h : state.session.begun = false)
    (hloaded : state.session.attributes (key row) = some row) :
    run (perform key table env) (rowFailed (key row)) state =
      (.ok (), { state with
        counts := { state.counts with failed := state.counts.failed + 1 } }) := by
  have hrollback := state.session.rollback_of_closed h
  simp [rowFailed, act, readAttribute, perform, hrollback, hloaded]

theorem run_sweepRow (hloaded : state.session.attributes (key row) = some row) :
    run (perform key table env) (sweepRow status afterSame (key row)) state =
      match run (perform key table env) (attemptRow (status row) afterSame (key row)) state with
      | (.ok (), after) => (.ok (), after)
      | (.error _, after) => run (perform key table env) (rowFailed (key row)) after := by
  rw [sweepRow, run_bind, run_readAttribute hloaded]
  simp only [run_tryCatch]
  generalize run _ (attemptRow _ _ _) _ = outcome
  rcases outcome with ⟨result, after⟩
  cases result with
  | ok done => rfl
  | error e => rfl

/-- The state once the call about a row has answered. -/
def WorkerState.asked (state : WorkerState Row) (id : ℕ) : WorkerState Row :=
  { state with attempted := state.attempted ++ [id] }

/-- The same with the row counted as still pending. -/
def WorkerState.same (state : WorkerState Row) (id : ℕ) : WorkerState Row :=
  { state.asked id with
    counts := { state.counts with stillPending := state.counts.stillPending + 1 } }

theorem run_attemptRow_raised (hcall : env.reconcile (key row) = none) :
    run (perform key table env) (attemptRow (status row) afterSame (key row)) state =
      (.error .internalWeb, state.asked (key row)) := by
  simp [attemptRow, act, perform, hcall, WorkerState.asked]

theorem run_attemptRow_resolved {reported : String}
    (hcall : env.reconcile (key row) = some reported) (hne : reported ≠ status row) :
    run (perform key table env) (attemptRow (status row) afterSame (key row)) state =
      (.ok (), { state.asked (key row) with
        session := state.session.commit
        counts := { state.counts with resolved := state.counts.resolved + 1 } }) := by
  simp [attemptRow, act, perform, hcall, hne, WorkerState.asked]

theorem run_attemptRow_same (hcall : env.reconcile (key row) = some (status row)) :
    run (perform key table env) (attemptRow (status row) afterSame (key row)) state =
      match run (perform key table env) (afterSame (key row)) (state.same (key row)) with
      | (.ok (), after) => (.ok (), { after with session := after.session.commit })
      | (.error e, after) => (.error e, after) := by
  simp only [attemptRow, act, Prog.issue_bind, run_step, perform, hcall, Prog.orRaise_some,
    Prog.pure_bind, ne_eq, not_true_eq_false, if_false, run_bind]
  have hstate : ({ state with
      counts := { state.counts with stillPending := state.counts.stillPending + 1 }
      attempted := state.attempted ++ [key row] } : WorkerState Row) =
    state.same (key row) := rfl
  rw [hstate]
  generalize run _ (afterSame _) _ = outcome
  rcases outcome with ⟨result, after⟩
  cases result with
  | ok done => rfl
  | error e => rfl

/-! ## The loop -/

/-- The condition under which the loop survives a row. -/
def Survives (env : WorkerEnv) (key : Row → ℕ) (status : Row → String) (raises : Row → Bool)
    (begun : Bool) (row : Row) : Prop :=
  (begun = true → env.reconcile (key row) ≠ none) ∧
    (env.reconcile (key row) = some (status row) → raises row = false)

theorem Passed.trans {rows rows' : List ℕ} {before middle after : WorkerState Row}
    (h : Passed rows before middle) (h' : Passed rows' middle after) :
    Passed (rows ++ rows') before after where
  attributes := h'.attributes.trans h.attributes
  added := h'.added.trans h.added
  committed := h'.committed.trans h.committed
  attempted := by rw [h'.attempted, h.attempted, List.append_assoc]
  scanned := h'.scanned.trans h.scanned
  total := by
    rw [h'.total, h.total, List.length_append, Nat.add_assoc]

theorem sweepRow_passes (hends : EndsBy key table env afterSame raises)
    (hloaded : state.session.attributes (key row) = some row)
    (hadded : state.session.added = [])
    (hsurvives : Survives env key status raises state.session.begun row) :
    ∃ after, run (perform key table env) (sweepRow status afterSame (key row)) state =
      (.ok (), after) ∧ after.session.begun = false ∧ Passed [key row] state after := by
  rw [run_sweepRow hloaded]
  cases hcall : env.reconcile (key row) with
  | none =>
    have hbegun : (state.asked (key row)).session.begun = false :=
      Bool.eq_false_iff.mpr fun h => hsurvives.1 h hcall
    rw [run_attemptRow_raised hcall]
    exact ⟨_, run_rowFailed hbegun hloaded, hbegun, rfl, rfl, rfl, rfl, rfl,
      Counts.total_failed _⟩
  | some reported =>
    by_cases hsame : reported = status row
    · subst hsame
      obtain ⟨begun, counts, htotals, hrun⟩ :=
        hends.ok row (state.same (key row)) hloaded (hsurvives.2 hcall)
      rw [run_attemptRow_same hcall, hrun]
      refine ⟨_, rfl, rfl, ⟨rfl, hadded.symm, ?_, rfl, htotals.scanned, ?_⟩⟩
      · change state.session.committed ++ state.session.added = _
        rw [hadded, List.append_nil]
      · exact htotals.total.trans (Counts.total_stillPending _)
    · rw [run_attemptRow_resolved hcall hsame, state.session.commit_of_nothing_added hadded]
      exact ⟨_, rfl, rfl, rfl, rfl, rfl, rfl, rfl, Counts.total_resolved _⟩

theorem sweepRow_stops (hends : EndsBy key table env afterSame raises)
    (hloaded : state.session.attributes (key row) = some row)
    (hsurvives : ¬Survives env key status raises state.session.begun row) :
    ∃ e after, run (perform key table env) (sweepRow status afterSame (key row)) state =
      (.error e, after) := by
  rw [run_sweepRow hloaded]
  cases hcall : env.reconcile (key row) with
  | none =>
    have hbegun : (state.asked (key row)).session.begun = true := by
      by_contra hclosed
      exact hsurvives ⟨fun h => absurd h hclosed, fun h => by rw [hcall] at h; cases h⟩
    obtain ⟨after, hafter⟩ := run_rowFailed_of_begun key table env (key row) hbegun
    rw [run_attemptRow_raised hcall]
    exact ⟨_, after, hafter⟩
  | some reported =>
    have hraises : reported = status row ∧ raises row = true := by
      by_contra hnot
      refine hsurvives ⟨fun _ h => ?_, fun h => ?_⟩
      · rw [hcall] at h
        cases h
      rw [hcall] at h
      exact Bool.eq_false_iff.mpr fun hrow => hnot ⟨Option.some.inj h, hrow⟩
    obtain ⟨rfl, hrow⟩ := hraises
    obtain ⟨e, middle, hbegun, hrun⟩ := hends.error row (state.same (key row)) hloaded hrow
    obtain ⟨after, hafter⟩ := run_rowFailed_of_begun key table env (key row) hbegun
    rw [run_attemptRow_same hcall, hrun]
    exact ⟨_, after, hafter⟩

/-- The loop survives the rows, the transaction being open before the first one only where
`begun` says so. -/
def SurviveAll (env : WorkerEnv) (key : Row → ℕ) (status : Row → String)
    (raises : Row → Bool) : Bool → List Row → Prop
  | _, [] => True
  | begun, row :: rest =>
    Survives env key status raises begun row ∧ SurviveAll env key status raises false rest

theorem surviveAll_false_iff {rows : List Row} :
    SurviveAll env key status raises false rows ↔
      ∀ row ∈ rows, raisesAfter env key status raises row = false := by
  induction rows with
  | nil => simp [SurviveAll]
  | cons row rest ih => simp [SurviveAll, Survives, raisesAfter, ih]

theorem surviveAll_true_iff {rows : List Row} :
    SurviveAll env key status raises true rows ↔
      (∀ row, rows.head? = some row → env.reconcile (key row) ≠ none) ∧
        ∀ row ∈ rows, raisesAfter env key status raises row = false := by
  cases rows with
  | nil => simp [SurviveAll]
  | cons row rest =>
    rw [SurviveAll, surviveAll_false_iff]
    simp [Survives, raisesAfter, and_assoc]

theorem sweepRows_passes (hends : EndsBy key table env afterSame raises) {rows : List Row}
    (hloaded : ∀ row ∈ rows, state.session.attributes (key row) = some row)
    (hadded : state.session.added = [])
    (hsurvive : SurviveAll env key status raises state.session.begun rows) :
    ∃ after, run (perform key table env) (sweepRows status afterSame (rows.map key)) state =
      (.ok (), after) ∧ Passed (rows.map key) state after := by
  induction rows generalizing state with
  | nil => exact ⟨state, rfl, rfl, rfl, rfl, (List.append_nil _).symm, rfl, rfl⟩
  | cons row rest ih =>
    obtain ⟨middle, hrun, hbegun, hpassed⟩ :=
      sweepRow_passes hends (hloaded row List.mem_cons_self) hadded hsurvive.1
    obtain ⟨after, hrest, hpassed'⟩ := ih
      (fun other hother => by
        rw [hpassed.attributes]
        exact hloaded other (List.mem_cons_of_mem _ hother))
      (hpassed.added.trans hadded) (by rw [hbegun]; exact hsurvive.2)
    refine ⟨after, ?_, hpassed.trans hpassed'⟩
    rw [List.map_cons, sweepRows, run_bind, hrun]
    exact hrest

theorem sweepRows_stops (hends : EndsBy key table env afterSame raises) {rows : List Row}
    (hloaded : ∀ row ∈ rows, state.session.attributes (key row) = some row)
    (hadded : state.session.added = [])
    (hsurvive : ¬SurviveAll env key status raises state.session.begun rows) :
    ∃ e after, run (perform key table env) (sweepRows status afterSame (rows.map key)) state =
      (.error e, after) := by
  induction rows generalizing state with
  | nil => exact absurd trivial hsurvive
  | cons row rest ih =>
    have hrow := hloaded row List.mem_cons_self
    rw [List.map_cons, sweepRows, run_bind]
    by_cases hfirst : Survives env key status raises state.session.begun row
    · obtain ⟨middle, hrun, hbegun, hpassed⟩ := sweepRow_passes hends hrow hadded hfirst
      obtain ⟨e, after, hrest⟩ := ih
        (fun other hother => by
          rw [hpassed.attributes]
          exact hloaded other (List.mem_cons_of_mem _ hother))
        (hpassed.added.trans hadded)
        (by rw [hbegun]; exact fun h => hsurvive ⟨hfirst, h⟩)
      rw [hrun]
      exact ⟨e, after, hrest⟩
    · obtain ⟨e, after, hrun⟩ := sweepRow_stops hends hrow hfirst
      rw [hrun]
      exact ⟨e, after, rfl⟩

/-! ## The sweep -/

/-- A worker that has not started. -/
def WorkerState.start : WorkerState Row := ⟨Orm.Session.opened, {}, []⟩

/-- The sweep returned, asked about each listed row once, and wrote one entry whose counts
add up. -/
def Completes (listed : List ℕ) (outcome : Except WorkerFailure ℕ × WorkerState Row) : Prop :=
  (∃ scanned, outcome.1 = .ok scanned) ∧
    (outcome.2.attempted = listed ∧ outcome.2.attempted.Nodup) ∧
    ∃ entry, outcome.2.session.committed = [entry] ∧
      entry.scanned = entry.resolved + entry.stillPending + entry.failed

/-- The entry of a sweep shows its counts. -/
def Shows (entry : Counts → Option String → SweptEntry) : Prop :=
  ∀ counts error, (entry counts error).scanned = counts.scanned ∧
    (entry counts error).resolved + (entry counts error).stillPending +
      (entry counts error).failed = counts.total

variable {pending : Row → Bool} {entry : Counts → Option String → SweptEntry}

/-- The state in which the loop starts. -/
def WorkerState.listed (key : Row → ℕ) (table : List Row) (pending : Row → Bool) :
    WorkerState Row where
  session := Orm.Session.opened.load fun id => (table.filter pending).find? fun row => key row == id
  counts := { scanned := (table.filter pending).length }
  attempted := []

variable (pending) in
theorem listed_attributes (hkeys : (table.map key).Nodup) :
    ∀ row ∈ table.filter pending,
      (WorkerState.listed key table pending).session.attributes (key row) = some row := by
  intro row hrow
  have hinj : ∀ other ∈ table.filter pending, key other = key row → other = row :=
    fun other hother heq => List.inj_on_of_nodup_map hkeys
      (List.mem_of_mem_filter hother) (List.mem_of_mem_filter hrow) heq
  change (none : Option Row).or ((table.filter pending).find? fun other => key other == key row) = _
  cases hfind : (table.filter pending).find? fun other => key other == key row with
  | none => simpa using List.find?_eq_none.mp hfind row hrow
  | some other =>
    have heq : key other = key row := by simpa using List.find?_some hfind
    rw [hinj other (List.mem_of_find?_eq_some hfind) heq]
    rfl

/-- A sweep that can call the web process runs its loop, then writes its entry. -/
theorem run_sweep (hconfigured : env.internalWebConfigured = true) :
    run (perform key table env) (sweep pending status afterSame entry) .start =
      match run (perform key table env)
          (sweepRows status afterSame ((table.filter pending).map key))
          (.listed key table pending) with
      | (.ok (), after) => (.ok (table.filter pending).length, { after with
          session := (after.session.add (entry after.counts none)).commit })
      | (.error e, after) => (.error e, after) := by
  have hstart : run (perform key table env) (sweep pending status afterSame entry) .start =
      run (perform key table env) (do
        sweepRows status afterSame ((table.filter pending).map key)
        let counts ← act .readCounts
        act (.write (entry counts none))
        act .commit
        pure (table.filter pending).length : Worker Row ℕ)
        (.listed key table pending) := by
    simp only [sweep, act, Prog.issue_bind, run_step, perform, List.length_map, hconfigured,
      if_true]
    rfl
  rw [hstart, run_bind]
  generalize run _ _ (WorkerState.listed key table pending) = outcome
  rcases outcome with ⟨result, after⟩
  cases result with
  | ok done => rfl
  | error e => rfl

variable (key table status afterSame pending entry) in
/-- One that cannot asks about no row. -/
theorem run_sweep_not_configured (hconfigured : env.internalWebConfigured = false) :
    ∃ after, run (perform key table env) (sweep pending status afterSame entry) .start =
        (.ok (table.filter pending).length, after) ∧ after.attempted = [] ∧
      after.session.committed = [entry
        { scanned := (table.filter pending).length, failed := (table.filter pending).length }
        (some "internal_web_not_configured")] := by
  simp only [sweep, act, Prog.issue_bind, run_step, perform, List.length_map, hconfigured,
    Bool.false_eq_true, if_false]
  exact ⟨_, rfl, rfl, rfl⟩

variable (table status pending entry) in
/-- Exactly when the sweep completes. -/
theorem sweep_completes_iff (hends : EndsBy key table env afterSame raises)
    (hkeys : (table.map key).Nodup) (hentry : Shows entry) :
    Completes ((table.filter pending).map key)
        (run (perform key table env) (sweep pending status afterSame entry) .start) ↔
      table.filter pending = [] ∨ env.internalWebConfigured = true ∧
        SurviveAll env key status raises true (table.filter pending) := by
  have hloaded := listed_attributes pending hkeys
  have hlisted : ((table.filter pending).map key).Nodup :=
    hkeys.sublist (List.filter_sublist.map key)
  by_cases hconfigured : env.internalWebConfigured = true
  · rw [run_sweep hconfigured]
    by_cases hsurvive : SurviveAll env key status raises true (table.filter pending)
    · obtain ⟨after, hrun, hpassed⟩ := sweepRows_passes hends hloaded rfl hsurvive
      rw [hrun]
      have hattempted : after.attempted = (table.filter pending).map key := hpassed.attempted
      refine iff_of_true
        ⟨⟨_, rfl⟩, ⟨hattempted, hattempted ▸ hlisted⟩, entry after.counts none, ?_, ?_⟩
        (Or.inr ⟨hconfigured, hsurvive⟩)
      · change after.session.committed ++ (after.session.added ++ [_]) = _
        rw [hpassed.committed, hpassed.added]
        rfl
      · rw [(hentry _ _).1, (hentry _ _).2, hpassed.scanned, hpassed.total, List.length_map]
        exact (Nat.zero_add _).symm
    · obtain ⟨e, after, hrun⟩ := sweepRows_stops hends hloaded rfl hsurvive
      rw [hrun]
      apply iff_of_false
      · rintro ⟨⟨scanned, hok⟩, -⟩
        cases hok
      · rintro (hnil | ⟨-, h⟩)
        · rw [hnil] at hsurvive
          exact hsurvive trivial
        · exact hsurvive h
  · obtain ⟨after, hrun, hattempted, hcommitted⟩ := run_sweep_not_configured key table status
      afterSame pending entry (Bool.eq_false_iff.mpr hconfigured)
    rw [hrun]
    constructor
    · rintro ⟨-, ⟨heq, -⟩, -⟩
      rw [hattempted] at heq
      exact Or.inl (List.map_eq_nil_iff.mp heq.symm)
    · rintro (hnil | ⟨h, -⟩)
      · refine ⟨⟨_, rfl⟩, ⟨by rw [hattempted, hnil]; rfl, hattempted ▸ List.nodup_nil⟩, _,
          hcommitted, ?_⟩
        rw [(hentry _ _).1, (hentry _ _).2, hnil]
        rfl
      · exact absurd h hconfigured

end Rules

/-! ## The two sweeps -/

section Alert

variable (settings : AlertSettings) (env : WorkerEnv)

/-- The withdrawal is old enough for an alert. -/
def alertDue (w : Withdrawal) : Bool :=
  (alertThreshold settings w.status).any fun minutes =>
    !decide ((env.alert w.id).now - w.submittedAt.getD w.createdAt < minutes * microsPerMinute)

/-- The query for the last alert raises, or the email that is due does. -/
def alertFails (answers : AlertAnswers) : Bool :=
  match answers.lastAlertAt with
  | none => true
  | some lastAlertAt =>
    !recentlyAlerted settings answers lastAlertAt && answers.emailSent.isNone

def alertRaises (w : Withdrawal) : Bool :=
  alertDue settings env w && alertFails settings (env.alert w.id)

variable {settings env} {table : List Withdrawal} {w : Withdrawal}
  {state : WorkerState Withdrawal}

theorem run_maybeAlertStale (hloaded : state.session.attributes (Withdrawal.id w) = some w) :
    run (perform Withdrawal.id table env) (maybeAlertStale settings w.id) state =
      if alertDue settings env w = true then
        run (perform Withdrawal.id table env) (alertOnce settings (env.alert w.id)) state
      else (.ok false, state) := by
  rw [maybeAlertStale, run_bind, run_readAttribute hloaded]
  cases hthreshold : alertThreshold settings w.status with
  | none => simp [alertDue, hthreshold]
  | some minutes =>
    by_cases hage : (env.alert w.id).now - w.submittedAt.getD w.createdAt <
        minutes * microsPerMinute
    · simp [alertDue, hthreshold, run_bind, run_readAttribute hloaded, act, perform, hage]
    · simp [alertDue, hthreshold, run_bind, run_readAttribute hloaded, act, perform, hage]

variable (settings env table state) in
/-- The alert opens a transaction before anything in it can raise. -/
theorem run_alertOnce (answers : AlertAnswers) :
    ∃ result, run (perform Withdrawal.id table env) (alertOnce settings answers) state =
        (result, { state with session := state.session.query }) ∧
      ((∃ e, result = .error e) ↔ alertFails settings answers = true) := by
  cases hlast : answers.lastAlertAt with
  | none => exact ⟨.error .alert, by simp [alertOnce, act, perform, hlast], by simp [alertFails, hlast]⟩
  | some lastAlertAt =>
    by_cases hrecent : recentlyAlerted settings answers lastAlertAt = true
    · exact ⟨.ok false, by simp [alertOnce, act, perform, hlast, hrecent],
        by simp [alertFails, hlast, hrecent]⟩
    · cases hsent : answers.emailSent with
      | none => exact ⟨.error .alert, by simp [alertOnce, act, perform, hlast, hrecent, hsent],
          by simp [alertFails, hlast, hrecent, hsent]⟩
      | some sent => exact ⟨.ok sent, by simp [alertOnce, act, perform, hlast, hrecent, hsent],
          by simp [alertFails, hlast, hrecent, hsent]⟩

variable (settings env) in
theorem alertIfStale_endsBy :
    EndsBy Withdrawal.id table env (alertIfStale settings) (alertRaises settings env) where
  ok w state hloaded hraises := by
    rw [alertIfStale, run_bind, run_maybeAlertStale hloaded]
    by_cases hdue : alertDue settings env w = true
    · obtain ⟨result, hrun, hfails⟩ := run_alertOnce settings env table state (env.alert w.id)
      rw [if_pos hdue, hrun]
      cases result with
      | ok sent =>
        cases sent with
        | true =>
          exact ⟨true, { state.counts with alerted := state.counts.alerted + 1 }, ⟨rfl, rfl⟩, rfl⟩
        | false => exact ⟨true, state.counts, ⟨rfl, rfl⟩, rfl⟩
      | error e =>
        rw [alertRaises, hdue, hfails.mp ⟨e, rfl⟩] at hraises
        cases hraises
    · rw [if_neg hdue]
      exact ⟨state.session.begun, state.counts, ⟨rfl, rfl⟩, rfl⟩
  error w state hloaded hraises := by
    obtain ⟨hdue, hfails⟩ := Bool.and_eq_true_iff.mp hraises
    obtain ⟨result, hrun, hresult⟩ := run_alertOnce settings env table state (env.alert w.id)
    obtain ⟨e, rfl⟩ := hresult.mpr hfails
    rw [alertIfStale, run_bind, run_maybeAlertStale hloaded, if_pos hdue, hrun]
    exact ⟨e, _, rfl, rfl⟩

end Alert

/-- Nothing follows an unchanged status of a collection. -/
theorem pure_endsBy {Row : Type} {key : Row → ℕ} {table : List Row} (env : WorkerEnv) :
    EndsBy key table env (fun _ => pure ()) fun _ => false where
  ok _ state _ _ := ⟨state.session.begun, state.counts, ⟨rfl, rfl⟩, rfl⟩
  error _ _ _ h := by cases h

/-! ## The sweeps over a database -/

section Sweeps

variable (settings : AlertSettings) (env : WorkerEnv) (db : PlatformDb)

/-- The withdrawals the sweep lists. -/
def pendingWithdrawals : List Withdrawal := (db.rows .withdrawals).filter reconcilableWithdrawal

/-- The transactions the sweep lists. -/
def pendingCollections : List Transaction :=
  (db.rows .transactions).filter reconcilableCollection

def withdrawalSweep : Except WorkerFailure ℕ × WorkerState Withdrawal :=
  run (perform Withdrawal.id (db.rows .withdrawals) env) (reconcilePendingWithdrawals settings)
    .start

def collectionSweep : Except WorkerFailure ℕ × WorkerState Transaction :=
  run (perform Transaction.id (db.rows .transactions) env) reconcilePendingCollections .start

/-- The call about the row raises. -/
def callRaises (id : ℕ) : Bool := (env.reconcile id).isNone

theorem callRaises_eq_false_iff {env : WorkerEnv} {id : ℕ} :
    callRaises env id = false ↔ env.reconcile id ≠ none := by
  rw [callRaises, Option.isNone_eq_false_iff, Option.isSome_iff_ne_none]

/-- The call reports the status the withdrawal has, and the alert step raises. -/
def alertStepRaises (w : Withdrawal) : Bool :=
  env.reconcile w.id == some w.status.value && alertRaises settings env w

variable {settings env db}

theorem withdrawalSweep_completes_iff :
    Completes ((pendingWithdrawals db).map Withdrawal.id) (withdrawalSweep settings env db) ↔
      pendingWithdrawals db = [] ∨ env.internalWebConfigured = true ∧
        (∀ w, (pendingWithdrawals db).head? = some w → callRaises env w.id = false) ∧
        ∀ w ∈ pendingWithdrawals db, alertStepRaises settings env w = false := by
  have h := sweep_completes_iff (db.rows .withdrawals) (fun w => w.status.value)
    reconcilableWithdrawal withdrawalEntry (alertIfStale_endsBy settings env)
    (db.nodup_map_id .withdrawals) fun _ _ => ⟨rfl, rfl⟩
  rw [surviveAll_true_iff] at h
  simp only [← callRaises_eq_false_iff] at h
  exact h

theorem collectionSweep_completes_iff :
    Completes ((pendingCollections db).map Transaction.id) (collectionSweep env db) ↔
      pendingCollections db = [] ∨ env.internalWebConfigured = true ∧
        ∀ t, (pendingCollections db).head? = some t → callRaises env t.id = false := by
  have h := sweep_completes_iff (db.rows .transactions) (fun t => t.status.value)
    reconcilableCollection collectionEntry (pure_endsBy env) (db.nodup_map_id .transactions)
    fun _ _ => ⟨rfl, rfl⟩
  rw [surviveAll_true_iff] at h
  simp only [← callRaises_eq_false_iff, raisesAfter, Bool.and_false, implies_true,
    and_true] at h
  exact h

/-- A sweep attempts every row it listed, and accounts for each, exactly where the call
about its first row returns and no alert step raises.  The transaction of the listing is
still open while the first row is handled, and the rollback of an open transaction takes
the attributes of every listed row away. -/
theorem sweeps_complete_iff :
    (Completes ((pendingWithdrawals db).map Withdrawal.id) (withdrawalSweep settings env db) ↔
      pendingWithdrawals db = [] ∨ env.internalWebConfigured = true ∧
        (∀ w, (pendingWithdrawals db).head? = some w → callRaises env w.id = false) ∧
        ∀ w ∈ pendingWithdrawals db, alertStepRaises settings env w = false) ∧
    (Completes ((pendingCollections db).map Transaction.id) (collectionSweep env db) ↔
      pendingCollections db = [] ∨ env.internalWebConfigured = true ∧
        ∀ t, (pendingCollections db).head? = some t → callRaises env t.id = false) :=
  ⟨withdrawalSweep_completes_iff, collectionSweep_completes_iff⟩

end Sweeps

/-! ## One pending withdrawal -/

def processingRows : (t : Table) → List (Row t)
  | .withdrawals =>
    [{ id := 0, tenantId := 1, walletId := 0, destinationId := 0, amount := 500000,
       currency := "TZS", status := .processing, idempotencyKey := "4f1c",
       approvalRequired := false, requestedBy := some 5, createdAt := 0 }]
  | _ => []

def processingDb : PlatformDb where
  rows := processingRows
  valid t := by cases t <;> decide +kernel
  apart t := by cases t <;> decide +kernel

/-- The web process answers no call. -/
def unreachableWeb : WorkerEnv where
  internalWebConfigured := true
  reconcile _ := none
  alert _ := ⟨0, none, 0, none⟩

/-- A sweep whose only call times out raises, and writes no entry. -/
theorem not_completes_unreachable :
    ¬Completes ((pendingWithdrawals processingDb).map Withdrawal.id)
      (withdrawalSweep ⟨30, 15, 60⟩ unreachableWeb processingDb) := by
  rw [withdrawalSweep_completes_iff]
  rintro (hnil | ⟨-, hfirst, -⟩)
  · cases hnil
  · cases hfirst _ rfl

end InfinityRadius.Tasks
