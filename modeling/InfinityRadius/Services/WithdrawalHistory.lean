import InfinityRadius.Services.EventLog

/-!
# The history of a withdrawal

`list_for_withdrawal` orders the events by `created_at`, which is `now()` and so the same for
all events of one transaction.  The history reads in order exactly where that time tells the
events apart: where no transaction logs two of them, and each transaction that logs one started
after the one before.
-/

namespace InfinityRadius.Services.PayoutService

open Amounts Database Payload Program Sql Models

/-! ## Times of events -/

/-- A step, and what `now()` is in its transaction. -/
structure TimedStep where
  step : PayoutStep logTables
  started : Timestamp

def TimedStep.next (timed : TimedStep) (world : PlatformWorld) : PlatformWorld :=
  timed.step.next world

/-- The events that were not there before the step have the time its transaction started. -/
def TimedStep.stamp (timed : TimedStep) (world : PlatformWorld) (createdAt : ℕ → Timestamp)
    (eventId : ℕ) : Timestamp :=
  if (world.db.rows .withdrawalEvents).any fun event => event.id == eventId then
    createdAt eventId
  else timed.started

/-- The world and the `created_at` of its events after a run. -/
def runTimed (steps : List TimedStep) (start : PlatformWorld) :
    PlatformWorld × (ℕ → Timestamp) :=
  Runs.run (Runs.recording TimedStep.stamp TimedStep.next) steps (start, fun _ => 0)

/-! ## Histories -/

deriving instance DecidableEq for WithdrawalEvent

/-- The database may return the events so: the `WHERE` and the `ORDER BY` of
`list_for_withdrawal`. -/
def ListsForWithdrawal (db : PlatformDb) (createdAt : ℕ → Timestamp)
    (tenantId withdrawalId : ℕ) (events : List WithdrawalEvent) : Prop :=
  events.Perm ((db.rows .withdrawalEvents).filter fun event =>
    event.tenantId == tenantId && event.withdrawalId == withdrawalId) ∧
  events.Pairwise fun earlier later => createdAt earlier.id ≤ createdAt later.id

/-- The first event is the creation, and each leaves from where the one before arrived. -/
def ReadsInOrder (events : List WithdrawalEvent) : Prop :=
  (∀ event, events.head? = some event → event.fromStatus = none) ∧
    events.IsChain fun earlier later => later.fromStatus = some earlier.toStatus

/-- The event repeats that the outcome is not known. -/
def Repeats (event : WithdrawalEvent) : Prop :=
  event.fromStatus = some .ambiguous ∧ event.toStatus = .ambiguous

instance (db : PlatformDb) (createdAt : ℕ → Timestamp) (tenantId withdrawalId : ℕ)
    (events : List WithdrawalEvent) :
    Decidable (ListsForWithdrawal db createdAt tenantId withdrawalId events) :=
  inferInstanceAs (Decidable (_ ∧ _))

instance (events : List WithdrawalEvent) : Decidable (ReadsInOrder events) :=
  inferInstanceAs (Decidable (_ ∧ _))

instance (event : WithdrawalEvent) : Decidable (Repeats event) :=
  inferInstanceAs (Decidable (_ ∧ _))

/-! ## Places in a history -/

/-- How far a status is along the state machine. -/
def stage : WithdrawalStatus → ℕ
  | .draft => 0
  | .pendingApproval => 1
  | .approved => 2
  | .processing => 3
  | .ambiguous => 4
  | .success => 5
  | .failed => 5
  | _ => 6

def place : Option WithdrawalStatus × WithdrawalStatus → ℕ
  | (none, _) => 0
  | (some fromStatus, toStatus) => 1 + stage fromStatus + stage toStatus

def key (event : WithdrawalEvent) : Option WithdrawalStatus × WithdrawalStatus :=
  (event.fromStatus, event.toStatus)

theorem stage_le {fromStatus toStatus : WithdrawalStatus}
    (h : toStatus ∈ successors fromStatus) : stage fromStatus ≤ stage toStatus := by
  revert h
  cases fromStatus <;> cases toStatus <;> decide

/-- Only the repetition stays where it is. -/
theorem ambiguous_of_stage {fromStatus toStatus : WithdrawalStatus}
    (h : toStatus ∈ successors fromStatus) (hstage : stage toStatus ≤ stage fromStatus) :
    fromStatus = .ambiguous ∧ toStatus = .ambiguous := by
  revert h hstage
  cases fromStatus <;> cases toStatus <;> decide

/-- What a log consists of: the creation, and edges of the state machine. -/
def Logged.Key (entry : Option WithdrawalStatus × WithdrawalStatus) : Prop :=
  entry = (none, .draft) ∨
    ∃ fromStatus toStatus, entry = (some fromStatus, toStatus) ∧ toStatus ∈ successors fromStatus

/-- One entry of a history comes before another, or both repeat the same. -/
def Before (earlier later : Option WithdrawalStatus × WithdrawalStatus) : Prop :=
  place earlier < place later ∨
    earlier = (some .ambiguous, .ambiguous) ∧ later = (some .ambiguous, .ambiguous)

theorem Before.place_le {earlier later : Option WithdrawalStatus × WithdrawalStatus}
    (h : Before earlier later) : place earlier ≤ place later := by
  rcases h with h | ⟨rfl, rfl⟩
  · exact h.le
  · exact le_refl _

/-- The entries of a path come one after the other, none of them before its start. -/
theorem Course.before {fromStatus toStatus : WithdrawalStatus}
    {edges : List (WithdrawalStatus × WithdrawalStatus)} (h : Course fromStatus edges toStatus) :
    (edges.map fun edge => (some edge.1, edge.2)).Pairwise Before ∧
      ∀ edge ∈ edges, edge.2 ∈ successors edge.1 ∧ stage fromStatus ≤ stage edge.1 := by
  induction edges generalizing fromStatus with
  | nil => exact ⟨.nil, fun _ h => by cases h⟩
  | cons edge rest ih =>
    obtain ⟨rfl, hedge, hrest⟩ := h
    obtain ⟨hpairwise, hall⟩ := ih hrest
    constructor
    · rw [List.map_cons, List.pairwise_cons]
      refine ⟨fun entry hentry => ?_, hpairwise⟩
      obtain ⟨later, hlater, rfl⟩ := List.mem_map.mp hentry
      obtain ⟨hsuccessor, hstage⟩ := hall later hlater
      have hfirst := stage_le hedge
      have hsecond := stage_le hsuccessor
      by_cases hless : stage edge.1 + stage edge.2 < stage later.1 + stage later.2
      · left
        simp only [place]
        omega
      · obtain ⟨hfrom, hto⟩ := ambiguous_of_stage hedge (by omega)
        obtain ⟨hfrom', hto'⟩ := ambiguous_of_stage hsuccessor (by omega)
        right
        rw [hfrom, hto, hfrom', hto']
        exact ⟨rfl, rfl⟩
    · intro later hlater
      cases List.mem_cons.mp hlater with
      | inl heq =>
        rw [heq]
        exact ⟨hedge, le_refl _⟩
      | inr hmem =>
        obtain ⟨hsuccessor, hstage⟩ := hall later hmem
        exact ⟨hsuccessor, (stage_le hedge).trans hstage⟩

/-! ## Reading in order -/

/-- The entries read in order. -/
def InOrder (entries : List (Option WithdrawalStatus × WithdrawalStatus)) : Prop :=
  (∀ entry, entries.head? = some entry → entry.1 = none) ∧
    entries.IsChain fun earlier later => later.1 = some earlier.2

theorem readsInOrder_iff {events : List WithdrawalEvent} :
    ReadsInOrder events ↔ InOrder (events.map key) := by
  rw [ReadsInOrder, InOrder, List.isChain_map, List.head?_map]
  apply and_congr_left
  intro _
  cases events with
  | nil => simp
  | cons event rest => simp [key]

theorem Course.isChain {fromStatus toStatus : WithdrawalStatus}
    {edges : List (WithdrawalStatus × WithdrawalStatus)} (h : Course fromStatus edges toStatus)
    (before : Option WithdrawalStatus) :
    ((before, fromStatus) :: edges.map fun edge => (some edge.1, edge.2)).IsChain
      fun earlier later => later.1 = some earlier.2 := by
  induction edges generalizing fromStatus before with
  | nil => exact .singleton _
  | cons edge rest ih =>
    obtain ⟨rfl, -, hrest⟩ := h
    rw [List.map_cons, List.isChain_cons_cons]
    exact ⟨rfl, ih hrest (some edge.1)⟩

/-- A log reads in order, and its entries come one after the other. -/
theorem FaithfulLog.before {db : PlatformDb} {w : Withdrawal} (h : FaithfulLog db w) :
    InOrder ((eventsOf db w.id).map key) ∧ ((eventsOf db w.id).map key).Pairwise Before ∧
      ∀ entry ∈ (eventsOf db w.id).map key, Logged.Key entry := by
  obtain ⟨edges, hcourse, hlog⟩ := h
  have hkeys : (eventsOf db w.id).map key =
      (none, .draft) :: edges.map fun edge => (some edge.1, edge.2) := hlog
  obtain ⟨hpairwise, hall⟩ := hcourse.before
  rw [hkeys]
  refine ⟨⟨fun entry hentry => ?_, hcourse.isChain none⟩, ?_, fun entry hentry => ?_⟩
  · obtain rfl := Option.some.inj hentry
    rfl
  · rw [List.pairwise_cons]
    refine ⟨fun entry hentry => Or.inl ?_, hpairwise⟩
    obtain ⟨edge, -, rfl⟩ := List.mem_map.mp hentry
    simp only [place]
    omega
  · cases List.mem_cons.mp hentry with
    | inl heq => exact Or.inl heq
    | inr hmem =>
      obtain ⟨edge, hedge, rfl⟩ := List.mem_map.mp hmem
      exact Or.inr ⟨edge.1, edge.2, rfl, (hall edge hedge).1⟩

/-- Entries that read in order come at growing places. -/
theorem InOrder.places {entries : List (Option WithdrawalStatus × WithdrawalStatus)}
    (h : InOrder entries) (hkeys : ∀ entry ∈ entries, Logged.Key entry) :
    entries.Pairwise fun earlier later => place earlier ≤ place later := by
  have hchain : entries.IsChain fun earlier later => place earlier ≤ place later := by
    refine h.2.imp_of_mem_imp fun earlier later hearlier hlater hlink => ?_
    rcases hkeys earlier hearlier with rfl | ⟨fromStatus, toStatus, rfl, hedge⟩
    · exact Nat.zero_le _
    · rcases hkeys later hlater with rfl | ⟨fromStatus', toStatus', rfl, hedge'⟩
      · cases hlink
      · obtain rfl := Option.some.inj hlink
        have hfirst := stage_le hedge
        have hsecond := stage_le hedge'
        simp only [place]
        omega
  have htrans : Trans (fun earlier later => place earlier ≤ place later)
      (fun earlier later => place earlier ≤ place later)
      (fun earlier later => place earlier ≤ place later) := ⟨fun h h' => h.trans h'⟩
  exact hchain.pairwise

/-- Of two members of a list whose members are related in its order, one comes first. -/
theorem eq_or_related {α : Type} {related : α → α → Prop} {list : List α}
    (h : list.Pairwise related) {first second : α} (hfirst : first ∈ list)
    (hsecond : second ∈ list) : first = second ∨ related first second ∨ related second first := by
  have hsymm : Std.Symm fun first second : α =>
      first = second ∨ related first second ∨ related second first := by
    constructor
    rintro first second (heq | hrelated | hrelated)
    · exact Or.inl heq.symm
    · exact Or.inr (Or.inr hrelated)
    · exact Or.inr (Or.inl hrelated)
  have hreflexive : ∀ member ∈ list, member = member ∨ related member member ∨
      related member member := fun _ _ => Or.inl rfl
  exact List.Pairwise.forall_of_forall (R := fun first second : α =>
    first = second ∨ related first second ∨ related second first) hreflexive
    (h.imp fun hrelated => Or.inr (Or.inl hrelated)) hfirst hsecond

/-- Entries of a log that come at growing places are the log. -/
theorem eq_of_places {entries log : List (Option WithdrawalStatus × WithdrawalStatus)}
    (hperm : entries.Perm log) (hlog : log.Pairwise Before)
    (h : entries.Pairwise fun earlier later => place earlier ≤ place later) :
    entries = log := by
  refine hperm.eq_of_pairwise (fun first second hfirst hsecond hle hge => ?_) h
    (hlog.imp Before.place_le)
  rcases eq_or_related hlog (hperm.mem_iff.mp hfirst) hsecond with heq | hbefore | hbefore
  · exact heq
  · rcases hbefore with hless | ⟨hsame, hsame'⟩
    · omega
    · exact hsame.trans hsame'.symm
  · rcases hbefore with hless | ⟨hsame, hsame'⟩
    · omega
    · exact hsame'.trans hsame.symm

/-! ## Which histories read in order -/

section Histories

variable {db : PlatformDb} {createdAt : ℕ → Timestamp} {w : Withdrawal}

/-- The events of a withdrawal are all of its tenant. -/
theorem Logged.filter_eq (hlogged : Logged db) (hw : w ∈ db.rows .withdrawals) :
    ((db.rows .withdrawalEvents).filter fun event =>
      event.tenantId == w.tenantId && event.withdrawalId == w.id) = eventsOf db w.id := by
  apply List.filter_congr
  intro event hevent
  by_cases hid : event.withdrawalId = w.id
  · obtain ⟨v, hv, hvid, htenant⟩ := hlogged.known event hevent
    obtain rfl := db.id_injOn (t := .withdrawals) hv hw (hvid.trans hid)
    simp [htenant, hid]
  · simp [hid]

theorem repeats_of_key {event : WithdrawalEvent} (h : key event = (some .ambiguous, .ambiguous)) :
    Repeats event := ⟨congrArg Prod.fst h, congrArg Prod.snd h⟩

/-- Whatever order the database returns its events in, the history of a withdrawal reads in
order exactly where events that do not repeat one another were created one after the other. -/
theorem Logged.readsInOrder_iff (hlogged : Logged db) (hw : w ∈ db.rows .withdrawals) :
    (∀ events, ListsForWithdrawal db createdAt w.tenantId w.id events → ReadsInOrder events) ↔
      (eventsOf db w.id).Pairwise fun earlier later =>
        createdAt earlier.id < createdAt later.id ∨ (Repeats earlier ∧ Repeats later) := by
  obtain ⟨horder, hbefore, hkeys⟩ := (hlogged.faithful w hw).before
  have hbefore : (eventsOf db w.id).Pairwise fun earlier later =>
      Before (key earlier) (key later) := List.pairwise_map.mp hbefore
  simp only [ListsForWithdrawal, hlogged.filter_eq hw]
  constructor
  · intro hall
    -- the later event is returned first where the times allow it
    let returned := (eventsOf db w.id).reverse.mergeSort fun earlier later =>
      decide (createdAt earlier.id ≤ createdAt later.id)
    have htrans : ∀ first second third : WithdrawalEvent,
        decide (createdAt first.id ≤ createdAt second.id) = true →
        decide (createdAt second.id ≤ createdAt third.id) = true →
        decide (createdAt first.id ≤ createdAt third.id) = true := by
      intro first second third h h'
      simp only [decide_eq_true_eq] at h h' ⊢
      exact h.trans h'
    have htotal : ∀ first second : WithdrawalEvent,
        (decide (createdAt first.id ≤ createdAt second.id) ||
          decide (createdAt second.id ≤ createdAt first.id)) = true := by
      intro first second
      simpa using le_total (createdAt first.id) (createdAt second.id)
    have hperm : returned.Perm (eventsOf db w.id) :=
      (List.mergeSort_perm _ _).trans (List.reverse_perm _)
    have hsorted : returned.Pairwise fun earlier later =>
        createdAt earlier.id ≤ createdAt later.id := by
      simpa using List.pairwise_mergeSort htrans htotal (eventsOf db w.id).reverse
    have hreads := (PayoutService.readsInOrder_iff.mp (hall returned ⟨hperm, hsorted⟩)).places
      fun entry hentry => hkeys entry ((hperm.map key).mem_iff.mp hentry)
    rw [List.pairwise_map] at hreads
    rw [List.pairwise_iff_forall_sublist] at hbefore ⊢
    intro earlier later hsublist
    by_contra hnot
    simp only [not_or, not_lt] at hnot
    have hswapped : [later, earlier].Sublist returned := by
      apply List.pair_sublist_mergeSort htrans htotal (by simpa using hnot.1)
      simpa using hsublist.reverse
    have hplaces := List.pairwise_iff_forall_sublist.mp hreads hswapped
    rcases hbefore hsublist with hless | ⟨hsame, hsame'⟩
    · omega
    · exact hnot.2 ⟨repeats_of_key hsame, repeats_of_key hsame'⟩
  · intro htimes events ⟨hperm, hsorted⟩
    rw [PayoutService.readsInOrder_iff]
    have hplaces : events.Pairwise fun earlier later => place (key earlier) ≤ place (key later) := by
      refine hsorted.imp_of_mem fun {earlier later} hearlier hlater hle => ?_
      have hboth := eq_or_related (hbefore.and htimes) (hperm.mem_iff.mp hearlier)
        (hperm.mem_iff.mp hlater)
      rcases hboth with heq | ⟨hbefore, -⟩ | ⟨hbefore, htime⟩
      · rw [heq]
      · exact hbefore.place_le
      · rcases htime with hless | ⟨⟨hfrom, hto⟩, hfrom', hto'⟩
        · exact absurd hless (not_lt.mpr hle)
        · rw [key, key, hfrom, hto, hfrom', hto']
    rw [eq_of_places (hperm.map key) (List.pairwise_map.mpr hbefore)
      (List.pairwise_map.mpr hplaces)]
    exact horder

end Histories

/-! ## Runs -/

theorem runTimed_fst (steps : List TimedStep) (start : PlatformWorld) :
    (runTimed steps start).1 = runPayouts (steps.map TimedStep.step) start := by
  rw [runTimed, Runs.run_recording_fst]
  induction steps generalizing start with
  | nil => rfl
  | cons timed steps ih => exact ih (timed.next start)

/-- In every run that starts with no withdrawal, and for every withdrawal: whatever order the
database returns its events in, they read in order exactly where events that do not repeat one
another were created one after the other. -/
theorem readsInOrder_of_run {start : PlatformWorld} (hwithdrawals : start.db.rows .withdrawals = [])
    (hevents : start.db.rows .withdrawalEvents = []) (steps : List TimedStep) :
    ∀ w ∈ (runTimed steps start).1.db.rows .withdrawals,
      (∀ events, ListsForWithdrawal (runTimed steps start).1.db (runTimed steps start).2
          w.tenantId w.id events → ReadsInOrder events) ↔
        (eventsOf (runTimed steps start).1.db w.id).Pairwise fun earlier later =>
          (runTimed steps start).2 earlier.id < (runTimed steps start).2 later.id ∨
            (Repeats earlier ∧ Repeats later) := by
  have hstart : Logged start.db := by
    constructor
    · simp [hwithdrawals]
    · simp [hevents]
  have hlogged : Logged (runTimed steps start).1.db := by
    rw [runTimed_fst]
    exact Runs.run_kept (fun world : PlatformWorld => Logged world.db)
      (fun step _ h => h.next step) _ hstart
  exact fun w hw => hlogged.readsInOrder_iff hw

/-! ## One transaction -/

/-- A request and its confirmation, in transactions one second apart. -/
def twoSecondsRun : List TimedStep :=
  [⟨.operation requestStep, 0⟩, ⟨.operation (confirmStep []), microsPerSecond⟩]

/-- After the request alone the history is its creation. -/
theorem readsInOrder_requested :
    ((runTimed (twoSecondsRun.take 1) ⟨openingDb, []⟩).1.db.rows .withdrawals).length = 1 ∧
    ∀ w ∈ (runTimed (twoSecondsRun.take 1) ⟨openingDb, []⟩).1.db.rows .withdrawals,
      ∀ events, ListsForWithdrawal (runTimed (twoSecondsRun.take 1) ⟨openingDb, []⟩).1.db
        (runTimed (twoSecondsRun.take 1) ⟨openingDb, []⟩).2 w.tenantId w.id events →
          ReadsInOrder events := by
  have hsingle : ∀ w ∈ (runTimed (twoSecondsRun.take 1) ⟨openingDb, []⟩).1.db.rows .withdrawals,
      (eventsOf (runTimed (twoSecondsRun.take 1) ⟨openingDb, []⟩).1.db w.id).Pairwise
        fun earlier later =>
          (runTimed (twoSecondsRun.take 1) ⟨openingDb, []⟩).2 earlier.id <
              (runTimed (twoSecondsRun.take 1) ⟨openingDb, []⟩).2 later.id ∨
            (Repeats earlier ∧ Repeats later) := by
    decide +kernel
  exact ⟨by decide +kernel, fun w hw =>
    (@readsInOrder_of_run ⟨openingDb, []⟩ rfl rfl _ w hw).mpr (hsingle w hw)⟩

/-- The events of the run, the last before the one it followed. -/
def swappedEvents : List WithdrawalEvent :=
  let events := (runTimed twoSecondsRun ⟨openingDb, []⟩).1.db.rows .withdrawalEvents
  events.take 1 ++ (events.drop 1).reverse

/-- The confirmation approves and submits in one transaction: the database may return what came
second first. -/
theorem not_readsInOrder_confirmed :
    ∃ w ∈ (runTimed twoSecondsRun ⟨openingDb, []⟩).1.db.rows .withdrawals,
      ∃ events, ListsForWithdrawal (runTimed twoSecondsRun ⟨openingDb, []⟩).1.db
        (runTimed twoSecondsRun ⟨openingDb, []⟩).2 w.tenantId w.id events ∧
          ¬ReadsInOrder events := by
  have hlists : ∀ w ∈ (runTimed twoSecondsRun ⟨openingDb, []⟩).1.db.rows .withdrawals,
      ListsForWithdrawal (runTimed twoSecondsRun ⟨openingDb, []⟩).1.db
        (runTimed twoSecondsRun ⟨openingDb, []⟩).2 w.tenantId w.id swappedEvents := by
    decide +kernel
  have hreads : ¬ReadsInOrder swappedEvents := by decide +kernel
  have hlength : (runTimed twoSecondsRun ⟨openingDb, []⟩).1.db.rows .withdrawals ≠ [] := by
    decide +kernel
  obtain ⟨w, hw⟩ := List.exists_mem_of_ne_nil _ hlength
  exact ⟨w, hw, swappedEvents, hlists w hw, hreads⟩

end InfinityRadius.Services.PayoutService
