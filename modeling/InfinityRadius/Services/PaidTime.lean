import InfinityRadius.Services.AccessRuns
import InfinityRadius.Services.Credentials
import InfinityRadius.Services.PayoutChanges
import InfinityRadius.Tasks.Reconciliation

/-!
# The end of paid time

A subscription records when its time is over, and `revoke_customer_radius_access` is there to
take the user away then, but none of the scheduled tasks calls it.  A user has a password as
long as any subscription of its phone is active, over or not.
-/

namespace InfinityRadius.Services

open Database Payload Program Sql Models CaptivePortalActivationService

/-! ## Scheduled tasks -/

/-- What payments, activations and the web process do for the tasks. -/
inductive AccessWork
  | access (step : AccessStep)
  | payout (step : PayoutService.Step)

def AccessWork.next (work : AccessWork) (state : AccessState) : AccessState :=
  match work with
  | access step => step.next state
  | payout step => { state with world := step.next state.world }

/-- The tasks of `beat_schedule`, with what each row they list meets. -/
inductive ScheduledTask
  | reconcilePendingWithdrawals (runtime : Runtime) (outside : ℕ → Outside)
  | reconcilePendingCollections (runtime : Runtime) (outside : ℕ → Outside)
  | retryCaptiveActivations (runtime : Runtime) (listing : Outside) (first second : ℕ → Outside)

/-- The work a task asks for, one piece for each row it lists. -/
def ScheduledTask.work (task : ScheduledTask) (db : PlatformDb) : List AccessWork :=
  match task with
  | reconcilePendingWithdrawals runtime outside =>
    ((db.rows .withdrawals).filter Tasks.reconcilableWithdrawal).map fun w =>
      .payout ⟨.reconcileIfPending w.id, runtime, outside w.id⟩
  | reconcilePendingCollections runtime outside =>
    ((db.rows .transactions).filter Tasks.reconcilableCollection).map fun t =>
      .access (.payment (.reconcile .collection t.id) runtime (outside t.id))
  | retryCaptiveActivations runtime listing first second =>
    match (transact listing listRetryable (⟨db, []⟩ : PlatformWorld)).1 with
    | .ok ids => ids.map fun id =>
      .access (.activation runtime id (first id) (second id) fun _ => false)
    | .error _ => []

/-- The tasks run among payments and activations, in any order; a round of them is `completed`
at some time. -/
inductive BeatStep
  | access (step : AccessStep)
  | scheduled (task : ScheduledTask)
  | completed (time : Timestamp)

def BeatStep.next (step : BeatStep) (state : AccessState) : AccessState :=
  match step with
  | access step => step.next state
  | scheduled task => Runs.run AccessWork.next (task.work state.world.db) state
  | completed _ => state

/-! ## Calls that succeed -/

/-- Every call to the network agent, or the RADIUS database, succeeds. -/
def Responds (settings : Settings) (first : Outside) : Prop :=
  ∀ transport, describeTransport settings = some transport →
    succeeded transport (first.respond 0) = true ∧ succeeded transport (first.respond 1) = true

def AccessStep.Responsive : AccessStep → Prop
  | payment .. => True
  | activation runtime _ first _ _ => Responds runtime.settings first

def AccessWork.Responsive : AccessWork → Prop
  | access step => step.Responsive
  | payout _ => True

def BeatStep.Responsive : BeatStep → Prop
  | access step => step.Responsive
  | scheduled (.retryCaptiveActivations runtime _ first _) => ∀ id, Responds runtime.settings (first id)
  | _ => True

theorem Responds.grants {settings : Settings} {first : Outside} {landed : ℕ → Bool}
    (h : Responds settings first) (hlands : Lands settings first landed) :
    Grants settings first := by
  obtain ⟨transport, htransport, -⟩ := hlands
  exact ⟨transport, htransport, h transport htransport⟩

theorem BeatStep.Responsive.work {task : ScheduledTask} (h : (BeatStep.scheduled task).Responsive)
    {db : PlatformDb} {work : AccessWork} (hwork : work ∈ task.work db) : work.Responsive := by
  cases task with
  | reconcilePendingWithdrawals runtime outside =>
    obtain ⟨w, -, rfl⟩ := List.mem_map.mp hwork
    trivial
  | reconcilePendingCollections runtime outside =>
    obtain ⟨t, -, rfl⟩ := List.mem_map.mp hwork
    trivial
  | retryCaptiveActivations runtime listing first second =>
    rw [ScheduledTask.work] at hwork
    split at hwork
    · obtain ⟨id, -, rfl⟩ := List.mem_map.mp hwork
      exact h id
    · cases hwork

/-! ## Active subscriptions -/

/-- The subscription is active, and its customer has the phone. -/
def ActiveFor (db : PlatformDb) (phone : String) (subscription : Subscription) : Prop :=
  subscription.status = .active ∧
    ∃ customer ∈ db.rows .customers, customer.id = subscription.customerId ∧
      customer.phone = phone

instance (db : PlatformDb) (phone : String) (subscription : Subscription) :
    Decidable (ActiveFor db phone subscription) :=
  inferInstanceAs (Decidable (_ ∧ _))

/-- The expiry is empty, or later than the time. -/
def unended (time : Timestamp) (subscription : Subscription) : Bool :=
  subscription.expiresAt.all fun expiresAt => decide (time < expiresAt)

/-- At the end of a round, only users with a subscription that is active and not over have a
password. -/
def BeatStep.Ended (step : BeatStep) (state : AccessState) : Prop :=
  match step with
  | completed time => ∀ phone, state.radius.passwordsOf phone ≠ [] →
    ∃ subscription ∈ state.world.db.rows .subscriptions,
      ActiveFor state.world.db phone subscription ∧ unended time subscription = true
  | _ => True

/-- At the end of a round, whoever has an active subscription has one that is not over. -/
def BeatStep.Covered (step : BeatStep) (state : AccessState) : Prop :=
  match step with
  | completed time => ∀ phone,
    ∀ subscription ∈ state.world.db.rows .subscriptions,
      ActiveFor state.world.db phone subscription →
    ∃ subscription ∈ state.world.db.rows .subscriptions,
      ActiveFor state.world.db phone subscription ∧ unended time subscription = true
  | _ => True

/-! ## Users -/

/-- Exactly the phones with an active subscription have a password. -/
def Metered (db : PlatformDb) (radius : RadiusDb) : Prop :=
  ∀ phone, radius.passwordsOf phone ≠ [] ↔
    ∃ subscription ∈ db.rows .subscriptions, ActiveFor db phone subscription

section Metered

variable {db db' : PlatformDb} {radius radius' : RadiusDb} {phone : String}

theorem ActiveFor.congr {subscription : Subscription}
    (h : db'.rows .customers = db.rows .customers) :
    ActiveFor db' phone subscription ↔ ActiveFor db phone subscription := by
  rw [ActiveFor, ActiveFor, h]

theorem Metered.congr (h : Metered db radius)
    (hsubscriptions : db'.rows .subscriptions = db.rows .subscriptions)
    (hcustomers : db'.rows .customers = db.rows .customers)
    (hradius : RadiusDb.Agree radius radius') : Metered db' radius' := by
  intro phone
  rw [RadiusDb.passwordsOf, (hradius phone).1, hsubscriptions]
  simp only [ActiveFor.congr hcustomers]
  exact h phone

/-- Payments only add subscriptions that wait. -/
theorem Metered.worked (h : Metered db radius) (hlinked : Linked db) (hworked : Worked db db') :
    Metered db' radius := by
  obtain ⟨added, hadded, hnew⟩ := hworked.subscriptions
  obtain ⟨more, hcustomers⟩ := hworked.customers
  intro phone
  rw [h phone]
  constructor
  · rintro ⟨subscription, hmem, hactive, customer, hcustomer, hid, hphone⟩
    use subscription
    rw [hadded]
    use List.mem_append_left _ hmem, hactive, customer
    rw [hcustomers]
    exact ⟨List.mem_append_left _ hcustomer, hid, hphone⟩
  · rintro ⟨subscription, hmem, hactive, customer, hcustomer, hid, hphone⟩
    rw [hadded] at hmem
    rcases List.mem_append.mp hmem with hold | hmem
    · obtain ⟨enrolled, henrolled, henrolledId⟩ := hlinked.enrolled subscription hold
      have hsame : customer = enrolled := by
        apply db'.id_injOn hcustomer _ (hid.trans henrolledId.symm)
        rw [hcustomers]
        exact List.mem_append_left _ henrolled
      exact ⟨subscription, hold, hactive, enrolled, henrolled, henrolledId, hsame ▸ hphone⟩
    · rw [(hnew subscription hmem).1] at hactive
      cases hactive

variable {transactionId : ℕ} {t : Transaction} {subscription : Subscription}
  {customer : Customer} {package : Package}

/-- The subscription of a granted access is the only one that may have become active. -/
theorem activeFor_granted (hlinked : Linked db)
    (hpurchase : Purchase db transactionId t subscription customer package)
    (hgranted : Granted db db' t subscription package) :
    (∃ other ∈ db'.rows .subscriptions, ActiveFor db' phone other) ↔
      phone = customer.phone ∨ ∃ other ∈ db.rows .subscriptions, ActiveFor db phone other := by
  have hcustomers : db'.rows .customers = db.rows .customers := hgranted.others _ (by decide)
  obtain ⟨hcustomer, hstatus⟩ := hlinked.purchase hpurchase
  simp only [ActiveFor.congr hcustomers]
  have howner : ∀ other : Subscription, other.status = .active →
      other.customerId = subscription.customerId → ActiveFor db customer.phone other :=
    fun other hactive hsame =>
      ⟨hactive, customer, hpurchase.enrolled, (hsame.trans hcustomer).symm, rfl⟩
  rcases hgranted.subscriptions with ⟨hpending, time, hrows⟩ | ⟨hnotPending, hrows⟩
  · rw [hrows]
    constructor
    · rintro ⟨other, hother, hactive⟩
      rcases mem_replaceRow hother with rfl | ⟨hold, -⟩
      · left
        obtain ⟨-, enrolled, henrolled, hid, rfl⟩ := hactive
        rw [db.id_injOn henrolled hpurchase.enrolled (hid.trans hcustomer)]
      · exact Or.inr ⟨other, hold, hactive⟩
    · rintro (rfl | ⟨other, hother, hactive⟩)
      · exact ⟨_, mem_replaceRow_self hpurchase.subscribed rfl, howner _ rfl rfl⟩
      · refine ⟨other, mem_replaceRow_of_ne hother fun hsame => ?_, hactive⟩
        obtain rfl : other = subscription := db.id_injOn hother hpurchase.subscribed hsame
        have hstill := hactive.1
        rw [hpending] at hstill
        cases hstill
  · rw [hrows]
    constructor
    · exact Or.inr
    · rintro (rfl | h)
      · exact ⟨subscription, hpurchase.subscribed, howner _ (hstatus.resolve_left hnotPending) rfl⟩
      · exact h

theorem Metered.activated {runtime : Runtime} {first : Outside} {landed : ℕ → Bool}
    (h : Metered db radius) (hlinked : Linked db) (hresponds : Responds runtime.settings first)
    (heffect : Activated runtime transactionId first landed db db' radius radius') :
    Metered db' radius' := by
  have hcustomers : db'.rows .customers = db.rows .customers := heffect.others (by decide)
  cases heffect with
  | unchanged hdb hradius _ => exact h.congr (by rw [hdb]) hcustomers hradius
  | failed _ hgrants hdb hradius =>
    rcases hradius with ⟨hlands, -⟩ | ⟨-, hradius⟩
    · exact absurd (hresponds.grants hlands) hgrants
    · apply h.congr _ hcustomers hradius
      rcases hdb with hdb | hrecorded
      · rw [hdb]
      · exact hrecorded.rows_of_ne (by decide)
  | @granted _ _ customer _ hpurchase _ hgranted hradius =>
    intro phone
    rw [activeFor_granted hlinked hpurchase hgranted, ← h phone, RadiusDb.passwordsOf,
      (hradius phone).1]
    by_cases hphone : phone = customer.phone
    · simp only [hphone, true_or, iff_true]
      rw [provisioned, ← RadiusDb.passwordsOf, RadiusDb.passwordsOf_provisionUser]
      exact List.cons_ne_nil _ _
    · simp only [hphone, false_or]
      rw [provisioned, ← RadiusDb.passwordsOf, RadiusDb.passwordsOf_provisionUser_of_ne hphone]

end Metered

/-! ## Runs -/

/-- What every step keeps. -/
structure Tracked (state : AccessState) : Prop where
  linked : Linked state.world.db
  metered : Metered state.world.db state.radius

theorem Tracked.work {work : AccessWork} {state : AccessState} (hresponsive : work.Responsive)
    (h : Tracked state) : Tracked (work.next state) := by
  cases work with
  | access step =>
    cases step with
    | payment work runtime outside =>
      obtain ⟨hworked, -⟩ := works runtime outside state.world work
      exact ⟨h.linked.worked hworked, h.metered.worked h.linked hworked⟩
    | activation runtime transactionId first second landed =>
      have heffect := activated runtime transactionId first second landed state.radius state.world
      exact ⟨h.linked.activated heffect, h.metered.activated h.linked hresponsive heffect⟩
  | payout step =>
    have hrows : ∀ table ∈ [.transactions, .subscriptions, .customers],
        (step.next state.world).db.rows table = state.world.db.rows table := by
      intro table htable
      apply step.others
      revert htable
      cases table <;> decide
    constructor
    · exact h.linked.congr hrows
    · exact h.metered.congr (hrows _ (by decide)) (hrows _ (by decide)) fun _ => ⟨rfl, rfl⟩

theorem Tracked.step {step : BeatStep} {state : AccessState} (hresponsive : step.Responsive)
    (h : Tracked state) : Tracked (step.next state) := by
  cases step with
  | access step =>
    have hnext : Tracked ((AccessWork.access step).next state) := h.work hresponsive
    exact hnext
  | scheduled task =>
    apply Runs.run_invariant Tracked _ _ h
    · exact fun work _ => AccessWork.Responsive work
    · exact fun _ _ hresponsive h => h.work hresponsive
    · exact Runs.All.of_forall (fun work hwork _ => hresponsive.work hwork) state
  | completed time => exact h

theorem Tracked.ended_iff {step : BeatStep} {state : AccessState} (h : Tracked state) :
    step.Ended state ↔ step.Covered state := by
  cases step with
  | access step => rfl
  | scheduled task => rfl
  | completed time =>
    constructor
    · exact fun hended phone subscription hmem hactive =>
        hended phone ((h.metered phone).mpr ⟨subscription, hmem, hactive⟩)
    · intro hcovered phone hpassword
      obtain ⟨subscription, hmem, hactive⟩ := (h.metered phone).mp hpassword
      exact hcovered phone subscription hmem hactive

/-- From empty tables on, a round ends access in time exactly where nobody's active
subscriptions are all over. -/
theorem ended_iff_covered {steps : List BeatStep} {state : AccessState}
    (htransactions : state.world.db.rows .transactions = [])
    (hsubscriptions : state.world.db.rows .subscriptions = []) (hradius : state.radius.radcheck = [])
    (hresponsive : ∀ step ∈ steps, step.Responsive) :
    Runs.All BeatStep.next (fun step state => step.Ended state ↔ step.Covered state) steps
      state := by
  have hstart : Tracked state := by
    constructor
    · constructor <;> simp [htransactions, hsubscriptions]
    · intro phone
      simp [RadiusDb.passwordsOf, RadiusDb.checksOf, hradius, hsubscriptions]
  apply Runs.All.of_invariant _ (Runs.All.of_forall (fun step hstep _ => hresponsive step hstep) state)
    hstart
  exact fun step state hresponsive h => ⟨h.ended_iff, h.step hresponsive⟩

/-! ## An hour of access -/

/-- An hour is paid for and granted; the tasks find nothing to do, and are done one
microsecond after it. -/
def overdueSteps : List BeatStep :=
  (purchase 0 "first").map .access ++
  [.scheduled (.reconcilePendingWithdrawals shopRuntime fun _ => PayoutService.answering []),
   .scheduled (.reconcilePendingCollections shopRuntime fun _ => PayoutService.answering []),
   .scheduled (.retryCaptiveActivations shopRuntime (PayoutService.answering [])
     (fun _ => granting) fun _ => granting),
   .completed (3600 * microsPerSecond + 1)]

theorem overdue_responsive : ∀ step ∈ overdueSteps, step.Responsive := by
  have hgranting : Responds shopRuntime.settings granting := by
    intro transport _
    cases transport <;> exact ⟨by decide, by decide⟩
  intro step hstep
  simp only [overdueSteps, purchase, List.map_cons, List.map_nil, List.cons_append, List.nil_append,
    List.mem_cons, List.not_mem_nil, or_false] at hstep
  rcases hstep with rfl | rfl | rfl | rfl | rfl | rfl | rfl | rfl
  any_goals trivial
  · exact fun _ => hgranting

theorem overdue_covered :
    Runs.All BeatStep.next (fun step state => step.Ended state ↔ step.Covered state) overdueSteps
      ⟨⟨retailDb, []⟩, emptyRadius⟩ :=
  ended_iff_covered rfl rfl rfl overdue_responsive

/-- The user still has the password after its hour. -/
theorem not_ended_overdue :
    (∀ step ∈ overdueSteps, step.Responsive) ∧
      ¬Runs.All BeatStep.next BeatStep.Ended overdueSteps ⟨⟨retailDb, []⟩, emptyRadius⟩ := by
  use overdue_responsive
  rintro ⟨-, -, -, -, -, -, -, hlast, -⟩
  exact absurd (hlast "255712345678" (by decide +kernel)) (by decide +kernel)

end InfinityRadius.Services
