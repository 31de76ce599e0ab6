import InfinityRadius.Services.ActivationRules
import InfinityRadius.Services.PaymentRuns

/-!
# Recovery of paid access

A payment is committed before its access is activated, and an activation that fails, or dies
on the way, is tried again.  Nothing an activation does touches the money, and until it
succeeds the payment stays on the list of the retry sweep.
-/

namespace InfinityRadius.Models

/-- A request to the RADIUS database. -/
def Request.Provisions : Request → Prop
  | .syncPackageGroup .. => True
  | .provisionUser .. => True
  | _ => False

theorem Request.Checkout.not_provisions {request : Request} (h : request.Checkout) :
    ¬request.Provisions := by
  cases request <;> simp_all [Request.Checkout, Request.Provisions]

end InfinityRadius.Models

namespace InfinityRadius.Services

open Database Payload Program Sql Models CaptivePortalActivationService

/-! ## Attempts -/

/-- Where an attempt is stopped by an exception it does not handle, or dies. -/
inductive Interruption
  | never
  | first (statements : ℕ)
  | second (statements : ℕ)

/-- One call of `run_activation`. -/
structure Attempt where
  runtime : Runtime
  first : Outside
  second : Outside
  interruption : Interruption := .never

namespace Attempt

def run (attempt : Attempt) (transactionId : ℕ) (world : PlatformWorld) :
    Except Failure ActivationStatus × PlatformWorld :=
  match attempt.interruption with
  | .never => runActivation attempt.runtime transactionId attempt.first attempt.second world
  | .first statements =>
    transact attempt.first
      (Prog.cut .database statements (activate attempt.runtime transactionId)) world
  | .second statements =>
    match transact attempt.first (activate attempt.runtime transactionId) world with
    | (.error (.activationFailed reason), world') =>
      transact attempt.second
        (Prog.cut .database statements (recordFailure transactionId reason)) world'
    | ended => ended

variable (attempt : Attempt) (transactionId : ℕ) (world : PlatformWorld)

/-- The requests an attempt would send that nothing stops. -/
def requests : List (Request × HttpResult) :=
  exchanges attempt.first (activate attempt.runtime transactionId) world.db

/-- An attempt commits what an activation commits, or is stopped and commits nothing. -/
theorem run_cases :
    ∃ more, (attempt.run transactionId world).2.sent = world.sent ++ more ∧
      (Ran attempt.runtime transactionId world.db (attempt.run transactionId world).1
          (attempt.run transactionId world).2.db more ∨
        ((∃ e, (attempt.run transactionId world).1 = .error e) ∧
          (attempt.run transactionId world).2.db = world.db ∧
          more <+: attempt.requests transactionId world)) := by
  have hfirst := transact_activate attempt.runtime transactionId world attempt.first
  rw [Attempt.run]
  split
  · obtain ⟨hran, hsent⟩ := ran attempt.runtime transactionId world attempt.first attempt.second
    exact ⟨_, hsent, Or.inl hran⟩
  · rename_i statements _
    refine ⟨_, transact_sent _ _ _, ?_⟩
    rcases transact_cut Failure.database statements world with ⟨hsame, hrequests⟩ |
      ⟨herror, hdb, hbefore⟩
    · left
      rw [hsame, hrequests]
      exact hfirst
    · exact Or.inr ⟨⟨_, herror⟩, hdb, hbefore⟩
  · rename_i statements _
    split
    · rename_i reason failed hfailed
      have hsent := transact_sent attempt.first (activate attempt.runtime transactionId) world
      have hdb := transact_db_of_error (congrArg Prod.fst hfailed)
      rw [hfailed] at hsent hdb
      have hquiet : exchanges attempt.second (recordFailure transactionId reason) failed.db = [] :=
        exchanges_of_always attempt.second (· = []) (always_recordFailure.mono
          (fun _ _ h => h.2.1) fun _ _ h => h)
      use attempt.requests transactionId world
      rcases transact_cut Failure.database statements failed with ⟨hsame, -⟩ |
        ⟨herror, hkept, hbefore⟩
      · have hran := ran attempt.runtime transactionId world attempt.first attempt.second
        rw [runActivation, hfailed] at hran
        rw [hsame]
        exact ⟨hran.2, Or.inl hran.1⟩
      · rw [hquiet, List.prefix_nil] at hbefore
        constructor
        · rw [transact_sent, hbefore, List.append_nil]
          exact hsent
        · exact Or.inr ⟨⟨_, herror⟩, hkept.trans hdb, List.prefix_refl _⟩
    · exact ⟨_, transact_sent _ _ _, Or.inl hfirst⟩

end Attempt

/-! ## What an attempt keeps -/

/-- The columns of a transaction an activation does not own. -/
def payment (t : Transaction) : Transaction :=
  { t with activationStatus := none, activatedAt := none }

/-- Paid captive payments are on the list of the retry sweep until access is granted. -/
def Recoverable (db : PlatformDb) : Prop :=
  ∀ t ∈ db.rows .transactions, t.transactionType = some .captivePortal →
    t.status = .completed →
    t.activationStatus = some .active ∨
      ((t.activationStatus = some .pending ∨ t.activationStatus = some .failed) ∧
        retryable t = true)

/-- The user of the subscription was provisioned, with its own password and package. -/
def Provided (runtimes : Set Runtime) (subscription : Subscription)
    (sent : List (Request × HttpResult)) : Prop :=
  ∃ runtime ∈ runtimes, ∃ transport username answer,
    (.provisionUser transport username subscription.packageId
      (deriveRadiusPassword runtime subscription.id), answer) ∈ sent ∧
    succeeded transport answer = true

/-- The transaction's subscription is active, and its user was provisioned. -/
def AccessGranted (runtimes : Set Runtime) (world : PlatformWorld) (t : Transaction) : Prop :=
  ∃ subscription ∈ world.db.rows .subscriptions, t.subscriptionId = some subscription.id ∧
    subscription.status = .active ∧ Provided runtimes subscription world.sent

/-- What is promised of one attempt on a transaction. -/
structure Attempt.Safe (runtimes : Set Runtime) (attempt : Attempt) (transactionId : ℕ)
    (world : PlatformWorld) : Prop where
  money : ∀ table ∈ moneyTables,
    (attempt.run transactionId world).2.db.rows table = world.db.rows table
  payments : ((attempt.run transactionId world).2.db.rows .transactions).map payment =
    (world.db.rows .transactions).map payment
  requested : ∃ more, (attempt.run transactionId world).2.sent = world.sent ++ more ∧
    ∀ exchange ∈ more, exchange.1.Provisions →
      ∃ t ∈ world.db.rows .transactions, t.id = transactionId ∧ t.status = .completed
  recoverable : Recoverable (attempt.run transactionId world).2.db
  granted : (attempt.run transactionId world).1 = .ok .active →
    ∃ t ∈ (attempt.run transactionId world).2.db.rows .transactions, t.id = transactionId ∧
      AccessGranted runtimes (attempt.run transactionId world).2 t

/-- What every operation and every attempt keeps. -/
structure Kept (runtimes : Set Runtime) (world : PlatformWorld) : Prop where
  consistent : ∀ t ∈ world.db.rows .transactions, Consistent t
  linked : ∀ t ∈ world.db.rows .transactions, ∀ id, t.subscriptionId = some id →
    ∃ subscription ∈ world.db.rows .subscriptions, subscription.id = id ∧
      (subscription.status = .pending ∨ subscription.status = .active)
  served : ∀ t ∈ world.db.rows .transactions, t.activationStatus = some .active →
    AccessGranted runtimes world t

section Kept

variable {runtimes : Set Runtime} {world world' : PlatformWorld}

theorem Kept.recoverable (h : Kept runtimes world) : Recoverable world.db := by
  intro t ht hcaptive hcompleted
  rcases (h.consistent t ht).paid hcompleted hcaptive with hpending | hfailed | hactive
  · exact Or.inr ⟨Or.inl hpending, by simp [retryable, hcompleted, hpending]⟩
  · exact Or.inr ⟨Or.inr hfailed, by simp [retryable, hcompleted, hfailed]⟩
  · exact Or.inl hactive

theorem Provided.mono {subscription : Subscription} {sent more : List (Request × HttpResult)}
    (h : Provided runtimes subscription sent) :
    Provided runtimes subscription (sent ++ more) := by
  obtain ⟨runtime, hruntime, transport, username, answer, hsent, hsucceeded⟩ := h
  exact ⟨runtime, hruntime, transport, username, answer, List.mem_append_left _ hsent, hsucceeded⟩

/-- A payment that is new has no subscription, or one that waits for it. -/
theorem Worked.linked {db db' : PlatformDb} (h : Worked db db') {t' : Transaction}
    (ht : t' ∈ db'.rows .transactions) :
    (∃ t ∈ db.rows .transactions, t.SameOrder t') ∨ t'.subscriptionId = none ∨
      ∃ subscription ∈ db'.rows .subscriptions, t'.subscriptionId = some subscription.id ∧
        t'.customerId = some subscription.customerId ∧ subscription.status = .pending := by
  rcases h.origin ht with hold | ⟨_, _, _, _, subscription, hstarted⟩ | ⟨_, _, hstarted⟩
  · exact Or.inl hold
  · right
    right
    have hmem : subscription ∈ db'.rows .subscriptions := by
      rw [hstarted.subscriptions]
      exact List.mem_append_right _ List.mem_cons_self
    have hcustomer : subscription.customerId = _ :=
      congrArg Subscription.customerId hstarted.awaiting
    use subscription, hmem, hstarted.subscriptionId
    exact ⟨hcustomer ▸ hstarted.customerId, congrArg Subscription.status hstarted.awaiting⟩
  · exact Or.inr (Or.inl hstarted.subscriptionId)

/-- Payments keep what was granted. -/
theorem Kept.worked {more : List (Request × HttpResult)} (h : Kept runtimes world)
    (hworked : Worked world.db world'.db) (hsent : world'.sent = world.sent ++ more) :
    Kept runtimes world' := by
  obtain ⟨added, hadded, -⟩ := hworked.subscriptions
  have hstored : ∀ subscription ∈ world.db.rows .subscriptions,
      subscription ∈ world'.db.rows .subscriptions := by
    intro subscription hsubscription
    rw [hadded]
    exact List.mem_append_left _ hsubscription
  constructor
  · exact hworked.consistent h.consistent
  · intro t' ht' id hid
    rcases hworked.linked ht' with ⟨t, ht, horder⟩ | hnone | ⟨subscription, hmem, hlink, -, hpending⟩
    · rw [horder.subscriptionId] at hid
      obtain ⟨subscription, hsubscription, hid, hstatus⟩ := h.linked t ht id hid
      exact ⟨subscription, hstored subscription hsubscription, hid, hstatus⟩
    · rw [hnone] at hid
      cases hid
    · rw [hlink] at hid
      exact ⟨subscription, hmem, Option.some.inj hid, Or.inl hpending⟩
  · intro t ht hactive
    obtain ⟨subscription, hsubscription, hlink, hstatus, hprovided⟩ :=
      h.served t (hworked.active h.consistent ht hactive) hactive
    use subscription, hstored subscription hsubscription, hlink, hstatus
    rw [hsent]
    exact hprovided.mono

/-- The subscription is there, no less active than before. -/
def Carried (db' : PlatformDb) (subscription : Subscription) : Prop :=
  ∃ carried ∈ db'.rows .subscriptions, carried.id = subscription.id ∧
    carried.packageId = subscription.packageId ∧
    (carried.status = subscription.status ∨
      (subscription.status = .pending ∧ carried.status = .active))

theorem AccessGranted.carried {more : List (Request × HttpResult)} {t : Transaction}
    (h : AccessGranted runtimes world t)
    (hsubscriptions : ∀ subscription ∈ world.db.rows .subscriptions,
      Carried world'.db subscription)
    (hsent : world'.sent = world.sent ++ more) : AccessGranted runtimes world' t := by
  obtain ⟨subscription, hsubscription, hlink, hstatus, hprovided⟩ := h
  obtain ⟨carried, hcarried, hid, hpackage, hsame | ⟨hpending, -⟩⟩ :=
    hsubscriptions subscription hsubscription
  · use carried, hcarried
    rw [Provided, hid, hpackage, hsame, hsent]
    exact ⟨hlink, hstatus, hprovided.mono⟩
  · rw [hpending] at hstatus
    cases hstatus

/-- One transaction is written, and its subscription may become active. -/
theorem Kept.replaced {more : List (Request × HttpResult)} {t t' : Transaction}
    (h : Kept runtimes world) (ht : t ∈ world.db.rows .transactions) (horder : t.SameOrder t')
    (hconsistent : Consistent t')
    (htransactions : world'.db.rows .transactions =
      replaceRow schema .transactions t' (world.db.rows .transactions))
    (hsubscriptions : ∀ subscription ∈ world.db.rows .subscriptions,
      Carried world'.db subscription)
    (hserved : t'.activationStatus = some .active → AccessGranted runtimes world' t')
    (hsent : world'.sent = world.sent ++ more) : Kept runtimes world' := by
  constructor
  · intro other hother
    rw [htransactions] at hother
    rcases mem_replaceRow hother with rfl | ⟨hold, -⟩
    · exact hconsistent
    · exact h.consistent other hold
  · have hlinked : ∀ other ∈ world.db.rows .transactions, ∀ id,
        other.subscriptionId = some id → ∃ subscription ∈ world'.db.rows .subscriptions,
          subscription.id = id ∧
            (subscription.status = .pending ∨ subscription.status = .active) := by
      intro other hother id hid
      obtain ⟨subscription, hsubscription, rfl, hstatus⟩ := h.linked other hother id hid
      obtain ⟨carried, hcarried, hid, -, hsame | ⟨-, hactive⟩⟩ :=
        hsubscriptions subscription hsubscription
      · exact ⟨carried, hcarried, hid, by rw [hsame]; exact hstatus⟩
      · exact ⟨carried, hcarried, hid, Or.inr hactive⟩
    intro other hother id hid
    rw [htransactions] at hother
    rcases mem_replaceRow hother with rfl | ⟨hold, -⟩
    · rw [horder.subscriptionId] at hid
      exact hlinked t ht id hid
    · exact hlinked other hold id hid
  · intro other hother hactive
    rw [htransactions] at hother
    rcases mem_replaceRow hother with rfl | ⟨hold, -⟩
    · exact hserved hactive
    · exact (h.served other hold hactive).carried hsubscriptions hsent

/-- A purchase is of a captive payment. -/
theorem Kept.captive {transactionId : ℕ} {t : Transaction} {subscription : Subscription}
    {customer : Customer} {package : Package} (h : Kept runtimes world)
    (hpurchase : Purchase world.db transactionId t subscription customer package) :
    t.transactionType = some .captivePortal := by
  rcases (h.consistent t hpurchase.stored).typed with hcaptive | ⟨-, hunlinked⟩
  · exact hcaptive
  · rw [hpurchase.subscriptionId] at hunlinked
    cases hunlinked

theorem carried_refl {subscription : Subscription} {db : PlatformDb}
    (h : subscription ∈ db.rows .subscriptions) : Carried db subscription :=
  ⟨subscription, h, rfl, rfl, Or.inl rfl⟩

/-- The subscription of a granted access is active afterwards, and no other one changed. -/
theorem CaptivePortalActivationService.Granted.carried {db db' : PlatformDb} {t : Transaction} {subscription : Subscription}
    {package : Package} (h : Granted db db' t subscription package)
    (hsubscribed : subscription ∈ db.rows .subscriptions)
    (hstatus : subscription.status = .pending ∨ subscription.status = .active) :
    (∀ other ∈ db.rows .subscriptions, Carried db' other) ∧
      ∃ carried ∈ db'.rows .subscriptions, carried.id = subscription.id ∧
        carried.packageId = subscription.packageId ∧ carried.status = .active := by
  rcases h.subscriptions with ⟨hpending, time, hrows⟩ | ⟨hnotPending, hrows⟩
  · have hstarted : Subscription.started subscription package time ∈ db'.rows .subscriptions := by
      rw [hrows]
      exact mem_replaceRow_self hsubscribed rfl
    constructor
    · intro other hother
      by_cases hid : other.id = subscription.id
      · obtain rfl : other = subscription := db.id_injOn hother hsubscribed hid
        exact ⟨_, hstarted, rfl, rfl, Or.inr ⟨hpending, rfl⟩⟩
      · apply carried_refl
        rw [hrows]
        exact mem_replaceRow_of_ne hother hid
    · exact ⟨_, hstarted, rfl, rfl, rfl⟩
  · rw [hrows]
    constructor
    · intro other hother
      exact carried_refl (hrows ▸ hother)
    · exact ⟨subscription, hsubscribed, rfl, rfl, hstatus.resolve_left hnotPending⟩

/-- The last request of a provisioning that succeeded. -/
theorem Provisioned.provided {runtime : Runtime} {subscription : Subscription}
    {customer : Customer} {package : Package} {more : List (Request × HttpResult)}
    (h : Provisioned runtime.settings (accessOf runtime subscription customer package) true more)
    (hpackage : package.id = subscription.packageId) (hruntime : runtime ∈ runtimes) :
    Provided runtimes subscription more := by
  cases h with
  | granted transport synced answered _ _ hanswered =>
    use runtime, hruntime, transport, customer.phone, answered
    rw [← hpackage]
    exact ⟨List.mem_cons_of_mem _ List.mem_cons_self, hanswered⟩

/-- An activation keeps what was granted, and what it grants is granted. -/
theorem Kept.ran {runtime : Runtime} {transactionId : ℕ}
    {result : Except Failure ActivationStatus} {more : List (Request × HttpResult)}
    (h : Kept runtimes world) (hruntime : runtime ∈ runtimes)
    (hran : Ran runtime transactionId world.db result world'.db more)
    (hsent : world'.sent = world.sent ++ more) :
    Kept runtimes world' ∧ (result = .ok .active → ∃ t ∈ world'.db.rows .transactions,
      t.id = transactionId ∧ AccessGranted runtimes world' t) := by
  have hsame : world'.db = world.db → Kept runtimes world' := by
    intro hdb
    apply h.worked _ hsent
    rw [hdb]
    exact .refl _
  generalize hdb : world'.db = db' at hran
  cases hran with
  | already ht hid hcompleted hactive =>
    use hsame hdb
    intro _
    exact ⟨_, ht, hid, (hsame hdb).served _ (hdb ▸ ht) hactive⟩
  | unattempted hnone => exact ⟨hsame hdb, fun hcontra => by cases hcontra⟩
  | unrecorded hpurchase hprovisioned => exact ⟨hsame hdb, fun hcontra => by cases hcontra⟩
  | @failed t _ _ _ _ _ hpurchase hprovisioned hrecorded =>
    have hcaptive := h.captive hpurchase
    have horder : t.SameOrder { t with activationStatus := some .failed } := by
      constructor <;> rfl
    constructor
    · apply h.replaced hpurchase.stored horder
      · exact ⟨Or.inl hcaptive, fun _ => ⟨hpurchase.completed, hcaptive⟩,
          fun _ _ => Or.inr (Or.inl rfl)⟩
      · rw [hdb]
        exact hrecorded.rows_self
      · intro subscription hsubscription
        apply carried_refl
        rw [hdb, hrecorded.rows_of_ne (by decide)]
        exact hsubscription
      · intro hcontra
        cases hcontra
      · exact hsent
    · intro hcontra
      cases hcontra
  | @granted t subscription _ _ _ _ hpurchase hgranted hprovisioned =>
    have hcaptive := h.captive hpurchase
    obtain ⟨linked, hlinked, hid, hstatus⟩ :=
      h.linked t hpurchase.stored subscription.id hpurchase.subscriptionId
    obtain rfl : linked = subscription := world.db.id_injOn hlinked hpurchase.subscribed hid
    obtain ⟨hcarried, carried, hmem, hcarriedId, hpackage, hactive⟩ :=
      hgranted.carried hpurchase.subscribed hstatus
    obtain ⟨time, htransactions⟩ := hgranted.transactions
    have hserved : AccessGranted runtimes world' (granted t time) := by
      use carried, hdb ▸ hmem
      rw [Provided, hcarriedId, hpackage, hsent]
      obtain ⟨found, hfound, transport, username, answer, hrequest, hsucceeded⟩ :=
        hprovisioned.provided hpurchase.packageId hruntime
      exact ⟨hpurchase.subscriptionId, hactive, found, hfound, transport, username, answer,
        List.mem_append_right _ hrequest, hsucceeded⟩
    have horder : t.SameOrder (granted t time) := by constructor <;> rfl
    constructor
    · apply h.replaced hpurchase.stored horder
      · exact ⟨Or.inl hcaptive, fun _ => ⟨hpurchase.completed, hcaptive⟩,
          fun _ _ => Or.inr (Or.inr rfl)⟩
      · rw [hdb]
        exact htransactions
      · rw [hdb]
        exact hcarried
      · exact fun _ => hserved
      · exact hsent
    · intro _
      have hstored : granted t time ∈ world'.db.rows .transactions := by
        rw [hdb, htransactions]
        exact mem_replaceRow_self hpurchase.stored rfl
      rw [hdb] at hstored
      exact ⟨_, hstored, hpurchase.id, hserved⟩

end Kept

section Safe

variable {runtime : Runtime} {transactionId : ℕ} {db db' : PlatformDb}
  {result : Except Failure ActivationStatus} {more : List (Request × HttpResult)}

/-- An activation writes transactions and subscriptions only. -/
theorem CaptivePortalActivationService.Ran.others
    (h : Ran runtime transactionId db result db' more) {table : Table}
    (htable : table ∉ [.transactions, .subscriptions]) : db'.rows table = db.rows table := by
  cases h with
  | already => rfl
  | unattempted => rfl
  | unrecorded => rfl
  | granted _ hgranted _ => exact hgranted.others table htable
  | failed _ _ hrecorded => exact hrecorded.rows_of_ne fun h => htable (h ▸ List.mem_cons_self)

/-- No other column of a transaction changes. -/
theorem CaptivePortalActivationService.Ran.payments
    (h : Ran runtime transactionId db result db' more) :
    (db'.rows .transactions).map payment = (db.rows .transactions).map payment := by
  have hreplaced : ∀ t ∈ db.rows .transactions, ∀ t' : Transaction, t'.id = t.id →
      payment t' = payment t →
      (replaceRow schema .transactions t' (db.rows .transactions)).map payment =
        (db.rows .transactions).map payment := by
    intro t ht t' hid hpayment
    rw [replaceRow, List.map_map]
    apply List.map_congr_left
    intro other hother
    rw [Function.comp_apply]
    split
    · rename_i hsame
      obtain rfl : other = t := db.id_injOn hother ht (hsame.trans hid)
      exact hpayment
    · rfl
  cases h with
  | already => rfl
  | unattempted => rfl
  | unrecorded => rfl
  | granted hpurchase hgranted _ =>
    obtain ⟨time, htransactions⟩ := hgranted.transactions
    rw [htransactions]
    exact hreplaced _ hpurchase.stored _ rfl rfl
  | failed hpurchase _ hrecorded =>
    rw [hrecorded.rows_self]
    exact hreplaced _ hpurchase.stored _ rfl rfl

/-- An activation asks for the access of a completed payment only. -/
theorem CaptivePortalActivationService.Ran.completed
    (h : Ran runtime transactionId db result db' more) {exchange : Request × HttpResult}
    (hexchange : exchange ∈ more) :
    ∃ t ∈ db.rows .transactions, t.id = transactionId ∧ t.status = .completed := by
  rcases h.requests with ⟨hnothing, -⟩ | ⟨t, _, _, _, _, hpurchase, -⟩
  · rw [hnothing] at hexchange
    cases hexchange
  · exact ⟨t, hpurchase.stored, hpurchase.id, hpurchase.completed⟩

/-- Every attempt is safe, and keeps what was granted. -/
theorem Kept.safe {runtimes : Set Runtime} {world : PlatformWorld} (h : Kept runtimes world)
    {attempt : Attempt} (hruntime : attempt.runtime ∈ runtimes) (transactionId : ℕ) :
    attempt.Safe runtimes transactionId world ∧
      Kept runtimes (attempt.run transactionId world).2 := by
  obtain ⟨more, hsent, hran | ⟨⟨e, herror⟩, hdb, hbefore⟩⟩ := attempt.run_cases transactionId world
  · obtain ⟨hkept, hgranted⟩ := h.ran hruntime hran hsent
    have hsafe : attempt.Safe runtimes transactionId world :=
      { money := fun table htable => hran.others (by revert htable; cases table <;> decide)
        payments := hran.payments
        requested := ⟨more, hsent, fun _ hexchange _ => hran.completed hexchange⟩
        recoverable := hkept.recoverable
        granted := hgranted }
    exact ⟨hsafe, hkept⟩
  · have hkept : Kept runtimes (attempt.run transactionId world).2 := by
      apply h.worked _ hsent
      rw [hdb]
      exact .refl _
    have hsafe : attempt.Safe runtimes transactionId world :=
      { money := fun table _ => by rw [hdb]
        payments := by rw [hdb]
        requested := ⟨more, hsent, fun _ hexchange _ =>
          (transact_activate attempt.runtime transactionId world attempt.first).completed
            (hbefore.subset hexchange)⟩
        recoverable := hkept.recoverable
        granted := by
          rw [herror]
          intro hcontra
          cases hcontra }
    exact ⟨hsafe, hkept⟩

end Safe

/-! ## Runs -/

/-- An operation on payments, an attempt to activate one, or a round of the retry sweep.
Each operation may be stopped by an exception, and a sweep ends early where there are fewer
attempts than payments to retry. -/
inductive RecoveryStep
  | operation (work : PaymentOperation) (runtime : Runtime) (outside : Outside)
      (stopped : Option ℕ)
  | activation (attempt : Attempt) (transactionId : ℕ)
  | sweep (listing : Outside) (attempts : List Attempt)

/-- The database after an attempt. -/
def attempted (call : Attempt × ℕ) (world : PlatformWorld) : PlatformWorld :=
  (call.1.run call.2 world).2

/-- The program, stopped after that many statements. -/
def stoppedAt {α : Type} : Option ℕ → Tx α → Tx α
  | none, x => x
  | some statements, x => Prog.cut .database statements x

namespace RecoveryStep

/-- The attempts of a step, in their order. -/
def attempts (world : PlatformWorld) : RecoveryStep → List (Attempt × ℕ)
  | operation .. => []
  | activation attempt transactionId => [(attempt, transactionId)]
  | sweep listing attempts =>
    match (transact listing listRetryable world).1 with
    | .ok ids => attempts.zip ids
    | .error _ => []

def next (step : RecoveryStep) (world : PlatformWorld) : PlatformWorld :=
  match step with
  | operation work runtime outside stopped =>
    (transact outside (stoppedAt stopped (work.program runtime)) world).2
  | step => Runs.run attempted (step.attempts world) world

/-- The runtimes of the attempts. -/
def runtimes : RecoveryStep → Set Runtime
  | operation .. => ∅
  | activation attempt _ => {attempt.runtime}
  | sweep _ attempts => { runtime | ∃ attempt ∈ attempts, attempt.runtime = runtime }

/-- An operation on payments asks for no access. -/
def Quiet (step : RecoveryStep) (world : PlatformWorld) : Prop :=
  match step with
  | operation .. => ∃ more, (step.next world).sent = world.sent ++ more ∧
    ∀ exchange ∈ more, ¬exchange.1.Provisions
  | _ => True

/-- Each attempt of the step is safe, nothing else asks for access, and the payments can be
recovered after it. -/
structure Safe (runtimes : Set Runtime) (step : RecoveryStep) (world : PlatformWorld) :
    Prop where
  attempts : Runs.All attempted
    (fun call world => call.1.Safe runtimes call.2 world) (step.attempts world) world
  quiet : step.Quiet world
  recoverable : Recoverable (step.next world).db

end RecoveryStep

/-- An operation that is stopped leaves nothing. -/
theorem worked_stopped (runtime : Runtime) (outside : Outside) (world : PlatformWorld)
    (work : PaymentOperation) (stopped : Option ℕ) :
    ∃ more, (transact outside (stoppedAt stopped (work.program runtime)) world).2.sent =
        world.sent ++ more ∧ (∀ exchange ∈ more, exchange.1.Checkout) ∧
      Worked world.db (transact outside (stoppedAt stopped (work.program runtime)) world).2.db := by
  obtain ⟨hworked, hchecked⟩ := works runtime outside world work
  refine ⟨_, transact_sent _ _ _, ?_⟩
  cases stopped with
  | none => exact ⟨hchecked, hworked⟩
  | some statements =>
    rcases transact_cut Failure.database statements world with ⟨hsame, hrequests⟩ |
      ⟨-, hdb, hbefore⟩
    · rw [stoppedAt, hsame, hrequests]
      exact ⟨hchecked, hworked⟩
    · rw [stoppedAt, hdb]
      exact ⟨fun exchange hexchange => hchecked exchange (hbefore.subset hexchange), .refl _⟩

theorem Kept.attempts {runtimes : Set Runtime} {calls : List (Attempt × ℕ)}
    {world : PlatformWorld} (h : Kept runtimes world)
    (hcalls : ∀ call ∈ calls, call.1.runtime ∈ runtimes) :
    Runs.All attempted (fun call world => call.1.Safe runtimes call.2 world) calls world ∧
      Kept runtimes (Runs.run attempted calls world) := by
  induction calls generalizing world with
  | nil => exact ⟨trivial, h⟩
  | cons call calls ih =>
    obtain ⟨hsafe, hkept⟩ := h.safe (hcalls call List.mem_cons_self) call.2
    obtain ⟨hall, hlast⟩ :=
      ih hkept fun other hother => hcalls other (List.mem_cons_of_mem _ hother)
    exact ⟨⟨hsafe, hall⟩, hlast⟩

theorem Kept.step {runtimes : Set Runtime} {step : RecoveryStep} {world : PlatformWorld}
    (h : Kept runtimes world) (hruntimes : step.runtimes ⊆ runtimes) :
    step.Safe runtimes world ∧ Kept runtimes (step.next world) := by
  cases step with
  | operation work runtime outside stopped =>
    obtain ⟨more, hsent, hchecked, hworked⟩ := worked_stopped runtime outside world work stopped
    have hkept : Kept runtimes _ := h.worked hworked hsent
    exact ⟨⟨trivial, ⟨more, hsent, fun exchange hexchange =>
      (hchecked exchange hexchange).not_provisions⟩, hkept.recoverable⟩, hkept⟩
  | activation attempt transactionId =>
    have hcalls : ∀ call ∈ [(attempt, transactionId)], call.1.runtime ∈ runtimes := by
      intro call hcall
      rw [List.mem_singleton.mp hcall]
      exact hruntimes rfl
    obtain ⟨hall, hkept⟩ := h.attempts hcalls
    exact ⟨⟨hall, trivial, hkept.recoverable⟩, hkept⟩
  | sweep listing attempts =>
    have hcalls : ∀ call ∈ RecoveryStep.attempts world (.sweep listing attempts),
        call.1.runtime ∈ runtimes := by
      intro call hcall
      rw [RecoveryStep.attempts] at hcall
      split at hcall
      · exact hruntimes ⟨call.1, (List.of_mem_zip hcall).1, rfl⟩
      · cases hcall
    obtain ⟨hall, hkept⟩ := h.attempts hcalls
    exact ⟨⟨hall, trivial, hkept.recoverable⟩, hkept⟩

/-- From a platform without payments on, every attempt is safe and every paid access can be
recovered, whatever fails. -/
theorem access_recoverable (steps : List RecoveryStep) (world : PlatformWorld)
    (hempty : world.db.rows .transactions = []) :
    Runs.All RecoveryStep.next
      (RecoveryStep.Safe { runtime | ∃ step ∈ steps, runtime ∈ step.runtimes }) steps world := by
  have hsteps : Runs.All RecoveryStep.next (fun step _ => step ∈ steps) steps world :=
    Runs.All.of_forall (fun step hstep _ => hstep) world
  have hstart : Kept { runtime | ∃ step ∈ steps, runtime ∈ step.runtimes } world := by
    constructor <;> simp [hempty]
  exact Runs.All.of_invariant (fun step world hstep hkept =>
    hkept.step fun runtime hruntime => ⟨step, hstep, hruntime⟩) hsteps hstart

/-! ## A retry that succeeds -/

/-- A tenant with a package on sale and commercial terms. -/
def retailRows : (t : Table) → List (Row t)
  | .tenantCommercialTerms =>
    [{ id := 0, tenantId := 1, commissionRatePercent := 500, isActive := true, notes := none,
       createdBy := none }]
  | t => portalRows true t

def retailDb : PlatformDb where
  rows := retailRows
  valid t := by cases t <;> decide +kernel
  apart t := by cases t <;> decide +kernel

/-- The agent does not answer the first attempt, and the retry sweep comes by later. -/
def retrySteps : List RecoveryStep :=
  [.operation (.issueSession 0 none) portalRuntime (PayoutService.answering []) none,
   .operation (.initiate (.captive "intent" 0 "0712345678")) portalRuntime
     (PayoutService.answering [accepted, accepted]) none,
   .operation (.finalizePayment 0) portalRuntime (PayoutService.answering []) none,
   .activation ⟨portalRuntime, PayoutService.answering [], PayoutService.answering [], .never⟩ 0,
   .sweep (PayoutService.answering [])
     [⟨portalRuntime, PayoutService.answering [accepted, accepted], PayoutService.answering [],
       .never⟩]]

theorem retry_recoverable : Runs.All RecoveryStep.next
    (RecoveryStep.Safe { runtime | ∃ step ∈ retrySteps, runtime ∈ step.runtimes }) retrySteps
    ⟨retailDb, []⟩ :=
  access_recoverable retrySteps ⟨retailDb, []⟩ rfl

end InfinityRadius.Services
