import InfinityRadius.Core.Endings
import InfinityRadius.Services.CaptiveActivation
import InfinityRadius.Services.CollectionGate

/-!
# Activations side by side

Calls of `run_activation` for one payment, interleaved statement by statement.  A call whose
provisioning failed rolls its transaction back, which frees the row, and writes `FAILED` in a
second transaction without looking at what became of the payment in between.
-/

namespace InfinityRadius.Services.CaptivePortalActivationService

open Database Interleaving Models Program Sql

/-! ## Two transactions for each call -/

/-- The transactions `run_activation` opens. -/
inductive Phase
  | activate
  | recordFailure (reason : String)

/-- The open transactions, and the reasons of the calls that have still to record one. -/
structure Activations where
  system : System schema Ask Request Answer HttpResult Failure Phase
  failed : List String := []

/-- A call begins, or one that failed records it; an open transaction goes on, ends, or is
aborted; some other program commits a table. -/
inductive ActivationEvent
  | run
  | record (index : ℕ)
  | advance (index : ℕ) (draw : Draw Ask Answer HttpResult)
  | finish (index : ℕ)
  | abort (index : ℕ)
  | elsewhere (t : Table) (rows : List (Row t))

/-- Other programs may change everything but the payments. -/
def shared (t : Table) : Bool := decide (t ≠ .transactions)

/-- `except ActivationFailedError`: the reason a transaction that is rolled back leaves. -/
def reasonOf : Tx Phase → List String
  | .done (.error (.activationFailed reason)) => [reason]
  | _ => []

section Next

variable (runtime : Runtime) (transactionId : ℕ)

def Phase.program : Phase → Tx Phase
  | activate => do
    let _ ← CaptivePortalActivationService.activate runtime transactionId
    pure .activate
  | recordFailure reason => do
    let _ ← CaptivePortalActivationService.recordFailure transactionId reason
    pure (.recordFailure reason)

def Activations.next (event : ActivationEvent) (state : Activations) : Activations :=
  let next := System.next (Phase.program runtime transactionId) shared
  match event with
  | .run => { state with system := next (.call .activate) state.system }
  | .record index =>
    match state.failed[index]? with
    | none => state
    | some reason =>
      ⟨next (.call (.recordFailure reason)) state.system, state.failed.eraseIdx index⟩
  | .advance index draw => { state with system := next (.advance index draw) state.system }
  | .finish index =>
    ⟨next (.finish index) state.system,
      state.failed ++ (state.system.sessions[index]?.map fun session =>
        reasonOf session.program).getD []⟩
  | .abort index => { state with system := next (.abort index) state.system }
  | .elsewhere t rows => { state with system := next (.elsewhere t rows) state.system }

/-- The committed activation status of the payment is `ACTIVE`. -/
def Active (tables : Tables Row) : Prop :=
  (∃ t ∈ tables .transactions, t.id = transactionId) ∧
    ∀ t ∈ tables .transactions, t.id = transactionId → t.activationStatus = some .active

/-- A payment that is active stays active. -/
def Stays (event : ActivationEvent) (state : Activations) : Prop :=
  Active transactionId state.system.committed →
    Active transactionId (state.next runtime transactionId event).system.committed

/-- The transaction has written `FAILED`. -/
def Phase.recorded : Tx Phase → Bool
  | .done (.ok (.recordFailure _)) => true
  | _ => false

/-- Where the event commits a recorded failure, the payment is not active by then. -/
def Timely : ActivationEvent → Activations → Prop
  | .finish index, state => ∀ session ∈ state.system.sessions[index]?,
      Phase.recorded session.program → ¬Active transactionId state.system.committed
  | _, _ => True

instance Active.decidable (tables : Tables Row) : Decidable (Active transactionId tables) :=
  inferInstanceAs (Decidable (_ ∧ _))

instance Timely.decidable : ∀ event state, Decidable (Timely transactionId event state)
  | .finish index, state => inferInstanceAs (Decidable (∀ session ∈ state.system.sessions[index]?,
      Phase.recorded session.program → ¬Active transactionId state.system.committed))
  | .run, _ => isTrue trivial
  | .record _, _ => isTrue trivial
  | .advance _ _, _ => isTrue trivial
  | .abort _, _ => isTrue trivial
  | .elsewhere _ _, _ => isTrue trivial

end Next

/-! ## What the transactions write -/

/-- An activation that returns leaves the payment alone or active. -/
def Promotes (transactionId : ℕ) : Phase → Own Row → Prop
  | .activate, own => own.written .transactions = [] ∨ ∃ t, own.written .transactions = [t] ∧
      t.id = transactionId ∧ t.activationStatus = some .active
  | .recordFailure _, _ => True

section Statements

variable {own own' : Own Row} {runtime : Runtime} {transactionId : ℕ} {t : Transaction}

theorem endsWith_scalarOneOrNone {α : Type} (rows : List α) :
    EndsWith schema (fun found own' => own' = own ∧ ∀ a, found = some a → a ∈ rows)
      (scalarOneOrNone rows) own := by
  rcases rows with _ | ⟨row, _ | ⟨other, rest⟩⟩
  · exact ⟨rfl, by simp⟩
  · exact ⟨rfl, by simp⟩
  · trivial

/-- The row that is locked has the key that was asked for. -/
theorem endsWith_getByIdForUpdate {table : Table} {tenantId : Option ℕ} {id : ℕ} :
    EndsWith schema (fun found own' => own'.written = own.written ∧
        ∀ row, found = some row → rowId table row = id)
      (getByIdForUpdate table tenantId id) own := by
  intro committed held draw keys reply own' hreply
  obtain ⟨rfl, hown⟩ := Prod.mk.inj (Option.some.inj hreply)
  apply (endsWith_scalarOneOrNone _).mono
  rintro found last ⟨rfl, hfound⟩
  constructor
  · rw [← hown]
    rfl
  · intro row hrow
    obtain ⟨stored, hstored, rfl⟩ := List.mem_map.mp (hfound row hrow)
    have hid : rowId table stored = id := by
      have hmatches := (List.mem_filter.mp hstored).2
      simp only [Bool.and_eq_true, beq_iff_eq] at hmatches
      exact hmatches.2.2
    rw [← hid]
    exact @Own.id_object _ _ schema _ table stored

theorem endsWith_orRaise {α : Type} {value : Option α} {failure : Failure} :
    EndsWith schema (fun a own' => value = some a ∧ own' = own)
      (Prog.orRaise value failure : Tx α) own := by
  cases value with
  | none => trivial
  | some a => exact ⟨rfl, rfl⟩

/-- The first write of the payment. -/
theorem endsWith_updateTransaction_first {set : Transaction → Transaction}
    (h : own.written .transactions = []) :
    EndsWith schema (fun t' own' => own'.written .transactions = [t'] ∧ t'.id = t.id)
      (updateTransaction t set) own := by
  intro committed held draw keys reply own' hreply
  rcases Own.reply_update hreply with ⟨rfl, -⟩ | ⟨old, -, hid, hkept, rfl, rfl⟩
  · trivial
  · constructor
    · rw [Own.written_write, h, storeRow_nil]
    · exact hkept

/-- A later write, of the payment as it was written before. -/
theorem endsWith_updateTransaction_again {set : Transaction → Transaction}
    (h : own.written .transactions = [t]) :
    EndsWith schema (fun t' own' => own'.written .transactions = [t'] ∧ t'.id = t.id ∧
        t'.activationStatus = (set t).activationStatus) (updateTransaction t set) own := by
  intro committed held draw keys reply own' hreply
  rcases Own.reply_update hreply with ⟨rfl, -⟩ | ⟨old, hold, hid, hkept, rfl, rfl⟩
  · trivial
  · rw [overlay_of_written h] at hold
    obtain rfl : old = t := (mem_storeRow.mp hold).resolve_right fun hother => hother.2 hid
    refine ⟨?_, hkept, written_self _ _⟩
    rw [Own.written_write, h]
    exact @storeRow_singleton _ _ schema .transactions _ _ hkept.symm

/-- The subscription that is started is no payment. -/
theorem spares_startPending {tenantId : ℕ} {subscription : Subscription} :
    (startPending tenantId subscription).All (sparing Table.transactions).Allows := by
  rw [startPending]
  apply Prog.All.ite
  · intro _
    apply Prog.All.bind (all_getByIdForUpdate _ _)
    intro found
    apply Prog.All.bind (Prog.all_orRaise _ _)
    intro subscription
    apply Prog.All.bind (Prog.all_require _ _)
    intro _
    apply Prog.All.bind (all_getById _ _)
    intro package
    apply Prog.All.bind (Prog.all_orRaise _ _)
    intro package
    apply Prog.All.bind all_now
    have hne : Table.subscriptions ≠ Table.transactions := by decide
    exact fun activatedAt => all_updateRow hne
  · exact fun _ => Prog.all_pure _

theorem spares_agentRequest {request : Request} :
    (agentRequest request).All (sparing Table.transactions).Allows := by
  constructor
  · trivial
  intro answer
  cases answer with
  | transportError detail => trivial
  | response statusCode body =>
    apply Prog.All.ite
    · exact fun _ => trivial
    · intro _
      apply Prog.All.ite
      · exact fun _ => ⟨trivial, fun _ => trivial⟩
      · intro _
        cases body with
        | none => trivial
        | some body => trivial

theorem spares_directRequest {request : Request} :
    (directRequest request).All (sparing Table.transactions).Allows := by
  constructor
  · trivial
  intro answer
  cases answer with
  | transportError detail => trivial
  | response statusCode body => trivial

theorem spares_requireAccess {settings : Settings} {access : Access} :
    (requireAccess settings access).All (sparing Table.transactions).Allows := by
  apply Prog.All.tryCatch
  · apply Prog.All.ite
    · intro _
      apply Prog.All.bind
      · apply Prog.All.tryCatch
        · exact Prog.All.bind spares_agentRequest fun _ => spares_agentRequest
        · intro failure
          split
          · trivial
          · trivial
      · exact fun _ => trivial
    · intro _
      apply Prog.All.ite
      · intro _
        apply Prog.All.bind spares_directRequest
        exact fun _ => Prog.All.bind spares_directRequest fun _ => trivial
      · exact fun _ => trivial
  · exact fun failure => trivial

theorem spares_loadPurchase {subscriptionId customerId : ℕ} :
    (loadPurchase subscriptionId customerId).All (sparing Table.transactions).Allows := by
  apply Prog.All.bind (all_selectOne _)
  intro subscription
  apply Prog.All.bind (Prog.all_orRaise _ _)
  intro subscription
  apply Prog.All.bind (all_selectOne _)
  intro customer
  apply Prog.All.bind (Prog.all_orRaise _ _)
  intro customer
  apply Prog.All.bind (all_selectOne _)
  intro package
  exact Prog.All.bind (Prog.all_orRaise _ _) fun package => Prog.all_pure _

theorem endsWith_grant {subscription : Subscription} {customer : Customer} {package : Package}
    (h : own.written .transactions = []) :
    EndsWith schema (fun _ own' => ∃ t', own'.written .transactions = [t'] ∧ t'.id = t.id ∧
        t'.activationStatus = some .active)
      (grant runtime t subscription customer package) own := by
  apply EndsWith.bind (endsWith_updateTransaction_first h)
  rintro activating own₁ ⟨h₁, hid⟩
  apply EndsWith.bind (endsWith_of_spares spares_startPending)
  intro started own₂ h₂
  apply EndsWith.bind (endsWith_of_spares spares_requireAccess)
  intro _ own₃ h₃
  apply EndsWith.bind (endsWith_of_spares all_now)
  intro time own₄ h₄
  apply EndsWith.bind (endsWith_updateTransaction_again (h₄.trans (h₃.trans (h₂.trans h₁))))
  rintro granted own₅ ⟨h₅, hid', hactive⟩
  exact ⟨granted, h₅, hid'.trans hid, hactive⟩

/-- What an activation has written when it returns. -/
theorem endsWith_activate :
    EndsWith schema (fun _ own' => Promotes transactionId .activate own')
      (activate runtime transactionId) {} := by
  apply EndsWith.bind endsWith_getByIdForUpdate
  rintro found own₁ ⟨hwritten, hfound⟩
  have h₁ : own₁.written .transactions = [] := congrFun hwritten .transactions
  apply EndsWith.bind endsWith_orRaise
  rintro t own₂ ⟨rfl, rfl⟩
  have hid : t.id = transactionId := hfound t rfl
  apply EndsWith.bind (endsWith_of_spares (Prog.all_require _ _))
  intro _ own₃ h₃
  have h₃ := h₃.trans h₁
  split
  · exact Or.inl h₃
  · split
    · apply EndsWith.bind (endsWith_of_spares spares_loadPurchase)
      rintro ⟨subscription, customer, package⟩ own₄ h₄
      apply (endsWith_grant (h₄.trans h₃)).mono
      rintro _ own₅ ⟨granted, h₅, hgranted, hactive⟩
      exact Or.inr ⟨granted, h₅, hgranted.trans hid, hactive⟩
    · trivial

theorem endsWith_program (phase : Phase) :
    EndsWith schema (Promotes transactionId) (phase.program runtime transactionId) {} := by
  cases phase with
  | activate => exact EndsWith.bind endsWith_activate fun _ _ h => h
  | recordFailure reason => exact EndsWith.bind endsWith_trivial fun _ _ _ => trivial

end Statements

/-! ## Every interleaving -/

section Runs

variable {runtime : Runtime} {transactionId : ℕ}

/-- Whatever the event, the transactions that are open promote the payment. -/
theorem Activations.allEnd_next {state : Activations}
    (h : state.system.AllEnd (Promotes transactionId)) (event : ActivationEvent) :
    (state.next runtime transactionId event).system.AllEnd (Promotes transactionId) := by
  have hcall : ∀ phase, EndsWith schema (Promotes transactionId)
      (Phase.program runtime transactionId phase) {} := endsWith_program
  cases event with
  | run => exact System.AllEnd.next hcall h _
  | record index =>
    rw [Activations.next]
    split
    · exact h
    · exact System.AllEnd.next hcall h _
  | advance index draw => exact System.AllEnd.next hcall h _
  | finish index => exact System.AllEnd.next hcall h _
  | abort index => exact System.AllEnd.next hcall h _
  | elsewhere t rows => exact System.AllEnd.next hcall h _

/-- What an activation commits over an active payment is active. -/
theorem active_overlay {tables : Tables Row} {own : Own Row}
    (hown : Promotes transactionId .activate own) (h : Active transactionId tables) :
    Active transactionId (overlay schema tables own.written) := by
  rcases hown with hnone | ⟨t, hwritten, hid, hactive⟩
  · rw [Active, overlay_of_unwritten hnone]
    exact h
  · rw [Active, overlay_of_written hwritten]
    constructor
    · exact ⟨t, mem_storeRow.mpr (Or.inl rfl), hid⟩
    · intro other hother hkey
      rcases mem_storeRow.mp hother with rfl | ⟨-, hne⟩
      · exact hactive
      · exact absurd (hkey.trans hid.symm) hne

theorem Activations.stays {state : Activations} {event : ActivationEvent}
    (hsessions : state.system.AllEnd (Promotes transactionId))
    (htimely : Timely transactionId event state) : Stays runtime transactionId event state := by
  intro hactive
  have hnext : ∀ event' : Event Row Ask Answer HttpResult Phase,
      (∀ index, event' = .finish index → Timely transactionId (.finish index) state) →
      Active transactionId (state.system.next (Phase.program runtime transactionId) shared
        event').committed := by
    intro event' hfinish
    rcases @System.committed_next _ _ _ _ _ _ _ _ schema _ state.system _
      (Phase.program runtime transactionId) shared event' with hsame |
      ⟨index, session, phase, rfl, hsession, hprogram, hcommitted⟩ |
      ⟨t, rows, -, hshared, hcommitted⟩
    · rw [hsame]
      exact hactive
    · rw [hcommitted]
      cases phase with
      | recordFailure reason =>
        have hrecorded : Phase.recorded session.program = true := by rw [hprogram]; rfl
        exact absurd hactive (hfinish index rfl session hsession hrecorded)
      | activate =>
        have hends := hsessions session (List.mem_of_getElem? hsession)
        rw [hprogram] at hends
        exact active_overlay hends hactive
    · rw [hcommitted, Active, Function.update_of_ne (of_decide_eq_true hshared).symm]
      exact hactive
  cases event with
  | run => exact hnext (.call .activate) fun _ h => by cases h
  | record index =>
    rw [Activations.next]
    split
    · exact hactive
    · exact hnext (.call _) fun _ h => by cases h
  | advance index draw => exact hnext (.advance index draw) fun _ h => by cases h
  | finish index =>
    apply hnext (.finish index)
    intro other h
    cases h
    exact htimely
  | abort index => exact hnext (.abort index) fun _ h => by cases h
  | elsewhere t rows => exact hnext (.elsewhere t rows) fun _ h => by cases h

/-- Where no failure is recorded of a payment that is active by then, active payments stay so in
every interleaving. -/
theorem stays_active {committed : Tables Row} {events : List ActivationEvent}
    (htimely : Runs.All (fun event (state : Activations) => state.next runtime transactionId event)
      (Timely transactionId) events ⟨⟨committed, []⟩, []⟩) :
    Runs.All (fun event (state : Activations) => state.next runtime transactionId event)
      (Stays runtime transactionId) events ⟨⟨committed, []⟩, []⟩ := by
  have hstart : (⟨⟨committed, []⟩, []⟩ : Activations).system.AllEnd (Promotes transactionId) := by
    intro session hsession
    cases hsession
  exact Runs.All.of_invariant
    (fun event (state : Activations) htimely (h : state.system.AllEnd (Promotes transactionId)) =>
      ⟨state.stays h htimely, state.allEnd_next h event⟩) htimely hstart

end Runs

/-! ## A failure recorded late -/

/-- A payment that is completed and waits for its access. -/
def paidRows : (t : Table) → List (Row t)
  | .transactions =>
    [{ id := 0, tenantId := 1, customerId := some 4, subscriptionId := some 6,
       transactionType := some .captivePortal, reference := "CP-1", payerPhone := none,
       amount := 100000, currency := "TZS", status := .completed,
       paymentProvider := some .selcomCollection, activationStatus := some .pending }]
  | .customers =>
    [{ id := 4, tenantId := 1, customerNumber := "1000", firstName := none, lastName := none,
       phone := "255700000000", email := none, username := none }]
  | .subscriptions =>
    [{ id := 6, tenantId := 1, customerId := 4, packageId := 0, status := .pending }]
  | t => portalRows true t

/-- The network agent answers, or does not. -/
def drawn (answer : HttpResult) : Draw Ask Answer HttpResult :=
  ⟨silentOutside.answer 0, answer, 0⟩

def agentRuntime : Runtime :=
  { portalRuntime with
    settings :=
      { portalRuntime.settings with
        networkAgentBaseUrl := some "https://agent.example", networkAgentApiKey := some "key" } }

/-- The first of two calls cannot reach the agent and is rolled back, and the second one goes on
until it has activated the payment. -/
def firstFails : List ActivationEvent :=
  [.run, .run] ++ List.replicate 40 (.advance 0 (drawn (.transportError "timeout"))) ++ [.finish 0]

def secondActivates : List ActivationEvent :=
  List.replicate 40 (.advance 0 (drawn accepted)) ++ [.finish 0]

/-- The first call writes its failure down. -/
def failureRecorded (index : ℕ) : List ActivationEvent :=
  .record 0 :: List.replicate 20 (.advance index (drawn accepted))

/-- The second call has activated the payment by the time the first one records its failure. -/
theorem not_stays_active_late :
    ¬Runs.All (fun event (state : Activations) => state.next agentRuntime 0 event)
      (Stays agentRuntime 0) (firstFails ++ secondActivates ++ failureRecorded 0 ++ [.finish 0])
      ⟨⟨paidRows, []⟩, []⟩ := by
  intro h
  have hstays := h.append.2.1
  revert hstays
  rw [Stays]
  decide +kernel

/-- The first call records its failure in time, and the second one activates the payment. -/
theorem stays_active_recorded :
    Runs.All (fun event (state : Activations) => state.next agentRuntime 0 event)
      (Stays agentRuntime 0) (firstFails ++ failureRecorded 1 ++ [.finish 1] ++ secondActivates)
      ⟨⟨paidRows, []⟩, []⟩ :=
  stays_active (by decide +kernel)

end InfinityRadius.Services.CaptivePortalActivationService
