import InfinityRadius.Services.Confirmation

/-!
# Runs of payout operations

Each operation of `PayoutService` is one request transaction.  A run is any
sequence of them, with any actors, codes, clocks, settings and answers.
-/

namespace InfinityRadius.Services.PayoutService

open Amounts Database Payload Program Sql Models Integrations.SelcomBusiness

inductive Operation
  | requestWithdrawal (tenantId actorId destinationId : ℕ) (amount : Decimal)
  | resendOtp (tenantId withdrawalId actorId : ℕ)
  | confirmTwoFactor (tenantId withdrawalId actorId : ℕ) (code : String)
  | approveWithdrawal (withdrawalId actorId : ℕ) (notes : Option String)
  | rejectWithdrawal (withdrawalId actorId : ℕ) (reason : String)
  | cancelWithdrawal (tenantId withdrawalId actorId : ℕ) (reason : Option String)
  | reverseWithdrawal (tenantId withdrawalId : ℕ) (actorId : Option ℕ) (reason : String)
  | reconcileWithdrawal (withdrawalId : ℕ)
  | reconcileIfPending (withdrawalId : ℕ)

/-- The operation, its result left to the caller. -/
def Operation.program (runtime : Runtime) : Operation → Tx Unit
  | .requestWithdrawal tenantId actorId destinationId amount => do
    let _ ← PayoutService.requestWithdrawal runtime tenantId actorId destinationId amount
    pure ()
  | .resendOtp tenantId withdrawalId actorId => do
    let _ ← PayoutService.resendOtp runtime tenantId withdrawalId actorId
    pure ()
  | .confirmTwoFactor tenantId withdrawalId actorId code => do
    let _ ← PayoutService.confirmTwoFactor runtime tenantId withdrawalId actorId code
    pure ()
  | .approveWithdrawal withdrawalId actorId notes => do
    let _ ← PayoutService.approveWithdrawal runtime withdrawalId actorId notes
    pure ()
  | .rejectWithdrawal withdrawalId actorId reason => do
    let _ ← PayoutService.rejectWithdrawal withdrawalId actorId reason
    pure ()
  | .cancelWithdrawal tenantId withdrawalId actorId reason => do
    let _ ← PayoutService.cancelWithdrawal tenantId withdrawalId actorId reason
    pure ()
  | .reverseWithdrawal tenantId withdrawalId actorId reason => do
    let _ ← PayoutService.reverseWithdrawal tenantId withdrawalId actorId reason
    pure ()
  | .reconcileWithdrawal withdrawalId => do
    let _ ← PayoutService.reconcileWithdrawal runtime withdrawalId
    pure ()
  | .reconcileIfPending withdrawalId => do
    let _ ← PayoutService.reconcileIfPending runtime withdrawalId
    pure ()

/-- One request, with everything it meets outside the database. -/
structure Step where
  operation : Operation
  runtime : Runtime
  outside : Outside

namespace Step

def program (step : Step) : Tx Unit := step.operation.program step.runtime

/-- The requests the step sends from a database, with their answers. -/
def exchanges (step : Step) (db : PlatformDb) : List (Request × HttpResult) :=
  Sql.exchanges step.outside step.program db

def result (step : Step) (world : PlatformWorld) : Except Failure Unit :=
  (transact step.outside step.program world).1

/-- The world after the step: committed, or rolled back with its requests sent. -/
def next (step : Step) (world : PlatformWorld) : PlatformWorld :=
  (transact step.outside step.program world).2

end Step

def runSteps (steps : List Step) (world : PlatformWorld) : PlatformWorld :=
  steps.foldl (fun world step => step.next world) world

@[simp]
theorem runSteps_nil (world : PlatformWorld) : runSteps [] world = world := rfl

@[simp]
theorem runSteps_cons (step : Step) (steps : List Step) (world : PlatformWorld) :
    runSteps (step :: steps) world = runSteps steps (step.next world) := rfl

theorem runSteps_append (before after : List Step) (world : PlatformWorld) :
    runSteps (before ++ after) world = runSteps after (runSteps before world) :=
  List.foldl_append

/-- Every step of the run meets a condition in the state it starts from. -/
def AllSteps (condition : Step → PlatformWorld → Prop) :
    List Step → PlatformWorld → Prop
  | [], _ => True
  | step :: steps, world => condition step world ∧ AllSteps condition steps (step.next world)

/-- What every step that meets the condition keeps, a run of such steps keeps. -/
theorem runSteps_invariant {condition : Step → PlatformWorld → Prop}
    {Inv : PlatformWorld → Prop}
    (hstep : ∀ step world, condition step world → Inv world → Inv (step.next world))
    {steps : List Step} {world : PlatformWorld} (hsteps : AllSteps condition steps world)
    (hworld : Inv world) : Inv (runSteps steps world) := by
  induction steps generalizing world with
  | nil => exact hworld
  | cons step steps ih => exact ih hsteps.2 (hstep step world hsteps.1 hworld)

/-- What every step keeps, every run keeps. -/
theorem runSteps_kept {Inv : PlatformWorld → Prop}
    (hstep : ∀ (step : Step) world, Inv world → Inv (step.next world)) (steps : List Step)
    {world : PlatformWorld} (hworld : Inv world) : Inv (runSteps steps world) := by
  induction steps generalizing world with
  | nil => exact hworld
  | cons step steps ih => exact ih (hstep step world hworld)

/-- The two ways a step can end. -/
theorem Step.next_cases {step : Step} {world : PlatformWorld}
    {returns : Unit → PlatformWorld → Prop} {raises : Failure → PlatformWorld → Prop}
    (h : Always (fun _ => false) returns raises step.program ⟨world.db, []⟩) :
    (∃ db, step.next world = ⟨db, world.sent ++ step.exchanges world.db⟩ ∧
      step.result world = .ok () ∧ returns () ⟨db, step.exchanges world.db⟩) ∨
    (∃ e db, step.next world = ⟨world.db, world.sent ++ step.exchanges world.db⟩ ∧
      step.result world = .error e ∧ raises e ⟨db, step.exchanges world.db⟩) := by
  have hcases := @transact_cases _ _ _ _ _ _ _ _ _ _ step.outside _ _ _ world h
  unfold Step.next Step.result Step.exchanges
  rcases hcases with ⟨⟨⟩, db, heq, hreturns⟩ | ⟨e, db, heq, hraises⟩
  · exact Or.inl ⟨db, by rw [heq], by rw [heq], hreturns⟩
  · exact Or.inr ⟨e, db, by rw [heq], by rw [heq], hraises⟩

/-! ## What a step does -/

/-- What the operation checks before it moves a withdrawal forward. -/
def Operation.Grants (runtime : Runtime) : Operation → PayoutService.Grants
  | .confirmTwoFactor tenantId withdrawalId actorId code =>
    Confirms runtime tenantId withdrawalId actorId code
  | .approveWithdrawal withdrawalId _ _ => Approves withdrawalId
  | _ => fun _ _ => False

/-- What the operation checks before it takes a payout back. -/
def Operation.Reverses : Operation → Withdrawal → Prop
  | .reverseWithdrawal tenantId withdrawalId _ reason =>
    PayoutService.Reverses tenantId withdrawalId reason
  | _ => fun _ => False

/-- The ways an operation can return. -/
inductive Outcome (runtime : Runtime) (operation : Operation) (world world' : PlatformWorld) :
    Prop
  | requested {tenantId actorId destinationId : ℕ} {amount : Decimal}
      (hoperation : operation = .requestWithdrawal tenantId actorId destinationId amount)
      (h : Requested runtime tenantId actorId amount world world')
  | reissued {tenantId withdrawalId actorId : ℕ}
      (hoperation : operation = .resendOtp tenantId withdrawalId actorId)
      (h : Reissued runtime withdrawalId world world')
  | advanced (h : Advanced runtime.settings (operation.Grants runtime) world world')
  | reversed {tenantId withdrawalId : ℕ} {actorId : Option ℕ} {reason : String}
      (hoperation : operation = .reverseWithdrawal tenantId withdrawalId actorId reason)
      (h : Reversed tenantId withdrawalId reason world world')
  | reconciled (h : Reconciled world world')

theorem Step.outcome (step : Step) (world : PlatformWorld) :
    Always (fun _ => false) (fun _ => Outcome step.runtime step.operation world)
      (fun _ => Abandoned (step.operation.Grants step.runtime) world) step.program world := by
  have haside : ∀ t : Table, (fun _ => false) t = true → t = .paymentWebhooks :=
    fun _ h => by cases h
  rcases step with ⟨operation, runtime, outside⟩
  have hleft : ∀ (e : Failure) world', Unsent world world' →
      Abandoned (operation.Grants runtime) world world' := fun _ _ => Or.inl
  cases operation with
  | requestWithdrawal tenantId actorId destinationId amount =>
    exact always_bind.mpr ((requestWithdrawal_always haside).mono
      (fun _ _ => .requested rfl) hleft)
  | resendOtp tenantId withdrawalId actorId =>
    exact always_bind.mpr ((resendOtp_always haside).mono (fun _ _ => .reissued rfl) hleft)
  | confirmTwoFactor tenantId withdrawalId actorId code =>
    exact always_bind.mpr ((confirmTwoFactor_always haside).mono
      (fun _ _ h => Outcome.advanced h) fun _ _ => id)
  | approveWithdrawal withdrawalId actorId notes =>
    exact always_bind.mpr ((approveWithdrawal_always haside).mono
      (fun _ _ h => Outcome.advanced h) fun _ _ => id)
  | rejectWithdrawal withdrawalId actorId reason =>
    exact always_bind.mpr ((rejectWithdrawal_always haside).mono (fun _ _ => .advanced) hleft)
  | cancelWithdrawal tenantId withdrawalId actorId reason =>
    exact always_bind.mpr ((cancelWithdrawal_always haside).mono (fun _ _ => .advanced) hleft)
  | reverseWithdrawal tenantId withdrawalId actorId reason =>
    exact always_bind.mpr ((reverseWithdrawal_always haside).mono
      (fun _ _ => .reversed rfl) hleft)
  | reconcileWithdrawal withdrawalId =>
    exact always_bind.mpr ((reconcileWithdrawal_always haside).mono
      (fun _ _ => .reconciled) fun _ _ => id)
  | reconcileIfPending withdrawalId =>
    exact always_bind.mpr ((reconcileIfPending_always haside).mono
      (fun _ _ => .reconciled) fun _ _ => id)

/-- A step returned and was committed, or raised and was rolled back. -/
theorem Step.next_outcome (step : Step) (world : PlatformWorld) :
    (∃ db, step.next world = ⟨db, world.sent ++ step.exchanges world.db⟩ ∧
      step.result world = .ok () ∧
      Outcome step.runtime step.operation ⟨world.db, []⟩ ⟨db, step.exchanges world.db⟩) ∨
    (∃ e, step.next world = ⟨world.db, world.sent ++ step.exchanges world.db⟩ ∧
      step.result world = .error e ∧ ∃ db,
        Abandoned (step.operation.Grants step.runtime) ⟨world.db, []⟩
          ⟨db, step.exchanges world.db⟩) := by
  rcases Step.next_cases (step.outcome ⟨world.db, []⟩) with h | ⟨e, db, hnext, hresult, h⟩
  · exact Or.inl h
  · exact Or.inr ⟨e, hnext, hresult, db, h⟩

end InfinityRadius.Services.PayoutService
