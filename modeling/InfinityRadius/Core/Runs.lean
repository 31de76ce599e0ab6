import Mathlib.Tactic.Common

/-!
# Runs

A system that takes one step after another, and the induction that carries what
every step keeps to every state it reaches.
-/

namespace InfinityRadius.Runs

variable {Step State : Type} (next : Step → State → State)

/-- The state after the steps. -/
def run (steps : List Step) (state : State) : State :=
  steps.foldl (fun state step => next step state) state

/-- Every step meets a condition in the state it starts from. -/
def All (condition : Step → State → Prop) : List Step → State → Prop
  | [], _ => True
  | step :: steps, state => condition step state ∧ All condition steps (next step state)

variable {next} {condition : Step → State → Prop} {steps : List Step}
  {state : State}

@[simp]
theorem run_nil (state : State) : run next [] state = state := rfl

@[simp]
theorem run_cons (step : Step) (steps : List Step) (state : State) :
    run next (step :: steps) state = run next steps (next step state) := rfl

theorem run_append (before after : List Step) (state : State) :
    run next (before ++ after) state = run next after (run next before state) :=
  List.foldl_append

theorem All.append {before after : List Step} (h : All next condition (before ++ after) state) :
    All next condition before state ∧ All next condition after (run next before state) := by
  induction before generalizing state with
  | nil => exact ⟨trivial, h⟩
  | cons step before ih => exact ⟨⟨h.1, (ih h.2).1⟩, (ih h.2).2⟩

theorem All.mono {condition' : Step → State → Prop} (h : All next condition steps state)
    (himp : ∀ step state, condition step state → condition' step state) :
    All next condition' steps state := by
  induction steps generalizing state with
  | nil => trivial
  | cons step steps ih => exact ⟨himp step state h.1, ih h.2⟩

theorem All.and {condition' : Step → State → Prop} (h : All next condition steps state)
    (h' : All next condition' steps state) :
    All next (fun step state => condition step state ∧ condition' step state) steps state := by
  induction steps generalizing state with
  | nil => trivial
  | cons step steps ih => exact ⟨⟨h.1, h'.1⟩, ih h.2 h'.2⟩

instance All.decidable [∀ step state, Decidable (condition step state)] :
    ∀ steps state, Decidable (All next condition steps state)
  | [], _ => isTrue trivial
  | step :: steps, state =>
    have := All.decidable steps (next step state)
    inferInstanceAs (Decidable (_ ∧ _))

theorem run_concat (steps : List Step) (step : Step) (state : State) :
    run next (steps ++ [step]) state = next step (run next steps state) := run_append steps [step] state

theorem All.concat {step : Step} (h : All next condition steps state)
    (hlast : condition step (run next steps state)) :
    All next condition (steps ++ [step]) state := by
  induction steps generalizing state with
  | nil => exact ⟨hlast, trivial⟩
  | cons first rest ih => exact ⟨h.1, ih h.2 hlast⟩

/-- A condition met by each step in every state is met along every run. -/
theorem All.of_forall (h : ∀ step ∈ steps, ∀ state, condition step state) (state : State) :
    All next condition steps state := by
  induction steps generalizing state with
  | nil => trivial
  | cons step steps ih =>
    exact ⟨h step List.mem_cons_self state,
      ih (fun other hother => h other (List.mem_cons_of_mem _ hother)) (next step state)⟩

/-- What every step that meets the condition keeps holds at the end of a run of such
steps. -/
theorem run_invariant (Inv : State → Prop)
    (hstep : ∀ step state, condition step state → Inv state → Inv (next step state))
    (hsteps : All next condition steps state) (hstate : Inv state) :
    Inv (run next steps state) := by
  induction steps generalizing state with
  | nil => exact hstate
  | cons step steps ih => exact ih hsteps.2 (hstep step state hsteps.1 hstate)

/-- What holds of every step that meets the condition and starts from the invariant holds
all along a run of such steps. -/
theorem All.of_invariant {Inv : State → Prop} {property : Step → State → Prop}
    (hstep : ∀ step state, condition step state → Inv state →
      property step state ∧ Inv (next step state))
    (hsteps : All next condition steps state) (hstate : Inv state) :
    All next property steps state := by
  induction steps generalizing state with
  | nil => trivial
  | cons step steps ih =>
    obtain ⟨hproperty, hnext⟩ := hstep step state hsteps.1 hstate
    exact ⟨hproperty, ih hsteps.2 hnext⟩

/-- What every step keeps holds at the end of every run. -/
theorem run_kept (Inv : State → Prop)
    (hstep : ∀ step state, Inv state → Inv (next step state)) (steps : List Step) (hstate : Inv state) : Inv (run next steps state) := by
  induction steps generalizing state with
  | nil => exact hstate
  | cons step steps ih => exact ih (hstep step state hstate)

/-! ## Records of a run -/

section Recording

variable {Record : Type} (record : Step → State → Record → Record)

/-- The system beside a record of what its steps did. -/
def recording (next : Step → State → State) (step : Step) (state : State × Record) :
    State × Record :=
  (next step state.1, record step state.1 state.2)

@[simp]
theorem run_recording_fst (steps : List Step) (state : State × Record) :
    (run (recording record next) steps state).1 = run next steps state.1 := by
  induction steps generalizing state with
  | nil => rfl
  | cons step steps ih => exact ih (recording record next step state)

theorem All.recording {state : State × Record} (h : All next condition steps state.1) :
    All (recording record next) (fun step state => condition step state.1) steps state := by
  induction steps generalizing state with
  | nil => trivial
  | cons step steps ih => exact ⟨h.1, @ih (Runs.recording record next step state) h.2⟩

end Recording

/-! ## The past of a run -/

section Since

variable (next) in
/-- A step of the run satisfied `P`, given the steps before it, and every step since then
met the condition. -/
def Since (P : List Step → Step → Prop) (condition : Step → State → Prop)
    (steps : List Step) (state : State) : Prop :=
  ∃ first step rest, steps = first ++ step :: rest ∧ P first step ∧
    All next condition rest (next step (run next first state))

variable {P Q : List Step → Step → Prop} {step : Step}

theorem Since.last (h : P steps step) : Since next P condition (steps ++ [step]) state :=
  ⟨steps, step, [], rfl, h, trivial⟩

theorem Since.concat (h : Since next P condition steps state)
    (hlast : condition step (run next steps state)) :
    Since next P condition (steps ++ [step]) state := by
  obtain ⟨first, past, rest, rfl, hpast, hrest⟩ := h
  rw [run_append] at hlast
  exact ⟨first, past, rest ++ [step], by simp, hpast, hrest.concat hlast⟩

theorem Since.mono (h : Since next P condition steps state)
    (himp : ∀ first step, P first step → Q first step) : Since next Q condition steps state := by
  obtain ⟨first, past, rest, heq, hpast, hrest⟩ := h
  exact ⟨first, past, rest, heq, himp first past hpast, hrest⟩

end Since

end InfinityRadius.Runs
