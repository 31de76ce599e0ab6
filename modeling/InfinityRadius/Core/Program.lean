import Mathlib.Control.Basic
import Mathlib.Tactic.Common

/-!
# Programs over typed statements

A program issues one statement at a time, reads its typed answer and ends with
a value or a failure.  Keeping the statements in the open, instead of folding
them into a state function, lets the same program be run alone and statement by
statement among other sessions.
-/

namespace InfinityRadius.Program

/-- A program whose statements are `S`, a statement `s` being answered by a
value of type `R s`.  Failures are Python exceptions: they end the program
unless `tryCatch` handles them. -/
inductive Prog (S : Type) (R : S → Type) (ε α : Type) : Type
  | done (result : Except ε α)
  | step (s : S) (next : R s → Prog S R ε α)

variable {S : Type} {R : S → Type} {ε α β γ : Type}

namespace Prog

def bind : Prog S R ε α → (α → Prog S R ε β) → Prog S R ε β
  | done (.ok a), f => f a
  | done (.error e), _ => done (.error e)
  | step s next, f => step s fun r => (next r).bind f

/-- `try: ... except`: the handler sees every failure and raises again the
ones it does not name. -/
def tryCatch : Prog S R ε α → (ε → Prog S R ε α) → Prog S R ε α
  | done (.ok a), _ => done (.ok a)
  | done (.error e), handler => handler e
  | step s next, handler => step s fun r => (next r).tryCatch handler

instance : Monad (Prog S R ε) where
  pure a := done (.ok a)
  bind := bind

instance : MonadExcept ε (Prog S R ε) where
  throw e := done (.error e)
  tryCatch := tryCatch

/-- One statement, answered. -/
def issue (s : S) : Prog S R ε (R s) := step s fun r => done (.ok r)

/-- Python's `if not condition: raise failure`. -/
def require (condition : Prop) [Decidable condition] (failure : ε) :
    Prog S R ε Unit :=
  if condition then pure () else throw failure

/-- The value of an optional, or the failure raised when there is none. -/
def orRaise (value : Option α) (failure : ε) : Prog S R ε α :=
  match value with
  | some a => pure a
  | none => throw failure

/-- The program stopped by a failure nothing handles, after that many statements. -/
def cut (failure : ε) : ℕ → Prog S R ε α → Prog S R ε α
  | _, done result => done result
  | 0, step _ _ => done (.error failure)
  | n + 1, step s next => step s fun r => cut failure n (next r)

@[simp]
theorem pure_bind (a : α) (f : α → Prog S R ε β) : (pure a >>= f) = f a := rfl

@[simp]
theorem throw_bind (e : ε) (f : α → Prog S R ε β) :
    ((throw e : Prog S R ε α) >>= f) = throw e := rfl

@[simp]
theorem step_bind (s : S) (next : R s → Prog S R ε α) (f : α → Prog S R ε β) :
    (step s next >>= f) = step s fun r => next r >>= f := rfl

@[simp]
theorem issue_bind (s : S) (f : R s → Prog S R ε β) :
    (issue s >>= f) = step s f := rfl

@[simp]
theorem bind_assoc (x : Prog S R ε α) (f : α → Prog S R ε β)
    (g : β → Prog S R ε γ) : (x >>= f >>= g) = (x >>= fun a => f a >>= g) := by
  induction x with
  | done result =>
    cases result with
    | ok a => rfl
    | error e => rfl
  | step s next ih =>
    simp only [step_bind]
    congr 1
    funext r
    exact ih r

@[simp]
theorem bind_pure (x : Prog S R ε α) : (x >>= pure) = x := by
  induction x with
  | done result =>
    cases result with
    | ok a => rfl
    | error e => rfl
  | step s next ih =>
    simp only [step_bind]
    congr 1
    funext r
    exact ih r

@[simp]
theorem require_true {condition : Prop} [Decidable condition] {failure : ε}
    (hcondition : condition) :
    (require condition failure : Prog S R ε Unit) = pure () := if_pos hcondition

@[simp]
theorem require_false {condition : Prop} [Decidable condition] {failure : ε}
    (hcondition : ¬condition) :
    (require condition failure : Prog S R ε Unit) = throw failure :=
  if_neg hcondition

@[simp]
theorem orRaise_some (a : α) (failure : ε) :
    (orRaise (some a) failure : Prog S R ε α) = pure a := rfl

@[simp]
theorem orRaise_none (failure : ε) :
    (orRaise none failure : Prog S R ε α) = throw failure := rfl

/-! ## Statements a program can issue -/

/-- Every statement the program can issue, whatever the earlier answers,
satisfies `P`. -/
def All (P : S → Prop) : Prog S R ε α → Prop
  | done _ => True
  | step s next => P s ∧ ∀ r, (next r).All P

variable {P Q : S → Prop}

@[simp]
theorem all_pure (a : α) : (pure a : Prog S R ε α).All P := trivial

@[simp]
theorem all_throw (e : ε) : (throw e : Prog S R ε α).All P := trivial

@[simp]
theorem all_done (result : Except ε α) : (done result : Prog S R ε α).All P := trivial

@[simp]
theorem all_step (s : S) (next : R s → Prog S R ε α) :
    (step s next).All P ↔ P s ∧ ∀ r, (next r).All P := Iff.rfl

@[simp]
theorem all_issue (s : S) : (issue s : Prog S R ε (R s)).All P ↔ P s := by
  simp [issue]

@[simp]
theorem all_require (condition : Prop) [Decidable condition] (failure : ε) :
    (require condition failure : Prog S R ε Unit).All P := by
  by_cases hcondition : condition <;> simp [hcondition]

@[simp]
theorem all_orRaise (value : Option α) (failure : ε) :
    (orRaise value failure : Prog S R ε α).All P := by
  cases value <;> simp

theorem All.bind {x : Prog S R ε α} {f : α → Prog S R ε β} (hx : x.All P)
    (hf : ∀ a, (f a).All P) : (x >>= f).All P := by
  induction x with
  | done result =>
    cases result with
    | ok a => exact hf a
    | error e => trivial
  | step s next ih => exact ⟨hx.1, fun r => ih r (hx.2 r)⟩

theorem All.tryCatch {x : Prog S R ε α} {handler : ε → Prog S R ε α}
    (hx : x.All P) (hhandler : ∀ e, (handler e).All P) :
    (tryCatch x handler).All P := by
  induction x with
  | done result =>
    cases result with
    | ok a => trivial
    | error e => exact hhandler e
  | step s next ih => exact ⟨hx.1, fun r => ih r (hx.2 r)⟩

theorem All.mono {x : Prog S R ε α} (hx : x.All P) (himp : ∀ s, P s → Q s) :
    x.All Q := by
  induction x with
  | done result => trivial
  | step s next ih => exact ⟨himp s hx.1, fun r => ih r (hx.2 r)⟩

theorem All.of_forall (x : Prog S R ε α) (h : ∀ s, P s) : x.All P := by
  induction x with
  | done result => trivial
  | step s next ih => exact ⟨h s, ih⟩

/-- A program that is run first issues no other statements. -/
theorem All.of_bind {x : Prog S R ε α} {f : α → Prog S R ε β} (h : (x >>= f).All P) :
    x.All P := by
  induction x with
  | done result => trivial
  | step s next ih => exact ⟨h.1, fun r => ih r (h.2 r)⟩

theorem All.ite {condition : Prop} [Decidable condition] {x y : Prog S R ε α}
    (hx : condition → x.All P) (hy : ¬condition → y.All P) :
    (if condition then x else y).All P := by
  by_cases hcondition : condition
  · simpa [hcondition] using hx hcondition
  · simpa [hcondition] using hy hcondition

end Prog

/-! ## Running a program alone -/

section Run

variable {State : Type} (exec : (s : S) → State → R s × State)

/-- The program run to its end against `exec`, the meaning of one statement. -/
def run : Prog S R ε α → State → Except ε α × State
  | .done result, state => (result, state)
  | .step s next, state => run (next (exec s state).1) (exec s state).2

@[simp]
theorem run_pure (a : α) (state : State) :
    run exec (pure a : Prog S R ε α) state = (.ok a, state) := rfl

@[simp]
theorem run_throw (e : ε) (state : State) :
    run exec (throw e : Prog S R ε α) state = (.error e, state) := rfl

@[simp]
theorem run_step (s : S) (next : R s → Prog S R ε α) (state : State) :
    run exec (.step s next) state =
      run exec (next (exec s state).1) (exec s state).2 := rfl

@[simp]
theorem run_issue (s : S) (state : State) :
    run exec (Prog.issue s : Prog S R ε (R s)) state =
      (.ok (exec s state).1, (exec s state).2) := rfl

theorem run_bind (x : Prog S R ε α) (f : α → Prog S R ε β) (state : State) :
    run exec (x >>= f) state =
      match run exec x state with
      | (.ok a, state') => run exec (f a) state'
      | (.error e, state') => (.error e, state') := by
  induction x generalizing state with
  | done result =>
    cases result with
    | ok a => rfl
    | error e => rfl
  | step s next ih => exact ih _ _

theorem run_require_bind {condition : Prop} [Decidable condition] (failure : ε)
    (f : Unit → Prog S R ε α) (state : State) :
    run exec (Prog.require condition failure >>= f) state =
      if condition then run exec (f ()) state else (.error failure, state) := by
  by_cases hcondition : condition
  · rw [Prog.require_true hcondition, Prog.pure_bind, if_pos hcondition]
  · rw [Prog.require_false hcondition, Prog.throw_bind, run_throw, if_neg hcondition]

theorem run_tryCatch (x : Prog S R ε α) (handler : ε → Prog S R ε α)
    (state : State) :
    run exec (tryCatch x handler) state =
      match run exec x state with
      | (.ok a, state') => (.ok a, state')
      | (.error e, state') => run exec (handler e) state' := by
  induction x generalizing state with
  | done result =>
    cases result with
    | ok a => rfl
    | error e => rfl
  | step s next ih => exact ih _ _

/-- A program that returned did so through both halves of a bind. -/
theorem run_bind_ok {x : Prog S R ε α} {f : α → Prog S R ε β}
    {state final : State} {b : β} :
    run exec (x >>= f) state = (.ok b, final) ↔
      ∃ a middle, run exec x state = (.ok a, middle) ∧
        run exec (f a) middle = (.ok b, final) := by
  rw [run_bind]
  rcases run exec x state with ⟨result, middle⟩
  cases result with
  | ok a => simp
  | error e => simp

theorem run_orRaise_ok {value : Option α} {failure : ε} {state final : State} {a : α} :
    run exec (Prog.orRaise value failure : Prog S R ε α) state = (.ok a, final) ↔
      value = some a ∧ state = final := by
  cases value <;> simp

theorem run_require_ok {condition : Prop} [Decidable condition] {failure : ε}
    {state final : State} {a : Unit} :
    run exec (Prog.require condition failure : Prog S R ε Unit) state = (.ok a, final) ↔
      condition ∧ state = final := by
  by_cases hcondition : condition <;> simp [hcondition]

/-- A relation kept by every statement the program can issue holds between the
first and the last state of a run, whether it returned or raised. -/
theorem run_invariant {P : S → Prop} {Inv : State → Prop} {x : Prog S R ε α}
    (hall : x.All P)
    (hexec : ∀ s state, P s → Inv state → Inv (exec s state).2)
    {state : State} (hstate : Inv state) : Inv (run exec x state).2 := by
  induction x generalizing state with
  | done result => exact hstate
  | step s next ih => exact ih _ (hall.2 _) (hexec s state hall.1 hstate)

/-- The program returns when it is run from this state. -/
def Succeeds (x : Prog S R ε α) (state : State) : Prop := ∃ a, (run exec x state).1 = .ok a

theorem succeeds_pure (a : α) (state : State) :
    Succeeds exec (pure a : Prog S R ε α) state := ⟨a, rfl⟩

theorem not_succeeds_throw (e : ε) (state : State) :
    ¬Succeeds exec (throw e : Prog S R ε α) state := by
  rintro ⟨a, h⟩
  cases h

theorem succeeds_require_bind {condition : Prop} [Decidable condition] (failure : ε)
    {f : Unit → Prog S R ε α} {state : State} :
    Succeeds exec (Prog.require condition failure >>= f) state ↔
      condition ∧ Succeeds exec (f ()) state := by
  by_cases hcondition : condition
  · rw [Prog.require_true hcondition, Prog.pure_bind, and_iff_right hcondition]
  · rw [Prog.require_false hcondition, Prog.throw_bind]
    exact iff_of_false (not_succeeds_throw exec failure state) fun h => hcondition h.1

theorem succeeds_bind {x : Prog S R ε α} {f : α → Prog S R ε β} {state : State} :
    Succeeds exec (x >>= f) state ↔
      ∃ a middle, run exec x state = (.ok a, middle) ∧ Succeeds exec (f a) middle := by
  rw [Succeeds, run_bind]
  rcases run exec x state with ⟨result, middle⟩
  cases result with
  | ok a => simp [Succeeds]
  | error e => simp

/-! ### Calls -/

/-- The run comes to a point from where it goes on as `callee` and what follows it. -/
inductive Calls (callee : Prog S R ε β) : Prog S R ε α → State → Prop
  | here (k : β → Prog S R ε α) (state : State) : Calls callee (callee >>= k) state
  | step {s : S} {next : R s → Prog S R ε α} {state : State}
      (h : Calls callee (next (exec s state).1) (exec s state).2) :
      Calls callee (.step s next) state

variable {exec} {callee : Prog S R ε β} {x : Prog S R ε α} {state : State}

/-- A program issues what it calls. -/
theorem Calls.all {P : S → Prop} (h : Calls exec callee x state) (hall : x.All P) :
    callee.All P := by
  induction h with
  | here k state => exact hall.of_bind
  | step h ih => exact ih (hall.2 _)

theorem Calls.of_run {f : α → Prog S R ε γ} {a : α} {middle : State}
    (hrun : run exec x state = (.ok a, middle)) (h : Calls exec callee (f a) middle) :
    Calls exec callee (x >>= f) state := by
  induction x generalizing state with
  | done result =>
    obtain ⟨rfl, rfl⟩ := Prod.mk.inj hrun
    exact h
  | step s next ih => exact .step (ih _ hrun)

/-- A run that calls a program that only raises ends with its failure. -/
theorem Calls.raises {e : ε} (h : Calls exec (throw e : Prog S R ε β) x state) :
    (run exec x state).1 = .error e := by
  induction h with
  | here k state => rfl
  | step h ih => exact ih

end Run

end InfinityRadius.Program
