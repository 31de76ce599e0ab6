import InfinityRadius.Core.Sql

/-!
# Failures

What a program can raise, whatever its statements are answered.
-/

namespace InfinityRadius

variable {S : Type} {R : S → Type} {ε α β : Type} {P Q : ε → Prop}

namespace Program.Prog

/-- Every failure the program can end with satisfies `P`. -/
def Raises (P : ε → Prop) : Prog S R ε α → Prop
  | done (.ok _) => True
  | done (.error e) => P e
  | step _ next => ∀ r, (next r).Raises P

@[simp]
theorem raises_pure (a : α) : (pure a : Prog S R ε α).Raises P := trivial

theorem raises_throw {e : ε} (h : P e) : (throw e : Prog S R ε α).Raises P := h

@[simp]
theorem raises_issue (s : S) : (issue s : Prog S R ε (R s)).Raises P := fun _ => trivial

theorem raises_require {condition : Prop} [Decidable condition] {failure : ε}
    (h : ¬condition → P failure) :
    (require condition failure : Prog S R ε Unit).Raises P := by
  by_cases hcondition : condition
  · rw [require_true hcondition]
    trivial
  · rw [require_false hcondition]
    exact h hcondition

theorem raises_orRaise {value : Option α} {failure : ε} (h : P failure) :
    (orRaise value failure : Prog S R ε α).Raises P := by
  cases value with
  | none => exact h
  | some a => trivial

theorem Raises.bind {x : Prog S R ε α} {f : α → Prog S R ε β} (hx : x.Raises P)
    (hf : ∀ a, (f a).Raises P) : (x >>= f).Raises P := by
  induction x with
  | done result =>
    cases result with
    | ok a => exact hf a
    | error e => exact hx
  | step s next ih => exact fun r => ih r (hx r)

theorem Raises.tryCatch {x : Prog S R ε α} {handler : ε → Prog S R ε α} (hx : x.Raises Q)
    (hhandler : ∀ e, Q e → (handler e).Raises P) : (tryCatch x handler).Raises P := by
  induction x with
  | done result =>
    cases result with
    | ok a => trivial
    | error e => exact hhandler e hx
  | step s next ih => exact fun r => ih r (hx r)

end Program.Prog

namespace Sql

open Database Program

variable {Table : Type} {Row : Table → Type} {Ask Request : Type} {Answer : Ask → Type}
  {Response : Type} {schema : Schema Table Row} [DecidableEq Table] {aside : Table → Bool}
  {world : World schema Request Response}

theorem always_of_raises {x : Prog (Stmt Table Row Ask Request) (Reply Answer Response) ε α}
    (h : x.Raises P) : Always aside (fun _ _ => True) (fun e _ => P e) x world := by
  induction x generalizing world with
  | done result =>
    cases result with
    | ok a => trivial
    | error e => exact h
  | step s next ih => exact fun reply world' _ => ih reply (h reply)

end Sql

end InfinityRadius
