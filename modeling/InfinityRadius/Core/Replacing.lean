import Mathlib.Data.List.Basic
import Mathlib.Logic.Function.Basic
import Mathlib.Tactic.Common

/-!
# Replacing rows

Programs of `DELETE` and `INSERT` statements, the transactions that run them, and the programs
whose whole effect is to put rows of their own in the place of those they delete.  Such a program
absorbs what an earlier attempt of it left behind.
-/

namespace InfinityRadius.Replacing

variable {Table : Type} {Row : Table → Type}

abbrev Tables (Row : Table → Type) := (t : Table) → List (Row t)

inductive Statement (Row : Table → Type)
  | delete (t : Table) (matching : Row t → Bool)
  | insert (t : Table) (row : Row t)

/-! ## Transactions -/

section Transactions

variable [DecidableEq Table]

def Statement.execute : Statement Row → Tables Row → Tables Row
  | delete t matching, tables => Function.update tables t ((tables t).filter (! matching ·))
  | insert t row, tables => Function.update tables t (tables t ++ [row])

def execute (program : List (Statement Row)) (tables : Tables Row) : Tables Row :=
  program.foldl (fun tables statement => statement.execute tables) tables

/-- How a transaction ends.  A commit that raises may have been carried out. -/
inductive Fate
  | committed
  | failed (statement : ℕ)
  | commitRaised (applied : Bool)
deriving DecidableEq

/-- What is stored, and what the open transaction sees. -/
structure Session (Row : Table → Type) where
  stored : Tables Row
  working : Tables Row

namespace Session

def opened (tables : Tables Row) : Session Row := ⟨tables, tables⟩

def run (program : List (Statement Row)) (session : Session Row) : Session Row :=
  { session with working := execute program session.working }

def commit (session : Session Row) : Session Row := ⟨session.working, session.working⟩

def rollback (session : Session Row) : Session Row := ⟨session.stored, session.stored⟩

end Session

/-- Whether the transaction returns, and what it leaves. -/
def transact (program : List (Statement Row)) (fate : Fate) (tables : Tables Row) :
    Bool × Tables Row :=
  match fate with
  | .committed => (true, ((Session.opened tables).run program).commit.stored)
  | .failed statement =>
    (false, ((Session.opened tables).run (program.take statement)).rollback.stored)
  | .commitRaised true => (false, ((Session.opened tables).run program).commit.stored)
  | .commitRaised false => (false, ((Session.opened tables).run program).rollback.stored)

/-- The whole program took effect or none of it did, and it did where the call returns. -/
structure Transacted (program : List (Statement Row)) (tables : Tables Row)
    (outcome : Bool × Tables Row) : Prop where
  stored : outcome.2 = tables ∨ outcome.2 = execute program tables
  returned : outcome.1 = true → outcome.2 = execute program tables

theorem transacted (program : List (Statement Row)) (fate : Fate) (tables : Tables Row) :
    Transacted program tables (transact program fate tables) := by
  cases fate with
  | committed => exact ⟨Or.inr rfl, fun _ => rfl⟩
  | failed statement => exact ⟨Or.inl rfl, nofun⟩
  | commitRaised applied =>
    cases applied with
    | true => exact ⟨Or.inr rfl, nofun⟩
    | false => exact ⟨Or.inl rfl, nofun⟩

/-- A call that does nothing raises. -/
theorem transacted_raised (program : List (Statement Row)) (tables : Tables Row) :
    Transacted program tables (false, tables) := ⟨Or.inl rfl, nofun⟩

@[simp]
theorem execute_nil (tables : Tables Row) : execute [] tables = tables := rfl

@[simp]
theorem execute_cons (statement : Statement Row) (program : List (Statement Row))
    (tables : Tables Row) :
    execute (statement :: program) tables = execute program (statement.execute tables) := rfl

theorem execute_append (before after : List (Statement Row)) (tables : Tables Row) :
    execute (before ++ after) tables = execute after (execute before tables) :=
  List.foldl_append

/-- The inserts of a loop. -/
theorem execute_inserts (t : Table) (rows : List (Row t)) (tables : Tables Row) :
    execute (rows.map (.insert t)) tables = Function.update tables t (tables t ++ rows) := by
  induction rows generalizing tables with
  | nil => rw [List.map_nil, execute_nil, List.append_nil, Function.update_eq_self]
  | cons row rows ih =>
    rw [List.map_cons, execute_cons, ih, Statement.execute, Function.update_self,
      Function.update_idem, List.append_assoc, List.singleton_append]

end Transactions

/-! ## Replacements -/

/-- Rows that take the place of every row that matches. -/
structure Replacement (Row : Table → Type) where
  matching : (t : Table) → Row t → Bool
  rows : (t : Table) → List (Row t)
  inside : ∀ t, ∀ row ∈ rows t, matching t row = true

namespace Replacement

variable {first second whole : Replacement Row}

def apply (replacement : Replacement Row) (tables : Tables Row) : Tables Row := fun t =>
  (tables t).filter (! replacement.matching t ·) ++ replacement.rows t

/-- The rows that match are the new ones. -/
theorem filter_matching (replacement : Replacement Row) (tables : Tables Row) (t : Table) :
    (replacement.apply tables t).filter (replacement.matching t) = replacement.rows t := by
  rw [apply, List.filter_append, List.filter_filter]
  have hnone : (tables t).filter (fun row => replacement.matching t row &&
      ! replacement.matching t row) = [] := by
    simp
  rw [hnone, List.nil_append, List.filter_eq_self]
  exact replacement.inside t

/-- Rows among which nothing matches stay as they are. -/
theorem filter_apart (replacement : Replacement Row) (tables : Tables Row) (t : Table)
    {apart : Row t → Bool} (h : ∀ row, apart row = true → replacement.matching t row = false) :
    (replacement.apply tables t).filter apart = (tables t).filter apart := by
  rw [apply, List.filter_append, List.filter_filter]
  have hnone : (replacement.rows t).filter apart = [] := by
    rw [List.filter_eq_nil_iff]
    intro row hrow hapart
    exact absurd ((h row hapart).symm.trans (replacement.inside t row hrow)) Bool.false_ne_true
  rw [hnone, List.append_nil]
  apply List.filter_congr
  intro row _
  cases hapart : apart row with
  | false => rfl
  | true => rw [h row hapart, Bool.not_false, Bool.and_true]

/-- A replacement absorbs one that matches less. -/
theorem apply_apply (h : ∀ t row, first.matching t row = true → whole.matching t row = true)
    (tables : Tables Row) : whole.apply (first.apply tables) = whole.apply tables := by
  funext t
  rw [apply, apply, apply, List.filter_append, List.filter_filter]
  have hnone : (first.rows t).filter (! whole.matching t ·) = [] := by
    rw [List.filter_eq_nil_iff]
    intro row hrow
    rw [h t row (first.inside t row hrow)]
    exact Bool.false_ne_true
  have hsame : (tables t).filter (fun row => ! whole.matching t row && ! first.matching t row) =
      (tables t).filter (! whole.matching t ·) := by
    apply List.filter_congr
    intro row _
    cases hfirst : first.matching t row with
    | false => simp
    | true => rw [h t row hfirst]; rfl
  rw [hnone, List.append_nil, hsame]

/-- Two replacements at once, where the second spares the rows of the first. -/
def join (first second : Replacement Row) : Replacement Row where
  matching t row := first.matching t row || second.matching t row
  rows t := first.rows t ++ second.rows t
  inside := by
    intro t row hrow
    rcases List.mem_append.mp hrow with hfirst | hsecond
    · rw [first.inside t row hfirst, Bool.true_or]
    · rw [second.inside t row hsecond, Bool.or_true]

theorem apply_join (h : ∀ t, ∀ row ∈ first.rows t, second.matching t row = false)
    (tables : Tables Row) :
    (first.join second).apply tables = second.apply (first.apply tables) := by
  funext t
  rw [apply, apply, apply, List.filter_append, List.filter_filter]
  have hspared : (first.rows t).filter (! second.matching t ·) = first.rows t := by
    rw [List.filter_eq_self]
    intro row hrow
    rw [h t row hrow]
    rfl
  have hsame : (tables t).filter (! (first.join second).matching t ·) =
      (tables t).filter (fun row => ! second.matching t row && ! first.matching t row) := by
    apply List.filter_congr
    intro row _
    rw [join, Bool.not_or, Bool.and_comm]
  rw [hspared, hsame, List.append_assoc]
  rfl

end Replacement

end InfinityRadius.Replacing
