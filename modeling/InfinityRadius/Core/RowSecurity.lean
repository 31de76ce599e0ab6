import Mathlib.Logic.Function.Basic
import InfinityRadius.Core.Runs

/-!
# Row level security

A database whose users reach it through the policies of its tables. A statement reads
the rows that the policies let it see and makes changes that they check against the
state the statement started from; a deletion is followed along the foreign keys.
-/

namespace InfinityRadius.RowSecurity

/-! ## Conditions -/

section Conditions

variable {Value : Type}

/-- `=` is unknown when a side is NULL. -/
def sqlEq [DecidableEq Value] : Option Value → Option Value → Option Bool
  | some left, some right => some (decide (left = right))
  | _, _ => none

/-- `left = right` holds. -/
def equal [DecidableEq Value] (left right : Option Value) : Bool :=
  sqlEq left right == some true

def sqlOr : Option Bool → Option Bool → Option Bool
  | some true, _ => some true
  | _, some true => some true
  | some false, some false => some false
  | _, _ => none

@[simp]
theorem sqlEq_eq_true [DecidableEq Value] {left right : Option Value} :
    sqlEq left right = some true ↔ ∃ value, left = some value ∧ right = some value := by
  cases left <;> cases right <;> simp [sqlEq, eq_comm]

@[simp]
theorem equal_iff [DecidableEq Value] {left right : Option Value} :
    equal left right ↔ ∃ value, left = some value ∧ right = some value := by
  simp [equal]

@[simp]
theorem equal_some [DecidableEq Value] {left : Option Value} {value : Value} :
    equal left (some value) ↔ left = some value := by
  simp

@[simp]
theorem sqlOr_eq_true {left right : Option Bool} :
    sqlOr left right = some true ↔ left = some true ∨ right = some true := by
  rcases left with _ | _ | _ <;> rcases right with _ | _ | _ <;> simp [sqlOr]

end Conditions

/-! ## Schemas -/

section Schemas

variable (User Table Column Value : Type)

/-- A column without a value is NULL. -/
abbrev Row := Column → Option Value

abbrev Tables := Table → List (Row Column Value)

/-- What a policy says of a row, for a user and the state its statement starts from. -/
abbrev Condition := User → Tables Table Column Value → Row Column Value → Option Bool

inductive Policy
  | select (visible : Condition User Table Column Value)
  | insert (check : Condition User Table Column Value)
  | update (visible : Condition User Table Column Value)
      (check : Option (Condition User Table Column Value))
  | delete (visible : Condition User Table Column Value)

/-- What a row is shown to the policies for: `updated` is the new row of an `UPDATE`. -/
inductive Access
  | select | insert | update | updated | delete
deriving DecidableEq

inductive OnDelete
  | cascade | setNull | restrict
deriving DecidableEq

structure ForeignKey where
  child : Table
  column : Column
  parent : Table
  onDelete : OnDelete

structure Schema where
  /-- the column that the foreign keys refer to -/
  key : Column
  foreignKeys : List (ForeignKey Table Column)
  /-- `none` where row level security is not enabled -/
  policies : Table → Option (List (Policy User Table Column Value))

/-- One of the changes that a statement makes; `reading` says that its `WHERE`, `SET` or
`RETURNING` reads columns of the table. -/
inductive Change
  | insert (table : Table) (reading : Bool) (rows : List (Row Column Value))
  | update (table : Table) (reading : Bool) (picked : Row Column Value → Bool)
      (assign : Row Column Value → Row Column Value)
  | delete (table : Table) (reading : Bool) (picked : Row Column Value → Bool)

/-- A statement reads rows and makes changes that depend on them: a `SELECT` none, a plain
`INSERT`, `UPDATE` or `DELETE` one, and more with `ON CONFLICT` or `WITH`. -/
structure Statement where
  reads : Table → Row Column Value → Bool
  changes : Tables Table Column Value → List (Change Table Column Value)

/-- A statement of a user. It may be `refused` for a reason that the policies do not
know, such as a unique key. -/
structure Request where
  user : User
  statement : Statement Table Column Value
  refused : Bool

end Schemas

variable {User Table Column Value : Type}

def Policy.condition : Policy User Table Column Value → Access →
    Option (Condition User Table Column Value)
  | .select visible, .select => some visible
  | .insert check, .insert => some check
  | .update visible _, .update => some visible
  -- without a `WITH CHECK` the new row is held to `USING`
  | .update visible check, .updated => some (check.getD visible)
  | .delete visible, .delete => some visible
  | _, _ => none

def Change.table : Change Table Column Value → Table
  | .insert table .. => table
  | .update table .. => table
  | .delete table .. => table

/-! ## What a change does -/

section Changes

variable (schema : Schema User Table Column Value) (user : User)
  (snapshot : Tables Table Column Value)

/-- One policy for the access is enough. -/
def permits (access : Access) (table : Table) (row : Row Column Value) : Bool :=
  match schema.policies table with
  | none => true
  | some policies => policies.any fun policy =>
      (policy.condition access).any fun condition => condition user snapshot row == some true

/-- A statement that reads columns of the table needs to see the row too. -/
def permitsSeen (access : Access) (reading : Bool) (table : Table) (row : Row Column Value) :
    Bool :=
  permits schema user snapshot access table row &&
    (!reading || permits schema user snapshot .select table row)

/-- The stored rows that a change replaces or removes. -/
def taken (change : Change Table Column Value) (row : Row Column Value) : Bool :=
  match change with
  | .insert .. => false
  | .update table reading picked _ =>
    permitsSeen schema user snapshot .update reading table row && picked row
  | .delete table reading picked =>
    permitsSeen schema user snapshot .delete reading table row && picked row

/-- The rows that a change would store. -/
def stored (change : Change Table Column Value) (rows : List (Row Column Value)) :
    List (Row Column Value) :=
  match change with
  | .insert _ _ new => new
  | .update _ _ _ assign => (rows.filter (taken schema user snapshot change)).map assign
  | .delete .. => []

/-- The rows that a change works on directly, before and after it. -/
def touched (change : Change Table Column Value) (rows : List (Row Column Value)) :
    List (Row Column Value) :=
  rows.filter (taken schema user snapshot change) ++ stored schema user snapshot change rows

/-- The policies' word on a row to be stored. -/
def checked (change : Change Table Column Value) (row : Row Column Value) : Bool :=
  match change with
  | .insert table reading _ => permitsSeen schema user snapshot .insert reading table row
  | .update table reading _ _ => permitsSeen schema user snapshot .updated reading table row
  | .delete .. => true

section Deletion

variable [DecidableEq Table] [DecidableEq Column] [DecidableEq Value]
  (current : Tables Table Column Value) (direct : Table → Row Column Value → Bool)

/-- The row refers by the key to a row for which `removed` holds. -/
def refers (removed : Table → Row Column Value → Bool) (key : ForeignKey Table Column)
    (row : Row Column Value) : Bool :=
  (current key.parent).any fun parent =>
    removed key.parent parent && equal (row key.column) (parent schema.key)

/-- The rows removed along chains of at most that many cascading keys. -/
def gone : ℕ → Table → Row Column Value → Bool
  | 0, table, row => direct table row
  | chain + 1, table, row => direct table row || schema.foreignKeys.any fun key =>
      key.child = table && key.onDelete = .cascade &&
        refers schema current (gone chain) key row

/-- The removed rows: no cascade is longer than the list of keys. -/
def removed : Table → Row Column Value → Bool :=
  gone schema current direct schema.foreignKeys.length

def cleared (table : Table) (row : Row Column Value) : Row Column Value := fun column =>
  if schema.foreignKeys.any fun key => key.child = table && key.column = column &&
      key.onDelete = .setNull && refers schema current (removed schema current direct) key row
  then none else row column

/-- A row that stays refers to a removed one by a key that restricts. -/
def restricted : Bool :=
  schema.foreignKeys.any fun key => key.onDelete = .restrict && (current key.child).any fun row =>
    !removed schema current direct key.child row &&
      refers schema current (removed schema current direct) key row

def remove : Tables Table Column Value := fun table =>
  ((current table).filter fun row => !removed schema current direct table row).map
    (cleared schema current direct table)

end Deletion

variable [DecidableEq Table] [DecidableEq Column] [DecidableEq Value]

def directly (change : Change Table Column Value) (table : Table) (row : Row Column Value) :
    Bool :=
  change.table = table && taken schema user snapshot change row

def admitted (change : Change Table Column Value) (current : Tables Table Column Value) : Bool :=
  (stored schema user snapshot change (current change.table)).all
      (checked schema user snapshot change) &&
    match change with
    | .delete .. => !restricted schema current (directly schema user snapshot change)
    | _ => true

def perform (change : Change Table Column Value) (current : Tables Table Column Value) :
    Tables Table Column Value :=
  match change with
  | .insert table _ rows => Function.update current table (current table ++ rows)
  | .update table _ _ assign =>
    Function.update current table ((current table).map fun row =>
      if taken schema user snapshot change row then assign row else row)
  | .delete .. => remove schema current (directly schema user snapshot change)

end Changes

/-! ## What a request does -/

section Requests

variable (schema : Schema User Table Column Value)

/-- The rows that a request reads. -/
def rowsRead (request : Request User Table Column Value) (tables : Tables Table Column Value) :
    Tables Table Column Value := fun table =>
  (tables table).filter fun row =>
    permits schema request.user tables .select table row && request.statement.reads table row

def changes (request : Request User Table Column Value) (tables : Tables Table Column Value) :
    List (Change Table Column Value) :=
  request.statement.changes (rowsRead schema request tables)

variable [DecidableEq Table] [DecidableEq Column] [DecidableEq Value]

/-- A condition holds of each change of a request, in the state the change finds. -/
def EachChange
    (condition : Change Table Column Value → Tables Table Column Value → Prop)
    (request : Request User Table Column Value) (tables : Tables Table Column Value) : Prop :=
  Runs.All (perform schema request.user tables) condition (changes schema request tables) tables

def Accepted (request : Request User Table Column Value) (tables : Tables Table Column Value) :
    Prop :=
  request.refused = false ∧ EachChange schema
    (fun change current => admitted schema request.user tables change current) request tables

instance (request : Request User Table Column Value) (tables : Tables Table Column Value) :
    Decidable (Accepted schema request tables) :=
  inferInstanceAs (Decidable (_ ∧ Runs.All _ _ _ _))

/-- A request that is not accepted changes nothing. -/
def execute (request : Request User Table Column Value) (tables : Tables Table Column Value) :
    Tables Table Column Value :=
  if Accepted schema request tables then
    Runs.run (perform schema request.user tables) (changes schema request tables) tables
  else tables

end Requests

/-! ## What the policies let through -/

section Access

variable {schema : Schema User Table Column Value} {user : User}
  {snapshot current : Tables Table Column Value} {access : Access} {table : Table}
  {row : Row Column Value} {change : Change Table Column Value} {reading : Bool}

theorem permits_iff {policies : List (Policy User Table Column Value)}
    (h : schema.policies table = some policies) :
    permits schema user snapshot access table row ↔
      ∃ policy ∈ policies, ∃ condition, policy.condition access = some condition ∧
        condition user snapshot row = some true := by
  simp [permits, h, Option.any_eq_true]

theorem permits_of_permitsSeen
    (h : permitsSeen schema user snapshot access reading table row) :
    permits schema user snapshot access table row := by
  rw [permitsSeen, Bool.and_eq_true] at h
  exact h.1

variable (schema) in
/-- The table has no row level security, or a policy for the access. -/
def covers (access : Access) (table : Table) : Bool :=
  match schema.policies table with
  | none => true
  | some policies => policies.any fun policy => (policy.condition access).isSome

theorem covers_of_permits (h : permits schema user snapshot access table row) :
    covers schema access table := by
  rw [covers]
  split
  · rfl
  · next policies hpolicies =>
    obtain ⟨policy, hpolicy, condition, hcondition, _⟩ := (permits_iff hpolicies).1 h
    exact List.any_eq_true.2 ⟨policy, hpolicy, by rw [hcondition, Option.isSome_some]⟩

/-- A row that the policies of `UPDATE` and `DELETE` hide is not taken. -/
theorem not_taken
    (hupdate : ¬ permits schema user snapshot .update change.table row)
    (hdelete : ¬ permits schema user snapshot .delete change.table row) :
    taken schema user snapshot change row = false := by
  rw [Bool.eq_false_iff]
  intro htaken
  cases change with
  | insert => exact absurd htaken (by simp [taken])
  | update =>
    rw [taken, Bool.and_eq_true] at htaken
    exact hupdate (permits_of_permitsSeen htaken.1)
  | delete =>
    rw [taken, Bool.and_eq_true] at htaken
    exact hdelete (permits_of_permitsSeen htaken.1)

theorem mem_stored {rows : List (Row Column Value)}
    (h : row ∈ stored schema user snapshot change rows) :
    (∃ reading new, change = .insert change.table reading new ∧ row ∈ new) ∨
      ∃ reading picked assign, change = .update change.table reading picked assign ∧
        ∃ old ∈ rows, taken schema user snapshot change old ∧ row = assign old := by
  cases change with
  | insert table reading new => exact .inl ⟨reading, new, rfl, h⟩
  | update table reading picked assign =>
    obtain ⟨old, hold, rfl⟩ := List.mem_map.1 h
    rw [List.mem_filter] at hold
    exact .inr ⟨reading, picked, assign, rfl, old, hold.1, hold.2, rfl⟩
  | delete => exact absurd h List.not_mem_nil

end Access

/-! ## Deletions -/

section Deletion

variable [DecidableEq Table] [DecidableEq Column] [DecidableEq Value]
  {schema : Schema User Table Column Value} {current : Tables Table Column Value}
  {direct : Table → Row Column Value → Bool} {reached : Table → Prop} {table : Table}

variable (schema) in
/-- The deletions of rows of these tables cascade to rows of these tables only. -/
def Closed (reached : Table → Prop) : Prop :=
  ∀ key ∈ schema.foreignKeys, key.onDelete = .cascade → reached key.parent → reached key.child

variable (schema) in
/-- A deletion from these tables can clear the column. -/
def Clears (reached : Table → Prop) (table : Table) (column : Column) : Prop :=
  ∃ key ∈ schema.foreignKeys, key.child = table ∧ key.column = column ∧
    key.onDelete = .setNull ∧ reached key.parent

omit [DecidableEq Column] in
theorem gone_reached (hclosed : Closed schema reached)
    (hdirect : ∀ table, ∀ row ∈ current table, direct table row → reached table) (chain : ℕ) :
    ∀ table, ∀ row ∈ current table, gone schema current direct chain table row →
      reached table := by
  induction chain with
  | zero => exact hdirect
  | succ chain ih =>
    intro table row hrow hgone
    rw [gone, Bool.or_eq_true] at hgone
    rcases hgone with hgone | hgone
    · exact hdirect table row hrow hgone
    · obtain ⟨key, hkey, hcascade⟩ := List.any_eq_true.1 hgone
      simp only [Bool.and_eq_true, decide_eq_true_eq] at hcascade
      obtain ⟨parent, hparent, hremoved⟩ := List.any_eq_true.1 hcascade.2
      rw [Bool.and_eq_true] at hremoved
      rw [← hcascade.1.1]
      exact hclosed key hkey hcascade.1.2 (ih key.parent parent hparent hremoved.1)

theorem cleared_apply (hclosed : Closed schema reached)
    (hdirect : ∀ table, ∀ row ∈ current table, direct table row → reached table)
    {column : Column} (hcolumn : ¬ Clears schema reached table column)
    (row : Row Column Value) : cleared schema current direct table row column = row column := by
  rw [cleared, if_neg]
  intro hany
  obtain ⟨key, hkey, hclear⟩ := List.any_eq_true.1 hany
  simp only [Bool.and_eq_true, decide_eq_true_eq] at hclear
  obtain ⟨parent, hparent, hremoved⟩ := List.any_eq_true.1 hclear.2
  rw [Bool.and_eq_true] at hremoved
  exact hcolumn ⟨key, hkey, hclear.1.1.1, hclear.1.1.2, hclear.1.2,
    gone_reached hclosed hdirect _ key.parent parent hparent hremoved.1⟩

theorem mem_remove {row : Row Column Value} (h : row ∈ remove schema current direct table) :
    ∃ old ∈ current table, ∀ column, ¬ Clears schema (fun _ => True) table column →
      row column = old column := by
  obtain ⟨old, hold, rfl⟩ := List.mem_map.1 h
  exact ⟨old, (List.mem_filter.1 hold).1, fun column hcolumn =>
    cleared_apply (fun _ _ _ _ => trivial) (fun _ _ _ _ => trivial) hcolumn old⟩

/-- What is read off the rows of a table stays when no deletion reaches the table and
what is read does not depend on a column that a deletion can clear. -/
theorem map_remove {α : Type} {f : Row Column Value → α} (hclosed : Closed schema reached)
    (hdirect : ∀ table, ∀ row ∈ current table, direct table row → reached table)
    (htable : ¬ reached table)
    (hf : ∀ row row', (∀ column, ¬ Clears schema reached table column →
      row column = row' column) → f row = f row') :
    (remove schema current direct table).map f = (current table).map f := by
  have hstays : ∀ row ∈ current table,
      (!removed schema current direct table row) = true := by
    intro row hrow
    rw [Bool.not_eq_true', Bool.eq_false_iff]
    exact fun hgone => htable (gone_reached hclosed hdirect _ table row hrow hgone)
  rw [remove, List.filter_eq_self.2 hstays, List.map_map]
  apply List.map_congr_left
  intro row _
  exact hf _ _ fun column hcolumn => cleared_apply hclosed hdirect hcolumn row

end Deletion

/-! ## Changes -/

section Perform

variable [DecidableEq Table] [DecidableEq Column] [DecidableEq Value]
  {schema : Schema User Table Column Value} {user : User}
  {snapshot current : Tables Table Column Value} {change : Change Table Column Value}
  {table : Table} {row : Row Column Value}

omit [DecidableEq Column] in
theorem checked_of_admitted (h : admitted schema user snapshot change current)
    (hrow : row ∈ stored schema user snapshot change (current change.table)) :
    checked schema user snapshot change row := by
  have hall := (Bool.and_eq_true_iff.1 h).1
  exact List.all_eq_true.1 hall row hrow

/-- A row is one that the change stored, or was there up to columns that a deletion can
clear. -/
theorem mem_perform (h : row ∈ perform schema user snapshot change current table) :
    (change.table = table ∧ row ∈ stored schema user snapshot change (current table)) ∨
      ∃ old ∈ current table, ∀ column, ¬ Clears schema (fun _ => True) table column →
        row column = old column := by
  cases change with
  | insert inserted reading rows =>
    by_cases heq : table = inserted
    · subst heq
      rw [perform, Function.update_self, List.mem_append] at h
      exact h.symm.imp (fun h => ⟨rfl, h⟩) fun h => ⟨row, h, fun _ _ => rfl⟩
    · rw [perform, Function.update_of_ne heq] at h
      exact .inr ⟨row, h, fun _ _ => rfl⟩
  | update updated reading picked assign =>
    by_cases heq : table = updated
    · subst heq
      rw [perform, Function.update_self] at h
      obtain ⟨old, hold, rfl⟩ := List.mem_map.1 h
      split
      · next htaken =>
        exact .inl ⟨rfl, List.mem_map_of_mem (List.mem_filter.2 ⟨hold, htaken⟩)⟩
      · exact .inr ⟨old, hold, fun _ _ => rfl⟩
    · rw [perform, Function.update_of_ne heq] at h
      exact .inr ⟨row, h, fun _ _ => rfl⟩
  | delete => exact .inr (mem_remove h)

section Map

variable {α : Type} {f : Row Column Value → α} {reading : Bool}

theorem map_perform_insert {inserted : Table} {rows : List (Row Column Value)}
    (h : inserted = table → rows = []) :
    (perform schema user snapshot (.insert inserted reading rows) current table).map f =
      (current table).map f := by
  by_cases heq : inserted = table
  · subst heq
    rw [perform, Function.update_self, h rfl, List.append_nil]
  · rw [perform, Function.update_of_ne (Ne.symm heq)]

theorem map_perform_update {updated : Table} {picked : Row Column Value → Bool}
    {assign : Row Column Value → Row Column Value}
    (h : updated = table → ∀ row ∈ current table,
      taken schema user snapshot (.update updated reading picked assign) row →
        f (assign row) = f row) :
    (perform schema user snapshot (.update updated reading picked assign) current table).map f =
      (current table).map f := by
  by_cases heq : updated = table
  · subst heq
    rw [perform, Function.update_self, List.map_map]
    apply List.map_congr_left
    intro row hrow
    rw [Function.comp_apply]
    split
    · next htaken => exact h rfl row hrow htaken
    · rfl
  · rw [perform, Function.update_of_ne (Ne.symm heq)]

theorem map_perform_delete {deleted : Table} {picked : Row Column Value → Bool}
    {reached : Table → Prop} (hclosed : Closed schema reached)
    (hdeleted : ∀ row ∈ current deleted,
      taken schema user snapshot (.delete deleted reading picked) row → reached deleted)
    (htable : ¬ reached table)
    (hf : ∀ row row', (∀ column, ¬ Clears schema reached table column →
      row column = row' column) → f row = f row') :
    (perform schema user snapshot (.delete deleted reading picked) current table).map f =
      (current table).map f := by
  apply map_remove hclosed _ htable hf
  intro table row hrow hdirect
  rw [directly, Bool.and_eq_true, decide_eq_true_eq] at hdirect
  obtain ⟨rfl, htaken⟩ := hdirect
  exact hdeleted row hrow htaken

end Map

end Perform

/-! ## Requests -/

section Execute

variable [DecidableEq Table] [DecidableEq Column] [DecidableEq Value]
  {schema : Schema User Table Column Value} {request : Request User Table Column Value}
  {tables : Tables Table Column Value}
  {condition : Change Table Column Value → Tables Table Column Value → Prop}

/-- What each admitted change keeps, a request keeps. -/
theorem execute_invariant (Inv : Tables Table Column Value → Prop)
    (hchange : ∀ change current, admitted schema request.user tables change current →
      condition change current → Inv current →
        Inv (perform schema request.user tables change current))
    (hcondition : Accepted schema request tables → EachChange schema condition request tables)
    (h : Inv tables) : Inv (execute schema request tables) := by
  rw [execute]
  split
  · next haccepted =>
    exact Runs.run_invariant Inv (fun change current hmet => hchange change current hmet.1 hmet.2)
      (haccepted.2.and (hcondition haccepted)) h
  · exact h

end Execute

end InfinityRadius.RowSecurity
