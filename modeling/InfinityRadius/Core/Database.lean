import Mathlib.Algebra.BigOperators.Group.List.Basic
import Mathlib.Algebra.Order.BigOperators.Group.List
import Mathlib.Data.List.Pairwise
import Mathlib.Logic.Function.Basic
import Mathlib.Order.Basic
import Mathlib.Tactic.Ring
import Mathlib.Tactic.Common

/-!
# Relational storage

A database is one list of rows for every table.  What the schema promises, that
primary keys are distinct, that every row meets its column types and checks, and
that no two rows break a unique index, is part of the type: an `INSERT` or
`UPDATE` that would break it is refused.
-/

namespace InfinityRadius.Database

variable {Table : Type} {Row : Table → Type}

/-- What the migrations declare about the tables. -/
structure Schema (Table : Type) (Row : Table → Type) where
  /-- the primary key of a row -/
  id : (t : Table) → Row t → ℕ
  /-- the column types and `CHECK` constraints a stored row meets -/
  valid : (t : Table) → Row t → Bool
  /-- whether some unique index forbids the two rows together -/
  conflict : (t : Table) → Row t → Row t → Bool
  conflict_comm : ∀ t left right, conflict t left right = conflict t right left

/-- Two different rows of a table may stand side by side. -/
def Schema.Apart (schema : Schema Table Row) (t : Table) (left right : Row t) : Prop :=
  schema.id t left ≠ schema.id t right ∧ schema.conflict t left right = false

instance (schema : Schema Table Row) (t : Table) (left right : Row t) :
    Decidable (schema.Apart t left right) :=
  inferInstanceAs (Decidable (_ ∧ _))

theorem Schema.Apart.symm {schema : Schema Table Row} {t : Table}
    {left right : Row t} (h : schema.Apart t left right) :
    schema.Apart t right left :=
  ⟨h.1.symm, by rw [schema.conflict_comm]; exact h.2⟩

structure Db (schema : Schema Table Row) where
  rows : (t : Table) → List (Row t)
  valid : ∀ t, ∀ row ∈ rows t, schema.valid t row = true
  apart : ∀ t, (rows t).Pairwise (schema.Apart t)

variable {schema : Schema Table Row}

/-! ## Lists of rows -/

/-- A key above every key in use. -/
def freshId (schema : Schema Table Row) (t : Table) (rows : List (Row t)) : ℕ :=
  rows.foldr (fun row bound => max (schema.id t row + 1) bound) 0

theorem id_lt_freshId {t : Table} {row : Row t} {rows : List (Row t)}
    (h : row ∈ rows) : schema.id t row < freshId schema t rows := by
  induction rows with
  | nil => cases h
  | cons first rest ih =>
    rcases List.mem_cons.mp h with rfl | hrest
    · exact Nat.lt_of_succ_le (Nat.le_max_left _ _)
    · exact Nat.lt_of_lt_of_le (ih hrest) (Nat.le_max_right _ _)

/-- The rows with the one keyed like `row` replaced by it. -/
def replaceRow (schema : Schema Table Row) (t : Table) (row : Row t)
    (rows : List (Row t)) : List (Row t) :=
  rows.map fun old => if schema.id t old = schema.id t row then row else old

/-- The rows after `row` is written: in place of the row with its key, or at
the end when its key is new. -/
def storeRow (schema : Schema Table Row) (t : Table) (row : Row t)
    (rows : List (Row t)) : List (Row t) :=
  if ∃ old ∈ rows, schema.id t old = schema.id t row then
    replaceRow schema t row rows
  else rows ++ [row]

theorem replaceRow_replaceRow {t : Table} {row last : Row t} {rows : List (Row t)}
    (hid : schema.id t row = schema.id t last) :
    replaceRow schema t last (replaceRow schema t row rows) =
      replaceRow schema t last rows := by
  simp only [replaceRow, List.map_map]
  refine List.map_congr_left fun old _ => ?_
  by_cases h : schema.id t old = schema.id t last
  · simp [h, hid]
  · simp [h, hid]

theorem mem_replaceRow_self {t : Table} {row old : Row t} {rows : List (Row t)}
    (hold : old ∈ rows) (hid : schema.id t old = schema.id t row) :
    row ∈ replaceRow schema t row rows :=
  List.mem_map.mpr ⟨old, hold, if_pos hid⟩

/-- A row of the table after a replacement is the new row or one with another
key. -/
theorem mem_replaceRow {t : Table} {row other : Row t} {rows : List (Row t)}
    (h : other ∈ replaceRow schema t row rows) :
    other = row ∨ (other ∈ rows ∧ schema.id t other ≠ schema.id t row) := by
  obtain ⟨old, hold, rfl⟩ := List.mem_map.mp h
  by_cases hid : schema.id t old = schema.id t row
  · exact Or.inl (if_pos hid)
  · rw [if_neg hid]
    exact Or.inr ⟨hold, hid⟩

/-- A row with another key is still there. -/
theorem mem_replaceRow_of_ne {t : Table} {row other : Row t} {rows : List (Row t)}
    (hother : other ∈ rows) (hid : schema.id t other ≠ schema.id t row) :
    other ∈ replaceRow schema t row rows :=
  List.mem_map.mpr ⟨other, hother, if_neg hid⟩

/-- Rows with other keys are left as they are. -/
theorem replaceRow_of_fresh {t : Table} {row : Row t} {rows : List (Row t)}
    (hfresh : ∀ old ∈ rows, schema.id t old ≠ schema.id t row) :
    replaceRow schema t row rows = rows :=
  (List.map_congr_left fun old hold => if_neg (hfresh old hold)).trans (List.map_id' _)

/-- A row written over the last one. -/
theorem replaceRow_concat {t : Table} {row last : Row t} {rows : List (Row t)}
    (hfresh : ∀ old ∈ rows, schema.id t old ≠ schema.id t row)
    (hid : schema.id t last = schema.id t row) :
    replaceRow schema t row (rows ++ [last]) = rows ++ [row] := by
  rw [replaceRow, List.map_append, ← replaceRow, replaceRow_of_fresh hfresh, List.map_singleton,
    if_pos hid]

/-- A sum over the rows changes by what the replaced row contributed. -/
theorem sum_replaceRow {t : Table} {row old : Row t} {rows : List (Row t)}
    (hrows : rows.Pairwise fun left right => schema.id t left ≠ schema.id t right)
    (hold : old ∈ rows) (hid : schema.id t old = schema.id t row) (f : Row t → ℤ) :
    ((replaceRow schema t row rows).map f).sum = (rows.map f).sum - f old + f row := by
  induction rows with
  | nil => cases hold
  | cons first rest ih =>
    obtain ⟨hfirst, hrest⟩ := List.pairwise_cons.mp hrows
    rcases List.mem_cons.mp hold with rfl | hmem
    · have htail : replaceRow schema t row rest = rest :=
        replaceRow_of_fresh fun other hother => by
          rw [← hid]
          exact (hfirst other hother).symm
      have hhead : replaceRow schema t row (old :: rest) = row :: rest := by
        change (if _ then row else old) :: replaceRow schema t row rest = _
        rw [if_pos hid, htail]
      rw [hhead, List.map_cons, List.sum_cons, List.map_cons, List.sum_cons]
      ring
    · have hne : schema.id t first ≠ schema.id t row := by
        rw [← hid]
        exact hfirst old hmem
      have hhead : replaceRow schema t row (first :: rest) =
          first :: replaceRow schema t row rest := by
        change (if _ then row else first) :: replaceRow schema t row rest = _
        rw [if_neg hne]
      rw [hhead, List.map_cons, List.sum_cons, ih hrest hmem, List.map_cons, List.sum_cons]
      ring

/-- Where one element alone counts, the sum is what it counts for. -/
theorem sum_map_eq_of_unique {α : Type} {rows : List α} {f : α → ℤ} {row : α}
    (hnodup : rows.Nodup) (hrow : row ∈ rows)
    (hothers : ∀ other ∈ rows, other ≠ row → f other = 0) : (rows.map f).sum = f row := by
  induction rows with
  | nil => cases hrow
  | cons first rest ih =>
    obtain ⟨hfirst, hrest⟩ := List.nodup_cons.mp hnodup
    rw [List.map_cons, List.sum_cons]
    rcases List.mem_cons.mp hrow with rfl | hmem
    · have hzero : (rest.map f).sum = 0 := List.sum_eq_zero fun value hvalue => by
        obtain ⟨other, hother, rfl⟩ := List.mem_map.mp hvalue
        exact hothers other (List.mem_cons_of_mem _ hother) fun heq => hfirst (heq ▸ hother)
      rw [hzero, add_zero]
    · rw [hothers first List.mem_cons_self fun heq => hfirst (heq ▸ hmem), zero_add]
      exact ih hrest hmem fun other hother => hothers other (List.mem_cons_of_mem _ hother)

theorem storeRow_of_mem {t : Table} {row old : Row t} {rows : List (Row t)}
    (hold : old ∈ rows) (hid : schema.id t old = schema.id t row) :
    storeRow schema t row rows = replaceRow schema t row rows :=
  if_pos ⟨old, hold, hid⟩

theorem storeRow_of_fresh {t : Table} {row : Row t} {rows : List (Row t)}
    (hfresh : ∀ old ∈ rows, schema.id t old ≠ schema.id t row) :
    storeRow schema t row rows = rows ++ [row] :=
  if_neg fun ⟨old, hold, hid⟩ => hfresh old hold hid

theorem mem_storeRow {t : Table} {row other : Row t} {rows : List (Row t)} :
    other ∈ storeRow schema t row rows ↔
      other = row ∨ (other ∈ rows ∧ schema.id t other ≠ schema.id t row) := by
  unfold storeRow
  split
  · rename_i hexists
    obtain ⟨old, hold, hid⟩ := hexists
    simp only [replaceRow, List.mem_map]
    constructor
    · rintro ⟨prior, hprior, rfl⟩
      by_cases h : schema.id t prior = schema.id t row
      · exact Or.inl (if_pos h)
      · rw [if_neg h]
        exact Or.inr ⟨hprior, h⟩
    · rintro (rfl | ⟨hother, h⟩)
      · exact ⟨old, hold, if_pos hid⟩
      · exact ⟨other, hother, if_neg h⟩
  · rename_i hfresh
    rw [List.mem_append, List.mem_singleton]
    constructor
    · rintro (hother | rfl)
      · exact Or.inr ⟨hother, fun h => hfresh ⟨other, hother, h⟩⟩
      · exact Or.inl rfl
    · rintro (rfl | ⟨hother, -⟩)
      · exact Or.inr rfl
      · exact Or.inl hother

private theorem pairwise_storeRow {t : Table} {row : Row t} {rows : List (Row t)}
    (hrows : rows.Pairwise (schema.Apart t))
    (hrow : ∀ other ∈ rows, schema.id t other ≠ schema.id t row →
      schema.Apart t other row) :
    (storeRow schema t row rows).Pairwise (schema.Apart t) := by
  unfold storeRow
  split
  · rw [replaceRow, List.pairwise_map]
    refine hrows.imp_of_mem fun {left right} hleft hright h => ?_
    by_cases hl : schema.id t left = schema.id t row
    · by_cases hr : schema.id t right = schema.id t row
      · exact absurd (hl.trans hr.symm) h.1
      · rw [if_pos hl, if_neg hr]
        exact (hrow right hright hr).symm
    · by_cases hr : schema.id t right = schema.id t row
      · rw [if_neg hl, if_pos hr]
        exact hrow left hleft hl
      · rwa [if_neg hl, if_neg hr]
  · rename_i hfresh
    refine List.pairwise_append.mpr ⟨hrows, List.pairwise_singleton _ _, ?_⟩
    intro other hother last hlast
    obtain rfl := List.mem_singleton.mp hlast
    exact hrow other hother fun h => hfresh ⟨other, hother, h⟩

namespace Db

/-- The database with no rows. -/
def empty : Db schema where
  rows _ := []
  valid := by simp
  apart := by simp

theorem ext_rows {left right : Db schema} (h : left.rows = right.rows) :
    left = right := by
  cases left
  cases right
  congr

theorem apart_of_ne (db : Db schema) {t : Table} {left right : Row t}
    (hleft : left ∈ db.rows t) (hright : right ∈ db.rows t) (hne : left ≠ right) :
    schema.Apart t left right := by
  have : Std.Symm (schema.Apart t) := ⟨fun _ _ h => h.symm⟩
  exact (db.apart t).forall hleft hright hne

theorem id_injOn (db : Db schema) {t : Table} {left right : Row t}
    (hleft : left ∈ db.rows t) (hright : right ∈ db.rows t)
    (hid : schema.id t left = schema.id t right) : left = right := by
  by_contra hne
  exact (db.apart_of_ne hleft hright hne).1 hid

/-! ## Looking a row up -/

/-- The first row meeting the condition, as `scalar_one_or_none` returns it. -/
def find (db : Db schema) (t : Table) (p : Row t → Bool) : Option (Row t) :=
  (db.rows t).find? p

theorem find_eq_some {db : Db schema} {t : Table} {p : Row t → Bool} {row : Row t}
    (h : db.find t p = some row) : row ∈ db.rows t ∧ p row = true :=
  ⟨List.mem_of_find?_eq_some h, List.find?_some h⟩

theorem find_eq_none {db : Db schema} {t : Table} {p : Row t → Bool} :
    db.find t p = none ↔ ∀ row ∈ db.rows t, p row = false := by
  simp [find]

/-- A condition met by one row alone finds that row. -/
theorem find_eq_of_unique {db : Db schema} {t : Table} {p : Row t → Bool} {row : Row t}
    (hrow : row ∈ db.rows t) (hp : p row = true)
    (hunique : ∀ other ∈ db.rows t, p other = true → other = row) :
    db.find t p = some row := by
  cases hfind : db.find t p with
  | none => simp [find_eq_none.mp hfind row hrow] at hp
  | some other =>
    obtain ⟨hother, hpother⟩ := find_eq_some hfind
    rw [hunique other hother hpother]

/-- A condition that fixes the primary key finds the row with that key. -/
theorem find_of_id {db : Db schema} {t : Table} {p : Row t → Bool} {row : Row t}
    (hrow : row ∈ db.rows t) (hp : p row = true)
    (hid : ∀ other, p other = true → schema.id t other = schema.id t row) :
    db.find t p = some row :=
  find_eq_of_unique hrow hp fun _other hother hpother =>
    db.id_injOn hother hrow (hid _ hpother)

/-- A condition met by at most one row selects that row or nothing. -/
theorem filter_cases {t : Table} {rows : List (Row t)} {p : Row t → Bool} (hnodup : rows.Nodup)
    (hunique : ∀ row ∈ rows, ∀ other ∈ rows, p row = true → p other = true → row = other) :
    (rows.filter p = [] ∧ ∀ row ∈ rows, p row = false) ∨
      ∃ row ∈ rows, p row = true ∧ rows.filter p = [row] := by
  cases hfilter : rows.filter p with
  | nil => exact Or.inl ⟨rfl, by simpa [List.filter_eq_nil_iff] using hfilter⟩
  | cons row rest =>
    have hsub : ∀ other ∈ row :: rest, other ∈ rows ∧ p other = true := by
      intro other hother
      rw [← hfilter] at hother
      exact List.mem_filter.mp hother
    obtain ⟨hrow, hp⟩ := hsub row List.mem_cons_self
    refine Or.inr ⟨row, hrow, hp, ?_⟩
    have hrest : rest = [] := by
      refine List.eq_nil_iff_forall_not_mem.mpr fun other hother => ?_
      obtain ⟨hmem, hother'⟩ := hsub other (List.mem_cons_of_mem _ hother)
      have heq := hunique row hrow other hmem hp hother'
      have hcons := hfilter ▸ hnodup.filter p
      exact (List.nodup_cons.mp hcons).1 (heq ▸ hother)
    rw [hrest]

theorem nodup (db : Db schema) (t : Table) : (db.rows t).Nodup :=
  (db.apart t).imp fun h heq => h.1 (by rw [heq])

theorem nodup_map_id (db : Db schema) (t : Table) : ((db.rows t).map (schema.id t)).Nodup :=
  List.pairwise_map.mpr ((db.apart t).imp fun h => h.1)

/-- Writing a stored row again changes nothing. -/
theorem replaceRow_of_mem (db : Db schema) {t : Table} {row : Row t}
    (hrow : row ∈ db.rows t) : replaceRow schema t row (db.rows t) = db.rows t := by
  refine (List.map_congr_left fun old hold => ?_).trans (List.map_id' _)
  split
  · rename_i hid
    exact (db.id_injOn hold hrow hid).symm
  · rfl

/-! ## Sums over a table -/

/-- The sum of what the rows of a table count for. -/
def total (db : Db schema) (t : Table) (f : Row t → ℤ) : ℤ := ((db.rows t).map f).sum

section Total

variable {db db' : Db schema} {t : Table} {row old : Row t} (f : Row t → ℤ)

theorem total_of_rows (h : db'.rows t = db.rows t) : db'.total t f = db.total t f := by
  rw [total, h, total]

theorem total_append {rows : List (Row t)} (h : db'.rows t = db.rows t ++ rows) :
    db'.total t f = db.total t f + (rows.map f).sum := by
  rw [total, h, List.map_append, List.sum_append, total]

theorem total_replaceRow (hold : old ∈ db.rows t) (hid : schema.id t old = schema.id t row)
    (h : db'.rows t = replaceRow schema t row (db.rows t)) :
    db'.total t f = db.total t f - f old + f row := by
  rw [total, h, sum_replaceRow ((db.apart t).imp And.left) hold hid, total]

/-- Where one row alone counts, the sum is what it counts for. -/
theorem total_eq_of_unique (hrow : row ∈ db.rows t)
    (hothers : ∀ other ∈ db.rows t, other ≠ row → f other = 0) : db.total t f = f row :=
  sum_map_eq_of_unique (db.nodup t) hrow hothers

theorem total_neg (db : Db schema) : db.total t (fun row => -f row) = -db.total t f := by
  rw [total, total]
  induction db.rows t with
  | nil => rfl
  | cons row rows ih =>
    rw [List.map_cons, List.sum_cons, ih, List.map_cons, List.sum_cons]
    ring

theorem total_eq_zero (h : ∀ row ∈ db.rows t, f row = 0) : db.total t f = 0 :=
  List.sum_eq_zero fun value hvalue => by
    obtain ⟨row, hrow, rfl⟩ := List.mem_map.mp hvalue
    exact h row hrow

theorem le_total (hrow : row ∈ db.rows t) (h : ∀ other ∈ db.rows t, 0 ≤ f other) :
    f row ≤ db.total t f := by
  refine List.single_le_sum (fun value hvalue => ?_) _ (List.mem_map_of_mem hrow)
  obtain ⟨other, hother, rfl⟩ := List.mem_map.mp hvalue
  exact h other hother

end Total

/-! ## Writing a row -/

/-- Whether the row may stand in the table, in place of the row with its key. -/
def admits (db : Db schema) (t : Table) (row : Row t) : Bool :=
  schema.valid t row &&
    decide (∀ other ∈ db.rows t,
      schema.id t other ≠ schema.id t row → schema.Apart t other row)

theorem admits_iff {db : Db schema} {t : Table} {row : Row t} :
    db.admits t row = true ↔ schema.valid t row = true ∧
      ∀ other ∈ db.rows t, schema.id t other ≠ schema.id t row →
        schema.Apart t other row := by
  rw [admits, Bool.and_eq_true_iff, decide_eq_true_iff]

/-- A row that differs from a stored one in no unique index is admitted in its
place as soon as it meets its column types and checks. -/
theorem admits_of_conflict_eq {db : Db schema} {t : Table} {old row : Row t}
    (hold : old ∈ db.rows t) (hid : schema.id t row = schema.id t old)
    (hvalid : schema.valid t row = true)
    (hconflict : ∀ other, schema.conflict t other row = schema.conflict t other old) :
    db.admits t row = true := by
  refine admits_iff.mpr ⟨hvalid, fun other hother hne => ⟨hne, ?_⟩⟩
  rw [hconflict]
  exact (db.apart_of_ne hother hold fun h => hne (by rw [h, hid])).2

variable [DecidableEq Table]

/-- The database after `row` is written to table `t`. -/
def store (db : Db schema) (t : Table) (row : Row t) : Option (Db schema) :=
  if h : db.admits t row = true then
    some
      { rows := Function.update db.rows t (storeRow schema t row (db.rows t))
        valid := by
          intro t' other hother
          by_cases ht : t' = t
          · subst ht
            rw [Function.update_self] at hother
            rcases mem_storeRow.mp hother with rfl | ⟨hother, -⟩
            · exact (admits_iff.mp h).1
            · exact db.valid _ _ hother
          · rw [Function.update_of_ne ht] at hother
            exact db.valid _ _ hother
        apart := by
          intro t'
          by_cases ht : t' = t
          · subst ht
            rw [Function.update_self]
            exact pairwise_storeRow (db.apart _) (admits_iff.mp h).2
          · rw [Function.update_of_ne ht]
            exact db.apart t' }
  else none

theorem store_eq_some {db db' : Db schema} {t : Table} {row : Row t}
    (h : db.store t row = some db') :
    db.admits t row = true ∧
      db'.rows = Function.update db.rows t (storeRow schema t row (db.rows t)) := by
  unfold store at h
  split at h
  · rename_i hadmits
    cases h
    exact ⟨hadmits, rfl⟩
  · cases h

theorem store_of_admits {db : Db schema} {t : Table} {row : Row t}
    (h : db.admits t row = true) : ∃ db', db.store t row = some db' :=
  ⟨_, dif_pos h⟩

/-- `INSERT`: the row is built around the key it is given. -/
def insert (db : Db schema) (t : Table) (build : ℕ → Row t) :
    Option (Row t × Db schema) :=
  let id := freshId schema t (db.rows t)
  if schema.id t (build id) = id then
    (db.store t (build id)).map fun db' => (build id, db')
  else none

/-- `UPDATE` of the row with the given key.  It is refused where the row is
missing, and where its new value breaks a column type, a check or an index. -/
def update (db : Db schema) (t : Table) (id : ℕ) (write : Row t → Row t) :
    Option (Row t × Db schema) :=
  match db.find t fun row => schema.id t row == id with
  | none => none
  | some old =>
    if schema.id t (write old) = id then
      (db.store t (write old)).map fun db' => (write old, db')
    else none

/-- `db'` is `db` with `row` written over the row with its key. -/
def Replaced (t : Table) (row : Row t) (db db' : Db schema) : Prop :=
  db'.rows = Function.update db.rows t (replaceRow schema t row (db.rows t))

/-- `db'` is `db` with `row` added. -/
def Appended (t : Table) (row : Row t) (db db' : Db schema) : Prop :=
  db'.rows = Function.update db.rows t (db.rows t ++ [row])

theorem Replaced.rows_of_ne {db db' : Db schema} {t t' : Table} {row : Row t}
    (h : Replaced t row db db') (hne : t' ≠ t) : db'.rows t' = db.rows t' := by
  rw [h, Function.update_of_ne hne]

theorem Replaced.rows_self {db db' : Db schema} {t : Table} {row : Row t}
    (h : Replaced t row db db') : db'.rows t = replaceRow schema t row (db.rows t) := by
  rw [h, Function.update_self]

theorem Appended.rows_of_ne {db db' : Db schema} {t t' : Table} {row : Row t}
    (h : Appended t row db db') (hne : t' ≠ t) : db'.rows t' = db.rows t' := by
  rw [h, Function.update_of_ne hne]

theorem Appended.rows_self {db db' : Db schema} {t : Table} {row : Row t}
    (h : Appended t row db db') : db'.rows t = db.rows t ++ [row] := by
  rw [h, Function.update_self]

theorem Appended.mem {db db' : Db schema} {t : Table} {row : Row t}
    (h : Appended t row db db') : row ∈ db'.rows t := by
  rw [h.rows_self]
  exact List.mem_append_right _ List.mem_cons_self

/-- Of two writes over the same row the last one stands. -/
theorem Replaced.trans {db db' db'' : Db schema} {t : Table} {row last : Row t}
    (h : Replaced t row db db') (h' : Replaced t last db' db'')
    (hid : schema.id t row = schema.id t last) : Replaced t last db db'' := by
  rw [Replaced, h', h.rows_self, replaceRow_replaceRow hid, h, Function.update_idem]

/-- A row written over the one just added. -/
theorem Appended.replaceRow {db db' : Db schema} {t : Table} {row last : Row t}
    (h : Appended t row db db') (hfresh : schema.id t row = freshId schema t (db.rows t))
    (hid : schema.id t last = schema.id t row) :
    replaceRow schema t last (db'.rows t) = db.rows t ++ [last] := by
  rw [h.rows_self]
  apply replaceRow_concat
  · intro old hold
    rw [hid, hfresh]
    exact (id_lt_freshId hold).ne
  · exact hid.symm

/-- Where the old row stood the new one stands. -/
theorem Replaced.mem {db db' : Db schema} {t : Table} {row old : Row t}
    (h : Replaced t row db db') (hold : old ∈ db.rows t)
    (hid : schema.id t old = schema.id t row) : row ∈ db'.rows t := by
  rw [h.rows_self]
  exact mem_replaceRow_self hold hid

theorem insert_eq_some {db db' : Db schema} {t : Table} {build : ℕ → Row t}
    {row : Row t} (h : db.insert t build = some (row, db')) :
    row = build (freshId schema t (db.rows t)) ∧
      schema.id t row = freshId schema t (db.rows t) ∧
      db.store t row = some db' ∧ Appended t row db db' := by
  unfold insert at h
  simp only at h
  split at h
  · rename_i hid
    obtain ⟨stored, hstored, heq⟩ := Option.map_eq_some_iff.mp h
    simp only [Prod.mk.injEq] at heq
    obtain ⟨rfl, rfl⟩ := heq
    refine ⟨rfl, hid, hstored, ?_⟩
    rw [Appended, (store_eq_some hstored).2, storeRow_of_fresh]
    intro old hold
    rw [hid]
    exact Nat.ne_of_lt (id_lt_freshId hold)
  · cases h

theorem update_eq_some {db db' : Db schema} {t : Table} {id : ℕ}
    {write : Row t → Row t} {row : Row t} (h : db.update t id write = some (row, db')) :
    ∃ old ∈ db.rows t, schema.id t old = id ∧ row = write old ∧
      schema.id t row = id ∧ db.store t row = some db' ∧ Replaced t row db db' := by
  unfold update at h
  split at h
  · cases h
  · rename_i old hold
    split at h
    · rename_i hid
      obtain ⟨stored, hstored, heq⟩ := Option.map_eq_some_iff.mp h
      simp only [Prod.mk.injEq] at heq
      obtain ⟨rfl, rfl⟩ := heq
      obtain ⟨hmem, hidold⟩ := find_eq_some hold
      have hidold : schema.id t old = id := by simpa using hidold
      refine ⟨old, hmem, hidold, rfl, hid, hstored, ?_⟩
      rw [Replaced, (store_eq_some hstored).2, storeRow_of_mem hmem (hidold.trans hid.symm)]
    · cases h

/-- An `INSERT` of an admitted row succeeds. -/
theorem insert_of_admits {db : Db schema} {t : Table} {build : ℕ → Row t}
    (hid : ∀ id, schema.id t (build id) = id)
    (hadmits : db.admits t (build (freshId schema t (db.rows t))) = true) :
    ∃ db', db.insert t build = some (build (freshId schema t (db.rows t)), db') := by
  obtain ⟨db', hstore⟩ := store_of_admits hadmits
  exact ⟨db', by simp only [insert, hid, if_true, hstore, Option.map_some]⟩

/-- An `UPDATE` to an admitted row succeeds. -/
theorem update_of_admits {db : Db schema} {t : Table} {write : Row t → Row t} {old : Row t}
    (hold : old ∈ db.rows t) (hid : schema.id t (write old) = schema.id t old)
    (hadmits : db.admits t (write old) = true) :
    ∃ db', db.update t (schema.id t old) write = some (write old, db') := by
  obtain ⟨db', hstore⟩ := store_of_admits hadmits
  have hfind : db.find t (fun row => schema.id t row == schema.id t old) = some old :=
    find_of_id hold (by simp) (by simp)
  exact ⟨db', by simp only [update, hfind, hid, if_true, hstore, Option.map_some]⟩

end Db

end InfinityRadius.Database
