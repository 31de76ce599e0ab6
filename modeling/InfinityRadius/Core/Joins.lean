import Mathlib.Algebra.Order.BigOperators.Group.List
import Mathlib.Algebra.Order.Group.Nat
import Mathlib.Data.List.Dedup

/-!
# Joins and groups

The left outer join of two tables and the groups of its rows, and what sums over them come to.
A sum over a join counts a row once for every row it was joined with: it is the sum over the
table itself where no row has more than one match.
-/

namespace InfinityRadius.Joins

variable {α β κ M : Type} [AddCommMonoid M]

/-- What the rows of a table come to. -/
def sumOf (f : α → M) (rows : List α) : M := (rows.map f).sum

/-- Every row on the left with each row on the right that it matches, or by itself. -/
def leftJoin (on : α → β → Bool) (left : List α) (right : List β) : List (α × Option β) :=
  left.flatMap fun a =>
    match right.filter (on a) with
    | [] => [(a, none)]
    | b :: bs => (b :: bs).map fun b => (a, some b)

/-- The rows with each key, a key after the other. -/
def groupBy [DecidableEq κ] (key : α → κ) (rows : List α) : List (κ × List α) :=
  (rows.map key).dedup.map fun k => (k, rows.filter fun row => key row = k)

/-! ## Sums -/

section Sums

variable {f g : α → M} {rows : List α} {p : α → Bool} {a : α}

@[simp]
theorem sumOf_nil : sumOf f [] = 0 := rfl

@[simp]
theorem sumOf_cons : sumOf f (a :: rows) = f a + sumOf f rows := by
  rw [sumOf, List.map_cons, List.sum_cons, sumOf]

theorem sumOf_append {more : List α} : sumOf f (rows ++ more) = sumOf f rows + sumOf f more := by
  rw [sumOf, List.map_append, List.sum_append, sumOf, sumOf]

theorem sumOf_map {h : β → α} {others : List β} : sumOf f (others.map h) = sumOf (f ∘ h) others := by
  rw [sumOf, List.map_map, sumOf]

theorem sumOf_congr (h : ∀ a ∈ rows, f a = g a) : sumOf f rows = sumOf g rows := by
  rw [sumOf, List.map_congr_left h, sumOf]

theorem sumOf_perm {others : List α} (h : rows.Perm others) : sumOf f rows = sumOf f others :=
  (h.map f).sum_eq

theorem sumOf_eq_zero (h : ∀ a ∈ rows, f a = 0) : sumOf f rows = 0 := by
  induction rows with
  | nil => rfl
  | cons a rows ih =>
    rw [sumOf_cons, h a List.mem_cons_self, zero_add]
    exact ih fun b hb => h b (List.mem_cons_of_mem _ hb)

theorem sumOf_flatMap {others : List β} {h : β → List α} :
    sumOf f (others.flatMap h) = sumOf (fun b => sumOf f (h b)) others := by
  induction others with
  | nil => rfl
  | cons b others ih => rw [List.flatMap_cons, sumOf_append, ih, sumOf_cons]

theorem sumOf_filter : sumOf f (rows.filter p) = sumOf (fun a => if p a then f a else 0) rows := by
  induction rows with
  | nil => rfl
  | cons a rows ih =>
    rw [List.filter_cons, sumOf_cons]
    by_cases ha : p a = true
    · rw [if_pos ha, if_pos ha, sumOf_cons, ih]
    · rw [if_neg ha, if_neg ha, zero_add, ih]

/-- It does not matter which table is summed up first. -/
theorem sumOf_comm {f : α → β → M} {others : List β} :
    sumOf (fun a => sumOf (f a) others) rows = sumOf (fun b => sumOf (f · b) rows) others := by
  induction rows with
  | nil => exact (sumOf_eq_zero fun _ _ => rfl).symm
  | cons a rows ih =>
    rw [sumOf_cons, ih]
    simp only [sumOf_cons]
    exact List.sum_map_add.symm

/-- Where one row at most meets a condition, the sum over these rows is what that row counts for. -/
theorem sumOf_of_unique {value : M} (hvalue : ∀ b ∈ rows, p b = true → f b = value)
    (hnodup : rows.Nodup) (hunique : ∀ b ∈ rows, ∀ c ∈ rows, p b = true → p c = true → b = c) :
    sumOf (fun b => if p b then f b else 0) rows = if rows.any p then value else 0 := by
  induction rows with
  | nil => rfl
  | cons b rows ih =>
    obtain ⟨hb, hnodup⟩ := List.nodup_cons.mp hnodup
    rw [sumOf_cons, List.any_cons]
    by_cases hpb : p b = true
    · rw [if_pos hpb, hpb, Bool.true_or, if_pos rfl, hvalue b List.mem_cons_self hpb]
      rw [sumOf_eq_zero, add_zero]
      intro c hc
      apply if_neg
      intro hpc
      exact hb (hunique b List.mem_cons_self c (List.mem_cons_of_mem _ hc) hpb hpc ▸ hc)
    · rw [if_neg hpb, zero_add, eq_false_of_ne_true hpb, Bool.false_or]
      apply ih _ hnodup
      · exact fun b hb c hc => hunique b (List.mem_cons_of_mem _ hb) c (List.mem_cons_of_mem _ hc)
      · exact fun b hb => hvalue b (List.mem_cons_of_mem _ hb)

theorem le_sumOf {count : α → ℕ} (ha : a ∈ rows) : count a ≤ sumOf count rows := by
  rw [sumOf]
  exact List.single_le_sum (fun _ _ => Nat.zero_le _) _ (List.mem_map_of_mem ha)

theorem countP_eq_sumOf : rows.countP p = sumOf (fun a => if p a then 1 else 0) rows := by
  induction rows with
  | nil => rfl
  | cons a rows ih => rw [List.countP_cons, ih, sumOf_cons, add_comm]

end Sums

/-! ## Joins -/

section Joins

variable {on : α → β → Bool} {left : List α} {right : List β}

theorem sumOf_leftJoin {f : α × Option β → M} : sumOf f (leftJoin on left right) =
    sumOf (fun a => if right.any (on a) then sumOf (fun b => f (a, some b)) (right.filter (on a))
      else f (a, none)) left := by
  rw [leftJoin, sumOf_flatMap]
  apply sumOf_congr
  intro a _
  cases hmatches : right.filter (on a) with
  | nil =>
    have hnone : right.any (on a) = false := by
      rw [List.any_eq_false]
      exact fun b hb hon => List.filter_eq_nil_iff.mp hmatches b hb hon
    simp [hnone]
  | cons b bs =>
    have hsome : right.any (on a) = true := by
      have hb : b ∈ right.filter (on a) := hmatches ▸ List.mem_cons_self
      exact List.any_eq_true.mpr ⟨b, List.mem_filter.mp hb⟩
    rw [if_pos hsome, sumOf_map]
    rfl

/-- A row without a match counts for nothing. -/
theorem sumOf_leftJoin_right {f : α × Option β → M} (h : ∀ a ∈ left, f (a, none) = 0) :
    sumOf f (leftJoin on left right) =
      sumOf (fun a => sumOf (fun b => if on a b then f (a, some b) else 0) right) left := by
  rw [sumOf_leftJoin]
  apply sumOf_congr
  intro a ha
  rw [sumOf_filter]
  split
  · rfl
  · rename_i hnone
    rw [h a ha, sumOf_eq_zero]
    intro b hb
    apply if_neg
    exact fun hon => hnone (List.any_eq_true.mpr ⟨b, hb, hon⟩)

/-- Nothing is counted twice where no row has two matches. -/
theorem sumOf_leftJoin_left {f : α → M} (hnodup : right.Nodup)
    (hsole : ∀ a ∈ left, ∀ b ∈ right, ∀ c ∈ right, on a b = true → on a c = true → b = c) :
    sumOf (fun row => f row.1) (leftJoin on left right) = sumOf f left := by
  rw [sumOf_leftJoin]
  apply sumOf_congr
  intro a ha
  have hsum := @sumOf_of_unique _ _ _ (fun _ : β => f a) _ (on a) (f a) (fun _ _ _ => rfl) hnodup
    (hsole a ha)
  rw [sumOf_filter, hsum]
  split
  · rfl
  · rfl

theorem filter_leftJoin {p : α → Bool} : (leftJoin on left right).filter (fun row => p row.1) =
    leftJoin on (left.filter p) right := by
  induction left with
  | nil => rfl
  | cons a left ih =>
    have hrows : ∀ row ∈ leftJoin on [a] right, row.1 = a := by
      intro row hrow
      rw [leftJoin, List.flatMap_singleton] at hrow
      split at hrow
      · rw [List.mem_singleton.mp hrow]
      · obtain ⟨b, -, rfl⟩ := List.mem_map.mp hrow
        rfl
    have hsplit : ∀ rest, leftJoin on (a :: rest) right =
        leftJoin on [a] right ++ leftJoin on rest right := by
      intro rest
      rw [leftJoin, List.flatMap_cons, leftJoin, List.flatMap_singleton, leftJoin]
    rw [hsplit left, List.filter_append, ih, List.filter_cons]
    by_cases ha : p a = true
    · rw [if_pos ha, hsplit (left.filter p), List.filter_eq_self.mpr]
      intro row hrow
      rw [hrows row hrow, ha]
    · rw [if_neg ha, List.filter_eq_nil_iff.mpr, List.nil_append]
      intro row hrow
      rw [hrows row hrow]
      exact ha

/-- No row on the left is lost. -/
theorem exists_mem_leftJoin {a : α} (ha : a ∈ left) :
    ∃ row ∈ leftJoin on left right, row.1 = a := by
  cases hmatches : right.filter (on a) with
  | nil =>
    use (a, none)
    constructor
    · apply List.mem_flatMap.mpr
      use a, ha
      rw [hmatches]
      exact List.mem_singleton_self _
    · rfl
  | cons b bs =>
    use (a, some b)
    constructor
    · apply List.mem_flatMap.mpr
      use a, ha
      rw [hmatches]
      exact List.mem_map_of_mem List.mem_cons_self
    · rfl

theorem leftJoin_flatMap {rows : List κ} {f : κ → List α} :
    leftJoin on (rows.flatMap f) right = rows.flatMap fun row => leftJoin on (f row) right :=
  List.flatMap_assoc

/-- The join is made row by row. -/
theorem leftJoin_eq : leftJoin on left right = left.flatMap fun a => leftJoin on [a] right := by
  rw [← leftJoin_flatMap, List.flatMap_singleton']

theorem mem_leftJoin {row : α × Option β} (h : row ∈ leftJoin on left right) : row.1 ∈ left ∧
    ∀ b, row.2 = some b → b ∈ right ∧ on row.1 b = true := by
  obtain ⟨a, ha, hrow⟩ := List.mem_flatMap.mp h
  cases hmatches : right.filter (on a) with
  | nil =>
    rw [hmatches] at hrow
    rw [List.mem_singleton.mp hrow]
    exact ⟨ha, fun b hb => by cases hb⟩
  | cons b bs =>
    rw [hmatches] at hrow
    obtain ⟨c, hc, rfl⟩ := List.mem_map.mp hrow
    use ha
    rintro d ⟨⟩
    rw [← hmatches] at hc
    exact List.mem_filter.mp hc

end Joins

/-! ## Groups -/

section Groups

variable [DecidableEq κ] {key : α → κ} {rows : List α}

theorem mem_groupBy {group : κ × List α} : group ∈ groupBy key rows ↔
    (∃ row ∈ rows, key row = group.1) ∧ group.2 = rows.filter fun row => key row = group.1 := by
  rw [groupBy, List.mem_map]
  constructor
  · rintro ⟨k, hk, rfl⟩
    obtain ⟨row, hrow, hkey⟩ := List.mem_map.mp (List.mem_dedup.mp hk)
    exact ⟨⟨row, hrow, hkey⟩, rfl⟩
  · rintro ⟨⟨row, hrow, hkey⟩, hgroup⟩
    use group.1, List.mem_dedup.mpr (List.mem_map.mpr ⟨row, hrow, hkey⟩)
    exact Prod.ext rfl hgroup.symm

theorem nodup_keys : ((groupBy key rows).map Prod.fst).Nodup := by
  rw [groupBy, List.map_map]
  have hkeys : (Prod.fst ∘ fun k => (k, rows.filter fun row => key row = k)) = id := rfl
  rw [hkeys, List.map_id]
  exact List.nodup_dedup _

/-- The groups together are the table. -/
theorem sumOf_groupBy {f : α → M} :
    sumOf (fun group => sumOf f group.2) (groupBy key rows) = sumOf f rows := by
  rw [groupBy, sumOf_map]
  have hgroups : ((fun group : κ × List α => sumOf f group.2) ∘
      fun k => (k, rows.filter fun row => key row = k)) =
        fun k => sumOf (fun row => if key row = k then f row else 0) rows := by
    funext k
    rw [Function.comp_apply, sumOf_filter]
    simp only [decide_eq_true_eq]
  rw [hgroups, sumOf_comm]
  apply sumOf_congr
  intro row hrow
  have hunique : ∀ k ∈ (rows.map key).dedup, ∀ k' ∈ (rows.map key).dedup,
      decide (key row = k) = true → decide (key row = k') = true → k = k' := by
    intro k _ k' _ h h'
    exact (of_decide_eq_true h).symm.trans (of_decide_eq_true h')
  have hany : ((rows.map key).dedup.any fun k => decide (key row = k)) = true := by
    apply List.any_eq_true.mpr
    exact ⟨key row, List.mem_dedup.mpr (List.mem_map_of_mem hrow), decide_eq_true rfl⟩
  have hsum := @sumOf_of_unique _ _ _ (fun _ : κ => f row) _ (fun k => decide (key row = k)) (f row)
    (fun _ _ _ => rfl) (List.nodup_dedup _) hunique
  rw [hany, if_pos rfl] at hsum
  simpa only [decide_eq_true_eq] using hsum

end Groups

end InfinityRadius.Joins
