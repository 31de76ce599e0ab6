import InfinityRadius.Core.Paging
import InfinityRadius.Repositories.Entities
import Mathlib.Algebra.Order.Floor.Ring
import Mathlib.Data.Rat.Floor

/-!
# Pages of a list request

`list_paginated` orders by one column, or by none where the column asked for is not sortable,
and cuts by offset.  PostgreSQL may arrange rows that are tied in that order in another way for
each page, so the pages are a partition exactly where no tied rows are on different pages.
-/

namespace InfinityRadius.Repositories

open Payload Paging

/-! ## Pages -/

structure PaginationMeta where
  page : ℤ
  pageSize : ℤ
  total : ℕ
  totalPages : ℤ

/-- `build_pagination_meta`.  Below `2 ^ 53` rows the quotient of floats has the same
ceiling. -/
def buildPaginationMeta (total : ℕ) (params : ListParams) : PaginationMeta where
  page := params.page
  pageSize := params.pageSize
  total := total
  totalPages := if 0 < total then ⌈(total : ℚ) / params.pageSize⌉ else 0

/-- How PostgreSQL orders the values of a column. -/
structure ValueOrder where
  le : Value → Value → Prop
  total : ∀ a b, le a b ∨ le b a
  trans : ∀ a b c, le a b → le b c → le a c

/-- The order that `ORDER BY` asks for: none of them, ascending or descending. -/
def ValueOrder.ofRows (order : ValueOrder) : Option (String × Bool) → Row → Row → Prop
  | none, _, _ => True
  | some (column, descending), left, right =>
    if descending = true then order.le (right column) (left column)
    else order.le (left column) (right column)

/-- A way to return the rows of a query that is consistent with its `ORDER BY`. -/
structure Arrangement (order : ValueOrder) where
  arrange : Option (String × Bool) → Multiset Row → List Row
  arrange_coe : ∀ orderBy rows, (arrange orderBy rows : Multiset Row) = rows
  sorted : ∀ orderBy rows, (arrange orderBy rows).Pairwise (order.ofRows orderBy)

def Engine.arranging {order : ValueOrder} (engine : Engine) (arrangement : Arrangement order) :
    Engine :=
  { engine with arrange := arrangement.arrange, arrange_coe := arrangement.arrange_coe }

/-- The statement of a list request, before it is cut into pages. -/
def listStatement (engine : Engine) (repository : Repository) (tenantId : Option ℕ)
    (params : ListParams) : Except QueryFailure Select := do
  let stmt ← applySearch engine repository params.search (baseQuery repository tenantId)
  let stmt ← params.filters.foldlM (applyFilter engine repository) stmt
  pure (applySort repository params.sort stmt)

/-- Whatever arrangement each query returns its rows in, the pages of the request have each
row that matches once, and each of them tells how many match. -/
def Partitions (engine : Engine) (order : ValueOrder) (repository : Repository)
    (tenantId : Option ℕ) (params : ListParams) (db : Database) (matching : Multiset Row) :
    Prop :=
  ∀ arrangements : ℕ → Arrangement order, ∃ pages : ℕ → List Row,
    (∀ index : ℕ, index < (buildPaginationMeta matching.card params).totalPages →
      listPaginated (engine.arranging (arrangements index)) repository tenantId
        { params with page := index + 1 } db = .ok (pages index, matching.card)) ∧
    (((List.range (buildPaginationMeta matching.card params).totalPages.toNat).flatMap pages :
      List Row) : Multiset Row) = matching

section Queries

variable {engine : Engine} {order : ValueOrder} {repository : Repository} {tenantId : Option ℕ}
  {params : ListParams} {db : Database} {stmt : Select}

theorem ValueOrder.ofRows_total (order : ValueOrder) (orderBy : Option (String × Bool))
    (left right : Row) : order.ofRows orderBy left right ∨ order.ofRows orderBy right left := by
  cases orderBy with
  | none => exact Or.inl trivial
  | some column =>
    obtain ⟨column, descending⟩ := column
    cases descending <;> exact order.total _ _

theorem ValueOrder.ofRows_trans (order : ValueOrder) (orderBy : Option (String × Bool))
    (left middle right : Row) (h : order.ofRows orderBy left middle)
    (h' : order.ofRows orderBy middle right) : order.ofRows orderBy left right := by
  cases orderBy with
  | none => trivial
  | some column =>
    obtain ⟨column, descending⟩ := column
    cases descending with
    | false => exact order.trans _ _ _ h h'
    | true => exact order.trans _ _ _ h' h

theorem applySort_matching (repository : Repository) (sort : Option String) (stmt : Select)
    (db : Database) : (applySort repository sort stmt).matching db = stmt.matching db := by
  simp only [applySort]
  split
  · split <;> rfl
  · split <;> rfl

/-- A page is cut from the arrangement of the rows that match. -/
theorem listPaginated_eq (hstmt : listStatement engine repository tenantId params = .ok stmt)
    (arrangement : Arrangement order) (index : ℕ) (hsize : 0 ≤ params.pageSize)
    (hmost : params.pageSize < 2 ^ 63) (hoffset : index * params.pageSize < 2 ^ 63) :
    listPaginated (engine.arranging arrangement) repository tenantId
        { params with page := index + 1 } db =
      .ok (Paging.page (arrangement.arrange stmt.orderBy (stmt.matching db))
        params.pageSize.toNat index, (stmt.matching db).card) := by
  have hengine : listPaginated (engine.arranging arrangement) repository tenantId
      { params with page := index + 1 } db = (do
        let stmt ← applySearch engine repository params.search (baseQuery repository tenantId)
        let stmt ← params.filters.foldlM (applyFilter engine repository) stmt
        let rows ← (applySort repository params.sort stmt).page (engine.arranging arrangement)
          ((index + 1 - 1) * params.pageSize) params.pageSize db
        pure (rows, (stmt.matching db).card)) := rfl
  rw [hengine]
  simp only [listStatement, bind, Except.bind] at hstmt ⊢
  cases hsearch : applySearch engine repository params.search
      (baseQuery repository tenantId) with
  | error failure =>
    rw [hsearch] at hstmt
    cases hstmt
  | ok searched =>
    rw [hsearch] at hstmt
    dsimp only at hstmt ⊢
    cases hfilters : params.filters.foldlM (applyFilter engine repository) searched with
    | error failure =>
      rw [hfilters] at hstmt
      cases hstmt
    | ok filtered =>
      rw [hfilters] at hstmt
      dsimp only at hstmt ⊢
      obtain rfl := Except.ok.inj hstmt
      rw [applySort_matching, Int.add_sub_cancel, Select.page,
        if_pos ⟨mul_nonneg (Int.natCast_nonneg _) hsize, hoffset, hsize, hmost⟩]
      have htoNat : ((index : ℤ) * params.pageSize).toNat = index * params.pageSize.toNat := by
        rw [Int.toNat_mul (Int.natCast_nonneg _) hsize, Int.toNat_natCast]
      rw [htoNat, Select.execute, applySort_matching]
      rfl

/-- The pages hold all rows, and the last of them is needed. -/
theorem totalPages_bounds {total : ℕ} (hsize : 1 ≤ params.pageSize) :
    total ≤ (buildPaginationMeta total params).totalPages.toNat * params.pageSize.toNat ∧
      ∀ index : ℕ, index < (buildPaginationMeta total params).totalPages →
        index * params.pageSize < total := by
  have hpositive : (0 : ℚ) < params.pageSize := by exact_mod_cast hsize
  have htoNat : ((params.pageSize.toNat : ℕ) : ℤ) = params.pageSize :=
    Int.toNat_of_nonneg (by omega)
  unfold buildPaginationMeta
  dsimp only
  split
  · constructor
    · have hceil : 0 ≤ ⌈(total : ℚ) / params.pageSize⌉ :=
        Int.ceil_nonneg (div_nonneg (Nat.cast_nonneg _) hpositive.le)
      have hle := (div_le_iff₀ hpositive).mp (Int.le_ceil ((total : ℚ) / params.pageSize))
      have hcast : (total : ℤ) ≤ ⌈(total : ℚ) / params.pageSize⌉ * params.pageSize := by
        exact_mod_cast hle
      zify
      rw [htoNat, Int.toNat_of_nonneg hceil]
      exact hcast
    · intro index hindex
      have hless := (lt_div_iff₀ hpositive).mp (Int.lt_ceil.mp hindex)
      exact_mod_cast hless
  · rename_i hnone
    constructor
    · omega
    · intro index hindex
      omega

end Queries

/-- The rows that match are arranged in some way. -/
noncomputable def sortedArrangement (order : ValueOrder) : Arrangement order := by
  classical
  exact
  { arrange := fun orderBy rows => rows.toList.mergeSort fun left right =>
      decide (order.ofRows orderBy left right)
    arrange_coe := fun orderBy rows => by
      rw [Multiset.coe_eq_coe.mpr (List.mergeSort_perm _ _), Multiset.coe_toList]
    sorted := fun orderBy rows => by
      have hsorted : (rows.toList.mergeSort fun left right =>
          decide (order.ofRows orderBy left right)).Pairwise fun left right =>
            decide (order.ofRows orderBy left right) = true := List.pairwise_mergeSort
        (fun left middle right h h' => by
          simp only [decide_eq_true_eq] at h h' ⊢
          exact order.ofRows_trans orderBy left middle right h h')
        (fun left right => by simpa using order.ofRows_total orderBy left right)
        rows.toList
      simpa using hsorted }

/-- The same arrangement, but for one query over some rows. -/
noncomputable def Arrangement.except {order : ValueOrder} (arrangement : Arrangement order)
    {orderBy : Option (String × Bool)} {rows : List Row}
    (hsorted : rows.Pairwise (order.ofRows orderBy)) : Arrangement order := by
  classical
  exact
  { arrange := fun other all =>
      if other = orderBy ∧ all = (rows : Multiset Row) then rows
      else arrangement.arrange other all
    arrange_coe := fun other all => by
      split
      · rename_i h
        exact h.2.symm
      · exact arrangement.arrange_coe other all
    sorted := fun other all => by
      split
      · rename_i h
        rw [h.1]
        exact hsorted
      · exact arrangement.sorted other all }

theorem Arrangement.except_self {order : ValueOrder} (arrangement : Arrangement order)
    {orderBy : Option (String × Bool)} {rows : List Row}
    (hsorted : rows.Pairwise (order.ofRows orderBy)) :
    (arrangement.except hsorted).arrange orderBy (rows : Multiset Row) = rows := by
  rw [Arrangement.except]
  exact if_pos ⟨rfl, rfl⟩

section Requests

variable {engine : Engine} {repository : Repository} {tenantId : Option ℕ} {params : ListParams}
  {db : Database} {stmt : Select} {order : ValueOrder}

theorem listPaginated_of_lt (hstmt : listStatement engine repository tenantId params = .ok stmt)
    (hleast : 1 ≤ params.pageSize) (hmost : params.pageSize ≤ 100)
    (hcard : (stmt.matching db).card < 2 ^ 53) (arrangement : Arrangement order) {index : ℕ}
    (hindex : index < (buildPaginationMeta (stmt.matching db).card params).totalPages) :
    listPaginated (engine.arranging arrangement) repository tenantId
        { params with page := index + 1 } db =
      .ok (Paging.page (arrangement.arrange stmt.orderBy (stmt.matching db))
        params.pageSize.toNat index, (stmt.matching db).card) := by
  have hoffset := (totalPages_bounds hleast).2 index hindex
  exact listPaginated_eq hstmt arrangement index (by omega) (by omega) (by omega)

/-- Where tied rows are on different pages, some arrangements show one of them twice. -/
theorem separated_of_partitions
    (hstmt : listStatement engine repository tenantId params = .ok stmt)
    (hleast : 1 ≤ params.pageSize) (hmost : params.pageSize ≤ 100)
    (hnodup : (stmt.matching db).Nodup) (hcard : (stmt.matching db).card < 2 ^ 53)
    (h : Partitions engine order repository tenantId params db (stmt.matching db)) :
    Separated (order.ofRows stmt.orderBy) (stmt.matching db) params.pageSize.toNat := by
  have hsize : 0 < params.pageSize.toNat := by omega
  have htotal := order.ofRows_total stmt.orderBy
  have hrefl : ∀ row, order.ofRows stmt.orderBy row row :=
    fun row => (htotal row row).elim id id
  have hpages := (@totalPages_bounds params (stmt.matching db).card hleast).1
  intro row hrow
  by_contra hdivided
  let plain := sortedArrangement order
  have hrows := plain.arrange_coe stmt.orderBy (stmt.matching db)
  have hsorted := plain.sorted stmt.orderBy (stmt.matching db)
  generalize plain.arrange stmt.orderBy (stmt.matching db) = rows at hrows hsorted
  have hless : below (order.ofRows stmt.orderBy) (stmt.matching db) row <
      upTo (order.ofRows stmt.orderBy) (stmt.matching db) row := by
    rw [← hrows] at hrow ⊢
    exact below_lt_upTo hrefl hsorted hrow
  rw [div_eq_div_iff hsize hless] at hdivided
  simp only [not_forall, not_not] at hdivided
  obtain ⟨place, hbelow, hupTo⟩ := hdivided
  obtain ⟨index, rfl⟩ : ∃ index, place = index + 1 := by
    cases place with
    | zero => omega
    | succ index => exact ⟨index, rfl⟩
  have hindex : index + 1 <
      (buildPaginationMeta (stmt.matching db).card params).totalPages.toNat := by
    apply Nat.lt_of_mul_lt_mul_right (a := params.pageSize.toNat)
    exact hupTo.trans_le ((upTo_le_card _ row).trans hpages)
  rw [← hrows] at hbelow hupTo
  obtain ⟨front, back, first, second, hsplit, hlength, hswapped⟩ :=
    exists_swapped htotal (order.ofRows_trans stmt.orderBy) hsorted hbelow hupTo
  have hrows' : ((front ++ second :: first :: back : List Row) : Multiset Row) =
      stmt.matching db := by
    rw [← hrows, hsplit, Multiset.coe_eq_coe]
    exact (List.Perm.swap first second back).append_left front
  -- the page that ends between the two rows sees them in one order, the next in the other
  let arrangements (place : ℕ) : Arrangement order :=
    if place = index then plain.except hsorted else plain.except hswapped
  have hbefore : (arrangements index).arrange stmt.orderBy (stmt.matching db) = rows := by
    rw [← hrows]
    simp only [arrangements, if_true, Arrangement.except_self]
  have hafter : (arrangements (index + 1)).arrange stmt.orderBy (stmt.matching db) =
      front ++ second :: first :: back := by
    rw [← hrows']
    simp only [arrangements, Nat.succ_ne_self, if_false, Arrangement.except_self]
  obtain ⟨pages, hall, hunion⟩ := h arrangements
  let arranged := fun place => (arrangements place).arrange stmt.orderBy (stmt.matching db)
  have hfirst : arranged index = front ++ first :: second :: back := hbefore.trans hsplit
  have hsecond : arranged (index + 1) = front ++ second :: first :: back := hafter
  apply not_partition_of_swapped hnodup hsize hindex hlength hfirst hsecond
  refine (congrArg _ (List.flatMap_congr fun place hplace => ?_)).trans hunion
  have hplace : (place : ℤ) <
      (buildPaginationMeta (stmt.matching db).card params).totalPages := by
    have hless := List.mem_range.mp hplace
    omega
  have hpage := listPaginated_of_lt hstmt hleast hmost hcard (arrangements place) hplace
  exact congrArg Prod.fst (Except.ok.inj (hpage.symm.trans (hall place hplace)))

theorem partitions_of_separated
    (hstmt : listStatement engine repository tenantId params = .ok stmt)
    (hleast : 1 ≤ params.pageSize) (hmost : params.pageSize ≤ 100)
    (hcard : (stmt.matching db).card < 2 ^ 53)
    (h : Separated (order.ofRows stmt.orderBy) (stmt.matching db) params.pageSize.toNat) :
    Partitions engine order repository tenantId params db (stmt.matching db) := by
  have hsize : 0 < params.pageSize.toNat := by omega
  have hrefl : ∀ row, order.ofRows stmt.orderBy row row :=
    fun row => (order.ofRows_total stmt.orderBy row row).elim id id
  intro arrangements
  refine ⟨fun index => Paging.page ((arrangements index).arrange stmt.orderBy (stmt.matching db))
    params.pageSize.toNat index,
    fun index hindex => listPaginated_of_lt hstmt hleast hmost hcard _ hindex, ?_⟩
  exact partition_of_separated hrefl hsize h
    (fun index => (arrangements index).arrange_coe _ _)
    (fun index => (arrangements index).sorted _ _) (totalPages_bounds hleast).1

end Requests

/-- The pages of a list request are a partition of the rows that match exactly where rows that
are tied in the order asked for are on one page. -/
theorem partitions_iff {engine : Engine} {repository : Repository} {tenantId : Option ℕ}
    {params : ListParams} {db : Database} {stmt : Select} (order : ValueOrder)
    (hstmt : listStatement engine repository tenantId params = .ok stmt)
    (hleast : 1 ≤ params.pageSize) (hmost : params.pageSize ≤ 100)
    (hnodup : (stmt.matching db).Nodup) (hcard : (stmt.matching db).card < 2 ^ 53) :
    Partitions engine order repository tenantId params db (stmt.matching db) ↔
      Separated (order.ofRows stmt.orderBy) (stmt.matching db) params.pageSize.toNat :=
  ⟨separated_of_partitions hstmt hleast hmost hnodup hcard,
    partitions_of_separated hstmt hleast hmost hcard⟩

/-! ## Vouchers of one batch -/

/-- A voucher of the batch, created with the others. -/
def sampleVoucher (id : ℕ) : Row
  | "id" => .uuid id
  | "tenant_id" => .uuid 1
  | "status" => .text "UNUSED"
  | "created_at" => .timestamp 0
  | _ => .null

/-- The tenant has one batch of two vouchers. -/
def sampleBatch : Database
  | "offline_vouchers" => ([sampleVoucher 0, sampleVoucher 1] : List Row)
  | _ => 0

def Value.instant : Value → ℤ
  | .timestamp value => value
  | _ => 0

def instantOrder : ValueOrder where
  le left right := left.instant ≤ right.instant
  total left right := le_total left.instant right.instant
  trans _ _ _ h h' := le_trans h h'

def firstPage (pageSize : ℤ) : ListParams where
  page := 1
  pageSize := pageSize
  search := none
  sort := none
  filters := []

noncomputable def voucherEngine : Engine where
  uuid _ := none
  ilike _ _ := false
  arrange _ rows := rows.toList
  arrange_coe _ rows := rows.coe_toList

def voucherStatement : Select :=
  applySort offlineVoucherRepository none (baseQuery offlineVoucherRepository (some 1))

theorem listStatement_vouchers (pageSize : ℤ) :
    listStatement voucherEngine offlineVoucherRepository (some 1) (firstPage pageSize) =
      .ok voucherStatement := rfl

theorem voucherStatement_matching :
    voucherStatement.matching sampleBatch = ([sampleVoucher 0, sampleVoucher 1] : List Row) := by
  rfl

theorem voucherStatement_nodup : (voucherStatement.matching sampleBatch).Nodup := by
  rw [voucherStatement_matching, Multiset.coe_nodup, List.nodup_cons]
  refine ⟨fun hmem => ?_, List.nodup_singleton _⟩
  have hid := congrFun (List.mem_singleton.mp hmem) "id"
  simp [sampleVoucher] at hid

theorem tied_vouchers (row : Row) (hrow : row ∈ voucherStatement.matching sampleBatch) :
    below (instantOrder.ofRows voucherStatement.orderBy)
        (voucherStatement.matching sampleBatch) row = 0 ∧
      upTo (instantOrder.ofRows voucherStatement.orderBy)
        (voucherStatement.matching sampleBatch) row = 2 := by
  have hcreated : ∀ other ∈ voucherStatement.matching sampleBatch,
      other "created_at" = .timestamp 0 := by
    intro other hother
    rw [voucherStatement_matching] at hother
    rcases List.mem_pair.mp (Multiset.mem_coe.mp hother) with rfl | rfl <;> rfl
  have htied : ∀ left ∈ voucherStatement.matching sampleBatch,
      ∀ right ∈ voucherStatement.matching sampleBatch,
        instantOrder.ofRows voucherStatement.orderBy left right := by
    intro left hleft right hright
    have hle : (right "created_at").instant ≤ (left "created_at").instant := by
      rw [hcreated left hleft, hcreated right hright]
    exact hle
  constructor
  · exact below_eq_zero fun other hother => htied row hrow other hother
  · rw [upTo_eq_card fun other hother => htied other hother row hrow,
      voucherStatement_matching]
    rfl

/-- On a page of two the two vouchers are shown once, in whatever order they come. -/
theorem partitions_batch_of_two :
    Partitions voucherEngine instantOrder offlineVoucherRepository (some 1) (firstPage 2)
      sampleBatch (voucherStatement.matching sampleBatch) := by
  refine (partitions_iff instantOrder (listStatement_vouchers 2) (by decide) (by decide)
    voucherStatement_nodup (by rw [voucherStatement_matching]; decide)).mpr fun row hrow => ?_
  obtain ⟨hbelow, hupTo⟩ := tied_vouchers row hrow
  rw [hbelow, hupTo]
  decide

/-- On pages of one a voucher may be shown twice and the other never. -/
theorem not_partitions_pages_of_one :
    ¬Partitions voucherEngine instantOrder offlineVoucherRepository (some 1) (firstPage 1)
      sampleBatch (voucherStatement.matching sampleBatch) := by
  intro hpartitions
  have hseparated := separated_of_partitions (listStatement_vouchers 1) (by decide) (by decide)
    voucherStatement_nodup (by rw [voucherStatement_matching]; decide) hpartitions
  have hrow : sampleVoucher 0 ∈ voucherStatement.matching sampleBatch := by
    rw [voucherStatement_matching]
    simp
  have heq := hseparated _ hrow
  obtain ⟨hbelow, hupTo⟩ := tied_vouchers _ hrow
  rw [hbelow, hupTo] at heq
  exact absurd heq (by decide)

end InfinityRadius.Repositories
