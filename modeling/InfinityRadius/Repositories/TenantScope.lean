import InfinityRadius.Repositories.Entities
import InfinityRadius.Services.Payouts

/-!
# Reads of one tenant

A statement that starts from a tenant's base query matches rows of that tenant only,
whatever the request adds to it.  Two databases that agree on the tenant's rows then give
the same answers.
-/

namespace InfinityRadius.Repositories

open Amounts Payload Database Program Sql Models Services Integrations.SelcomBusiness

/-! ## Rows of a tenant -/

def ofTenant (tenantId : ℕ) (row : Row) : Prop := row "tenant_id" = .uuid tenantId

instance (tenantId : ℕ) : DecidablePred (ofTenant tenantId) :=
  fun row => inferInstanceAs (Decidable (row "tenant_id" = .uuid tenantId))

/-- The databases have the same rows of the tenant. -/
def AgreeOn (tenantId : ℕ) (db db' : Database) : Prop :=
  ∀ table, (db table).filter (ofTenant tenantId) = (db' table).filter (ofTenant tenantId)

/-- The rows the statement matches belong to the tenant. -/
def Scoped (tenantId : ℕ) (stmt : Select) : Prop :=
  ∀ row, stmt.holds row = true → ofTenant tenantId row

variable {engine : Engine} {tenantId : ℕ} {db db' : Database} {stmt stmt' : Select}
  {repository : Repository}

theorem holds_filterBy (stmt : Select) (condition : Row → Bool) (row : Row) :
    (stmt.filterBy condition).holds row = (stmt.holds row && condition row) := by
  simp [Select.holds, Select.filterBy]

/-- A further condition keeps the scope. -/
theorem Scoped.filterBy (h : Scoped tenantId stmt) (condition : Row → Bool) :
    Scoped tenantId (stmt.filterBy condition) := fun row hrow => by
  rw [holds_filterBy, Bool.and_eq_true] at hrow
  exact h row hrow.1

theorem scoped_of_mem (h : (fun row => row "tenant_id" == .uuid tenantId) ∈ stmt.conditions) :
    Scoped tenantId stmt := fun _ hrow =>
  beq_iff_eq.mp (List.all_eq_true.mp hrow _ h)

theorem scoped_baseQuery (hscoped : repository.model.hasattr "tenant_id" = true) :
    Scoped tenantId (baseQuery repository (some tenantId)) := by
  apply scoped_of_mem
  simp [baseQuery, hscoped, Select.filterBy]

/-- A scoped statement matches the same rows of both. -/
theorem Scoped.matching (h : Scoped tenantId stmt) (hagree : AgreeOn tenantId db db') :
    stmt.matching db = stmt.matching db' := by
  have hrestrict : ∀ rows : Multiset Row, rows.filter (fun row => stmt.holds row = true) =
      (rows.filter (ofTenant tenantId)).filter fun row => stmt.holds row = true := fun rows => by
    rw [Multiset.filter_filter]
    exact Multiset.filter_congr fun row _ => ⟨fun hrow => ⟨hrow, h row hrow⟩, And.left⟩
  rw [Select.matching, hrestrict, hagree, ← hrestrict]
  rfl

theorem Scoped.execute (h : Scoped tenantId stmt) (hagree : AgreeOn tenantId db db') :
    stmt.execute engine db = stmt.execute engine db' := by
  rw [Select.execute, h.matching hagree]
  rfl

theorem Scoped.page (h : Scoped tenantId stmt) (hagree : AgreeOn tenantId db db')
    (offset limit : ℤ) : stmt.page engine offset limit db = stmt.page engine offset limit db' := by
  rw [Select.page, h.execute hagree]
  rfl

/-! ## What a request adds -/

theorem ok_of_bind {α β : Type} {x : Except QueryFailure α} {f : α → Except QueryFailure β} {b : β}
    (h : x >>= f = .ok b) : ∃ a, x = .ok a ∧ f a = .ok b := by
  cases x with
  | error e => cases h
  | ok a => exact ⟨a, rfl, h⟩

theorem Scoped.applySearch {search : Option String} (h : Scoped tenantId stmt)
    (hsearch : applySearch engine repository search stmt = .ok stmt') :
    Scoped tenantId stmt' := by
  unfold Repositories.applySearch at hsearch
  split at hsearch
  · obtain ⟨conditions, -, hfiltered⟩ := ok_of_bind hsearch
    cases hfiltered
    exact h.filterBy _
  · cases hsearch
    exact h

theorem Scoped.applyFilter {item : String × String} (h : Scoped tenantId stmt)
    (hfilter : applyFilter engine repository stmt item = .ok stmt') : Scoped tenantId stmt' := by
  unfold Repositories.applyFilter at hfilter
  split at hfilter
  · split at hfilter
    · obtain ⟨value, -, hfiltered⟩ := ok_of_bind hfilter
      cases hfiltered
      exact h.filterBy _
    · cases hfilter
      exact h
  · cases hfilter
    exact h

theorem Scoped.applyFilters {filters : List (String × String)} (h : Scoped tenantId stmt)
    (hfilters : filters.foldlM (Repositories.applyFilter engine repository) stmt = .ok stmt') :
    Scoped tenantId stmt' := by
  induction filters generalizing stmt with
  | nil =>
    cases hfilters
    exact h
  | cons item filters ih =>
    rw [List.foldlM_cons] at hfilters
    obtain ⟨next, hfilter, hrest⟩ := ok_of_bind hfilters
    exact ih (h.applyFilter hfilter) hrest

/-- The order is no condition. -/
theorem Scoped.applySort (h : Scoped tenantId stmt) (sort : Option String) :
    Scoped tenantId (applySort repository sort stmt) := by
  have hconditions : (Repositories.applySort repository sort stmt).conditions = stmt.conditions := by
    simp only [Repositories.applySort, apply_ite Select.conditions, ite_self]
  intro row hrow
  rw [Select.holds, hconditions] at hrow
  exact h row hrow

/-! ## Two runs -/

/-- Two programs that go on alike from what the first part returns. -/
theorem bind_congr_ok {α β : Type} {x : Except QueryFailure α} {f g : α → Except QueryFailure β}
    (h : ∀ a, x = .ok a → f a = g a) : x >>= f = x >>= g := by
  cases x with
  | error e => rfl
  | ok a => exact h a rfl

theorem scoped_selectById (hscoped : repository.model.hasattr "tenant_id" = true) (id : ℕ) :
    Scoped tenantId (selectById repository (some tenantId) id) :=
  (scoped_baseQuery hscoped).filterBy _

theorem listPaginated_congr (hscoped : repository.model.hasattr "tenant_id" = true)
    (hagree : AgreeOn tenantId db db') (params : ListParams) :
    listPaginated engine repository (some tenantId) params db =
      listPaginated engine repository (some tenantId) params db' := by
  refine bind_congr_ok fun searched hsearch => bind_congr_ok fun filtered hfilter => ?_
  have hsearched := (scoped_baseQuery hscoped).applySearch hsearch
  have hfiltered := hsearched.applyFilters hfilter
  simp only [hfiltered.matching hagree, (hfiltered.applySort params.sort).page hagree]

/-- The reads of a tenant answer the same over both databases. -/
structure SameReads (engine : Engine) (tenantId : ℕ) (db db' : Database) : Prop where
  getById : ∀ repository : Repository, repository.model.hasattr "tenant_id" = true → ∀ id,
    getById engine repository (some tenantId) id db =
      getById engine repository (some tenantId) id db'
  getByIdForUpdate : ∀ repository : Repository, repository.model.hasattr "tenant_id" = true →
    ∀ id, getByIdForUpdate engine repository (some tenantId) id db =
      getByIdForUpdate engine repository (some tenantId) id db'
  listPaginated : ∀ repository : Repository, repository.model.hasattr "tenant_id" = true →
    ∀ params, listPaginated engine repository (some tenantId) params db =
      listPaginated engine repository (some tenantId) params db'
  listByTypePaginated : ∀ transactionType params,
    listByTypePaginated engine tenantId transactionType params db =
      listByTypePaginated engine tenantId transactionType params db'
  countByStatus : ∀ transactionType,
    countByStatus tenantId transactionType db = countByStatus tenantId transactionType db'
  dailyTotals : ∀ since, dailyTotals tenantId since db = dailyTotals tenantId since db'

/-- No read of a tenant depends on the rows of others. -/
theorem sameReads_of_agreeOn (engine : Engine) (hagree : AgreeOn tenantId db db') :
    SameReads engine tenantId db db' where
  getById repository hscoped id := by
    rw [getById, (scoped_selectById hscoped id).execute hagree]
    rfl
  getByIdForUpdate repository hscoped id := by
    rw [getByIdForUpdate, (scoped_selectById hscoped id).execute hagree]
    rfl
  listPaginated repository hscoped params := listPaginated_congr hscoped hagree params
  listByTypePaginated transactionType params := listPaginated_congr (by decide) hagree _
  countByStatus transactionType := by
    unfold countByStatus
    split
    · have hcounted : Scoped tenantId (statusCounts tenantId transactionType) :=
        scoped_of_mem List.mem_cons_self
      simp only [hcounted.matching hagree]
    · rfl
  dailyTotals since := by
    unfold dailyTotals
    have hcounted : Scoped tenantId (countedTowardsLimit tenantId since) :=
      scoped_of_mem List.mem_cons_self
    simp only [hcounted.matching hagree]

/-! ## The typed rows of the flows -/

/-- A withdrawal, by the columns its repository names. -/
def withdrawalRow (w : Withdrawal) : Row
  | "id" => .uuid w.id
  | "tenant_id" => .uuid w.tenantId
  | "wallet_id" => .uuid w.walletId
  | "destination_id" => .uuid w.destinationId
  | "amount" => .numeric w.amount
  | "status" => .text w.status.value
  | "created_at" => .timestamp w.createdAt
  | _ => .null

theorem holds_withdrawalRow (since : ℤ) (w : Withdrawal) :
    (countedTowardsLimit tenantId since).holds (withdrawalRow w) =
      (w.tenantId == tenantId && decide (since ≤ w.createdAt) &&
        !PayoutService.dailyLimitExcluded w.status) := by
  have hstatus : dailyLimitExcludedStatuses.contains w.status.value =
      PayoutService.dailyLimitExcluded w.status := by
    cases w.status <;> decide
  have htenant : (Value.uuid w.tenantId == Value.uuid tenantId) = (w.tenantId == tenantId) := by
    simp only [Bool.beq_eq_decide_eq, Value.uuid.injEq]
  simp only [Select.holds, countedTowardsLimit, List.all_cons, List.all_nil, withdrawalRow, hstatus,
    htenant, Bool.and_true, Bool.and_assoc]

/-- The daily totals of a payout are those of its table. -/
theorem run_dailyTotals (outside : Outside) (since : ℤ) (state : State schema Request HttpResult)
    (hrows : db "withdrawals" = ((state.db.rows .withdrawals).map withdrawalRow : List Row)) :
    run (exec outside) (PayoutService.dailyTotals tenantId since) state =
      (.ok (dailyTotals tenantId since db), state) := by
  have hmatching : (countedTowardsLimit tenantId since).matching db =
      (((state.db.rows .withdrawals).filter fun w => w.tenantId == tenantId &&
        decide (since ≤ w.createdAt) && !PayoutService.dailyLimitExcluded w.status).map
          withdrawalRow : List Row) := by
    change (db "withdrawals").filter _ = _
    rw [hrows, Multiset.filter_coe, List.filter_map]
    congr 3
    funext w
    simp only [Function.comp_apply, holds_withdrawalRow, Bool.decide_eq_true]
  have hamounts : amountOf ∘ withdrawalRow = Withdrawal.amount := rfl
  simp only [dailyTotals, hmatching, Multiset.map_coe, Multiset.sum_coe, Multiset.coe_card,
    List.map_map, hamounts, List.length_map]
  rfl

/-! ## A tenant beside another -/

/-- `LIKE` without regard to case. -/
def likeMatches : List Char → List Char → Bool
  | [], text => text.isEmpty
  | '%' :: pattern, text => text.tails.any fun rest => likeMatches pattern rest
  | '_' :: pattern, text => !text.isEmpty && likeMatches pattern text.tail
  | '\\' :: c :: pattern, text => text.head? == some c && likeMatches pattern text.tail
  | c :: pattern, text =>
    (text.head?.any fun d => d.toLower == c.toLower) && likeMatches pattern text.tail

/-- Rows in any order. -/
noncomputable def sampleEngine : Engine where
  uuid := String.toNat?
  ilike value pattern := likeMatches pattern.toList value.toList
  arrange _ rows := rows.toList
  arrange_coe _ rows := rows.coe_toList

def sampleWithdrawal (id tenantId : ℕ) : Row
  | "id" => .uuid id
  | "tenant_id" => .uuid tenantId
  | "amount" => .numeric 500000
  | "status" => .text "DRAFT"
  | "created_at" => .timestamp 0
  | _ => .null

def sampleDatabase (rows : List Row) : Database
  | "withdrawals" => rows
  | _ => 0

/-- The other tenant's withdrawal is in one of the databases only. -/
theorem sameReads_beside_another :
    SameReads sampleEngine 1 (sampleDatabase [sampleWithdrawal 0 1, sampleWithdrawal 1 2])
        (sampleDatabase [sampleWithdrawal 0 1]) ∧
      dailyTotals 1 0 (sampleDatabase [sampleWithdrawal 0 1, sampleWithdrawal 1 2]) =
        (5000, 1) := by
  refine ⟨sameReads_of_agreeOn sampleEngine fun table => ?_, ?_⟩
  · by_cases htable : table = "withdrawals"
    · subst htable
      rfl
    · rw [sampleDatabase, sampleDatabase]
      · exact htable
      · exact htable
  · decide +kernel

end InfinityRadius.Repositories
