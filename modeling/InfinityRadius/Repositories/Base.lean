import InfinityRadius.Core.Payload
import Mathlib.Data.Multiset.Filter

/-!
# The generic repository

`repositories/base.py` and `core/pagination.py`: a statement is assembled from a base query
and the parts of a list request, and its columns are found by name.  The flows read the
same tables through typed rows.
-/

namespace InfinityRadius.Repositories

open Payload

/-! ## Mapped classes -/

inductive ColumnType
  | uuid | text | boolean | integer | numeric | timestamp
deriving DecidableEq

/-- What a column holds: amounts in hundredths, times in microseconds. -/
inductive Value
  | null
  | uuid (value : ℕ)
  | text (value : String)
  | boolean (value : Bool)
  | integer (value : ℤ)
  | numeric (value : ℤ)
  | timestamp (value : ℤ)
deriving DecidableEq

/-- A mapped class, with the attributes its repository names. -/
structure Model where
  tablename : String
  columns : List (String × ColumnType)

/-- `getattr(model, name)`. -/
def Model.getattr (model : Model) (name : String) : Option ColumnType :=
  model.columns.lookup name

def Model.hasattr (model : Model) (name : String) : Bool := (model.getattr name).isSome

/-- A row, by the names of its columns. -/
abbrev Row := String → Value

/-- The rows of each table. -/
abbrev Database := String → Multiset Row

/-! ## Statements -/

inductive QueryFailure
  | attributeError | database | multipleResultsFound
deriving DecidableEq

/-- What PostgreSQL and its driver decide: the UUID a text spells, `ILIKE` of a value and
a pattern, and the order in which the rows that match are returned. -/
structure Engine where
  uuid : String → Option ℕ
  ilike : String → String → Bool
  arrange : Option (String × Bool) → Multiset Row → List Row
  arrange_coe : ∀ order rows, (arrange order rows : Multiset Row) = rows

/-- A `SELECT`: the conditions of its `WHERE`, and the column it is ordered by, with
whether the order is descending. -/
structure Select where
  model : Model
  conditions : List (Row → Bool) := []
  orderBy : Option (String × Bool) := none

/-- `stmt.where(condition)`. -/
def Select.filterBy (stmt : Select) (condition : Row → Bool) : Select :=
  { stmt with conditions := stmt.conditions ++ [condition] }

def Select.holds (stmt : Select) (row : Row) : Bool :=
  stmt.conditions.all fun condition => condition row

/-- The rows that match. -/
def Select.matching (stmt : Select) (db : Database) : Multiset Row :=
  (db stmt.model.tablename).filter fun row => stmt.holds row = true

def Select.execute (engine : Engine) (stmt : Select) (db : Database) : List Row :=
  engine.arrange stmt.orderBy (stmt.matching db)

/-- `OFFSET` and `LIMIT` take a `bigint` that is not negative. -/
def Select.page (engine : Engine) (stmt : Select) (offset limit : ℤ) (db : Database) :
    Except QueryFailure (List Row) :=
  if 0 ≤ offset ∧ offset < 2 ^ 63 ∧ 0 ≤ limit ∧ limit < 2 ^ 63 then
    .ok (((stmt.execute engine db).drop offset.toNat).take limit.toNat)
  else .error .database

/-- `scalar_one_or_none`. -/
def scalarOneOrNone : List Row → Except QueryFailure (Option Row)
  | [] => .ok none
  | [row] => .ok (some row)
  | _ => .error .multipleResultsFound

/-! ## List requests -/

structure ListParams where
  page : ℤ
  pageSize : ℤ
  search : Option String
  sort : Option String
  /-- The items of a dictionary. -/
  filters : List (String × String)

def ListParams.offset (params : ListParams) : ℤ := (params.page - 1) * params.pageSize

/-- `items[key] = value`. -/
def setItem (items : List (String × String)) (key value : String) : List (String × String) :=
  if items.any fun item => item.1 == key then
    items.map fun item => if item.1 == key then (key, value) else item
  else items ++ [(key, value)]

def reservedQueryKeys : List String := ["page", "page_size", "search", "sort"]

/-- The parameters of a list request, refused where a page is out of its bounds. -/
def listParams (queryParams : List (String × String)) (page pageSize : ℤ)
    (search sort : Option String) : Option ListParams :=
  if 1 ≤ page ∧ 1 ≤ pageSize ∧ pageSize ≤ 100 then
    let items := queryParams.foldl (fun items item => setItem items item.1 item.2) []
    some {
      page, pageSize, search, sort,
      filters := items.filter fun item => !reservedQueryKeys.contains item.1 }
  else none

/-- What a list request is accepted with. -/
theorem listParams_bounds {queryParams : List (String × String)} {page pageSize : ℤ}
    {search sort : Option String} {params : ListParams}
    (h : listParams queryParams page pageSize search sort = some params) :
    0 ≤ params.offset ∧ 1 ≤ params.pageSize ∧ params.pageSize ≤ 100 ∧
      ∀ item ∈ params.filters, item.1 ∉ reservedQueryKeys := by
  unfold listParams at h
  split at h
  · rename_i hbounds
    obtain ⟨hpage, hleast, hmost⟩ := hbounds
    cases h
    refine ⟨mul_nonneg (by linarith) (by linarith), hleast, hmost, fun item hitem => ?_⟩
    simpa using (List.mem_filter.mp hitem).2
  · cases h

/-! ## Repositories -/

/-- `BaseRepository`, as its subclasses declare it. -/
structure Repository where
  model : Model
  searchFields : List String := []
  filterableFields : List String := []
  sortableFields : List String := ["created_at"]
  defaultSort : String := "-created_at"

variable (engine : Engine)

/-- `_base_query`. -/
def baseQuery (repository : Repository) (tenantId : Option ℕ) : Select :=
  let stmt : Select := { model := repository.model }
  match tenantId with
  | some tenant =>
    if repository.model.hasattr "tenant_id" then
      stmt.filterBy fun row => row "tenant_id" == .uuid tenant
    else stmt
  | none => stmt

/-- The statement of `get_by_id`, which `FOR UPDATE` does not change the rows of. -/
def selectById (repository : Repository) (tenantId : Option ℕ) (id : ℕ) : Select :=
  (baseQuery repository tenantId).filterBy fun row => row "id" == .uuid id

def getById (repository : Repository) (tenantId : Option ℕ) (id : ℕ) (db : Database) :
    Except QueryFailure (Option Row) :=
  scalarOneOrNone ((selectById repository tenantId id).execute engine db)

def getByIdForUpdate (repository : Repository) (tenantId : Option ℕ) (id : ℕ) (db : Database) :
    Except QueryFailure (Option Row) :=
  scalarOneOrNone ((selectById repository tenantId id).execute engine db)

/-- A text as the driver sends it to be compared with a column: PostgreSQL compares none
of the other types with a text. -/
def bindText (type : ColumnType) (value : String) : Except QueryFailure Value :=
  match type with
  | .text => if storable value then .ok (.text value) else .error .database
  | .uuid =>
    match engine.uuid value with
    | some id => .ok (.uuid id)
    | none => .error .database
  | _ => .error .database

/-- `getattr(model, field).ilike(pattern)`. -/
def ilikeCondition (model : Model) (pattern field : String) : Except QueryFailure (Row → Bool) :=
  match model.getattr field with
  | none => .error .attributeError
  | some .text =>
    if storable pattern then
      .ok fun row =>
        match row field with
        | .text value => engine.ilike value pattern
        | _ => false
    else .error .database
  | some _ => .error .database

/-- The search: any of the fields contains the text. -/
def applySearch (repository : Repository) (search : Option String) (stmt : Select) :
    Except QueryFailure Select := do
  if given search && !repository.searchFields.isEmpty then
    let pattern := "%" ++ search.getD "" ++ "%"
    let conditions ← repository.searchFields.mapM (ilikeCondition engine repository.model pattern)
    pure (stmt.filterBy fun row => conditions.any fun condition => condition row)
  else pure stmt

/-- One filter of the request, passed over where the repository does not allow it. -/
def applyFilter (repository : Repository) (stmt : Select) (item : String × String) :
    Except QueryFailure Select :=
  if repository.filterableFields.contains item.1 then
    match repository.model.getattr item.1 with
    | some type => do
      let value ← bindText engine type item.2
      pure (stmt.filterBy fun row => row item.1 == value)
    | none => pure stmt
  else pure stmt

/-- `sort_spec.removeprefix("-")`, and whether there was one. -/
def sortColumn (sortSpec : String) : String × Bool :=
  match sortSpec.toList with
  | '-' :: column => (String.ofList column, true)
  | _ => (sortSpec, false)

def applySort (repository : Repository) (sort : Option String) (stmt : Select) : Select :=
  let sortSpec := if given sort then sort.getD "" else repository.defaultSort
  let order := sortColumn sortSpec
  if repository.sortableFields.contains order.1 && repository.model.hasattr order.1 then
    { stmt with orderBy := some order }
  else stmt

/-- `list_paginated`: a page of the rows that match, and how many match. -/
def listPaginated (repository : Repository) (tenantId : Option ℕ) (params : ListParams)
    (db : Database) : Except QueryFailure (List Row × ℕ) := do
  let stmt ← applySearch engine repository params.search (baseQuery repository tenantId)
  let stmt ← params.filters.foldlM (applyFilter engine repository) stmt
  let total := (stmt.matching db).card
  let stmt := applySort repository params.sort stmt
  let rows ← stmt.page engine params.offset params.pageSize db
  pure (rows, total)

end InfinityRadius.Repositories
