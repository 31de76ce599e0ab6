import InfinityRadius.Alembic.Promotion

/-!
# Tenant isolation

A member of one tenant that runs statements one after another reaches no row of another
tenant, as long as it does not move its own profile, assign itself the role of a super
admin or use the tables without row level security.
-/

namespace InfinityRadius.Alembic

open RowSecurity

variable {uid tenant : ℕ} {db snapshot current : PublicDb}
  {change : Change PublicTable String Value} {request : Request ℕ PublicTable String Value}

/-- The tables on which no row level security is enabled. -/
def openTables : List PublicTable :=
  [.tenantCommercialTerms, .tenantSettlementConfig, .withdrawalEvents]

theorem policies_of_not_open {table : PublicTable} (h : table ∉ openTables) :
    ∃ rules, policies table = some rules := by
  cases table with
  | tenantCommercialTerms | tenantSettlementConfig | withdrawalEvents =>
    exact absurd (by decide) h
  | _ => exact ⟨_, rfl⟩

theorem profiles_kept :
    ∀ key ∈ foreignKeys, key.child = .profiles → key.onDelete ≠ .setNull := by
  decide

/-! ## A member of a tenant -/

/-- The user's profile is the tenant's, and so are its roles, none of them that of a super
admin. -/
structure BelongsTo (uid tenant : ℕ) (db : PublicDb) : Prop where
  profile : ∀ profile ∈ db .profiles, profile "id" = some (.uuid uid) →
    profile "tenant_id" = some (.uuid tenant)
  roles : ∀ pr ∈ db .profileRoles, pr "profile_id" = some (.uuid uid) →
    pr "tenant_id" = some (.uuid tenant)
  notSuperAdmin : isSuperAdmin uid db = false

theorem BelongsTo.currentTenantId (h : BelongsTo uid tenant db) {own : Value}
    (hown : currentTenantId uid db = some own) : own = .uuid tenant := by
  obtain ⟨profile, hfind, htenant⟩ := Option.bind_eq_some_iff.1 hown
  have hself := List.find?_some hfind
  rw [equal_some] at hself
  rw [h.profile profile (List.mem_of_find?_eq_some hfind) hself] at htenant
  exact (Option.some.inj htenant).symm

/-! ## One change -/

/-- A stored row of `profiles` does not give the user another tenant. -/
def KeepsTenant (uid tenant : ℕ) (snapshot : PublicDb)
    (change : Change PublicTable String Value) (current : PublicDb) : Prop :=
  change.table = .profiles →
    ∀ row ∈ stored publicSchema uid snapshot change (current .profiles),
      row "id" = some (.uuid uid) → row "tenant_id" = some (.uuid tenant)

/-- A change of a table without row level security works on no row of another tenant. -/
def AvoidsForeign (uid tenant : ℕ) (snapshot : PublicDb)
    (change : Change PublicTable String Value) (current : PublicDb) : Prop :=
  change.table ∈ openTables →
    ∀ row ∈ touched publicSchema uid snapshot change (current change.table),
      ¬ Foreign tenant change.table row

structure Confined (uid tenant : ℕ) (snapshot : PublicDb)
    (change : Change PublicTable String Value) (current : PublicDb) : Prop where
  keepsTenant : KeepsTenant uid tenant snapshot change current
  notPromoting : NotPromoting {uid} uid snapshot change current
  avoidsForeign : AvoidsForeign uid tenant snapshot change current

section Permitted

variable {table : PublicTable} {access : Access} {row : Cells}

/-- A row of the state that a policy lets the member through to is not foreign. -/
theorem BelongsTo.not_foreign (h : BelongsTo uid tenant snapshot)
    (hcurrent : BelongsTo uid tenant current) (htable : table ∉ openTables)
    (hrow : row ∈ current table)
    (hpermits : permits publicSchema uid snapshot access table row) :
    ¬ Foreign tenant table row := by
  obtain ⟨rules, hrules⟩ := policies_of_not_open htable
  have hown := own_of_permits h.notSuperAdmin (fun _ => h.currentTenantId) hrules hpermits
    (fun heq => hcurrent.profile row (heq ▸ hrow))
    fun heq _ => hcurrent.roles row (heq ▸ hrow)
  exact hown.elim not_foreign_of_reference Own.not_foreign

theorem permits_of_taken (h : taken publicSchema uid snapshot change row) :
    permits publicSchema uid snapshot .update change.table row ∨
      permits publicSchema uid snapshot .delete change.table row := by
  by_contra hnot
  rw [not_or] at hnot
  rw [not_taken hnot.1 hnot.2] at h
  cases h

theorem permits_of_stored (hadmitted : admitted publicSchema uid snapshot change current)
    (h : row ∈ stored publicSchema uid snapshot change (current change.table)) :
    ∃ access, access ≠ .select ∧ permits publicSchema uid snapshot access change.table row := by
  have hchecked := checked_of_admitted hadmitted h
  cases change with
  | insert => exact ⟨.insert, by decide, permits_of_permitsSeen hchecked⟩
  | update => exact ⟨.updated, by decide, permits_of_permitsSeen hchecked⟩
  | delete => exact absurd h List.not_mem_nil

theorem BelongsTo.own_of_stored (h : BelongsTo uid tenant snapshot)
    (hadmitted : admitted publicSchema uid snapshot change current)
    (hkeeps : KeepsTenant uid tenant snapshot change current) (htable : change.table ∉ openTables)
    (hrow : row ∈ stored publicSchema uid snapshot change (current change.table)) :
    change.table ∈ referenceTables ∨ Own tenant change.table row := by
  obtain ⟨access, haccess, hpermits⟩ := permits_of_stored hadmitted hrow
  obtain ⟨rules, hrules⟩ := policies_of_not_open htable
  apply own_of_permits h.notSuperAdmin (fun _ => h.currentTenantId) hrules hpermits
  · intro heq hself
    rw [heq] at hrow
    exact hkeeps heq row hrow hself
  · exact fun _ hselect => absurd hselect haccess

end Permitted

theorem BelongsTo.not_foreign_touched (h : BelongsTo uid tenant snapshot)
    (hcurrent : BelongsTo uid tenant current)
    (hadmitted : admitted publicSchema uid snapshot change current)
    (hconfined : Confined uid tenant snapshot change current) :
    ∀ row ∈ touched publicSchema uid snapshot change (current change.table),
      ¬ Foreign tenant change.table row := by
  intro row hrow
  by_cases hopen : change.table ∈ openTables
  · exact hconfined.avoidsForeign hopen row hrow
  rcases List.mem_append.1 hrow with htaken | hstored
  · obtain ⟨hmem, htaken⟩ := List.mem_filter.1 htaken
    rcases permits_of_taken htaken with hpermits | hpermits <;>
      exact h.not_foreign hcurrent hopen hmem hpermits
  · have hown := h.own_of_stored hadmitted hconfined.keepsTenant hopen hstored
    exact hown.elim not_foreign_of_reference Own.not_foreign

theorem BelongsTo.perform (h : BelongsTo uid tenant snapshot)
    (hcurrent : BelongsTo uid tenant current)
    (hadmitted : admitted publicSchema uid snapshot change current)
    (hconfined : Confined uid tenant snapshot change current) :
    BelongsTo uid tenant (perform publicSchema uid snapshot change current) where
  profile := by
    intro profile hprofile
    rcases mem_perform_of_kept profiles_kept hprofile with ⟨htable, hstored⟩ | hold
    · exact hconfined.keepsTenant htable profile hstored
    · exact hcurrent.profile profile hold
  roles := by
    intro pr hpr
    rcases mem_perform_of_kept profileRoles_kept hpr with ⟨htable, hstored⟩ | hold
    · rw [← htable] at hstored
      have hown := h.own_of_stored hadmitted hconfined.keepsTenant (by rw [htable]; decide) hstored
      rw [htable] at hown
      rcases hown with hreference | ⟨column, hcolumn, htag⟩
      · exact absurd hreference (by decide)
      · cases hcolumn
        exact fun _ => htag
    · exact hcurrent.roles pr hold
  notSuperAdmin := by
    have hnone : ∀ member ∈ ({uid} : Set ℕ), isSuperAdmin member current = false := by
      rintro member rfl
      exact hcurrent.notSuperAdmin
    exact isSuperAdmin_perform hadmitted hconfined.notPromoting hnone uid rfl

/-! ## Runs -/

/-- The statement reads no row of another tenant and works directly on none. -/
def Isolated (tenant : ℕ) (request : Request ℕ PublicTable String Value) (db : PublicDb) :
    Prop :=
  (∀ table, ∀ row ∈ rowsRead publicSchema request db table, ¬ Foreign tenant table row) ∧
    (Accepted publicSchema request db →
      EachChange publicSchema (fun change current =>
        ∀ row ∈ touched publicSchema request.user db change (current change.table),
          ¬ Foreign tenant change.table row) request db)

/-- The statement keeps away from the rows of other tenants where no policy hides them, and
if it is accepted it is confined. -/
def StaysConfined (tenant : ℕ) (request : Request ℕ PublicTable String Value) (db : PublicDb) :
    Prop :=
  (∀ table ∈ openTables, ∀ row ∈ rowsRead publicSchema request db table,
    ¬ Foreign tenant table row) ∧
    (Accepted publicSchema request db →
      EachChange publicSchema (Confined request.user tenant db) request db)

theorem BelongsTo.isolated (h : BelongsTo request.user tenant db)
    (hconfined : StaysConfined tenant request db) : Isolated tenant request db := by
  constructor
  · intro table row hrow
    by_cases hopen : table ∈ openTables
    · exact hconfined.1 table hopen row hrow
    · obtain ⟨hmem, hread⟩ := List.mem_filter.1 hrow
      rw [Bool.and_eq_true] at hread
      exact h.not_foreign h hopen hmem hread.1
  · intro haccepted
    apply Runs.All.of_invariant _ (haccepted.2.and (hconfined.2 haccepted)) h
    rintro change current ⟨hadmitted, hchange⟩ hcurrent
    exact ⟨h.not_foreign_touched hcurrent hadmitted hchange,
      h.perform hcurrent hadmitted hchange⟩

theorem BelongsTo.execute (h : BelongsTo request.user tenant db)
    (hconfined : StaysConfined tenant request db) :
    BelongsTo request.user tenant (execute publicSchema request db) :=
  execute_invariant (BelongsTo request.user tenant)
    (fun _ _ hadmitted hchange hcurrent => h.perform hcurrent hadmitted hchange) hconfined.2 h

/-- The statements are isolated one after another, and the user's profile stays the
tenant's. -/
def IsolatedRun (uid tenant : ℕ) (requests : List (Request ℕ PublicTable String Value))
    (db : PublicDb) : Prop :=
  Runs.All (RowSecurity.execute publicSchema) (Isolated tenant) requests db ∧
    ∀ profile ∈ Runs.run (RowSecurity.execute publicSchema) requests db .profiles,
      profile "id" = some (.uuid uid) → profile "tenant_id" = some (.uuid tenant)

/-- A member of a tenant that stays confined is isolated from the other tenants. -/
theorem isolated_of_run {requests : List (Request ℕ PublicTable String Value)}
    (hbelongs : BelongsTo uid tenant db) (husers : ∀ request ∈ requests, request.user = uid)
    (hconfined : Runs.All (RowSecurity.execute publicSchema) (StaysConfined tenant) requests db) :
    IsolatedRun uid tenant requests db := by
  have hown : Runs.All (RowSecurity.execute publicSchema)
      (fun request db => StaysConfined tenant request db ∧ request.user = uid) requests db :=
    hconfined.and (Runs.All.of_forall (fun request hrequest _ => husers request hrequest) db)
  constructor
  · apply Runs.All.of_invariant _ hown hbelongs
    rintro request db ⟨hrequest, rfl⟩ hdb
    exact ⟨hdb.isolated hrequest, hdb.execute hrequest⟩
  · apply BelongsTo.profile
    apply Runs.run_invariant (BelongsTo uid tenant) _ hown hbelongs
    rintro request db ⟨hrequest, rfl⟩ hdb
    exact hdb.execute hrequest

/-! ## A member that moves to another tenant -/

/-- Two tenants, a member of the first and a location of each. -/
def twoTenantsDb : PublicDb
  | .tenants => [cells [("id", .uuid 10)], cells [("id", .uuid 20)]]
  | .profiles => [cells [("id", .uuid 1), ("tenant_id", .uuid 10)]]
  | .locations => [cells [("id", .uuid 5), ("tenant_id", .uuid 10)],
      cells [("id", .uuid 6), ("tenant_id", .uuid 20)]]
  | _ => []

/-- `UPDATE profiles SET tenant_id = … WHERE id = auth.uid()`. -/
def moveTo (tenant : ℕ) : Request ℕ PublicTable String Value where
  user := 1
  statement := {
    reads := fun _ _ => false
    changes := fun _ => [.update .profiles true (fun row => equal (row "id") (some (.uuid 1)))
      fun row => Function.update row "tenant_id" (some (.uuid tenant))] }
  refused := false

/-- `SELECT * FROM locations`. -/
def selectLocations : Request ℕ PublicTable String Value where
  user := 1
  statement := { reads := fun table _ => table = .locations, changes := fun _ => [] }
  refused := false

theorem belongsTo_twoTenants : BelongsTo 1 10 twoTenantsDb where
  profile := by
    intro profile hprofile _
    obtain rfl := List.mem_singleton.1 hprofile
    decide
  roles := by
    intro pr hpr
    cases hpr
  notSuperAdmin := by decide

/-- The policies let the member write its own `tenant_id`, and then read the locations of
the other tenant. -/
theorem not_isolatedRun_moved :
    BelongsTo 1 10 twoTenantsDb ∧
      (∀ request ∈ [moveTo 20, selectLocations], request.user = 1) ∧
      ¬ Runs.All (execute publicSchema) (Isolated 10) [moveTo 20, selectLocations] twoTenantsDb ∧
      ¬ IsolatedRun 1 10 [moveTo 20, selectLocations] twoTenantsDb := by
  have hkept : execute publicSchema (moveTo 20) twoTenantsDb .locations =
      twoTenantsDb .locations := rfl
  have hread : cells [("id", .uuid 6), ("tenant_id", .uuid 20)] ∈
      rowsRead publicSchema selectLocations (execute publicSchema (moveTo 20) twoTenantsDb)
        .locations := by
    rw [rowsRead, hkept]
    apply List.mem_filter.2
    exact ⟨by simp [twoTenantsDb], by decide⟩
  have hforeign : Foreign 10 .locations (cells [("id", .uuid 6), ("tenant_id", .uuid 20)]) :=
    by decide
  have hnot : ¬ Runs.All (execute publicSchema) (Isolated 10) [moveTo 20, selectLocations]
      twoTenantsDb := by
    rintro ⟨_, hisolated, _⟩
    exact hisolated.1 .locations _ hread hforeign
  exact ⟨belongsTo_twoTenants, by decide, hnot, fun h => hnot h.1⟩

/-- Writing the tenant it has confines the member still. -/
theorem isolatedRun_stayed : IsolatedRun 1 10 [moveTo 10, selectLocations] twoTenantsDb := by
  apply isolated_of_run belongsTo_twoTenants (by decide)
  refine ⟨⟨by decide, fun _ => ⟨⟨?_, ?_, ?_⟩, trivial⟩⟩, ⟨by decide, fun _ => trivial⟩, trivial⟩
  · rw [KeepsTenant]
    decide
  · exact fun htable => by cases htable
  · exact fun hopen => absurd hopen (by decide)

end InfinityRadius.Alembic
