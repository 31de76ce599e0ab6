import InfinityRadius.Alembic.RlsPolicies

/-!
# What the policies let a client do

Which condition a policy puts on a row, and what that leaves a user who is no super admin.
-/

namespace InfinityRadius.Alembic

open RowSecurity

variable {uid : ℕ} {db snapshot current : PublicDb} {access : Access} {table : PublicTable}
  {row : Cells} {change : Change PublicTable String Value}

/-! ## Conditions -/

theorem ownTenantBy_iff {column : String} (hadmin : isSuperAdmin uid db = false) :
    ownTenantBy column uid db row = some true ↔
      ∃ tenant, row column = some tenant ∧ currentTenantId uid db = some tenant := by
  simp [ownTenantBy, hadmin]

theorem superAdmin_iff : superAdmin uid db row = some true ↔ isSuperAdmin uid db := by
  simp [superAdmin]

theorem ownOrTenant_iff {column : String} :
    ownOrTenant column uid db row = some true ↔
      row column = some (.uuid uid) ∨ ownTenant uid db row = some true := by
  simp [ownOrTenant]

/-- The five conditions that the policies put on a row. -/
inductive Guard (table : PublicTable) (access : Access) : RowCondition → Prop
  | reference : table ∈ referenceTables → access = .select →
      Guard table access fun _ _ _ => some true
  | superAdmin : table = .tenants → access = .insert ∨ access = .delete →
      Guard table access superAdmin
  | tenant (column : String) : tenantColumn table = some column →
      (table = .tenants → access ≠ .insert ∧ access ≠ .delete) →
      Guard table access (ownTenantBy column)
  | profile : table = .profiles → Guard table access (ownOrTenant "id")
  | role : table = .profileRoles → access = .select →
      Guard table access (ownOrTenant "profile_id")

theorem tenantColumn_eq (hreference : table ∉ referenceTables) (htenants : table ≠ .tenants) :
    tenantColumn table = some "tenant_id" := by
  cases table with
  | tenants => exact absurd rfl htenants
  | roles | permissions | rolePermissions => exact absurd (by decide) hreference
  | _ => rfl

theorem ownTenant_of_fullCrud {policy : RowPolicy} {condition : RowCondition}
    (hpolicy : policy ∈ fullCrudPolicies) (hcondition : policy.condition access = some condition) :
    condition = ownTenant := by
  simp only [fullCrudPolicies, noDeletePolicies, List.cons_append, List.nil_append,
    List.mem_cons, List.not_mem_nil, or_false] at hpolicy
  rcases hpolicy with rfl | rfl | rfl | rfl <;> cases access <;> cases hcondition <;> rfl

theorem guard_of_policy {rules : List RowPolicy} {policy : RowPolicy}
    {condition : RowCondition} (hrules : policies table = some rules) (hpolicy : policy ∈ rules)
    (hcondition : policy.condition access = some condition) : Guard table access condition := by
  rw [policies] at hrules
  split at hrules
  · next hreference =>
    cases hrules
    obtain rfl := List.mem_singleton.1 hpolicy
    cases access <;> cases hcondition
    exact .reference hreference rfl
  next hreference =>
  split at hrules
  · next htenants =>
    cases hrules
    have hcolumn : tenantColumn table = some "id" := by rw [htenants, tenantColumn]
    simp only [tenantsPolicies, List.mem_cons, List.not_mem_nil, or_false] at hpolicy
    rcases hpolicy with rfl | rfl | rfl | rfl <;> cases access <;> cases hcondition
    · exact .tenant "id" hcolumn fun _ => by decide
    · exact .superAdmin htenants (.inl rfl)
    · exact .tenant "id" hcolumn fun _ => by decide
    · exact .tenant "id" hcolumn fun _ => by decide
    · exact .superAdmin htenants (.inr rfl)
  next htenants =>
  have hcolumn := tenantColumn_eq hreference htenants
  split at hrules
  · next hprofiles =>
    cases hrules
    simp only [profilesPolicies, List.mem_cons, List.not_mem_nil, or_false] at hpolicy
    rcases hpolicy with rfl | rfl <;> cases access <;> cases hcondition <;>
      exact .profile hprofiles
  split at hrules
  · next hroles =>
    cases hrules
    simp only [profileRolesPolicies, List.mem_cons, List.not_mem_nil, or_false] at hpolicy
    rcases hpolicy with rfl | rfl | rfl | rfl <;> cases access <;> cases hcondition
    · exact .role hroles rfl
    all_goals exact .tenant "tenant_id" hcolumn fun heq => absurd heq htenants
  -- the other tables have the policies of the full-CRUD tables, or the first of them
  have hcrud : policy ∈ fullCrudPolicies := by
    split_ifs at hrules <;> cases hrules
    · exact hpolicy
    · exact List.mem_append_left _ hpolicy
    all_goals
      obtain rfl := List.mem_singleton.1 hpolicy
      exact List.mem_cons_self
  obtain rfl := ownTenant_of_fullCrud hcrud hcondition
  exact .tenant "tenant_id" hcolumn fun heq => absurd heq htenants

/-- Some policy's condition holds of a row that is let through. -/
theorem guard_of_permits {rules : List RowPolicy} (hrules : policies table = some rules)
    (h : permits publicSchema uid db access table row) :
    ∃ condition, Guard table access condition ∧ condition uid db row = some true := by
  obtain ⟨policy, hpolicy, condition, hcondition, hholds⟩ := (permits_iff hrules).1 h
  exact ⟨condition, guard_of_policy hrules hpolicy hcondition, hholds⟩

/-! ## Rows of a tenant -/

/-- The row is the tenant's own. -/
def Own (tenant : ℕ) (table : PublicTable) (row : Cells) : Prop :=
  ∃ column, tenantColumn table = some column ∧ row column = some (.uuid tenant)

theorem Own.not_foreign {tenant : ℕ} (h : Own tenant table row) : ¬ Foreign tenant table row := by
  obtain ⟨column, hcolumn, hrow⟩ := h
  rintro ⟨owner, howner, hne⟩
  rw [hcolumn, Option.bind_some, hrow] at howner
  exact hne (Option.some.inj howner).symm

theorem not_foreign_of_reference {tenant : ℕ} (h : table ∈ referenceTables) :
    ¬ Foreign tenant table row := by
  rintro ⟨owner, howner, -⟩
  simp only [referenceTables, List.mem_cons, List.not_mem_nil, or_false] at h
  rcases h with rfl | rfl | rfl <;> cases howner

/-- A row let through to a member of a tenant is the tenant's, if the rows that only name
the member are. -/
theorem own_of_permits {tenant : ℕ} {rules : List RowPolicy}
    (hadmin : isSuperAdmin uid db = false)
    (htenant : ∀ own, currentTenantId uid db = some own → own = .uuid tenant)
    (hrules : policies table = some rules) (h : permits publicSchema uid db access table row)
    (hprofile : table = .profiles → row "id" = some (.uuid uid) →
      row "tenant_id" = some (.uuid tenant))
    (hrole : table = .profileRoles → access = .select → row "profile_id" = some (.uuid uid) →
      row "tenant_id" = some (.uuid tenant)) :
    table ∈ referenceTables ∨ Own tenant table row := by
  have hscoped (column : String) (hcolumn : tenantColumn table = some column)
      (hholds : ownTenantBy column uid db row = some true) : Own tenant table row := by
    obtain ⟨own, hrow, hown⟩ := (ownTenantBy_iff hadmin).1 hholds
    rw [htenant own hown] at hrow
    exact ⟨column, hcolumn, hrow⟩
  obtain ⟨condition, hguard, hholds⟩ := guard_of_permits hrules h
  cases hguard with
  | reference hreference _ => exact .inl hreference
  | superAdmin _ _ => exact absurd (superAdmin_iff.1 hholds) (by rw [hadmin]; decide)
  | tenant column hcolumn _ => exact .inr (hscoped column hcolumn hholds)
  | profile htable =>
    subst htable
    rcases ownOrTenant_iff.1 hholds with hself | hown
    · exact .inr ⟨"tenant_id", rfl, hprofile rfl hself⟩
    · exact .inr (hscoped "tenant_id" rfl hown)
  | role htable hselect =>
    subst htable
    rcases ownOrTenant_iff.1 hholds with hself | hown
    · exact .inr ⟨"tenant_id", rfl, hrole rfl hselect hself⟩
    · exact .inr (hscoped "tenant_id" rfl hown)

/-! ## Super admins -/

/-- The role that a row of `profile_roles` assigns is that of a super admin. -/
def superAdminRole (db : PublicDb) (pr : Cells) : Bool :=
  (db .roles).any fun r =>
    equal (r "id") (pr "role_id") && equal (r "code") (some (.text "SUPER_ADMIN"))

theorem isSuperAdmin_iff : isSuperAdmin uid db ↔
    ∃ pr ∈ db .profileRoles, pr "profile_id" = some (.uuid uid) ∧ superAdminRole db pr := by
  simp only [isSuperAdmin, superAdminRole, List.any_eq_true, Bool.and_eq_true, equal_some]
  constructor
  · rintro ⟨pr, hpr, r, hr, ⟨hrole, hprofile⟩, hcode⟩
    exact ⟨pr, hpr, hprofile, r, hr, hrole, hcode⟩
  · rintro ⟨pr, hpr, hprofile, r, hr, hrole, hcode⟩
    exact ⟨pr, hpr, r, hr, ⟨hrole, hprofile⟩, hcode⟩

/-- No client changes the table of roles. -/
theorem perform_roles (h : admitted publicSchema uid snapshot change current) :
    perform publicSchema uid snapshot change current .roles = current .roles := by
  have hclosed : Closed publicSchema (· ≠ .roles) := by
    intro key hkey _ _
    revert key
    decide
  have hread (access : Access) (haccess : access ≠ .select) (row : Cells) :
      ¬ permits publicSchema uid snapshot access .roles row := by
    intro hpermits
    have hcovers := covers_of_permits hpermits
    cases access <;> first | exact haccess rfl | cases hcovers
  rw [← List.map_id (current .roles), ← List.map_id (perform _ _ _ _ _ _)]
  cases change with
  | insert table reading rows =>
    apply map_perform_insert
    rintro rfl
    rw [List.eq_nil_iff_forall_not_mem]
    intro row hrow
    exact hread .insert (by decide) row (permits_of_permitsSeen (checked_of_admitted h hrow))
  | update table reading picked assign =>
    apply map_perform_update
    rintro rfl row _ htaken
    rw [not_taken (hread .update (by decide) row) (hread .delete (by decide) row)] at htaken
    cases htaken
  | delete table reading picked =>
    apply map_perform_delete hclosed _ (fun h => h rfl)
    · intro row row' hrows
      funext column
      apply hrows
      rintro ⟨key, hkey, hchild, -⟩
      revert key
      decide
    · rintro row _ htaken rfl
      rw [not_taken (hread .update (by decide) row) (hread .delete (by decide) row)] at htaken
      cases htaken

end InfinityRadius.Alembic
