import InfinityRadius.Alembic.PolicyRules
import InfinityRadius.Core.Security

/-!
# Promotion

Who can become a super admin: in a run of clients' statements nobody does to whom no
statement assigns the role, and the policies of `profile_roles` let a member of a tenant
assign it.
-/

namespace InfinityRadius.Alembic

open RowSecurity Security

variable {uid : ℕ} {users : Set ℕ} {db snapshot current : PublicDb}
  {change : Change PublicTable String Value}

theorem not_clears {reached : PublicTable → Prop} {table : PublicTable} {column : String}
    (h : ∀ key ∈ foreignKeys, key.child = table → key.onDelete ≠ .setNull) :
    ¬ Clears publicSchema reached table column := by
  rintro ⟨key, hkey, hchild, -, hnull, -⟩
  exact h key hkey hchild hnull

/-- A row of a table whose columns no deletion clears was stored or was there before. -/
theorem mem_perform_of_kept {table : PublicTable} {row : Cells}
    (h : ∀ key ∈ foreignKeys, key.child = table → key.onDelete ≠ .setNull)
    (hrow : row ∈ perform publicSchema uid snapshot change current table) :
    (change.table = table ∧ row ∈ stored publicSchema uid snapshot change (current table)) ∨
      row ∈ current table := by
  rcases mem_perform hrow with hstored | ⟨old, hold, heq⟩
  · exact .inl hstored
  · have hsame : row = old := by
      funext column
      exact heq column (not_clears h)
    exact .inr (hsame ▸ hold)

theorem profileRoles_kept :
    ∀ key ∈ foreignKeys, key.child = .profileRoles → key.onDelete ≠ .setNull := by
  decide

/-- The change assigns none of the users the role of a super admin. -/
def NotPromoting (users : Set ℕ) (uid : ℕ) (snapshot : PublicDb)
    (change : Change PublicTable String Value) (current : PublicDb) : Prop :=
  change.table = .profileRoles →
    ∀ row ∈ stored publicSchema uid snapshot change (current .profileRoles), ∀ member ∈ users,
      row "profile_id" = some (.uuid member) → superAdminRole current row = false

theorem isSuperAdmin_perform (hadmitted : admitted publicSchema uid snapshot change current)
    (hnot : NotPromoting users uid snapshot change current)
    (h : ∀ member ∈ users, isSuperAdmin member current = false) :
    ∀ member ∈ users,
      isSuperAdmin member (perform publicSchema uid snapshot change current) = false := by
  intro member hmember
  rw [Bool.eq_false_iff]
  intro hadmin
  obtain ⟨pr, hpr, hprofile, hrole⟩ := isSuperAdmin_iff.1 hadmin
  rw [superAdminRole, perform_roles hadmitted] at hrole
  rcases mem_perform_of_kept profileRoles_kept hpr with ⟨htable, hstored⟩ | hold
  · have hnone := hnot htable pr hstored member hmember hprofile
    rw [superAdminRole, hrole] at hnone
    cases hnone
  · have hbefore := isSuperAdmin_iff.2 ⟨pr, hold, hprofile, hrole⟩
    rw [h member hmember] at hbefore
    cases hbefore

/-- No accepted statement of a run assigns one of the users the role. -/
def NeverAssigned (users : Set ℕ) (requests : List (Request ℕ PublicTable String Value))
    (db : PublicDb) : Prop :=
  Runs.All (execute publicSchema) (fun request db => Accepted publicSchema request db →
    EachChange publicSchema (NotPromoting users request.user db) request db) requests db

/-- Neither the policies nor the API take any of the users for a super admin. -/
def NoneSuperAdmin (users : Set ℕ) (db : PublicDb) : Prop :=
  ∀ uid ∈ users, isSuperAdmin uid db = false ∧
    ∀ (Token : Type) (decodeToken : Token → Option Claims) (credentials : Option Token)
      (user : AuthenticatedUser), getCurrentUser decodeToken credentials db = .ok user →
        user.id = uid → Value.text "SUPER_ADMIN" ∉ user.roles

theorem noneSuperAdmin_iff :
    NoneSuperAdmin users db ↔ ∀ uid ∈ users, isSuperAdmin uid db = false := by
  constructor
  · exact fun h uid huid => (h uid huid).1
  · intro h uid huid
    refine ⟨h uid huid, ?_⟩
    rintro Token decodeToken credentials user huser rfl
    rw [roles_of_getCurrentUser huser, superAdmin_mem_roleCodes, h user.id huid]
    decide

/-- No user becomes a super admin in a run of statements none of which assigns it the
role. -/
theorem noneSuperAdmin_of_run {requests : List (Request ℕ PublicTable String Value)}
    (hnever : NeverAssigned users requests db)
    (hnone : ∀ uid ∈ users, isSuperAdmin uid db = false) :
    NoneSuperAdmin users (Runs.run (execute publicSchema) requests db) := by
  rw [noneSuperAdmin_iff]
  apply Runs.run_invariant (fun db => ∀ uid ∈ users, isSuperAdmin uid db = false) _ hnever hnone
  intro request db hcondition hdb
  exact execute_invariant _ (fun _ _ => isSuperAdmin_perform) hcondition hdb

/-! ## A member that promotes itself -/

/-- A tenant with one member, who has no role. -/
def memberDb : PublicDb
  | .tenants => [cells [("id", .uuid 10), ("status", .text "ACTIVE")]]
  | .profiles => [cells [("id", .uuid 1), ("tenant_id", .uuid 10)]]
  | .roles => [cells [("id", .uuid 7), ("code", .text "SUPER_ADMIN")],
      cells [("id", .uuid 8), ("code", .text "CASHIER")]]
  | _ => []

/-- The member inserts a row that assigns it the role, tagged with its own tenant. -/
def assignRole (role : ℕ) : Request ℕ PublicTable String Value where
  user := 1
  statement := {
    reads := fun _ _ => false
    changes := fun _ => [.insert .profileRoles false [cells [("id", .uuid 30),
      ("profile_id", .uuid 1), ("role_id", .uuid role), ("tenant_id", .uuid 10)]]] }
  refused := false

/-- The policy of `INSERT` looks only at the tag of the row. -/
theorem not_noneSuperAdmin_assigned :
    (∀ uid ∈ ({1} : Set ℕ), isSuperAdmin uid memberDb = false) ∧
      ¬ NoneSuperAdmin {1} (Runs.run (execute publicSchema) [assignRole 7] memberDb) := by
  constructor
  · rintro uid rfl
    decide
  · intro hnone
    have hadmin : isSuperAdmin 1 (Runs.run (execute publicSchema) [assignRole 7] memberDb) := by
      decide
    rw [(hnone 1 rfl).1] at hadmin
    cases hadmin

theorem noneSuperAdmin_cashier :
    NoneSuperAdmin {1} (Runs.run (execute publicSchema) [assignRole 8] memberDb) := by
  apply noneSuperAdmin_of_run
  · refine ⟨fun _ => ⟨?_, trivial⟩, trivial⟩
    rintro _ row hrow member - -
    obtain rfl := List.mem_singleton.1 hrow
    decide
  · rintro uid rfl
    decide

end InfinityRadius.Alembic
