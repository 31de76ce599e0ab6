import InfinityRadius.Core.Security

/-!
# Roles and the tenant they count in

The dependencies of `core/security.py` and `core/context.py` that admit a caller by a role.  The
tenant comes from the profile and the roles from all the assignments of the user.
-/

namespace InfinityRadius.Security

open Alembic RowSecurity

variable {Token : Type}

def AuthenticatedUser.hasRole (user : AuthenticatedUser) (allowed : List String) : Bool :=
  allowed.any fun code => user.roles.contains (.text code)

structure TenantContext where
  tenantId : Value
  user : AuthenticatedUser

section Dependencies

variable (decodeToken : Token → Option Claims) (credentials : Option Token) (db : PublicDb)

def requireRole (allowedRoles : List String) : Except AuthError AuthenticatedUser := do
  let user ← getCurrentUser decodeToken credentials db
  if !user.hasRole allowedRoles then throw (.http 403 "Insufficient permissions")
  return user

def getTenantContext : Except AuthError TenantContext := do
  let user ← getCurrentUser decodeToken credentials db
  let some tenantId := user.tenantId
    | throw (.http 403 "This account is not scoped to a tenant")
  if user.tenantStatus ≠ some (.text "ACTIVE") then
    throw (.http 403 ("Tenant account is not active (status: " ++
      (textOf user.tenantStatus).getD "None" ++ ")"))
  return { tenantId, user }

def requireTenantRole (allowedRoles : List String) : Except AuthError TenantContext := do
  let ctx ← getTenantContext decodeToken credentials db
  if !ctx.user.hasRole allowedRoles then throw (.http 403 "Insufficient permissions")
  return ctx

end Dependencies

/-! ## Assignments -/

/-- The user is assigned the role of that code, in that tenant or platform-wide. -/
def Assigned (db : PublicDb) (userId : ℕ) (code : String) (tenantId : Option Value) : Prop :=
  ∃ pr ∈ db .profileRoles, ∃ r ∈ db .roles, equal (r "id") (pr "role_id") ∧
    equal (pr "profile_id") (some (.uuid userId)) ∧ r "code" = some (.text code) ∧
      pr "tenant_id" = tenantId

variable {decodeToken : Token → Option Claims} {credentials : Option Token} {db : PublicDb}
  {userId : ℕ} {user : AuthenticatedUser} {allowedRoles : List String} {ctx : TenantContext}

theorem mem_roleCodes_iff_assigned {code : String} :
    Value.text code ∈ roleCodes userId db ↔ ∃ tenantId, Assigned db userId code tenantId := by
  rw [mem_roleCodes]
  constructor
  · rintro ⟨pr, hpr, r, hr, hrole, hprofile, hcode⟩
    exact ⟨pr "tenant_id", pr, hpr, r, hr, hrole, hprofile, hcode, rfl⟩
  · rintro ⟨tenantId, pr, hpr, r, hr, hrole, hprofile, hcode, -⟩
    exact ⟨pr, hpr, r, hr, hrole, hprofile, hcode⟩

/-- A caller is its profile. -/
theorem getCurrentUser_ok {token : Token} {claims : Claims}
    (htoken : decodeToken token = some claims) (huser : claims.sub = some userId)
    (h : getCurrentUser decodeToken (some token) db = .ok user) :
    user.id = userId ∧ ∃ profile, findById db .profiles (some (.uuid userId)) = some profile ∧
      user.tenantId = profile "tenant_id" ∧
      user.tenantStatus = (findById db .tenants (profile "tenant_id")).bind (· "status") := by
  cases hprofile : findById db .profiles (some (.uuid userId)) with
  | none => simp [getCurrentUser, htoken, huser, hprofile, throw, throwThe,
      MonadExceptOf.throw] at h
  | some profile =>
    simp only [getCurrentUser, htoken, huser, hprofile, pure, Except.pure, Except.ok.injEq] at h
    subst h
    exact ⟨rfl, profile, rfl, rfl, rfl⟩

theorem getCurrentUser_of_profile {token : Token} {claims : Claims} {profile : Cells}
    (htoken : decodeToken token = some claims) (huser : claims.sub = some userId)
    (hprofile : findById db .profiles (some (.uuid userId)) = some profile) :
    ∃ user, getCurrentUser decodeToken (some token) db = .ok user ∧ user.id = userId ∧
      user.tenantId = profile "tenant_id" ∧
      user.tenantStatus = (findById db .tenants (profile "tenant_id")).bind (· "status") := by
  simp only [getCurrentUser, htoken, huser, hprofile, pure, Except.pure, Except.ok.injEq]
  exact ⟨_, rfl, rfl, rfl, rfl⟩

theorem hasRole_iff (h : getCurrentUser decodeToken credentials db = .ok user) :
    user.hasRole allowedRoles ↔
      ∃ code ∈ allowedRoles, ∃ tenantId, Assigned db user.id code tenantId := by
  rw [AuthenticatedUser.hasRole, List.any_eq_true, roles_of_getCurrentUser h]
  simp only [List.contains_iff_mem, mem_roleCodes_iff_assigned]

theorem bind_ok_iff {ε α β : Type} {x : Except ε α} {f : α → Except ε β} {result : β} :
    (x >>= f) = .ok result ↔ ∃ a, x = .ok a ∧ f a = .ok result := by
  cases x with
  | error failure => simp [bind, Except.bind]
  | ok a => simp [bind, Except.bind]

theorem requireRole_ok_iff : requireRole decodeToken credentials db allowedRoles = .ok user ↔
    getCurrentUser decodeToken credentials db = .ok user ∧ user.hasRole allowedRoles := by
  rw [requireRole, bind_ok_iff]
  constructor
  · rintro ⟨caller, hcaller, h⟩
    cases hrole : caller.hasRole allowedRoles with
    | false => simp [hrole, throw, throwThe, MonadExceptOf.throw, bind, Except.bind] at h
    | true =>
      obtain rfl : caller = user := by simpa [hrole, pure, Except.pure] using h
      exact ⟨hcaller, hrole⟩
  · rintro ⟨hcaller, hrole⟩
    exact ⟨user, hcaller, by simp [hrole, pure, Except.pure]⟩

theorem getTenantContext_ok_iff : getTenantContext decodeToken credentials db = .ok ctx ↔
    getCurrentUser decodeToken credentials db = .ok ctx.user ∧
      ctx.user.tenantId = some ctx.tenantId ∧ ctx.user.tenantStatus = some (.text "ACTIVE") := by
  rw [getTenantContext, bind_ok_iff]
  constructor
  · rintro ⟨caller, hcaller, h⟩
    cases htenant : caller.tenantId with
    | none => simp [htenant, throw, throwThe, MonadExceptOf.throw] at h
    | some tenantId =>
      by_cases hstatus : caller.tenantStatus = some (.text "ACTIVE")
      · obtain rfl : ⟨tenantId, caller⟩ = ctx := by
          simpa [htenant, hstatus, pure, Except.pure] using h
        exact ⟨hcaller, htenant, hstatus⟩
      · simp [htenant, hstatus, throw, throwThe, MonadExceptOf.throw, bind, Except.bind] at h
  · rintro ⟨hcaller, htenant, hstatus⟩
    exact ⟨ctx.user, hcaller, by simp [htenant, hstatus, pure, Except.pure]⟩

theorem requireTenantRole_ok_iff :
    requireTenantRole decodeToken credentials db allowedRoles = .ok ctx ↔
      getTenantContext decodeToken credentials db = .ok ctx ∧ ctx.user.hasRole allowedRoles := by
  rw [requireTenantRole, bind_ok_iff]
  constructor
  · rintro ⟨caller, hcaller, h⟩
    cases hrole : caller.user.hasRole allowedRoles with
    | false => simp [hrole, throw, throwThe, MonadExceptOf.throw, bind, Except.bind] at h
    | true =>
      obtain rfl : caller = ctx := by simpa [hrole, pure, Except.pure] using h
      exact ⟨hcaller, hrole⟩
  · rintro ⟨hcaller, hrole⟩
    exact ⟨ctx, hcaller, by simp [hrole, pure, Except.pure]⟩

/-! ## Where a role counts -/

/-- A role admits the caller to its own tenant only where it is assigned in that tenant, and
as a super admin only where it is assigned platform-wide. -/
def CountsWhereAssigned (decodeToken : Token → Option Claims) (credentials : Option Token)
    (db : PublicDb) : Prop :=
  (∀ allowedRoles ctx, requireTenantRole decodeToken credentials db allowedRoles = .ok ctx →
    ∃ code ∈ allowedRoles, Assigned db ctx.user.id code (some ctx.tenantId)) ∧
  ∀ user, requireRole decodeToken credentials db ["SUPER_ADMIN"] = .ok user →
    Assigned db user.id "SUPER_ADMIN" none

/-- What the documentation leaves to a trigger: the roles a member of an active tenant holds are
held in that tenant, and a super admin is one platform-wide. -/
def AssignmentsAgree (db : PublicDb) (userId : ℕ) : Prop :=
  ∀ profile, findById db .profiles (some (.uuid userId)) = some profile →
    (∀ tenantId, profile "tenant_id" = some tenantId →
      (findById db .tenants (some tenantId)).bind (· "status") = some (.text "ACTIVE") →
      ∀ code elsewhere, Assigned db userId code elsewhere →
        Assigned db userId code (some tenantId)) ∧
    ∀ elsewhere, Assigned db userId "SUPER_ADMIN" elsewhere →
      Assigned db userId "SUPER_ADMIN" none

/-- The dependencies are as good as the rows: nothing else keeps a role to its tenant. -/
theorem countsWhereAssigned_iff {token : Token} {claims : Claims}
    (htoken : decodeToken token = some claims) (huser : claims.sub = some userId) :
    CountsWhereAssigned decodeToken (some token) db ↔ AssignmentsAgree db userId := by
  constructor
  · rintro ⟨htenantRole, hsuperAdmin⟩ profile hprofile
    obtain ⟨user, hcaller, rfl, htenantId, hstatus⟩ :=
      getCurrentUser_of_profile htoken huser hprofile
    constructor
    · intro tenantId htenant hactive code elsewhere hassigned
      have hrole : user.hasRole [code] :=
        (hasRole_iff hcaller).mpr ⟨code, List.mem_cons_self, elsewhere, hassigned⟩
      have hctx : getTenantContext decodeToken (some token) db = .ok ⟨tenantId, user⟩ :=
        getTenantContext_ok_iff.mpr
          ⟨hcaller, htenantId.trans htenant, hstatus.trans (htenant ▸ hactive)⟩
      obtain ⟨code', hmem, hassigned'⟩ :=
        htenantRole [code] _ (requireTenantRole_ok_iff.mpr ⟨hctx, hrole⟩)
      exact List.mem_singleton.mp hmem ▸ hassigned'
    · intro elsewhere hassigned
      have hrole : user.hasRole ["SUPER_ADMIN"] :=
        (hasRole_iff hcaller).mpr ⟨_, List.mem_cons_self, elsewhere, hassigned⟩
      exact hsuperAdmin user (requireRole_ok_iff.mpr ⟨hcaller, hrole⟩)
  · intro hagree
    constructor
    · intro allowedRoles ctx hctx
      obtain ⟨hctx, hrole⟩ := requireTenantRole_ok_iff.mp hctx
      obtain ⟨hcaller, htenant, hstatus⟩ := getTenantContext_ok_iff.mp hctx
      obtain ⟨rfl, profile, hprofile, htenantId, htenantStatus⟩ :=
        getCurrentUser_ok htoken huser hcaller
      obtain ⟨code, hmem, elsewhere, hassigned⟩ := (hasRole_iff hcaller).mp hrole
      have hown : profile "tenant_id" = some ctx.tenantId := htenantId.symm.trans htenant
      exact ⟨code, hmem, (hagree profile hprofile).1 ctx.tenantId hown
        (hown ▸ htenantStatus.symm.trans hstatus) code elsewhere hassigned⟩
    · intro user huser'
      obtain ⟨hcaller, hrole⟩ := requireRole_ok_iff.mp huser'
      obtain ⟨rfl, profile, hprofile, -, -⟩ := getCurrentUser_ok htoken huser hcaller
      obtain ⟨code, hmem, elsewhere, hassigned⟩ := (hasRole_iff hcaller).mp hrole
      obtain rfl := List.mem_singleton.mp hmem
      exact (hagree profile hprofile).2 elsewhere hassigned

/-! ## A role from another tenant -/

/-- What the schema asks of the rows that decide about roles. -/
structure Admitted (db : PublicDb) : Prop where
  ids : ∀ table ∈ [PublicTable.tenants, .profiles, .roles, .profileRoles],
    ((db table).map (· "id")).Nodup ∧ none ∉ (db table).map (· "id")
  codes : ((db .roles).map (· "code")).Nodup ∧ none ∉ (db .roles).map (· "code")
  statuses : none ∉ (db .tenants).map (· "status")
  assignments : ((db .profileRoles).map fun pr =>
    (pr "profile_id", pr "role_id", pr "tenant_id")).Nodup
  assigned : none ∉ (db .profileRoles).map (· "profile_id") ∧
    none ∉ (db .profileRoles).map (· "role_id")
  references : ∀ key ∈ foreignKeys, ∀ row ∈ db key.child, row key.column = none ∨
    row key.column ∈ (db key.parent).map (· "id")

/-- The owner of one tenant who has since become a member of another. -/
def movedDb : PublicDb
  | .tenants => [cells [("id", .uuid 10), ("status", .text "ACTIVE")],
      cells [("id", .uuid 11), ("status", .text "ACTIVE")]]
  | .profiles => [cells [("id", .uuid 1), ("tenant_id", .uuid 10)]]
  | .roles => [cells [("id", .uuid 7), ("code", .text "TENANT_OWNER")]]
  | .profileRoles => [cells [("id", .uuid 20), ("profile_id", .uuid 1), ("role_id", .uuid 7),
      ("tenant_id", .uuid 11)]]
  | _ => []

/-- The one who is assigned the role where it is now. -/
def settledDb : PublicDb
  | .profileRoles => [cells [("id", .uuid 20), ("profile_id", .uuid 1), ("role_id", .uuid 7),
      ("tenant_id", .uuid 10)]]
  | table => movedDb table

theorem movedDb_admitted : Admitted movedDb where
  ids := by decide
  codes := by decide
  statuses := by decide
  assignments := by decide
  assigned := by decide
  references := by decide

def memberClaims : Unit → Option Claims := fun _ => some { sub := some 1, email := none }

/-- The role that was assigned in the one tenant admits its holder to the other. -/
theorem not_countsWhereAssigned_moved :
    Admitted movedDb ∧ ¬CountsWhereAssigned memberClaims (some ()) movedDb := by
  refine ⟨movedDb_admitted, ?_⟩
  rintro ⟨htenantRole, -⟩
  obtain ⟨code, -, pr, hpr, -, -, -, -, -, htenant⟩ :=
    htenantRole ["TENANT_OWNER"] ⟨.uuid 10, ⟨1, none, some (.uuid 10), some (.text "ACTIVE"),
      [.text "TENANT_OWNER"]⟩⟩ rfl
  obtain rfl := List.mem_singleton.mp hpr
  exact absurd htenant (by decide)

theorem countsWhereAssigned_settled :
    CountsWhereAssigned memberClaims (some ()) settledDb := by
  have htoken : memberClaims () = some { sub := some 1, email := none } := rfl
  apply (countsWhereAssigned_iff htoken rfl).mpr
  have hcode : ∀ code elsewhere, Assigned settledDb 1 code elsewhere →
      code = "TENANT_OWNER" ∧ elsewhere = some (.uuid 10) := by
    rintro code elsewhere ⟨pr, hpr, r, hr, -, -, hcode, htenant⟩
    obtain rfl := List.mem_singleton.mp hpr
    obtain rfl := List.mem_singleton.mp hr
    exact ⟨Value.text.inj (Option.some.inj hcode.symm), htenant.symm⟩
  intro profile hprofile
  have hfound : findById settledDb .profiles (some (.uuid 1)) =
      some (cells [("id", .uuid 1), ("tenant_id", .uuid 10)]) := rfl
  obtain rfl := Option.some.inj (hfound.symm.trans hprofile)
  constructor
  · intro tenantId htenant _ code elsewhere hassigned
    obtain ⟨-, rfl⟩ := hcode code elsewhere hassigned
    exact htenant ▸ hassigned
  · intro elsewhere hassigned
    exact absurd (hcode _ elsewhere hassigned).1 (by decide)

end InfinityRadius.Security
