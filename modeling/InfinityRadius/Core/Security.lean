import InfinityRadius.Alembic.RlsPolicies

/-!
# Authentication and tenant context

`get_current_user`: the rows of a user decide tenant and roles, the token only who it is.
-/

namespace InfinityRadius.Security

open Alembic RowSecurity

/-- The claims of a verified token; `sub` is `none` where it names no UUID. -/
structure Claims where
  sub : Option ℕ
  email : Option String

structure AuthenticatedUser where
  id : ℕ
  email : Option String
  tenantId : Option Value
  tenantStatus : Option Value
  roles : List Value

inductive AuthError
  | http (status : ℕ) (detail : String)
  /-- `KeyError` or `ValueError` of the `sub` claim -/
  | invalidSubject

def textOf : Option Value → Option String
  | some (.text text) => some text
  | _ => none

/-- The codes of `profile_roles` joined with `roles`. -/
def roleCodes (userId : ℕ) (db : PublicDb) : List Value :=
  (db .profileRoles).flatMap fun pr => (db .roles).filterMap fun r =>
    if equal (r "id") (pr "role_id") && equal (pr "profile_id") (some (.uuid userId))
    then r "code" else none

def findById (db : PublicDb) (table : PublicTable) (id : Option Value) : Option Cells :=
  (db table).find? fun row => equal (row "id") id

/-- `decodeToken` stands for the verification of the signature. -/
def getCurrentUser {Token : Type} (decodeToken : Token → Option Claims)
    (credentials : Option Token) (db : PublicDb) : Except AuthError AuthenticatedUser := do
  let some token := credentials | throw (.http 401 "Missing Authorization header")
  let some claims := decodeToken token
    | throw (.http 401 "Invalid or expired authentication token")
  let some userId := claims.sub | throw .invalidSubject
  let some profile := findById db .profiles (some (.uuid userId))
    | throw (.http 403 "No profile found for this account")
  let tenantId := profile "tenant_id"
  return {
    id := userId
    -- an empty e-mail counts as none
    email := (textOf (profile "email")).filter (· ≠ "") <|> claims.email
    tenantId
    tenantStatus := (findById db .tenants tenantId).bind (· "status")
    roles := roleCodes userId db }

/-! ## Lemmas -/

theorem mem_roleCodes {userId : ℕ} {db : PublicDb} {code : Value} :
    code ∈ roleCodes userId db ↔ ∃ pr ∈ db .profileRoles, ∃ r ∈ db .roles,
      equal (r "id") (pr "role_id") ∧ equal (pr "profile_id") (some (.uuid userId)) ∧
        r "code" = some code := by
  simp only [roleCodes, List.mem_flatMap, List.mem_filterMap, Option.ite_none_right_eq_some,
    Bool.and_eq_true, and_assoc]

/-- The two readers of the role table agree on who is a super admin. -/
theorem superAdmin_mem_roleCodes {userId : ℕ} {db : PublicDb} :
    Value.text "SUPER_ADMIN" ∈ roleCodes userId db ↔ isSuperAdmin userId db := by
  simp only [mem_roleCodes, isSuperAdmin, List.any_eq_true, Bool.and_eq_true, and_assoc]
  simp only [equal_some]

theorem roles_of_getCurrentUser {Token : Type} {decodeToken : Token → Option Claims}
    {credentials : Option Token} {db : PublicDb} {user : AuthenticatedUser}
    (h : getCurrentUser decodeToken credentials db = .ok user) :
    user.roles = roleCodes user.id db := by
  unfold getCurrentUser at h
  split at h
  · split at h
    · split at h
      · split at h
        · cases h
          rfl
        · cases h
      · cases h
    · cases h
  · cases h

end InfinityRadius.Security
