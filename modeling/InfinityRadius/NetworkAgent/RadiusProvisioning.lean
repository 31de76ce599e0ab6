import InfinityRadius.Integrations.NetworkAgentClient
import InfinityRadius.Services.RadiusStatements

/-!
# RADIUS provisioning on the agent

`routers/radius.py` and `services/radius_provisioning.py` of the network agent, which writes the
same rows as the direct transport with statements of its own.
-/

namespace InfinityRadius.NetworkAgent.RadiusProvisioning

open NetworkAgentClient Replacing Services RadiusStatement

/-! ## Requests -/

structure PackageGroupRequest where
  packageId : String
  downloadSpeedKbps : Option ℤ
  uploadSpeedKbps : Option ℤ
  sessionTimeoutSeconds : Option ℤ
  simultaneousSessions : ℤ
  sessions_pos : 1 ≤ simultaneousSessions

structure ProvisionUserRequest where
  username : String
  packageId : String
  password : String

abbrev Body := List (String × Value)

def strField (body : Body) (name : String) : Option String :=
  match body.lookup name with
  | some (.str text) => some text
  | _ => none

/-- An `int | None` field that defaults to `None`. -/
def optIntField (body : Body) (name : String) : Option (Option ℤ) :=
  match body.lookup name with
  | none | some .null => some none
  | some (.int n) => some (some n)
  -- the digits that lax mode takes for an integer are never sent
  | some (.str _) => none

/-- `Field(default=1, ge=1)`. -/
def sessionsField (body : Body) : Option ℤ :=
  match body.lookup "simultaneous_sessions" with
  | none => some 1
  | some (.int n) => some n
  | _ => none

def PackageGroupRequest.ofBody (body : Body) : Option PackageGroupRequest := do
  let packageId ← strField body "package_id"
  let downloadSpeedKbps ← optIntField body "download_speed_kbps"
  let uploadSpeedKbps ← optIntField body "upload_speed_kbps"
  let sessionTimeoutSeconds ← optIntField body "session_timeout_seconds"
  let simultaneousSessions ← sessionsField body
  if h : 1 ≤ simultaneousSessions then
    some ⟨packageId, downloadSpeedKbps, uploadSpeedKbps, sessionTimeoutSeconds,
      simultaneousSessions, h⟩
  else none

def ProvisionUserRequest.ofBody (body : Body) : Option ProvisionUserRequest := do
  let username ← strField body "username"
  let packageId ← strField body "package_id"
  let password ← strField body "password"
  some ⟨username, packageId, password⟩

/-! ## Statements -/

def groupName (packageId : String) : String := "pkg_" ++ packageId

/-- `bool(value)`. -/
def truthy (value : Option ℤ) : Bool := value.any (· ≠ 0)

/-- `str(value)`. -/
def text : Option ℤ → String
  | some n => toString n
  | none => "None"

def PackageGroupRequest.replyAttributes (request : PackageGroupRequest) :
    List (String × String) :=
  (if truthy request.downloadSpeedKbps && truthy request.uploadSpeedKbps then
    [("Mikrotik-Rate-Limit",
      text request.downloadSpeedKbps ++ "k/" ++ text request.uploadSpeedKbps ++ "k")]
  else []) ++
  (if truthy request.sessionTimeoutSeconds then
    [("Session-Timeout", text request.sessionTimeoutSeconds)]
  else [])

def syncPackageGroup (request : PackageGroupRequest) : List RadiusStatement :=
  let name := groupName request.packageId
  [deleteGroupReplies name, deleteGroupChecks name] ++
    (request.replyAttributes.map fun (attributeName, value) =>
      insertGroupReply name attributeName value) ++
    [insertSimultaneousUse name (toString request.simultaneousSessions)]

def provisionUser (request : ProvisionUserRequest) : List RadiusStatement :=
  [deletePassword request.username, insertPassword request.username request.password,
    deleteUserGroups request.username,
    insertUserGroup request.username (groupName request.packageId)]

/-! ## Routes -/

/-- What happens to a request: it is lost, or its transaction runs and its answer may be lost. -/
inductive Delivery
  | lost
  | handled (fate : Fate) (answered : Bool)
deriving DecidableEq

/-- A route runs the statements of a valid request; every other one is answered 422. -/
def route (program : Option (List RadiusStatement)) (delivery : Delivery)
    (tables : RadiusTables) : Bool × RadiusTables :=
  match program, delivery with
  | some program, .handled fate answered =>
    let outcome := transact program fate tables
    (outcome.1 && answered, outcome.2)
  | _, _ => (false, tables)

def packageGroupRoute (body : Body) : Delivery → RadiusTables → Bool × RadiusTables :=
  route ((PackageGroupRequest.ofBody body).map syncPackageGroup)

def userRoute (body : Body) : Delivery → RadiusTables → Bool × RadiusTables :=
  route ((ProvisionUserRequest.ofBody body).map provisionUser)

theorem transacted_route (program : List RadiusStatement) (delivery : Delivery)
    (tables : RadiusTables) : Transacted program tables (route (some program) delivery tables) := by
  cases delivery with
  | lost => exact transacted_raised program tables
  | handled fate answered =>
    obtain ⟨hstored, hreturned⟩ := transacted program fate tables
    exact ⟨hstored, fun h => hreturned (Bool.and_eq_true_iff.mp h).1⟩

/-! ## Agreement -/

theorem nonzero_cases (value : Option ℤ) :
    (truthy value = true ∧ ∃ n, value = some n ∧ RadiusDb.nonzero value = some n) ∨
      (truthy value = false ∧ RadiusDb.nonzero value = none) := by
  cases value with
  | none => exact Or.inr ⟨rfl, rfl⟩
  | some n =>
    by_cases h : n = 0
    · subst h
      exact Or.inr ⟨rfl, rfl⟩
    · left
      refine ⟨?_, n, rfl, ?_⟩
      · simp [truthy, h]
      · simp [RadiusDb.nonzero, h]

/-- The agent counts the same numbers as given. -/
theorem replyAttributes_eq (request : PackageGroupRequest) :
    request.replyAttributes =
      RadiusDb.replyAttributes request.downloadSpeedKbps request.uploadSpeedKbps
        request.sessionTimeoutSeconds := by
  rw [PackageGroupRequest.replyAttributes, RadiusDb.replyAttributes]
  congr 1
  · rcases nonzero_cases request.downloadSpeedKbps with ⟨hdownload, n, hn, hnonzero⟩ |
      ⟨hdownload, hnonzero⟩
    · rw [hdownload, hnonzero, hn]
      rcases nonzero_cases request.uploadSpeedKbps with ⟨hupload, m, hm, hnonzero'⟩ |
        ⟨hupload, hnonzero'⟩
      · rw [hupload, hnonzero', hm]
        rfl
      · rw [hupload, hnonzero']
        rfl
    · rw [hdownload, hnonzero]
      rfl
  · rcases nonzero_cases request.sessionTimeoutSeconds with ⟨htimeout, n, hn, hnonzero⟩ |
      ⟨htimeout, hnonzero⟩
    · rw [htimeout, hnonzero, hn]
      rfl
    · rw [htimeout, hnonzero]
      rfl

/-- The statements of the agent are those of the direct transport. -/
theorem syncPackageGroup_eq (request : PackageGroupRequest) :
    syncPackageGroup request =
      RadiusSync.syncPackageRadiusGroup request.packageId request.downloadSpeedKbps
        request.uploadSpeedKbps request.sessionTimeoutSeconds request.simultaneousSessions := by
  rw [syncPackageGroup, RadiusSync.syncPackageRadiusGroup, replyAttributes_eq]
  rfl

theorem provisionUser_eq (request : ProvisionUserRequest) :
    provisionUser request =
      RadiusSync.provisionCustomerRadiusAccess request.username request.packageId
        request.password := rfl

/-- What the client sends is read back as it was. -/
theorem ofBody_syncRadiusPackageGroup (packageId : Uuid) (download upload timeout : Option ℤ)
    {sessions : ℤ} (h : 1 ≤ sessions) :
    (Call.syncRadiusPackageGroup packageId download upload timeout sessions).outgoing.jsonBody.bind
      PackageGroupRequest.ofBody = some ⟨packageId.text, download, upload, timeout, sessions, h⟩ := by
  cases download <;> cases upload <;> cases timeout <;> exact dif_pos h

theorem ofBody_provisionRadiusUser (username : String) (packageId : Uuid) (password : String) :
    (Call.provisionRadiusUser username packageId password).outgoing.jsonBody.bind
      ProvisionUserRequest.ofBody = some ⟨username, packageId.text, password⟩ := rfl

end InfinityRadius.NetworkAgent.RadiusProvisioning
