import InfinityRadius.Models.Repository

/-!
# RADIUS

The credentials FreeRADIUS reads, the statements `services/radius_sync.py` and the
network agent write them with, and the choice between the two that
`services/radius_provisioning.py` makes.
-/

namespace InfinityRadius.Services

open Payload Program Sql Models

/-! ## The RADIUS database -/

structure RadCheck where
  username : String
  attributeName : String
  op : String
  value : String
deriving DecidableEq

structure RadUserGroup where
  username : String
  groupname : String
  priority : ℕ
deriving DecidableEq

/-- A row of `radgroupreply` or `radgroupcheck`. -/
structure RadGroupAttribute where
  groupname : String
  attributeName : String
  op : String
  value : String
deriving DecidableEq

/-- The tables of the stock schema that are written here, without their serial keys. -/
structure RadiusDb where
  radcheck : List RadCheck
  radusergroup : List RadUserGroup
  radgroupreply : List RadGroupAttribute
  radgroupcheck : List RadGroupAttribute

/-- `radius_group_name`. -/
def radiusGroupName (packageId : ℕ) : String := "pkg_" ++ toString packageId

/-- `derive_radius_password`. -/
def deriveRadiusPassword (runtime : Runtime) (subscriptionId : ℕ) : String :=
  String.ofList ((runtime.hmacSha256 runtime.settings.secretsEncryptionKey
    ("radius-password:" ++ toString subscriptionId)).toList.take 20)

def cleartextPassword : String := "Cleartext-Password"

namespace RadiusDb

/-- A number Python counts as true. -/
def nonzero (value : Option ℤ) : Option ℤ := value.filter (· ≠ 0)

/-- The reply attributes of a package. -/
def replyAttributes (downloadSpeedKbps uploadSpeedKbps sessionTimeoutSeconds : Option ℤ) :
    List (String × String) :=
  (match nonzero downloadSpeedKbps, nonzero uploadSpeedKbps with
    | some download, some upload =>
      [("Mikrotik-Rate-Limit", toString download ++ "k/" ++ toString upload ++ "k")]
    | _, _ => []) ++
  (match nonzero sessionTimeoutSeconds with
    | some seconds => [("Session-Timeout", toString seconds)]
    | none => [])

/-- `sync_package_radius_group`, and `sync_package_group` of the agent. -/
def syncPackageGroup (packageId : ℕ)
    (downloadSpeedKbps uploadSpeedKbps sessionTimeoutSeconds : Option ℤ)
    (simultaneousSessions : ℤ) (radius : RadiusDb) : RadiusDb :=
  let groupname := radiusGroupName packageId
  let reply := replyAttributes downloadSpeedKbps uploadSpeedKbps sessionTimeoutSeconds
  { radius with
    radgroupreply := (radius.radgroupreply.filter fun row => row.groupname ≠ groupname) ++
      reply.map fun (name, value) => ⟨groupname, name, ":=", value⟩
    radgroupcheck := (radius.radgroupcheck.filter fun row => row.groupname ≠ groupname) ++
      [⟨groupname, "Simultaneous-Use", ":=", toString simultaneousSessions⟩] }

/-- `provision_customer_radius_access`, and `provision_user` of the agent. -/
def provisionUser (username : String) (packageId : ℕ) (password : String) (radius : RadiusDb) :
    RadiusDb :=
  { radius with
    radcheck := (radius.radcheck.filter fun row =>
        ¬(row.username = username ∧ row.attributeName = cleartextPassword)) ++
      [⟨username, cleartextPassword, ":=", password⟩]
    radusergroup := (radius.radusergroup.filter fun row => row.username ≠ username) ++
      [⟨username, radiusGroupName packageId, 1⟩] }

/-- `revoke_customer_radius_access`, and `revoke_user` of the agent, which nothing calls. -/
def revokeUser (username : String) (radius : RadiusDb) : RadiusDb :=
  { radius with
    radcheck := radius.radcheck.filter fun row => row.username ≠ username
    radusergroup := radius.radusergroup.filter fun row => row.username ≠ username }

/-- What a request does once its statements are committed. -/
def apply : Request → RadiusDb → RadiusDb
  | .syncPackageGroup _ packageId download upload timeout simultaneousSessions =>
    syncPackageGroup packageId download upload timeout simultaneousSessions
  | .provisionUser _ username packageId password => provisionUser username packageId password
  | _ => id

/-! ### The rows of a user -/

def checksOf (username : String) (radius : RadiusDb) : List RadCheck :=
  radius.radcheck.filter fun row => row.username = username

def groupsOf (username : String) (radius : RadiusDb) : List RadUserGroup :=
  radius.radusergroup.filter fun row => row.username = username

/-- The passwords FreeRADIUS accepts. -/
def passwordsOf (username : String) (radius : RadiusDb) : List RadCheck :=
  (radius.checksOf username).filter fun row => row.attributeName = cleartextPassword

section Users

variable {username other : String} {packageId : ℕ} {password : String} {radius : RadiusDb}

@[simp]
theorem checksOf_syncPackageGroup {download upload timeout : Option ℤ} {sessions : ℤ} :
    (syncPackageGroup packageId download upload timeout sessions radius).checksOf username =
      radius.checksOf username := rfl

@[simp]
theorem groupsOf_syncPackageGroup {download upload timeout : Option ℤ} {sessions : ℤ} :
    (syncPackageGroup packageId download upload timeout sessions radius).groupsOf username =
      radius.groupsOf username := rfl

/-- Another user keeps every row. -/
theorem checksOf_provisionUser_of_ne (h : other ≠ username) :
    (provisionUser username packageId password radius).checksOf other =
      radius.checksOf other := by
  simp only [checksOf, provisionUser, List.filter_append, List.filter_filter]
  rw [List.filter_singleton, decide_eq_false h.symm, cond_false, List.append_nil]
  apply List.filter_congr
  intro row _
  by_cases hrow : row.username = other
  · simp [hrow, h]
  · simp [hrow]

theorem groupsOf_provisionUser_of_ne (h : other ≠ username) :
    (provisionUser username packageId password radius).groupsOf other =
      radius.groupsOf other := by
  simp only [groupsOf, provisionUser, List.filter_append, List.filter_filter]
  rw [List.filter_singleton, decide_eq_false h.symm, cond_false, List.append_nil]
  apply List.filter_congr
  intro row _
  by_cases hrow : row.username = other
  · simp [hrow, h]
  · simp [hrow]

/-- The user keeps the rows of other attributes only. -/
theorem checksOf_provisionUser :
    (provisionUser username packageId password radius).checksOf username =
      ((radius.checksOf username).filter fun row => ¬row.attributeName = cleartextPassword) ++
        [⟨username, cleartextPassword, ":=", password⟩] := by
  simp only [checksOf, provisionUser, List.filter_append, List.filter_filter]
  rw [List.filter_singleton, decide_eq_true rfl, cond_true]
  congr 1
  apply List.filter_congr
  intro row _
  by_cases hrow : row.username = username
  · simp [hrow]
  · simp [hrow]

theorem groupsOf_provisionUser :
    (provisionUser username packageId password radius).groupsOf username =
      [⟨username, radiusGroupName packageId, 1⟩] := by
  simp only [groupsOf, provisionUser, List.filter_append, List.filter_filter]
  rw [List.filter_singleton, decide_eq_true rfl, cond_true]
  simp

@[simp]
theorem passwordsOf_provisionUser :
    (provisionUser username packageId password radius).passwordsOf username =
      [⟨username, cleartextPassword, ":=", password⟩] := by
  simp only [passwordsOf, checksOf_provisionUser, List.filter_append, List.filter_filter]
  rw [List.filter_singleton, decide_eq_true rfl, cond_true]
  simp

theorem passwordsOf_provisionUser_of_ne (h : other ≠ username) :
    (provisionUser username packageId password radius).passwordsOf other =
      radius.passwordsOf other := by
  rw [passwordsOf, checksOf_provisionUser_of_ne h, passwordsOf]

end Users

end RadiusDb

/-! ## Provisioning -/

/-- The answer reports success. -/
def succeeded (transport : RadiusTransport) : HttpResult → Bool
  | .transportError _ => false
  | .response statusCode body =>
    match transport with
    | .directDatabase => true
    | .networkAgent => decide (statusCode < 400) && body.isSome

/-- The statements of a request were committed: its answer says so, or it failed only after
it had `landed`. -/
def tookEffect (landed : Bool) : Request × HttpResult → Bool
  | (.syncPackageGroup transport _ _ _ _ _, answer) => succeeded transport answer || landed
  | (.provisionUser transport _ _ _, answer) => succeeded transport answer || landed
  | _ => false

/-- The database after the requests of an operation, `landed` telling of each one whether it
was committed although it failed. -/
def RadiusDb.after : List (Request × HttpResult) → (ℕ → Bool) → RadiusDb → RadiusDb
  | [], _, radius => radius
  | exchange :: later, landed, radius =>
    after later (fun i => landed (i + 1))
      (if tookEffect (landed 0) exchange then radius.apply exchange.1 else radius)

/-- `_request` of the agent's client. -/
def agentRequest (request : Request) : Tx Unit := do
  let answer ← sendRequest request
  match answer with
  | .transportError detail => throw (.networkAgent ("Network Agent request failed: " ++ detail))
  | .response statusCode body =>
    if statusCode = 404 then throw (.networkAgent "Unknown router_id")
    else if 400 ≤ statusCode then do
      let text ← issue (.ask .responseText)
      throw (.networkAgent ("Network Agent returned " ++ toString statusCode ++ ": " ++ text))
    else
      match body with
      | none => throw (.valueError "Expecting value: line 1 column 1 (char 0)")
      | some _ => pure ()

/-- One transaction on the RADIUS database. -/
def directRequest (request : Request) : Tx Unit := do
  let answer ← sendRequest request
  match answer with
  | .transportError detail =>
    throw (.radiusUnavailable ("RADIUS provisioning failed: " ++ detail))
  | .response _ _ => pure ()

/-- The arguments of `provision_access`. -/
structure Access where
  customerPhone : String
  packageId : ℕ
  radiusPassword : String
  downloadSpeedKbps : Option ℤ
  uploadSpeedKbps : Option ℤ
  sessionTimeoutSeconds : Option ℤ
  simultaneousSessions : ℤ

def Access.syncRequest (access : Access) (transport : RadiusTransport) : Request :=
  .syncPackageGroup transport access.packageId access.downloadSpeedKbps access.uploadSpeedKbps
    access.sessionTimeoutSeconds access.simultaneousSessions

def Access.userRequest (access : Access) (transport : RadiusTransport) : Request :=
  .provisionUser transport access.customerPhone access.packageId access.radiusPassword

section ProvisionAccess

variable (settings : Settings)

def agentAvailable : Bool :=
  given settings.networkAgentBaseUrl && given settings.networkAgentApiKey

def directDbAvailable : Bool := settings.radiusDatabaseUrl.isSome

def provisionAccess (access : Access) : Tx String :=
  if agentAvailable settings then do
    tryCatch (do
      agentRequest (access.syncRequest .networkAgent)
      agentRequest (access.userRequest .networkAgent)) fun failure =>
        match failure with
        | .networkAgent message => throw (.radiusUnavailable
            ("Network Agent RADIUS provisioning failed: " ++ message))
        | other => throw other
    pure RadiusTransport.networkAgent.value
  else if directDbAvailable settings then do
    directRequest (access.syncRequest .directDatabase)
    directRequest (access.userRequest .directDatabase)
    pure RadiusTransport.directDatabase.value
  else
    throw (.radiusUnavailable
      "No RADIUS provisioning transport is configured. Set NETWORK_AGENT_BASE_URL/NETWORK_AGENT_API_KEY (production) or RADIUS_DATABASE_URL (local development).")

end ProvisionAccess

end InfinityRadius.Services
