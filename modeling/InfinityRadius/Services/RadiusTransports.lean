import InfinityRadius.Core.Runs
import InfinityRadius.NetworkAgent.RadiusProvisioning

/-!
# Two transports

`provision_access` of `services/radius_provisioning.py`, through the network agent or directly.
Both leave the same rows, and an attempt that succeeds leaves them whatever the attempts before
it came to.
-/

namespace InfinityRadius.Services.RadiusTransports

open NetworkAgent.RadiusProvisioning NetworkAgentClient Replacing

/-! ## What is provisioned -/

/-- What the API admits of a package. -/
structure PackageCreate where
  durationMinutes : Option ℤ
  downloadSpeedKbps : Option ℤ
  uploadSpeedKbps : Option ℤ
  simultaneousSessions : ℤ
  duration_pos : ∀ minutes ∈ durationMinutes, 0 < minutes
  download_pos : ∀ speed ∈ downloadSpeedKbps, 0 < speed
  upload_pos : ∀ speed ∈ uploadSpeedKbps, 0 < speed
  sessions_pos : 0 < simultaneousSessions

/-- The arguments `activate` passes to `provision_access`. -/
structure Grant where
  customerPhone : String
  packageId : Uuid
  radiusPassword : String
  package : PackageCreate

namespace Grant

variable (grant : Grant)

/-- `package.duration_minutes * 60`, where there is a duration. -/
def sessionTimeoutSeconds : Option ℤ :=
  (RadiusDb.nonzero grant.package.durationMinutes).map (· * 60)

def groupname : String := RadiusSync.radiusGroupName grant.packageId.text

def groupProgram : List RadiusStatement :=
  RadiusSync.syncPackageRadiusGroup grant.packageId.text grant.package.downloadSpeedKbps
    grant.package.uploadSpeedKbps grant.sessionTimeoutSeconds grant.package.simultaneousSessions

def userProgram : List RadiusStatement :=
  RadiusSync.provisionCustomerRadiusAccess grant.customerPhone grant.packageId.text
    grant.radiusPassword

def groupCall : Call :=
  .syncRadiusPackageGroup grant.packageId grant.package.downloadSpeedKbps
    grant.package.uploadSpeedKbps grant.sessionTimeoutSeconds grant.package.simultaneousSessions

def userCall : Call :=
  .provisionRadiusUser grant.customerPhone grant.packageId grant.radiusPassword

/-! ## Attempts -/

/-- What happens to one call of `provision_access`, by its transport. -/
inductive Attempt
  | direct (group user : Fate)
  | agent (group user : Delivery)
  | unavailable
deriving DecidableEq

/-- The second step follows where the first one returns. -/
def andThen (outcome : Bool × RadiusTables) (next : RadiusTables → Bool × RadiusTables) :
    Bool × RadiusTables :=
  if outcome.1 then next outcome.2 else outcome

/-- Whether the call returns, and the rows it leaves. -/
def provisionAccess (tables : RadiusTables) : Attempt → Bool × RadiusTables
  | .agent group user =>
    andThen (packageGroupRoute (grant.groupCall.outgoing.jsonBody.getD []) group tables)
      (userRoute (grant.userCall.outgoing.jsonBody.getD []) user)
  | .direct group user =>
    andThen (transact grant.groupProgram group tables) (transact grant.userProgram user)
  | .unavailable => (false, tables)

/-- The rows after an attempt. -/
def attempted (attempt : Attempt) (tables : RadiusTables) : RadiusTables :=
  (grant.provisionAccess tables attempt).2

def directly : Attempt := .direct .committed .committed

def throughAgent : Attempt := .agent (.handled .committed true) (.handled .committed true)

/-! ## What an attempt comes to -/

def groupRows : Replacement RadiusRow :=
  groupReplacement grant.groupname
    (RadiusDb.replyAttributes grant.package.downloadSpeedKbps grant.package.uploadSpeedKbps
      grant.sessionTimeoutSeconds)
    (toString grant.package.simultaneousSessions)

def userRows : Replacement RadiusRow :=
  userReplacement grant.customerPhone grant.groupname grant.radiusPassword

/-- Both transactions as one replacement, as they write different tables. -/
def rows : Replacement RadiusRow := grant.groupRows.join grant.userRows

theorem execute_groupProgram (tables : RadiusTables) :
    execute grant.groupProgram tables = grant.groupRows.apply tables :=
  Services.execute_groupProgram _ _ _ tables

theorem execute_userProgram (tables : RadiusTables) :
    execute grant.userProgram tables = grant.userRows.apply tables :=
  Services.execute_userProgram _ _ _ tables

theorem apply_rows (tables : RadiusTables) :
    grant.rows.apply tables = grant.userRows.apply (grant.groupRows.apply tables) := by
  apply Replacement.apply_join
  intro t row hrow
  cases t with
  | radcheck => cases hrow
  | radusergroup => cases hrow
  | radgroupreply => rfl
  | radgroupcheck => rfl

/-- The rows of an attempt are absorbed by a later one that succeeds. -/
theorem rows_absorb_group (tables : RadiusTables) :
    grant.rows.apply (grant.groupRows.apply tables) = grant.rows.apply tables := by
  apply Replacement.apply_apply
  intro t row h
  exact (congrArg (· || grant.userRows.matching t row) h).trans (Bool.true_or _)

theorem rows_absorb_rows (tables : RadiusTables) :
    grant.rows.apply (grant.rows.apply tables) = grant.rows.apply tables :=
  Replacement.apply_apply (fun _ _ h => h) tables

/-- A request to the agent runs the statements of the direct transport. -/
theorem packageGroupRoute_groupCall :
    packageGroupRoute (grant.groupCall.outgoing.jsonBody.getD []) =
      route (some grant.groupProgram) := by
  have hbody : PackageGroupRequest.ofBody (grant.groupCall.outgoing.jsonBody.getD []) = _ :=
    ofBody_syncRadiusPackageGroup grant.packageId grant.package.downloadSpeedKbps
      grant.package.uploadSpeedKbps grant.sessionTimeoutSeconds grant.package.sessions_pos
  rw [packageGroupRoute, hbody, Option.map_some, syncPackageGroup_eq]
  rfl

theorem userRoute_userCall :
    userRoute (grant.userCall.outgoing.jsonBody.getD []) = route (some grant.userProgram) := rfl

/-- What two transactions leave, the second of which follows where the first one returns. -/
theorem andThen_cases {outcome : Bool × RadiusTables}
    {next : RadiusTables → Bool × RadiusTables} {tables : RadiusTables}
    (houtcome : Transacted grant.groupProgram tables outcome)
    (hnext : ∀ tables, Transacted grant.userProgram tables (next tables)) :
    ((andThen outcome next).2 = tables ∨
      (andThen outcome next).2 = grant.groupRows.apply tables ∨
      (andThen outcome next).2 = grant.rows.apply tables) ∧
    ((andThen outcome next).1 = true →
      (andThen outcome next).2 = grant.rows.apply tables) := by
  obtain ⟨ok, final⟩ := outcome
  rw [apply_rows, ← execute_groupProgram, ← execute_userProgram]
  cases ok with
  | false =>
    refine ⟨?_, nofun⟩
    rcases houtcome.stored with h | h
    · exact Or.inl h
    · exact Or.inr (Or.inl h)
  | true =>
    have hfinal : final = execute grant.groupProgram tables := houtcome.returned rfl
    subst hfinal
    refine ⟨?_, (hnext _).returned⟩
    rcases (hnext (execute grant.groupProgram tables)).stored with h | h
    · exact Or.inr (Or.inl h)
    · exact Or.inr (Or.inr h)

theorem provisionAccess_cases (attempt : Attempt) (tables : RadiusTables) :
    ((grant.provisionAccess tables attempt).2 = tables ∨
      (grant.provisionAccess tables attempt).2 = grant.groupRows.apply tables ∨
      (grant.provisionAccess tables attempt).2 = grant.rows.apply tables) ∧
    ((grant.provisionAccess tables attempt).1 = true →
      (grant.provisionAccess tables attempt).2 = grant.rows.apply tables) := by
  cases attempt with
  | direct group user =>
    exact grant.andThen_cases (transacted _ group tables) (transacted _ user)
  | agent group user =>
    rw [provisionAccess, packageGroupRoute_groupCall, userRoute_userCall]
    exact grant.andThen_cases (transacted_route _ group tables) (transacted_route _ user)
  | unavailable => exact ⟨Or.inl rfl, nofun⟩

/-- The rows to be are the same after every attempt. -/
theorem rows_absorb (attempt : Attempt) (tables : RadiusTables) :
    grant.rows.apply (grant.attempted attempt tables) = grant.rows.apply tables := by
  rw [attempted]
  rcases (grant.provisionAccess_cases attempt tables).1 with h | h | h
  · rw [h]
  · rw [h, rows_absorb_group]
  · rw [h, rows_absorb_rows]

theorem rows_absorb_run (attempts : List Attempt) (tables : RadiusTables) :
    grant.rows.apply (Runs.run grant.attempted attempts tables) = grant.rows.apply tables := by
  apply Runs.run_kept fun state => grant.rows.apply state = grant.rows.apply tables
  · intro attempt state h
    rw [rows_absorb, h]
  · rfl

/-! ## Convergence -/

/-- Both transports leave the same rows, an attempt that succeeds leaves them after any others,
the group has the attributes of the package only, and everything else is as it was. -/
structure Converges (tables : RadiusTables) : Prop where
  granted : (grant.provisionAccess tables directly).1 = true
  agree : grant.provisionAccess tables throughAgent = grant.provisionAccess tables directly
  retried : ∀ attempts last,
    (grant.provisionAccess (Runs.run grant.attempted attempts tables) last).1 = true →
    (grant.provisionAccess (Runs.run grant.attempted attempts tables) last).2 =
      grant.attempted directly tables
  replies : (grant.attempted directly tables .radgroupreply).filter
      (fun row : RadGroupAttribute => row.groupname = grant.groupname) =
    (RadiusDb.replyAttributes grant.package.downloadSpeedKbps grant.package.uploadSpeedKbps
      grant.sessionTimeoutSeconds).map fun (attributeName, value) =>
        ⟨grant.groupname, attributeName, ":=", value⟩
  speed : grant.package.downloadSpeedKbps = none ∨ grant.package.uploadSpeedKbps = none →
    ∀ row : RadGroupAttribute, row ∈ grant.attempted directly tables .radgroupreply →
      row.groupname = grant.groupname → row.attributeName ≠ "Mikrotik-Rate-Limit"
  timeout : grant.package.durationMinutes = none →
    ∀ row : RadGroupAttribute, row ∈ grant.attempted directly tables .radgroupreply →
      row.groupname = grant.groupname → row.attributeName ≠ "Session-Timeout"
  otherChecks : ∀ username, username ≠ grant.customerPhone →
    (grant.attempted directly tables .radcheck).filter
      (fun row : RadCheck => row.username = username) =
    (tables .radcheck).filter fun row : RadCheck => row.username = username
  otherUsers : ∀ username, username ≠ grant.customerPhone →
    (grant.attempted directly tables .radusergroup).filter
      (fun row : RadUserGroup => row.username = username) =
    (tables .radusergroup).filter fun row : RadUserGroup => row.username = username
  otherReplies : ∀ groupname, groupname ≠ grant.groupname →
    (grant.attempted directly tables .radgroupreply).filter
      (fun row : RadGroupAttribute => row.groupname = groupname) =
    (tables .radgroupreply).filter fun row : RadGroupAttribute => row.groupname = groupname
  otherGroupChecks : ∀ groupname, groupname ≠ grant.groupname →
    (grant.attempted directly tables .radgroupcheck).filter
      (fun row : RadGroupAttribute => row.groupname = groupname) =
    (tables .radgroupcheck).filter fun row : RadGroupAttribute => row.groupname = groupname

theorem attempted_directly (tables : RadiusTables) :
    grant.attempted directly tables = grant.rows.apply tables :=
  (grant.provisionAccess_cases directly tables).2 rfl

/-- The replies of the group are those of the package. -/
theorem filter_groupReplies (tables : RadiusTables) :
    (grant.attempted directly tables .radgroupreply).filter
      (fun row : RadGroupAttribute => row.groupname = grant.groupname) =
    (RadiusDb.replyAttributes grant.package.downloadSpeedKbps grant.package.uploadSpeedKbps
      grant.sessionTimeoutSeconds).map fun (attributeName, value) =>
        ⟨grant.groupname, attributeName, ":=", value⟩ := by
  have hmatching : (fun row : RadGroupAttribute => decide (row.groupname = grant.groupname)) =
      grant.rows.matching RadiusTable.radgroupreply := by
    funext row
    exact (Bool.or_false _).symm
  rw [attempted_directly, hmatching, grant.rows.filter_matching tables RadiusTable.radgroupreply]
  exact List.append_nil _

theorem mem_groupReplies {tables : RadiusTables} {row : RadGroupAttribute}
    (h : row ∈ grant.attempted directly tables RadiusTable.radgroupreply)
    (hgroup : row.groupname = grant.groupname) :
    (row.attributeName, row.value) ∈
      RadiusDb.replyAttributes grant.package.downloadSpeedKbps grant.package.uploadSpeedKbps
        grant.sessionTimeoutSeconds := by
  have hmem : row ∈ (grant.attempted directly tables .radgroupreply).filter
      (fun row : RadGroupAttribute => row.groupname = grant.groupname) :=
    List.mem_filter.mpr ⟨h, decide_eq_true hgroup⟩
  rw [filter_groupReplies] at hmem
  obtain ⟨⟨attributeName, value⟩, hreply, rfl⟩ := List.mem_map.mp hmem
  exact hreply

theorem nonzero_none : RadiusDb.nonzero none = none := rfl

/-- Without one of the speeds there is no limit on the rate. -/
theorem rateLimit_notMem {download upload timeout : Option ℤ} {value : String}
    (h : download = none ∨ upload = none) :
    ("Mikrotik-Rate-Limit", value) ∉ RadiusDb.replyAttributes download upload timeout := by
  intro hmem
  rw [RadiusDb.replyAttributes] at hmem
  rcases List.mem_append.mp hmem with hmem | hmem
  · rcases h with rfl | rfl
    · cases hmem
    · cases hdownload : RadiusDb.nonzero download with
      | none =>
        rw [hdownload] at hmem
        cases hmem
      | some n =>
        rw [hdownload] at hmem
        cases hmem
  · cases hseconds : RadiusDb.nonzero timeout with
    | none =>
      rw [hseconds] at hmem
      cases hmem
    | some seconds =>
      rw [hseconds] at hmem
      exact absurd (congrArg Prod.fst (List.mem_singleton.mp hmem)) (by simp)

/-- Without a timeout none is set. -/
theorem sessionTimeout_notMem {download upload : Option ℤ} {value : String} :
    ("Session-Timeout", value) ∉ RadiusDb.replyAttributes download upload none := by
  intro hmem
  rw [RadiusDb.replyAttributes, nonzero_none, List.append_nil] at hmem
  cases hdownload : RadiusDb.nonzero download with
  | none =>
    rw [hdownload] at hmem
    cases hmem
  | some n =>
    rw [hdownload] at hmem
    cases hupload : RadiusDb.nonzero upload with
    | none =>
      rw [hupload] at hmem
      cases hmem
    | some m =>
      rw [hupload] at hmem
      exact absurd (congrArg Prod.fst (List.mem_singleton.mp hmem)) (by simp)

theorem provisionAccess_converges (tables : RadiusTables) : grant.Converges tables where
  granted := rfl
  agree := by
    rw [throughAgent, provisionAccess, packageGroupRoute_groupCall, userRoute_userCall]
    rfl
  retried := by
    intro attempts last h
    rw [(grant.provisionAccess_cases last _).2 h, rows_absorb_run, attempted_directly]
  replies := grant.filter_groupReplies tables
  speed := by
    intro hnone row hrow hgroup hname
    have hmem := grant.mem_groupReplies hrow hgroup
    rw [hname] at hmem
    exact rateLimit_notMem hnone hmem
  timeout := by
    intro hnone row hrow hgroup hname
    have hmem := grant.mem_groupReplies hrow hgroup
    rw [hname, sessionTimeoutSeconds, hnone] at hmem
    exact sessionTimeout_notMem hmem
  otherChecks := by
    intro username hne
    rw [attempted_directly]
    apply grant.rows.filter_apart tables RadiusTable.radcheck
    intro row hrow
    have hother : row.username ≠ grant.customerPhone := of_decide_eq_true hrow ▸ hne
    exact decide_eq_false fun h => hother h.1
  otherUsers := by
    intro username hne
    rw [attempted_directly]
    apply grant.rows.filter_apart tables RadiusTable.radusergroup
    intro row hrow
    have hother : row.username ≠ grant.customerPhone := of_decide_eq_true hrow ▸ hne
    exact decide_eq_false hother
  otherReplies := by
    intro groupname hne
    rw [attempted_directly]
    apply grant.rows.filter_apart tables RadiusTable.radgroupreply
    intro row hrow
    have hother : row.groupname ≠ grant.groupname := of_decide_eq_true hrow ▸ hne
    exact (Bool.or_false _).trans (decide_eq_false hother)
  otherGroupChecks := by
    intro groupname hne
    rw [attempted_directly]
    apply grant.rows.filter_apart tables RadiusTable.radgroupcheck
    intro row hrow
    have hother : row.groupname ≠ grant.groupname := of_decide_eq_true hrow ▸ hne
    exact (Bool.or_false _).trans (decide_eq_false hother)

end Grant

end InfinityRadius.Services.RadiusTransports
