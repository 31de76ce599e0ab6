import InfinityRadius.Core.Replacing
import InfinityRadius.Services.RadiusSync

/-!
# The statements of RADIUS provisioning

`services/radius_sync.py` statement by statement.  What its two transactions come to is what the
rest of the development takes them for.
-/

namespace InfinityRadius.Services

open Replacing

inductive RadiusTable
  | radcheck | radusergroup | radgroupreply | radgroupcheck
deriving DecidableEq

abbrev RadiusRow : RadiusTable → Type
  | .radcheck => RadCheck
  | .radusergroup => RadUserGroup
  | .radgroupreply | .radgroupcheck => RadGroupAttribute

abbrev RadiusTables := Tables RadiusRow

def RadiusDb.tables (radius : RadiusDb) : RadiusTables
  | .radcheck => radius.radcheck
  | .radusergroup => radius.radusergroup
  | .radgroupreply => radius.radgroupreply
  | .radgroupcheck => radius.radgroupcheck

abbrev RadiusStatement := Statement RadiusRow

namespace RadiusStatement

def deleteGroupReplies (groupname : String) : RadiusStatement :=
  .delete .radgroupreply fun row : RadGroupAttribute => row.groupname = groupname

def deleteGroupChecks (groupname : String) : RadiusStatement :=
  .delete .radgroupcheck fun row : RadGroupAttribute => row.groupname = groupname

def insertGroupReply (groupname attributeName value : String) : RadiusStatement :=
  .insert .radgroupreply (⟨groupname, attributeName, ":=", value⟩ : RadGroupAttribute)

def insertSimultaneousUse (groupname value : String) : RadiusStatement :=
  .insert .radgroupcheck (⟨groupname, "Simultaneous-Use", ":=", value⟩ : RadGroupAttribute)

def deletePassword (username : String) : RadiusStatement :=
  .delete .radcheck fun row : RadCheck =>
    row.username = username ∧ row.attributeName = cleartextPassword

def insertPassword (username password : String) : RadiusStatement :=
  .insert .radcheck (⟨username, cleartextPassword, ":=", password⟩ : RadCheck)

def deleteUserGroups (username : String) : RadiusStatement :=
  .delete .radusergroup fun row : RadUserGroup => row.username = username

def insertUserGroup (username groupname : String) : RadiusStatement :=
  .insert .radusergroup (⟨username, groupname, 1⟩ : RadUserGroup)

end RadiusStatement

open RadiusStatement

/-! ## The direct transport -/

namespace RadiusSync

/-- `radius_group_name`, of the text of a package's id. -/
def radiusGroupName (packageId : String) : String := "pkg_" ++ packageId

def syncPackageRadiusGroup (packageId : String)
    (downloadSpeedKbps uploadSpeedKbps sessionTimeoutSeconds : Option ℤ)
    (simultaneousSessions : ℤ) : List RadiusStatement :=
  let groupName := radiusGroupName packageId
  let replies :=
    RadiusDb.replyAttributes downloadSpeedKbps uploadSpeedKbps sessionTimeoutSeconds
  [deleteGroupReplies groupName, deleteGroupChecks groupName] ++
    (replies.map fun (attributeName, value) => insertGroupReply groupName attributeName value) ++
    [insertSimultaneousUse groupName (toString simultaneousSessions)]

def provisionCustomerRadiusAccess (customerPhone packageId radiusPassword : String) :
    List RadiusStatement :=
  [deletePassword customerPhone, insertPassword customerPhone radiusPassword,
    deleteUserGroups customerPhone,
    insertUserGroup customerPhone (radiusGroupName packageId)]

end RadiusSync

/-! ## Their effect -/

/-- The rows of a group in the place of those it had. -/
def groupReplacement (groupname : String) (replies : List (String × String)) (sessions : String) :
    Replacement RadiusRow where
  matching
    | .radgroupreply, (row : RadGroupAttribute) => row.groupname = groupname
    | .radgroupcheck, (row : RadGroupAttribute) => row.groupname = groupname
    | _, _ => false
  rows
    | .radgroupreply => replies.map fun (attributeName, value) =>
        (⟨groupname, attributeName, ":=", value⟩ : RadGroupAttribute)
    | .radgroupcheck => [(⟨groupname, "Simultaneous-Use", ":=", sessions⟩ : RadGroupAttribute)]
    | _ => []
  inside := by
    intro t row hrow
    cases t with
    | radcheck => cases hrow
    | radusergroup => cases hrow
    | radgroupreply =>
      obtain ⟨reply, -, rfl⟩ := List.mem_map.mp hrow
      exact decide_eq_true rfl
    | radgroupcheck =>
      obtain rfl := List.mem_singleton.mp hrow
      exact decide_eq_true rfl

/-- The password and the group of a user in the place of those it had. -/
def userReplacement (username groupname password : String) : Replacement RadiusRow where
  matching
    | .radcheck, (row : RadCheck) =>
      row.username = username ∧ row.attributeName = cleartextPassword
    | .radusergroup, (row : RadUserGroup) => row.username = username
    | _, _ => false
  rows
    | .radcheck => [(⟨username, cleartextPassword, ":=", password⟩ : RadCheck)]
    | .radusergroup => [(⟨username, groupname, 1⟩ : RadUserGroup)]
    | _ => []
  inside := by
    intro t row hrow
    cases t with
    | radcheck =>
      obtain rfl := List.mem_singleton.mp hrow
      exact decide_eq_true ⟨rfl, rfl⟩
    | radusergroup =>
      obtain rfl := List.mem_singleton.mp hrow
      exact decide_eq_true rfl
    | radgroupreply => cases hrow
    | radgroupcheck => cases hrow

/-- Deletes of a group and inserts into it replace its rows. -/
theorem execute_groupProgram (groupname : String) (replies : List (String × String))
    (sessions : String) (tables : RadiusTables) :
    execute ([deleteGroupReplies groupname, deleteGroupChecks groupname] ++
      (replies.map fun (attributeName, value) => insertGroupReply groupname attributeName value) ++
      [insertSimultaneousUse groupname sessions]) tables =
      (groupReplacement groupname replies sessions).apply tables := by
  have hloop : (replies.map fun (attributeName, value) =>
      insertGroupReply groupname attributeName value) =
      ((groupReplacement groupname replies sessions).rows RadiusTable.radgroupreply).map
        (.insert RadiusTable.radgroupreply) := by
    rw [groupReplacement, List.map_map]
    rfl
  rw [hloop, execute_append, execute_append, execute_inserts]
  simp only [execute_cons, execute_nil, deleteGroupReplies, deleteGroupChecks,
    insertSimultaneousUse, Statement.execute]
  funext t
  cases t with
  | radcheck => simp [Replacement.apply, groupReplacement]
  | radusergroup => simp [Replacement.apply, groupReplacement]
  | radgroupreply => simp [Replacement.apply, groupReplacement]
  | radgroupcheck => simp [Replacement.apply, groupReplacement]

theorem execute_userProgram (username groupname password : String) (tables : RadiusTables) :
    execute [deletePassword username, insertPassword username password,
      deleteUserGroups username, insertUserGroup username groupname] tables =
      (userReplacement username groupname password).apply tables := by
  simp only [execute_cons, execute_nil, deletePassword, insertPassword, deleteUserGroups,
    insertUserGroup, Statement.execute]
  funext t
  cases t with
  | radcheck => simp [Replacement.apply, userReplacement]
  | radusergroup => simp [Replacement.apply, userReplacement]
  | radgroupreply => simp [Replacement.apply, userReplacement]
  | radgroupcheck => simp [Replacement.apply, userReplacement]

/-- The statements of a package do to the rows what the model takes its request for. -/
theorem tables_syncPackageGroup (packageId : ℕ) (download upload timeout : Option ℤ)
    (sessions : ℤ) (radius : RadiusDb) :
    (radius.syncPackageGroup packageId download upload timeout sessions).tables =
      execute (RadiusSync.syncPackageRadiusGroup (toString packageId) download upload timeout
        sessions) radius.tables := by
  have hname : radiusGroupName packageId = RadiusSync.radiusGroupName (toString packageId) := rfl
  rw [RadiusSync.syncPackageRadiusGroup, execute_groupProgram, RadiusDb.syncPackageGroup, hname]
  funext t
  cases t with
  | radcheck => simp [Replacement.apply, groupReplacement, RadiusDb.tables]
  | radusergroup => simp [Replacement.apply, groupReplacement, RadiusDb.tables]
  | radgroupreply => simp only [Replacement.apply, groupReplacement, RadiusDb.tables, decide_not]
  | radgroupcheck => simp only [Replacement.apply, groupReplacement, RadiusDb.tables, decide_not]

theorem tables_provisionUser (username : String) (packageId : ℕ) (password : String)
    (radius : RadiusDb) :
    (radius.provisionUser username packageId password).tables =
      execute (RadiusSync.provisionCustomerRadiusAccess username (toString packageId) password)
        radius.tables := by
  have hname : radiusGroupName packageId = RadiusSync.radiusGroupName (toString packageId) := rfl
  rw [RadiusSync.provisionCustomerRadiusAccess, execute_userProgram, RadiusDb.provisionUser, hname]
  funext t
  cases t with
  | radcheck => simp only [Replacement.apply, userReplacement, RadiusDb.tables, decide_not]
  | radusergroup => simp only [Replacement.apply, userReplacement, RadiusDb.tables, decide_not]
  | radgroupreply => simp [Replacement.apply, userReplacement, RadiusDb.tables]
  | radgroupcheck => simp [Replacement.apply, userReplacement, RadiusDb.tables]

end InfinityRadius.Services
