import SqlMonitor.Db.Models
import SqlMonitor.Shared.InsertionDict

set_option autoImplicit false

namespace SqlMonitor.Services

inductive Role where
  | viewer
  | developer
  | dba
  | admin
deriving DecidableEq

structure User where
  id : Uuid
  username : String
  displayName : Option String
  role : Role
deriving DecidableEq

inductive UserStatus where
  | active
  | disabled
deriving DecidableEq

structure UserRow extends User where
  passwordHash : String
  status : UserStatus
deriving DecidableEq

abbrev UserTable := InsertionDict Uuid UserRow

structure HttpError where
  statusCode : Nat
  detail : String
deriving DecidableEq

def credentialsError : HttpError := ⟨401, "认证凭据无效"⟩

def forbidden : HttpError := ⟨403, "当前用户无权执行该操作"⟩

-- `current_user`, once the token has named a user.
def activeUser (users : UserTable) (userId : Uuid) : Except HttpError UserRow :=
  match users.get? userId with
  | none => .error credentialsError
  | some user => if user.status = .active then .ok user else .error credentialsError

def requireRoles (roles : List Role) (user : UserRow) : Except HttpError UserRow :=
  if user.role ∈ roles then .ok user else .error forbidden

theorem activeUser_eq_ok {users : UserTable} {userId : Uuid} {user : UserRow} :
    activeUser users userId = .ok user ↔ users.get? userId = some user ∧ user.status = .active := by
  unfold activeUser
  cases users.get? userId with
  | none => simp
  | some found =>
      by_cases active : found.status = .active
      · simp only [active, if_true, Except.ok.injEq, Option.some.injEq]
        constructor
        · rintro rfl
          exact ⟨rfl, active⟩
        · exact And.left
      · simp only [active, if_false, reduceCtorEq, Option.some.injEq, false_iff, not_and]
        rintro rfl
        exact active

theorem requireRoles_eq_ok {roles : List Role} {user allowed : UserRow} :
    requireRoles roles user = .ok allowed ↔ user = allowed ∧ user.role ∈ roles := by
  unfold requireRoles
  split <;> simp_all

end SqlMonitor.Services
