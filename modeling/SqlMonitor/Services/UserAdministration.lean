import SqlMonitor.Services.Users
import SqlMonitor.Shared.TransitionSystem
import SqlMonitor.Shared.WriteBack

set_option autoImplicit false

namespace SqlMonitor.UserAdministration

open Services TransitionSystem

abbrev RequestId := Nat

structure UserCreate where
  username : String
  password : String
  displayName : Option String
  role : Role
  usernameLength : 1 ≤ username.length ∧ username.length ≤ 128
  passwordLength : 8 ≤ password.length ∧ password.length ≤ 256
  displayNameLength : ∀ name, displayName = some name → name.length ≤ 128

structure UserUpdate where
  displayName : Option String
  role : Role
  status : UserStatus
  displayNameLength : ∀ name, displayName = some name → name.length ≤ 128

structure UserPasswordReset where
  password : String
  passwordLength : 8 ≤ password.length ∧ password.length ≤ 256

inductive UserRequest where
  | create (payload : UserCreate)
  | update (userId : Uuid) (payload : UserUpdate)
  | disable (userId : Uuid)
  | resetPassword (userId : Uuid) (payload : UserPasswordReset)

inductive UserReply where
  | user (row : UserRow)
  | httpError (error : HttpError)

/-- A request that was let in: who asks, and the row it has loaded. -/
structure Pending where
  operator : UserRow
  request : UserRequest
  target : Option UserRow

structure State where
  users : UserTable
  requests : RequestId → Option Pending
  replies : List (RequestId × UserReply)

inductive Action where
  | authorise (id : RequestId) (operatorId : Uuid) (request : UserRequest)
  | load (id : RequestId)
  -- The id of a new user, and the hash of the password that was given.
  | commit (id : RequestId) (newId : Uuid) (passwordHash : String)
  -- Anything else that ends the request without a commit.
  | abandon (id : RequestId)

section Requests

def userNotFound : HttpError := ⟨404, "用户不存在"⟩

def usernameTaken : HttpError := ⟨409, "用户名已存在"⟩

def cannotDisableSelf : HttpError := ⟨400, "不能禁用当前登录用户"⟩

def UserRequest.userId? : UserRequest → Option Uuid
  | .create _ => none
  | .update userId _ | .disable userId | .resetPassword userId _ => some userId

-- What the routes refuse before they call the service.
def disablesSelf (operator : UserRow) : UserRequest → Bool
  | .update userId payload => userId = operator.id && payload.status = .disabled
  | .disable userId => userId = operator.id
  | _ => false

def openRoute (users : UserTable) (operatorId : Uuid) (request : UserRequest) :
    Except HttpError Pending := do
  let operator ← requireRoles [.admin] (← activeUser users operatorId)
  if disablesSelf operator request then .error cannotDisableSelf
  else .ok ⟨operator, request, none⟩

-- `session.get`: the operator was loaded in the same session and is not read again.
def getUser (users : UserTable) (operator : UserRow) (userId : Uuid) : Option UserRow :=
  if userId = operator.id then some operator else users.get? userId

def UserRequest.change (passwordHash : String) (loaded : UserRow) : UserRequest → UserRow
  | .create _ => loaded
  | .update _ payload =>
    { loaded with
      displayName := payload.displayName, role := payload.role, status := payload.status }
  | .disable _ => { loaded with status := .disabled }
  | .resetPassword _ _ => { loaded with passwordHash }

-- The flush writes the columns that differ from what was loaded.
def flushRow (loaded changed stored : UserRow) : UserRow :=
  { stored with
    displayName := WriteBack.flush (some loaded.displayName) changed.displayName stored.displayName
    role := WriteBack.flush (some loaded.role) changed.role stored.role
    status := WriteBack.flush (some loaded.status) changed.status stored.status
    passwordHash :=
      WriteBack.flush (some loaded.passwordHash) changed.passwordHash stored.passwordHash }

def newUser (payload : UserCreate) (newId : Uuid) (passwordHash : String) : UserRow where
  id := newId
  username := payload.username
  displayName := payload.displayName
  role := payload.role
  passwordHash := passwordHash
  status := .active

end Requests

section Steps

variable (state : State)

def answered (id : RequestId) (users : UserTable) (reply : UserReply) : State where
  users := users
  requests := Function.update state.requests id none
  replies := state.replies ++ [(id, reply)]

def proceed (id : RequestId) (pending : Pending) : State :=
  { state with requests := Function.update state.requests id (some pending) }

def authorise (id : RequestId) (operatorId : Uuid) (request : UserRequest) : State :=
  match openRoute state.users operatorId request with
  | .ok pending => proceed state id pending
  | .error error => answered state id state.users (.httpError error)

def load (id : RequestId) (pending : Pending) (userId : Uuid) : State :=
  match getUser state.users pending.operator userId with
  | some row => proceed state id { pending with target := some row }
  | none => answered state id state.users (.httpError userNotFound)

def commitCreate (id : RequestId) (payload : UserCreate) (newId : Uuid) (passwordHash : String) :
    State :=
  if payload.username ∈ state.users.values.map (·.username) then
    answered state id state.users (.httpError usernameTaken)
  else
    let row := newUser payload newId passwordHash
    answered state id (state.users.set newId row) (.user row)

def commitChange (id : RequestId) (request : UserRequest) (loaded stored : UserRow)
    (passwordHash : String) : State :=
  let row := flushRow loaded (request.change passwordHash loaded) stored
  answered state id (state.users.set loaded.id row) (.user row)

def step : Action → Option State
  | .authorise id operatorId request =>
    if (state.requests id).isNone then some (authorise state id operatorId request) else none
  | .load id =>
    match state.requests id with
    | some pending =>
      match pending.target, pending.request.userId? with
      | none, some userId => some (load state id pending userId)
      | _, _ => none
    | none => none
  | .commit id newId passwordHash =>
    match state.requests id with
    | some pending =>
      match pending.request, pending.target with
      | .create payload, _ =>
        -- A new id is no one's yet.
        if (state.users.get? newId).isNone then
          some (commitCreate state id payload newId passwordHash)
        else none
      | request, some loaded =>
        (state.users.get? loaded.id).map fun stored =>
          commitChange state id request loaded stored passwordHash
      | _, none => none
    | none => none
  | .abandon id => some { state with requests := Function.update state.requests id none }

end Steps

end SqlMonitor.UserAdministration
