import SqlMonitor.Services.ActiveAdmins
import SqlMonitor.Shared.LastWrites

set_option autoImplicit false

namespace SqlMonitor.UserAdministration

open Services TransitionSystem WriteBack

section History

structure Commit where
  userId : Uuid
  -- None for a new user.
  loaded : Option UserRow
  row : UserRow

def committed (state : State) : Action → Option Commit
  | .commit id newId passwordHash =>
    match state.requests id with
    | some pending =>
      match pending.request, pending.target with
      | .create payload, _ =>
        if payload.username ∈ state.users.values.map (·.username) then none
        else some ⟨newId, none, newUser payload newId passwordHash⟩
      | request, some loaded => some ⟨loaded.id, some loaded, request.change passwordHash loaded⟩
      | _, none => none
    | none => none
  | _ => none

def history (state : State) : List Action → List Commit
  | [] => []
  | action :: rest =>
    (committed state action).toList ++ ((step state action).map (history · rest)).getD []

variable {V : Type} [DecidableEq V]

def Commit.write (column : UserRow → V) (commit : Commit) : Write Uuid V :=
  ⟨commit.userId, commit.loaded.map column, column commit.row⟩

def columnOf (column : UserRow → V) (users : UserTable) (userId : Uuid) : Option V :=
  (users.get? userId).map column

def lastSet (column : UserRow → V) (users : UserTable) (commits : List Commit) (userId : Uuid) :
    Option V :=
  lastWritten userId (columnOf column users userId) (commits.map (Commit.write column))

def Flushed (column : UserRow → V) : Prop :=
  ∀ (loaded current : UserRow) (passwordHash : String) (request : UserRequest),
    column (flushRow loaded (request.change passwordHash loaded) current) =
      flush (some (column loaded)) (column (request.change passwordHash loaded)) (column current)

theorem flushed_role : Flushed (fun row => row.role) := fun _ _ _ _ => rfl

theorem flushed_status : Flushed (fun row => row.status) := fun _ _ _ _ => rfl

theorem flushed_passwordHash : Flushed (fun row => row.passwordHash) := fun _ _ _ _ => rfl

theorem flushed_username : Flushed (fun row => row.username) := by
  intro loaded current passwordHash request
  cases request <;> exact (if_pos rfl).symm

end History

section Steps

variable {V : Type} [DecidableEq V] {column : UserRow → V} {state next : State} {action : Action}

theorem step_cases (stepped : step state action = some next) :
    (committed state action = none ∧ next.users = state.users) ∨
    (∃ (payload : UserCreate) (newId : Uuid) (passwordHash : String), state.users.get? newId = none ∧
      payload.username ∉ state.users.values.map (·.username) ∧
      committed state action = some ⟨newId, none, newUser payload newId passwordHash⟩ ∧
      next.users = state.users.set newId (newUser payload newId passwordHash)) ∨
    (∃ (loaded current : UserRow) (passwordHash : String) (request : UserRequest),
      state.users.get? loaded.id = some current ∧
      committed state action =
        some ⟨loaded.id, some loaded, request.change passwordHash loaded⟩ ∧
      next.users = state.users.set loaded.id
        (flushRow loaded (request.change passwordHash loaded) current)) := by
  cases action with
  | authorise id operatorId request =>
      obtain ⟨-, rfl⟩ := of_guarded stepped
      exact Or.inl ⟨rfl, users_authorise operatorId request⟩
  | load id =>
      simp only [step] at stepped
      split at stepped
      next =>
        split at stepped
        next =>
          obtain rfl := Option.some.inj stepped
          exact Or.inl ⟨rfl, users_load _⟩
        next => simp at stepped
      next => simp at stepped
  | commit id newId passwordHash =>
      simp only [step] at stepped
      split at stepped
      next pending requested =>
        split at stepped
        next _ payload creates =>
          obtain ⟨unused, rfl⟩ := of_guarded stepped
          by_cases taken : payload.username ∈ state.users.values.map (·.username)
          · refine Or.inl ⟨?_, ?_⟩
            · simp only [committed, requested, creates, if_pos taken]
            · simp only [commitCreate, if_pos taken, answered]
          · refine Or.inr (Or.inl ⟨payload, newId, passwordHash, ?_, taken, ?_, ?_⟩)
            · exact Option.isNone_iff_eq_none.mp unused
            · simp only [committed, requested, creates, if_neg taken]
            · simp only [commitCreate, if_neg taken, answered]
        next request loaded target changes =>
          obtain ⟨current, found, rfl⟩ := Option.map_eq_some_iff.mp stepped
          refine Or.inr (Or.inr ⟨loaded, current, passwordHash, pending.request, found, ?_, rfl⟩)
          cases asked : pending.request with
          | create payload => exact absurd asked (changes payload)
          | _ => simp only [committed, requested, target, asked]
        next => simp at stepped
      next => simp at stepped
  | abandon id =>
      obtain rfl := Option.some.inj stepped
      exact Or.inl ⟨rfl, rfl⟩

omit [DecidableEq V] in
theorem columnOf_set (users : UserTable) (userId other : Uuid) (row : UserRow) :
    columnOf column (users.set userId row) other =
      if other = userId then some (column row) else columnOf column users other := by
  rw [columnOf, InsertionDict.get?_set]
  split <;> rfl

theorem columnOf_step (flushed : Flushed column) (stepped : step state action = some next)
    (userId : Uuid) :
    columnOf column next.users userId =
      lastSet column state.users (committed state action).toList userId := by
  obtain ⟨nothing, same⟩ | ⟨payload, newId, passwordHash, -, -, commits, same⟩ |
    ⟨loaded, current, passwordHash, request, found, commits, same⟩ := step_cases stepped
  · rw [same, nothing]
    rfl
  · rw [same, commits, columnOf_set]
    by_cases here : userId = newId
    · rw [if_pos here, here]
      exact (lastWritten_insert newId _ _).symm
    · rw [if_neg here]
      exact (lastWritten_of_ne (Ne.symm here) _).symm
  · rw [same, commits, columnOf_set]
    by_cases here : userId = loaded.id
    · have before : columnOf column state.users loaded.id = some (column current) := by
        rw [columnOf, found, Option.map_some]
      rw [if_pos here, here, flushed, lastSet, before]
      exact (lastWritten_flush loaded.id _ _ (column current)).symm
    · rw [if_neg here]
      exact (lastWritten_of_ne (Ne.symm here) _).symm

end Steps

section Runs

variable {V : Type} [DecidableEq V] {column : UserRow → V} {start final : State}
  {actions : List Action}

theorem columnOf_run (flushed : Flushed column) (ran : run step start actions = some final)
    (userId : Uuid) :
    columnOf column final.users userId =
      lastSet column start.users (history start actions) userId := by
  induction actions generalizing start with
  | nil =>
      obtain rfl := Option.some.inj ran
      rfl
  | cons action rest ih =>
      obtain ⟨next, stepped, later⟩ := run_cons_eq_some ran
      have commits : history start (action :: rest) =
          (committed start action).toList ++ history next rest := by
        simp only [history, stepped, Option.map_some, Option.getD_some]
      rw [ih later, commits, lastSet, lastSet, List.map_append, lastWritten_append,
        columnOf_step flushed stepped]
      rfl

end Runs

section Identities

structure Identified (users : UserTable) : Prop where
  keyed : ∀ userId row, users.get? userId = some row → row.id = userId
  unique : ∀ userId other row twin, users.get? userId = some row → users.get? other = some twin →
    row.username = twin.username → userId = other

variable {users : UserTable} {start state next final : State} {action : Action}
  {actions : List Action}

theorem Identified.keep (identified : Identified users) {userId : Uuid} {current row : UserRow}
    (found : users.get? userId = some current) (id : row.id = current.id)
    (username : row.username = current.username) : Identified (users.set userId row) := by
  -- Every row of the table has the identity of the row that stood there before.
  have before : ∀ other changed, (users.set userId row).get? other = some changed →
      ∃ kept, users.get? other = some kept ∧ changed.id = kept.id ∧
        changed.username = kept.username := by
    intro other changed stands
    rw [InsertionDict.get?_set] at stands
    split at stands
    next here =>
      obtain rfl := Option.some.inj stands
      exact ⟨current, here ▸ found, id, username⟩
    next => exact ⟨changed, stands, rfl, rfl⟩
  refine ⟨?_, ?_⟩
  · intro other changed stands
    obtain ⟨kept, stood, same, -⟩ := before other changed stands
    exact same.trans (identified.keyed other kept stood)
  · intro one other row twin stands beside same
    obtain ⟨kept, stood, -, name⟩ := before one row stands
    obtain ⟨keptTwin, stoodTwin, -, nameTwin⟩ := before other twin beside
    exact identified.unique one other kept keptTwin stood stoodTwin
      (name.symm.trans (same.trans nameTwin))

theorem Identified.insert (identified : Identified users) {payload : UserCreate} {newId : Uuid}
    (free : payload.username ∉ users.values.map (·.username)) (passwordHash : String) :
    Identified (users.set newId (newUser payload newId passwordHash)) := by
  have others : ∀ userId row, users.get? userId = some row → row.username ≠ payload.username := by
    intro userId row stands same
    have listed : row ∈ users.values := (InsertionDict.mem_values_iff users row).mpr ⟨userId, stands⟩
    exact free (List.mem_map.mpr ⟨row, listed, same⟩)
  refine ⟨?_, ?_⟩
  · intro userId row stands
    rw [InsertionDict.get?_set] at stands
    split at stands
    next here =>
      obtain rfl := Option.some.inj stands
      exact here.symm
    next => exact identified.keyed userId row stands
  · intro userId other row twin stands beside same
    rw [InsertionDict.get?_set] at stands beside
    split at stands
    next here =>
      obtain rfl := Option.some.inj stands
      split at beside
      next there => exact here.trans there.symm
      next => exact absurd same.symm (others other twin beside)
    next =>
      split at beside
      next =>
        obtain rfl := Option.some.inj beside
        exact absurd same (others userId row stands)
      next => exact identified.unique userId other row twin stands beside same

theorem identified_step (identified : Identified state.users)
    (stepped : step state action = some next) : Identified next.users := by
  obtain ⟨-, same⟩ | ⟨payload, newId, passwordHash, -, free, -, same⟩ |
    ⟨loaded, current, passwordHash, request, found, -, same⟩ := step_cases stepped
  · rw [same]
    exact identified
  · rw [same]
    exact identified.insert free passwordHash
  · rw [same]
    exact identified.keep found rfl rfl

theorem identified_run (identified : Identified start.users)
    (ran : run step start actions = some final) : Identified final.users :=
  run_invariant (I := fun state => Identified state.users)
    (fun _ _ _ kept stepped => identified_step kept stepped) identified ran

end Identities

end SqlMonitor.UserAdministration
