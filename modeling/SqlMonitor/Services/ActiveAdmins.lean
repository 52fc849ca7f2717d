import SqlMonitor.Services.UserAdministration

set_option autoImplicit false

namespace SqlMonitor.UserAdministration

open Services TransitionSystem

section Rights

structure ActiveAdmin (row : UserRow) : Prop where
  status : row.status = .active
  role : row.role = .admin

def HasAdmin (users : UserTable) : Prop := ∃ id row, users.get? id = some row ∧ ActiveAdmin row

def OtherAdmin (users : UserTable) (userId : Uuid) : Prop :=
  ∃ id row, id ≠ userId ∧ users.get? id = some row ∧ ActiveAdmin row

/-- The flush of the request writes another role than admin, or another status than active. -/
def TakesRights (loaded : UserRow) : UserRequest → Prop
  | .create _ | .resetPassword _ _ => False
  | .update _ payload =>
    (payload.role ≠ loaded.role ∧ payload.role ≠ .admin) ∨
      (payload.status ≠ loaded.status ∧ payload.status ≠ .active)
  | .disable _ => loaded.status ≠ .disabled

/-- Rights are taken from an active administrator only while there is another one. -/
def LeavesAdmin (state : State) : Action → Prop
  | .commit id _ _ => ∀ pending loaded stored, state.requests id = some pending →
    pending.target = some loaded → state.users.get? loaded.id = some stored →
      ActiveAdmin stored → TakesRights loaded pending.request → OtherAdmin state.users loaded.id
  | _ => True

variable {users : UserTable} {userId : Uuid} {row loaded stored : UserRow}

theorem hasAdmin_set : HasAdmin (users.set userId row) ↔ ActiveAdmin row ∨ OtherAdmin users userId := by
  constructor
  · rintro ⟨id, found, stored, admin⟩
    rw [InsertionDict.get?_set] at stored
    split at stored
    next same =>
      obtain rfl := Option.some.inj stored
      exact Or.inl admin
    next apart => exact Or.inr ⟨id, found, apart, stored, admin⟩
  · rintro (admin | ⟨id, found, apart, stored, admin⟩)
    · exact ⟨userId, row, by rw [InsertionDict.get?_set, if_pos rfl], admin⟩
    · exact ⟨id, found, by rw [InsertionDict.get?_set, if_neg apart, stored], admin⟩

theorem otherAdmin_of_not (has : HasAdmin users)
    (powerless : ∀ stored, users.get? userId = some stored → ¬ ActiveAdmin stored) :
    OtherAdmin users userId := by
  obtain ⟨id, row, found, admin⟩ := has
  refine ⟨id, row, ?_, found, admin⟩
  rintro rfl
  exact powerless row found admin

theorem activeAdmin_flushRow (request : UserRequest) (passwordHash : String)
    (admin : ActiveAdmin stored) :
    ActiveAdmin (flushRow loaded (request.change passwordHash loaded) stored) ↔
      ¬ TakesRights loaded request := by
  obtain ⟨active, role⟩ := admin
  have split : ActiveAdmin (flushRow loaded (request.change passwordHash loaded) stored) ↔
      (loaded.status = (request.change passwordHash loaded).status ∨
          (request.change passwordHash loaded).status = .active) ∧
        (loaded.role = (request.change passwordHash loaded).role ∨
          (request.change passwordHash loaded).role = .admin) := by
    constructor
    · intro kept
      have status := kept.status
      have role' := kept.role
      simp only [flushRow, active, role, WriteBack.Store.flush_eq_iff, Option.some.injEq] at status role'
      exact ⟨status, role'⟩
    · intro kept
      refine ⟨?_, ?_⟩
      · simp only [flushRow, active, WriteBack.Store.flush_eq_iff, Option.some.injEq]
        exact kept.1
      · simp only [flushRow, role, WriteBack.Store.flush_eq_iff, Option.some.injEq]
        exact kept.2
  rw [split]
  cases request with
  | create payload => simp [UserRequest.change, TakesRights]
  | update userId payload =>
      simp only [UserRequest.change, TakesRights]
      tauto
  | disable userId => simp [UserRequest.change, TakesRights]
  | resetPassword userId payload => simp [UserRequest.change, TakesRights]

end Rights

section Steps

variable {state next : State} {action : Action} {id : RequestId} {pending : Pending}

theorem users_authorise (operatorId : Uuid) (request : UserRequest) :
    (authorise state id operatorId request).users = state.users := by
  unfold authorise
  split <;> rfl

theorem users_load (userId : Uuid) : (load state id pending userId).users = state.users := by
  unfold load
  split <;> rfl

theorem hasAdmin_commitCreate (has : HasAdmin state.users) (payload : UserCreate) {newId : Uuid}
    (unused : state.users.get? newId = none) (passwordHash : String) :
    HasAdmin (commitCreate state id payload newId passwordHash).users := by
  unfold commitCreate
  split
  next => exact has
  next =>
    refine hasAdmin_set.mpr (Or.inr (otherAdmin_of_not has ?_))
    intro stored found
    simp [unused] at found

theorem hasAdmin_commitChange {loaded stored : UserRow} (has : HasAdmin state.users)
    (request : UserRequest) (found : state.users.get? loaded.id = some stored)
    (passwordHash : String) :
    HasAdmin (commitChange state id request loaded stored passwordHash).users ↔
      (ActiveAdmin stored → TakesRights loaded request → OtherAdmin state.users loaded.id) := by
  have set : HasAdmin (commitChange state id request loaded stored passwordHash).users ↔
      ActiveAdmin (flushRow loaded (request.change passwordHash loaded) stored) ∨
        OtherAdmin state.users loaded.id := hasAdmin_set
  rw [set]
  by_cases admin : ActiveAdmin stored
  · rw [activeAdmin_flushRow request passwordHash admin]
    tauto
  · -- Who was no administrator before does not count as the last one.
    have other : OtherAdmin state.users loaded.id := by
      refine otherAdmin_of_not has ?_
      intro current stored'
      obtain rfl := Option.some.inj (found.symm.trans stored')
      exact admin
    simp [admin, other]

theorem hasAdmin_step (has : HasAdmin state.users) (stepped : step state action = some next) :
    HasAdmin next.users ↔ LeavesAdmin state action := by
  cases action with
  | authorise id operatorId request =>
      obtain ⟨-, rfl⟩ := of_guarded stepped
      simp only [users_authorise, has, LeavesAdmin]
  | load id =>
      simp only [step] at stepped
      split at stepped
      next =>
        split at stepped
        next =>
          obtain rfl := Option.some.inj stepped
          simp only [users_load, has, LeavesAdmin]
        next => simp at stepped
      next => simp at stepped
  | commit id newId passwordHash =>
      simp only [step] at stepped
      split at stepped
      next pending requested =>
        split at stepped
        next _ payload creates =>
          obtain ⟨unused, rfl⟩ := of_guarded stepped
          simp only [hasAdmin_commitCreate has payload (Option.isNone_iff_eq_none.mp unused), true_iff]
          intro other loaded stored found _ _ _ takes
          obtain rfl := Option.some.inj (requested.symm.trans found)
          simp [creates, TakesRights] at takes
        next request loaded target _ =>
          obtain ⟨stored, current, rfl⟩ := Option.map_eq_some_iff.mp stepped
          rw [hasAdmin_commitChange has _ current]
          constructor
          · intro leaves other loaded' stored' found target' current'
            obtain rfl := Option.some.inj (requested.symm.trans found)
            obtain rfl := Option.some.inj (target.symm.trans target')
            obtain rfl := Option.some.inj (current.symm.trans current')
            exact leaves
          · intro leaves
            exact leaves pending loaded stored requested target current
        next => simp at stepped
      next => simp at stepped
  | abandon id =>
      obtain rfl := Option.some.inj stepped
      simp only [has, LeavesAdmin]

end Steps

theorem active_admin_remains_iff {start final : State} {actions : List Action}
    (has : HasAdmin start.users) (ran : run step start actions = some final) :
    Throughout step (fun state => HasAdmin state.users) start actions ↔
      Along step LeavesAdmin start actions := by
  refine throughout_iff_along (J := fun _ => True) (fun _ _ _ _ _ => trivial) ?_ trivial has ran
  intro state action next _ has stepped
  exact hasAdmin_step has stepped

section TwoAdmins

def hasAdmin (users : UserTable) : Bool :=
  users.values.any fun row => row.status = .active ∧ row.role = .admin

theorem hasAdmin_iff {users : UserTable} : hasAdmin users = true ↔ HasAdmin users := by
  simp only [hasAdmin, List.any_eq_true, InsertionDict.mem_values_iff, decide_eq_true_iff]
  constructor
  · rintro ⟨row, ⟨id, found⟩, status, role⟩
    exact ⟨id, row, found, status, role⟩
  · rintro ⟨id, row, found, admin⟩
    exact ⟨row, ⟨id, found⟩, admin.status, admin.role⟩

def endsWithAdmin (start : State) (actions : List Action) : Option Bool :=
  (run step start actions).map fun state => hasAdmin state.users

theorem not_throughout_of_lost {start : State} {actions : List Action}
    (lost : endsWithAdmin start actions = some false) :
    ¬ Throughout step (fun state => HasAdmin state.users) start actions := by
  obtain ⟨final, ran, none⟩ := Option.map_eq_some_iff.mp lost
  intro throughout
  have left := throughout actions [] final (List.append_nil _).symm ran
  simp [hasAdmin_iff.mpr left] at none

def adminRow (id : Uuid) (username : String) : UserRow where
  id := id
  username := username
  displayName := none
  role := .admin
  passwordHash := ""
  status := .active

def oneAdmin : State := ⟨.ofList [(1, adminRow 1 "alice")], fun _ => none, []⟩

def twoAdmins : State :=
  ⟨.ofList [(1, adminRow 1 "alice"), (2, adminRow 2 "bob")], fun _ => none, []⟩

def viewerUpdate : UserUpdate := ⟨none, .viewer, .active, by simp⟩

def alone (operatorId : Uuid) (request : UserRequest) : List Action :=
  [.authorise 0 operatorId request, .load 0, .commit 0 0 ""]

def disableEachOther : List Action :=
  [.authorise 0 1 (.disable 2), .authorise 1 2 (.disable 1), .load 0, .load 1, .commit 0 0 "",
    .commit 1 0 ""]

theorem leavesAdmin_demoted :
    Along step LeavesAdmin twoAdmins (alone 1 (.update 2 viewerUpdate)) := by
  rw [alone, along_cons rfl, along_cons rfl, along_cons rfl]
  refine ⟨trivial, trivial, ?_, along_nil⟩
  intro pending loaded stored found target _ _ _
  obtain rfl := Option.some.inj found
  obtain rfl := Option.some.inj target
  exact ⟨1, adminRow 1 "alice", by decide, by decide, rfl, rfl⟩

theorem active_admin_remains_iff_demoted :
    endsWithAdmin twoAdmins (alone 1 (.update 2 viewerUpdate)) = some true ∧
      Throughout step (fun state => HasAdmin state.users) twoAdmins
        (alone 1 (.update 2 viewerUpdate)) := by
  have ends : endsWithAdmin twoAdmins (alone 1 (.update 2 viewerUpdate)) = some true := by
    decide +kernel
  obtain ⟨final, ran, -⟩ := Option.map_eq_some_iff.mp ends
  exact ⟨ends,
    (active_admin_remains_iff (hasAdmin_iff.mp (by decide)) ran).mpr leavesAdmin_demoted⟩

theorem last_admin_lost :
    (HasAdmin oneAdmin.users ∧ ¬ Throughout step (fun state => HasAdmin state.users) oneAdmin
        (alone 1 (.update 1 viewerUpdate))) ∧
      HasAdmin twoAdmins.users ∧ ¬ Throughout step (fun state => HasAdmin state.users) twoAdmins
        disableEachOther := by
  refine ⟨⟨hasAdmin_iff.mp (by decide), ?_⟩, hasAdmin_iff.mp (by decide), ?_⟩
  · exact not_throughout_of_lost (by decide +kernel)
  · exact not_throughout_of_lost (by decide +kernel)

end TwoAdmins

end SqlMonitor.UserAdministration
