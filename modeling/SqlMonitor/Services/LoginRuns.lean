import SqlMonitor.Services.Logins
import SqlMonitor.Services.UserHistory

set_option autoImplicit false

namespace SqlMonitor.UserAdministration

open Services TransitionSystem WriteBack

section Accounts

variable {Token : Type} (library : LoginLibrary Token)

structure Opens (users : UserTable) (commits : List Commit) (username password : String)
    (userId : Uuid) : Prop where
  named : lastSet (·.username) users commits userId = some username
  active : lastSet (·.status) users commits userId = some .active
  matched : ∃ passwordHash, lastSet (·.passwordHash) users commits userId = some passwordHash ∧
    library.checkpw password passwordHash = .ok true

variable {library} {users : UserTable} {username password : String} {user : UserRow}
  {userId : Uuid}

theorem Identified.find?_eq_some (identified : Identified users) :
    users.values.find? (·.username = username) = some user ↔
      users.get? user.id = some user ∧ user.username = username := by
  constructor
  · intro found
    have named : user.username = username := by simpa using List.find?_some found
    obtain ⟨key, stands⟩ :=
      (InsertionDict.mem_values_iff users user).mp (List.mem_of_find?_eq_some found)
    exact ⟨identified.keyed key user stands ▸ stands, named⟩
  · rintro ⟨stands, named⟩
    have listed : user ∈ users.values := (InsertionDict.mem_values_iff users user).mpr ⟨_, stands⟩
    cases found : users.values.find? (·.username = username) with
    | none => exact absurd named (by simpa using List.find?_eq_none.mp found user listed)
    | some other =>
        have same : other.username = username := by simpa using List.find?_some found
        obtain ⟨key, beside⟩ :=
          (InsertionDict.mem_values_iff users other).mp (List.mem_of_find?_eq_some found)
        have here := identified.unique user.id key user other stands beside (named.trans same.symm)
        rw [← here] at beside
        exact beside.symm.trans stands

theorem Identified.authenticateUser (identified : Identified users) :
    authenticateUser library users username password = .ok (some user) ↔
      users.get? user.id = some user ∧ user.username = username ∧ user.status = .active ∧
        library.checkpw password user.passwordHash = .ok true := by
  rw [authenticateUser_eq_some, identified.find?_eq_some, and_assoc]

end Accounts

section Runs

variable {Token : Type} {library : LoginLibrary Token} {start final : State}
  {actions : List Action} {userId : Uuid}

theorem lastSet_of_row {V : Type} [DecidableEq V] {column : UserRow → V} (flushed : Flushed column)
    (ran : run step start actions = some final) {row : UserRow}
    (stands : final.users.get? userId = some row) :
    lastSet column start.users (history start actions) userId = some (column row) := by
  rw [← columnOf_run flushed ran, columnOf, stands, Option.map_some]

theorem opens_iff (ran : run step start actions = some final) {username password : String} :
    Opens library start.users (history start actions) username password userId ↔
      ∃ user, final.users.get? userId = some user ∧ user.username = username ∧
        user.status = .active ∧ library.checkpw password user.passwordHash = .ok true := by
  constructor
  · intro opens
    have named := opens.named
    rw [← columnOf_run flushed_username ran] at named
    obtain ⟨user, stands, rfl⟩ := Option.map_eq_some_iff.mp named
    obtain ⟨passwordHash, last, matched⟩ := opens.matched
    have active := opens.active
    rw [lastSet_of_row flushed_status ran stands] at active
    rw [lastSet_of_row flushed_passwordHash ran stands] at last
    obtain rfl := Option.some.inj last
    exact ⟨user, stands, rfl, Option.some.inj active, matched⟩
  · rintro ⟨user, stands, rfl, active, matched⟩
    refine ⟨lastSet_of_row flushed_username ran stands, ?_, user.passwordHash, ?_, matched⟩
    · rw [lastSet_of_row flushed_status ran stands, active]
    · exact lastSet_of_row flushed_passwordHash ran stands

theorem login_eq_ok_iff (identified : Identified start.users)
    (ran : run step start actions = some final) {checkedAt issuedAt : Timestamp}
    {request : LoginRequest Token} {response : LoginResponse Token} :
    login library checkedAt issuedAt final.users request = .ok response ↔
      CaptchaPasses library checkedAt request ∧ ∃ user token,
        final.users.get? user.id = some user ∧
          Opens library start.users (history start actions) request.username request.password
            user.id ∧
          loginToken library issuedAt user = .ok token ∧
            loginResponse library user token = response := by
  have kept := identified_run identified ran
  rw [login_eq_ok]
  refine and_congr_right fun _ => exists_congr fun user => exists_congr fun token => ?_
  rw [kept.authenticateUser, opens_iff ran]
  constructor
  · rintro ⟨⟨stands, named, active, matched⟩, issued⟩
    exact ⟨stands, ⟨user, stands, named, active, matched⟩, issued⟩
  · rintro ⟨stands, ⟨other, beside, named, active, matched⟩, issued⟩
    obtain rfl := Option.some.inj (stands.symm.trans beside)
    exact ⟨⟨stands, named, active, matched⟩, issued⟩

end Runs

section Plain

theorem identified_twoAdmins : Identified twoAdmins.users := by
  have rows : ∀ userId row, twoAdmins.users.get? userId = some row →
      (userId = 1 ∧ row = adminRow 1 "alice") ∨ (userId = 2 ∧ row = adminRow 2 "bob") := by
    intro userId row stands
    have listed := InsertionDict.mem_of_get?_ofList stands
    simpa using listed
  refine ⟨?_, ?_⟩
  · intro userId row stands
    obtain ⟨rfl, rfl⟩ | ⟨rfl, rfl⟩ := rows userId row stands
    · rfl
    · rfl
  · intro userId other row twin stands beside same
    obtain ⟨rfl, rfl⟩ | ⟨rfl, rfl⟩ := rows userId row stands <;>
      obtain ⟨rfl, rfl⟩ | ⟨rfl, rfl⟩ := rows other twin beside
    · rfl
    · simp [adminRow] at same
    · simp [adminRow] at same
    · rfl

theorem newPassword_length : 8 ≤ "correct horse".length ∧ "correct horse".length ≤ 256 := by decide

def newPassword : UserPasswordReset := ⟨"correct horse", newPassword_length⟩

-- An update has loaded the user and is committed only after another request.
def resetMeanwhile : List Action :=
  [.authorise 0 1 (.update 2 viewerUpdate), .load 0, .authorise 1 1 (.resetPassword 2 newPassword),
    .load 1, .commit 1 0 "$2b$12$correct horse"]

def disabledMeanwhile : List Action :=
  [.authorise 0 1 (.update 2 viewerUpdate), .load 0, .authorise 1 1 (.disable 2), .load 1,
    .commit 1 0 ""]

def lateUpdate : List Action := [.commit 0 0 ""]

theorem eq_ok_of_toOption {E A : Type} {result : Except E A} {value : A}
    (found : result.toOption = some value) : result = .ok value := by
  cases result with
  | error => simp [Except.toOption] at found
  | ok other => exact congrArg Except.ok (Option.some.inj found)

def bobLogin : LoginRequest (Payload × String) where
  username := "bob"
  password := "correct horse"
  captchaToken := some (captchaPayload plainLogins.tokens 0 "123456" "n", plainLogins.tokens.secretKey)
  captchaCode := some "123456"

end Plain

section Shut

variable {Token : Type} (library : LoginLibrary Token)

structure ShutOut (userId : Uuid) (users : UserTable) : Prop where
  login : ∀ checkedAt issuedAt request response,
    login library checkedAt issuedAt users request = .ok response →
      response.userId ≠ library.uuidText userId
  tokens : ∀ now token row, currentUser library.tokens now users token = .ok row →
    row.id ≠ userId

/-- A commit that sets the user active, after its session had loaded it as disabled. -/
def Reactivates (userId : Uuid) (state : State) (action : Action) : Prop :=
  ∃ commit loaded, committed state action = some commit ∧ commit.userId = userId ∧
    commit.loaded = some loaded ∧ loaded.status = .disabled ∧ commit.row.status = .active

variable {library} {users : UserTable} {userId : Uuid} {state next : State} {action : Action}

theorem shutOut_iff (reliable : library.Reliable) (identified : Identified users) {row : UserRow}
    (stands : users.get? userId = some row) :
    ShutOut library userId users ↔ row.status = .disabled := by
  have named : row.id = userId := identified.keyed userId row stands
  constructor
  · intro shut
    cases status : row.status with
    | disabled => rfl
    | active =>
        -- A token of the user would get in.
        obtain ⟨token, issued⟩ := exists_loginToken reliable 0 row
        have current : currentUser library.tokens 0 users token = .ok row :=
          (currentUser_loginToken reliable issued).mpr ⟨by decide, named ▸ stands, status⟩
        exact absurd named (shut.tokens 0 token row current)
  · intro disabled
    refine ⟨?_, ?_⟩
    · intro checkedAt issuedAt request response answered same
      obtain ⟨-, user, token, authenticated, -, rfl⟩ := login_eq_ok.mp answered
      obtain ⟨found, -, active, -⟩ := identified.authenticateUser.mp authenticated
      have parsed := congrArg library.tokens.parseUuid same
      rw [loginResponse, reliable.parses, reliable.parses] at parsed
      obtain rfl : user.id = userId := Except.ok.inj parsed
      obtain rfl := Option.some.inj (stands.symm.trans found)
      simp [disabled] at active
    · intro now token user current same
      obtain ⟨-, -, id, -, -, -, found, active⟩ := currentUser_eq_ok current
      obtain rfl : user.id = id := identified.keyed id user found
      obtain rfl : row = user := Option.some.inj (stands.symm.trans (same ▸ found))
      simp [disabled] at active

theorem shutOut_step (reliable : library.Reliable) (identified : Identified state.users)
    (known : (state.users.get? userId).isSome) (shut : ShutOut library userId state.users)
    (stepped : step state action = some next) :
    ShutOut library userId next.users ↔ ¬ Reactivates userId state action := by
  obtain ⟨row, stands⟩ := Option.isSome_iff_exists.mp known
  have disabled := (shutOut_iff reliable identified stands).mp shut
  have after := identified_step identified stepped
  obtain ⟨nothing, same⟩ | ⟨payload, newId, passwordHash, unused, -, commits, same⟩ |
    ⟨loaded, current, passwordHash, request, found, commits, same⟩ := step_cases stepped
  · rw [same]
    refine iff_of_true shut ?_
    rintro ⟨commit, -, commits, -⟩
    simp [nothing] at commits
  · have apart : userId ≠ newId := by
      rintro rfl
      simp [unused] at stands
    have beside : next.users.get? userId = some row := by
      rw [same, InsertionDict.get?_set, if_neg apart, stands]
    refine iff_of_true ((shutOut_iff reliable after beside).mpr disabled) ?_
    rintro ⟨commit, before, inserts, -, changed, -⟩
    obtain rfl := Option.some.inj (commits.symm.trans inserts)
    simp at changed
  · by_cases here : userId = loaded.id
    · subst here
      obtain rfl : row = current := Option.some.inj (stands.symm.trans found)
      have written : next.users.get? loaded.id =
          some (flushRow loaded (request.change passwordHash loaded) row) := by
        rw [same, InsertionDict.get?_set, if_pos rfl]
      have status : (flushRow loaded (request.change passwordHash loaded) row).status =
          flush (some loaded.status) (request.change passwordHash loaded).status row.status := rfl
      have reactivates : Reactivates loaded.id state action ↔
          loaded.status = .disabled ∧ (request.change passwordHash loaded).status = .active := by
        constructor
        · rintro ⟨commit, before, changes, -, seen, was, set⟩
          obtain rfl := Option.some.inj (commits.symm.trans changes)
          obtain rfl := Option.some.inj seen
          exact ⟨was, set⟩
        · rintro ⟨was, set⟩
          exact ⟨_, loaded, commits, rfl, rfl, was, set⟩
      rw [shutOut_iff reliable after written, status, disabled, Store.flush_eq_iff, reactivates]
      cases loaded.status <;> cases (request.change passwordHash loaded).status <;> simp
    · have beside : next.users.get? userId = some row := by
        rw [same, InsertionDict.get?_set, if_neg here, stands]
      refine iff_of_true ((shutOut_iff reliable after beside).mpr disabled) ?_
      rintro ⟨commit, -, changes, other, -⟩
      obtain rfl := Option.some.inj (commits.symm.trans changes)
      exact here other.symm

theorem known_step (known : (state.users.get? userId).isSome)
    (stepped : step state action = some next) : (next.users.get? userId).isSome := by
  obtain ⟨-, same⟩ | ⟨payload, newId, passwordHash, -, -, -, same⟩ |
    ⟨loaded, current, passwordHash, request, -, -, same⟩ := step_cases stepped
  · exact same ▸ known
  · rw [same, InsertionDict.get?_set]
    split
    next => rfl
    next => exact known
  · rw [same, InsertionDict.get?_set]
    split
    next => rfl
    next => exact known

end Shut

theorem login_opens_iff {Token : Type} (library : LoginLibrary Token)
    (reliable : library.Reliable) {start final : State} {actions : List Action}
    (identified : Identified start.users) (ran : run step start actions = some final)
    (checkedAt issuedAt : Timestamp) (request : LoginRequest Token) :
    ((∃ response, login library checkedAt issuedAt final.users request = .ok response) ↔
      CaptchaPasses library checkedAt request ∧
        ∃ userId, Opens library start.users (history start actions) request.username
          request.password userId) ∧
    ∀ response userId, login library checkedAt issuedAt final.users request = .ok response →
      Opens library start.users (history start actions) request.username request.password userId →
        response.userId = library.uuidText userId ∧
          ∃ role, lastSet (·.role) start.users (history start actions) userId = some role ∧
            response.role = role.text := by
  have kept := identified_run identified ran
  constructor
  · constructor
    · rintro ⟨response, answered⟩
      obtain ⟨passes, user, token, -, opens, -⟩ := (login_eq_ok_iff identified ran).mp answered
      exact ⟨passes, user.id, opens⟩
    · rintro ⟨passes, userId, opens⟩
      obtain ⟨user, stands, -⟩ := (opens_iff ran).mp opens
      obtain rfl := kept.keyed userId user stands
      obtain ⟨token, issued⟩ := exists_loginToken reliable issuedAt user
      exact ⟨_, (login_eq_ok_iff identified ran).mpr ⟨passes, user, token, stands, opens, issued, rfl⟩⟩
  · intro response userId answered opens
    obtain ⟨-, user, token, stands, own, -, rfl⟩ := (login_eq_ok_iff identified ran).mp answered
    obtain ⟨twin, beside, named, -⟩ := (opens_iff ran).mp opens
    obtain ⟨owner, there, same, -⟩ := (opens_iff ran).mp own
    obtain rfl : user.id = userId :=
      kept.unique user.id userId owner twin there beside (same.trans named.symm)
    exact ⟨rfl, user.role, lastSet_of_row flushed_role ran stands, rfl⟩

theorem login_opens_iff_resetMeanwhile :
    ∃ final userId, run step twoAdmins (resetMeanwhile ++ lateUpdate) = some final ∧
      (∃ response, login plainLogins 5 5 final.users bobLogin = .ok response) ∧
      Opens plainLogins twoAdmins.users (history twoAdmins (resetMeanwhile ++ lateUpdate)) "bob"
        "correct horse" userId := by
  have ends : (run step twoAdmins (resetMeanwhile ++ lateUpdate)).bind (fun final =>
      (login plainLogins 5 5 final.users bobLogin).toOption.map (·.role)) = some "viewer" := by
    decide +kernel
  obtain ⟨final, ran, answers⟩ := Option.bind_eq_some_iff.mp ends
  obtain ⟨response, answered, -⟩ := Option.map_eq_some_iff.mp answers
  have opened : ∃ response, login plainLogins 5 5 final.users bobLogin = .ok response :=
    ⟨response, eq_ok_of_toOption answered⟩
  obtain ⟨-, userId, opens⟩ := (login_opens_iff plainLogins reliable_plainLogins identified_twoAdmins
    ran 5 5 bobLogin).1.mp opened
  exact ⟨final, userId, ran, opened, opens⟩

theorem login_session_iff {Token : Type} (library : LoginLibrary Token)
    (reliable : library.Reliable) {start middle final : State} {before after : List Action}
    (identified : Identified start.users) (signedIn : run step start before = some middle)
    {checkedAt issuedAt : Timestamp} {request : LoginRequest Token} {response : LoginResponse Token}
    (answered : login library checkedAt issuedAt middle.users request = .ok response)
    (ran : run step middle after = some final) :
    ∃ userId, Opens library start.users (history start before) request.username request.password
        userId ∧ response.userId = library.uuidText userId ∧
      ∀ now roles,
        (∀ row, userWithRole library.tokens now final.users roles response.accessToken = .ok row →
          row.id = userId) ∧
        ((∃ row, userWithRole library.tokens now final.users roles response.accessToken = .ok row) ↔
          now < loginExpiry issuedAt ∧
            lastSet (·.status) middle.users (history middle after) userId = some .active ∧
            ∃ role ∈ roles, lastSet (·.role) middle.users (history middle after) userId = some role) := by
  obtain ⟨-, user, token, -, opens, issued, rfl⟩ := (login_eq_ok_iff identified signedIn).mp answered
  have kept := identified_run (identified_run identified signedIn) ran
  refine ⟨user.id, opens, rfl, ?_⟩
  intro now roles
  constructor
  · intro row accepted
    obtain ⟨-, stands, -⟩ := (currentUser_loginToken reliable issued).mp (userWithRole_eq_ok accepted).1
    exact kept.keyed user.id row stands
  · constructor
    · rintro ⟨row, accepted⟩
      obtain ⟨current, allowed⟩ := userWithRole_eq_ok accepted
      obtain ⟨early, stands, active⟩ := (currentUser_loginToken reliable issued).mp current
      refine ⟨early, ?_, row.role, allowed, lastSet_of_row flushed_role ran stands⟩
      rw [lastSet_of_row flushed_status ran stands, active]
    · rintro ⟨early, active, role, allowed, last⟩
      rw [← columnOf_run flushed_role ran] at last
      obtain ⟨row, stands, rfl⟩ := Option.map_eq_some_iff.mp last
      rw [lastSet_of_row flushed_status ran stands, Option.some.injEq] at active
      have current := (currentUser_loginToken reliable issued).mpr ⟨early, stands, active⟩
      exact ⟨row, userWithRole_of_current current allowed⟩

theorem login_session_iff_resetMeanwhile :
    ∃ middle userId, run step twoAdmins resetMeanwhile = some middle ∧
      lastSet (·.status) middle.users (history middle lateUpdate) userId = some .active ∧
        lastSet (·.role) middle.users (history middle lateUpdate) userId = some .viewer := by
  have ends : (run step twoAdmins resetMeanwhile).bind (fun middle =>
      (login plainLogins 5 5 middle.users bobLogin).toOption.bind fun response =>
        (run step middle lateUpdate).bind fun final =>
          (userWithRole plainLogins.tokens 5 final.users [.viewer] response.accessToken).toOption.map
            (·.id)) = some 2 := by
    decide +kernel
  obtain ⟨middle, signedIn, ends⟩ := Option.bind_eq_some_iff.mp ends
  obtain ⟨response, answered, ends⟩ := Option.bind_eq_some_iff.mp ends
  obtain ⟨final, ran, ends⟩ := Option.bind_eq_some_iff.mp ends
  obtain ⟨row, accepted, -⟩ := Option.map_eq_some_iff.mp ends
  obtain ⟨userId, -, -, lasts⟩ := login_session_iff plainLogins reliable_plainLogins
    identified_twoAdmins signedIn (eq_ok_of_toOption answered) ran
  obtain ⟨-, active, role, allowed, last⟩ :=
    (lasts 5 [.viewer]).2.mp ⟨row, eq_ok_of_toOption accepted⟩
  obtain rfl := List.mem_singleton.mp allowed
  exact ⟨middle, userId, signedIn, active, last⟩

theorem shut_out_remains_iff {Token : Type} (library : LoginLibrary Token)
    (reliable : library.Reliable) {start final : State} {actions : List Action} {userId : Uuid}
    (identified : Identified start.users) {row : UserRow}
    (stands : start.users.get? userId = some row) (disabled : row.status = .disabled)
    (ran : run step start actions = some final) :
    Throughout step (fun state => ShutOut library userId state.users) start actions ↔
      Along step (fun state action => ¬ Reactivates userId state action) start actions := by
  have initial : ShutOut library userId start.users :=
    (shutOut_iff reliable identified stands).mpr disabled
  refine throughout_iff_along
    (J := fun state => Identified state.users ∧ (state.users.get? userId).isSome) ?_ ?_
    ⟨identified, by simp [stands]⟩ initial ran
  · intro state action next sound stepped
    exact ⟨identified_step sound.1 stepped, known_step sound.2 stepped⟩
  · intro state action next sound shut stepped
    exact shutOut_step reliable sound.1 sound.2 shut stepped

theorem shut_out_remains_iff_disabledMeanwhile :
    ∃ middle, run step twoAdmins disabledMeanwhile = some middle ∧
      Throughout step (fun state => ShutOut plainLogins 2 state.users) middle lateUpdate := by
  have ends : (run step twoAdmins disabledMeanwhile).map (fun middle =>
      ((middle.users.get? 2).map (·.status),
        (committed middle (.commit 0 0 "")).bind fun commit => commit.loaded.map (·.status),
        (run step middle lateUpdate).isSome)) = some (some .disabled, some .active, true) := by
    decide +kernel
  obtain ⟨middle, signedIn, ends⟩ := Option.map_eq_some_iff.mp ends
  obtain ⟨status, ends⟩ := Prod.mk.inj ends
  obtain ⟨loads, runs⟩ := Prod.mk.inj ends
  obtain ⟨row, stands, disabled⟩ := Option.map_eq_some_iff.mp status
  obtain ⟨final, ran⟩ := Option.isSome_iff_exists.mp runs
  refine ⟨middle, signedIn, (shut_out_remains_iff plainLogins reliable_plainLogins
    (identified_run identified_twoAdmins signedIn) stands disabled ran).mpr ?_⟩
  intro before action after state split reached
  have first : before = [] ∧ action = .commit 0 0 "" := by
    cases before with
    | nil =>
        obtain ⟨same, -⟩ := List.cons.inj split
        exact ⟨rfl, same.symm⟩
    | cons other rest => simp [lateUpdate] at split
  obtain ⟨rfl, rfl⟩ := first
  obtain rfl := Option.some.inj reached
  rintro ⟨commit, loaded, commits, -, seen, was, -⟩
  simp [commits, seen, was] at loads

end SqlMonitor.UserAdministration
