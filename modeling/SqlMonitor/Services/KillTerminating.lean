import SqlMonitor.Collector.FrameRuns
import SqlMonitor.Services.Kill

set_option autoImplicit false

namespace SqlMonitor.Services

open SnapshotRepository Collector Dmv

section Evidence

variable (mapping : CaseMapping) (tables : SnapshotTables) (key : FrameKey) (sessionId : Int)

def SessionShows : Prop :=
  ∃ row ∈ listSessions tables key, row.sessionId = some sessionId ∧
    isTerminal mapping row.status = true

def RequestShows : Prop :=
  ∃ request ∈ listRequests tables key, request.sessionId = some sessionId ∧
    (isTerminal mapping request.status = true ∨ isTerminal mapping request.command = true)

def ShownTerminating : Prop :=
  SessionShows mapping tables key sessionId ∨ RequestShows mapping tables key sessionId

end Evidence

variable {hasInstance : Uuid → Bool} {tables : SnapshotTables} {frame : SnapshotFrame}
  {row : SessionSnapshot} {request : KillRequest} {user : User}

theorem postKill_rejectedWith {surroundings : KillSurroundings} {target : KillTarget}
    {code : String}
    (allowed : user.role ∈ killRoles) (known : hasInstance request.instanceId = true)
    (built : buildKillTarget tables request.instanceId request.sessionId = some target) :
    (postKill surroundings hasInstance tables request user).RejectedWith code ↔
      validateKillTarget surroundings.mapping target request.reason
          surroundings.minKillableSessionId = .error (.rejected code) ∧
        surroundings.auditWrites = true := by
  rw [postKill_of_allowed allowed known, built]
  exact killSession_rejectedWith

theorem terminating_session_spared_iff (surroundings : KillSurroundings)
    (allowed : user.role ∈ killRoles) (reasoned : isReason request.reason = true)
    (known : hasInstance request.instanceId = true)
    (latest : getLatestFrame tables request.instanceId = some frame)
    (found : getSession tables frame.frame request.sessionId = some row) :
    (ShownTerminating surroundings.mapping tables frame.frame request.sessionId →
        (postKill surroundings hasInstance tables request user).RejectedWith
          "SESSION_TERMINATING") ↔
      (ShownTerminating surroundings.mapping tables frame.frame request.sessionId →
        surroundings.minKillableSessionId < request.sessionId ∧
          isPlatformAccount surroundings.mapping row.loginName = false ∧
          isTerminal surroundings.mapping row.status = true ∧
          surroundings.auditWrites = true) := by
  have checked : checkedSession tables request.instanceId request.sessionId = some row := by
    rw [checkedSession, latest]
    exact found
  obtain ⟨target, built, reads⟩ := buildKillTarget_of_checked checked
  refine imp_congr_right fun _ => ?_
  rw [postKill_rejectedWith allowed known built, validateKillTarget_terminating, reads.sessionId,
    reads.loginName, reads.status]
  simp only [reasoned, true_and, and_assoc]

section RollingBack

def frameOfRow (row : SessionRequestRow) : SnapshotTables :=
  let built := buildSessionAndRequestSnapshots plainEnvironment.texts ⟨1, 7, 0⟩ [row]
  storeFrame .empty
    { snapshotFrame := SnapshotTables.emptyFrame 1 7 0
      sessions := built.1
      requests := built.2.1
      waits := []
      blocking := [] }

def rollingBack (sessionStatus : String) : SnapshotTables :=
  frameOfRow
    { sessionId := some 60
      loginName := some "orders"
      sessionStatus := some sessionStatus
      openTransactionCount := some 1
      requestId := some 0
      requestStatus := some "suspended"
      command := some "KILLED/ROLLBACK" }

theorem terminating_session_spared_iff_shown :
    (postKill killSurroundings (fun _ => true) (rollingBack "rollback") killRequest
      dbaUser).RejectedWith "SESSION_TERMINATING" := by
  have spared := @terminating_session_spared_iff (fun _ => true) (rollingBack "rollback") _ _
    killRequest dbaUser killSurroundings (by decide) (by decide) rfl rfl rfl
  refine spared.mpr (fun _ => ⟨by decide, by decide, by decide, rfl⟩) (Or.inr ?_)
  exact ⟨_, List.mem_singleton.mpr rfl, rfl, Or.inr (by decide)⟩

theorem rolling_back_killed_again :
    ShownTerminating asciiCase (rollingBack "running") ⟨1, 7, 0⟩ 60 ∧
      (postKill killSurroundings (fun _ => true) (rollingBack "running") killRequest
        dbaUser).executorCalls = [(7, 60)] ∧
      ¬ (postKill killSurroundings (fun _ => true) (rollingBack "running") killRequest
        dbaUser).RejectedWith "SESSION_TERMINATING" := by
  have called : (postKill killSurroundings (fun _ => true) (rollingBack "running") killRequest
      dbaUser).executorCalls = [(7, 60)] := by decide
  refine ⟨Or.inr ⟨_, List.mem_singleton.mpr rfl, rfl, Or.inr (by decide)⟩, called, ?_⟩
  intro refused
  simp [refused.uncalled] at called

end RollingBack

end SqlMonitor.Services
