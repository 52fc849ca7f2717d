import SqlMonitor.Collector.CollectCycle

set_option autoImplicit false

namespace SqlMonitor.Dmv

structure Connection where
  loginName : Option String
  loginTime : Option Timestamp
deriving DecidableEq

def DmExecSession.connection (session : DmExecSession) : Connection :=
  ⟨session.loginName, session.loginTime⟩

def SessionRequestRow.connection (row : SessionRequestRow) : Connection :=
  ⟨row.loginName, row.loginTime⟩

namespace Server

def holder (server : Server) (sessionId : Int) : Option Connection :=
  (server.sessions.find? (·.sessionId = sessionId)).map DmExecSession.connection

def startSession (server : Server) (session : DmExecSession)
    (unused : session.sessionId ∉ server.sessions.map DmExecSession.sessionId) : Server :=
  { server with
    sessions := session :: server.sessions
    distinctSessions := List.nodup_cons.mpr ⟨unused, server.distinctSessions⟩ }

-- The requests of a session end with it.
def endSession (server : Server) (sessionId : Int) : Server :=
  { server with
    sessions := server.sessions.filter (·.sessionId ≠ sessionId)
    requests := server.requests.filter (·.sessionId ≠ sessionId)
    distinctSessions := server.distinctSessions.sublist (List.filter_sublist.map _)
    distinctRequests := server.distinctRequests.sublist (List.filter_sublist.map _) }

def connections (server : Server) : List (Int × Connection) :=
  server.sessions.map fun session => (session.sessionId, session.connection)

end Server

section Holders

variable {server next : Server} {session : DmExecSession} {sessionId other : Int}
  {connection : Connection} {row : SessionRequestRow}

theorem holder_eq_lookup :
    server.holder sessionId =
      ((server.connections).find? (·.1 = sessionId)).map Prod.snd := by
  rw [Server.connections, List.find?_map, Option.map_map]
  rfl

theorem holder_of_connections (same : next.connections = server.connections) :
    next.holder sessionId = server.holder sessionId := by
  rw [holder_eq_lookup, holder_eq_lookup, same]

theorem holder_of_mem (member : session ∈ server.sessions) :
    server.holder session.sessionId = some session.connection := by
  have found : (server.sessions.find? (·.sessionId = session.sessionId)).isSome = true :=
    List.find?_isSome.mpr ⟨session, member, decide_eq_true rfl⟩
  obtain ⟨holder, chosen⟩ := Option.isSome_iff_exists.mp found
  have same : holder.sessionId = session.sessionId := by simpa using List.find?_some chosen
  have holds : holder = session :=
    List.inj_on_of_nodup_map server.distinctSessions (List.mem_of_find?_eq_some chosen) member same
  rw [Server.holder, chosen, holds]
  rfl

theorem Server.Returns.holder {rows : List SessionRequestRow} (returned : server.Returns rows)
    (member : row ∈ rows) (named : row.sessionId = some sessionId) :
    server.holder sessionId = some row.connection := by
  obtain ⟨⟨session, request⟩, joined, rfl⟩ := List.mem_map.mp (returned.mem_iff.mp member)
  obtain rfl : session.sessionId = sessionId := Option.some.inj named
  have inside : session ∈ server.userSessions := LeftJoin.mem_left joined
  exact holder_of_mem (List.mem_of_mem_filter inside)

theorem holder_startSession
    {unused : session.sessionId ∉ server.sessions.map DmExecSession.sessionId}
    (held : server.holder sessionId = some connection) :
    (server.startSession session unused).holder sessionId = some connection := by
  have apart : session.sessionId ≠ sessionId := by
    rintro rfl
    obtain ⟨holder, chosen, -⟩ := Option.map_eq_some_iff.mp held
    have same : holder.sessionId = session.sessionId := by simpa using List.find?_some chosen
    exact unused (List.mem_map.mpr ⟨holder, List.mem_of_find?_eq_some chosen, same⟩)
  rw [Server.holder, Server.startSession, List.find?_cons_of_neg (by simpa using apart)]
  exact held

theorem holder_endSession (apart : sessionId ≠ other) :
    (server.endSession other).holder sessionId = server.holder sessionId := by
  have same : (server.sessions.filter (·.sessionId ≠ other)).find? (·.sessionId = sessionId) =
      server.sessions.find? (·.sessionId = sessionId) := by
    rw [List.find?_filter]
    congr 1
    funext session
    by_cases holds : session.sessionId = sessionId
    · simp [holds, apart]
    · simp [holds]
  rw [Server.holder, Server.endSession, same]
  rfl

end Holders

end SqlMonitor.Dmv
