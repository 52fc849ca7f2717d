import Mathlib.Algebra.BigOperators.Group.List.Basic
import SqlMonitor.Collector.BlockedRequests
import SqlMonitor.Services.Dashboard

set_option autoImplicit false

namespace SqlMonitor.Services

open Dmv Collector

-- The cumulative figures of a session, which each of its rows repeats.
inductive SessionCounter where
  | openTransactionCount
  | cpuTime
  | reads
  | writes
  | logicalReads

def SessionCounter.ofSession : SessionCounter → DmExecSession → Int
  | .openTransactionCount, session => session.openTransactionCount
  | .cpuTime, session => session.cpuTime
  | .reads, session => session.reads
  | .writes, session => session.writes
  | .logicalReads, session => session.logicalReads

def SessionCounter.ofSnapshot : SessionCounter → SessionSnapshot → Int
  | .openTransactionCount, snapshot => snapshot.openTransactionCount
  | .cpuTime, snapshot => snapshot.cpuTime.getD 0
  | .reads, snapshot => snapshot.reads.getD 0
  | .writes, snapshot => snapshot.writes.getD 0
  | .logicalReads, snapshot => snapshot.logicalReads.getD 0

def requestKey (snapshot : RequestSnapshot) : Option Int × Option Int :=
  (snapshot.sessionId, snapshot.requestId)

structure CountsOnce (server : Server) (sessions : List SessionSnapshot)
    (requests : List RequestSnapshot) :
    Prop where
  sessionOnce : ∀ session ∈ server.userSessions,
    (sessions.map SessionSnapshot.sessionId).count (some session.sessionId) = 1
  sessionKnown : ∀ snapshot ∈ sessions, ∃ session ∈ server.userSessions,
    snapshot.sessionId = some session.sessionId
  requestOnce : ∀ session ∈ server.userSessions, ∀ request ∈ server.requests,
    request.sessionId = session.sessionId →
      (requests.map requestKey).count (some request.sessionId, some request.requestId) = 1
  requestKnown : ∀ snapshot ∈ requests, ∃ request ∈ server.requests,
    requestKey snapshot = (some request.sessionId, some request.requestId)
  sessionCount : ∀ (stored : List SessionSnapshot) (otherRequests : List RequestSnapshot)
    (blockingRows : List BlockingSnapshot), stored.Perm sessions →
      (dashboardMetrics stored otherRequests blockingRows).sessionCount =
        (server.userSessions.map DmExecSession.sessionId).toFinset.card
  counters : ∀ counter : SessionCounter, (sessions.map counter.ofSnapshot).sum =
    (server.userSessions.map counter.ofSession).sum

def AtMostOneRequest (server : Server) : Prop :=
  ∀ session ∈ server.userSessions, (LeftJoin.partners sameSession server.requests session).length ≤ 1

section Counts

variable {server : Server} {rows : List SessionRequestRow} {texts : SqlTextFunctions}
    {frame : FrameKey}

theorem map_sessions_perm {B : Type} (returned : server.Returns rows) (column : SessionSnapshot → B)
    (own : DmExecSession → B)
    (copied : ∀ joined,
      column (sessionSnapshot texts frame (server.sessionRequestRow joined)) = own joined.1) :
    ((buildSessionAndRequestSnapshots texts frame rows).1.map column).Perm
      (((LeftJoin.leftJoin sameSession server.userSessions server.requests).map Prod.fst).map own) := by
  rw [sessions_eq]
  refine ((returned.map _).map column).trans ?_
  simp only [Server.sessionRequestQuery, List.map_map, Function.comp_def, copied]
  exact List.Perm.refl _

theorem counter_copied (counter : SessionCounter) (joined : DmExecSession × Option DmExecRequest) :
    counter.ofSnapshot (sessionSnapshot texts frame (server.sessionRequestRow joined)) =
      counter.ofSession joined.1 := by
  cases counter <;> rfl

theorem requests_perm (returned : server.Returns rows) :
    ((buildSessionAndRequestSnapshots texts frame rows).2.1.map requestKey).Perm
      ((server.userSessions.flatMap (LeftJoin.partners sameSession server.requests)).map fun request =>
        (some request.sessionId, some request.requestId)) := by
  have keyed : ((server.sessionRequestQuery.filter (·.requestId.isSome)).map
      (requestSnapshot texts frame)).map requestKey =
        (((LeftJoin.leftJoin sameSession server.userSessions server.requests).filterMap Prod.snd).map
          fun request => (some request.sessionId, some request.requestId)) := by
    rw [Server.sessionRequestQuery, List.filter_map, List.map_map, List.map_map, List.map_filterMap,
      ← List.filterMap_eq_map, List.filterMap_filter]
    apply List.filterMap_congr
    intro joined member
    obtain ⟨session, request⟩ := joined
    cases request with
    | none => rfl
    | some request =>
        -- A joined request belongs to the session of its row.
        have same : request.sessionId = session.sessionId := by
          simpa [sameSession] using (LeftJoin.mem_some_iff.mp member).2.2
        simp [Server.sessionRequestRow, requestSnapshot, requestKey, same]
  rw [requests_eq, ← LeftJoin.filterMap_snd, ← keyed]
  exact ((returned.filter _).map _).map _

theorem requestKeys_nodup (server : Server) :
    ((server.userSessions.flatMap (LeftJoin.partners sameSession server.requests)).map fun request =>
      (some request.sessionId, some request.requestId)).Nodup := by
  have requests : server.requests.Nodup := List.Nodup.of_map _ server.distinctRequests
  have joined : (server.userSessions.flatMap (LeftJoin.partners sameSession server.requests)).Nodup := by
    rw [List.nodup_flatMap]
    refine ⟨fun session _ => requests.filter _, ?_⟩
    refine List.Pairwise.imp ?_ (List.pairwise_map.mp (userSessions_distinct server))
    intro session other apart request inside inside'
    have same : request.sessionId = session.sessionId := by
      simpa [sameSession] using (List.mem_filter.mp inside).2
    have same' : request.sessionId = other.sessionId := by
      simpa [sameSession] using (List.mem_filter.mp inside').2
    exact apart (same.symm.trans same')
  apply joined.map_on
  intro request inside other inside' same
  have member {request : DmExecRequest}
      (inside : request ∈ server.userSessions.flatMap (LeftJoin.partners sameSession server.requests)) :
      request ∈ server.requests := by
    obtain ⟨session, -, kept⟩ := List.mem_flatMap.mp inside
    exact (List.mem_filter.mp kept).1
  apply List.inj_on_of_nodup_map server.distinctRequests (member inside) (member inside')
  simpa using same

theorem atMostOneRequest_of_sessionOnce (returned : server.Returns rows)
    (once : ∀ session ∈ server.userSessions,
      ((buildSessionAndRequestSnapshots texts frame rows).1.map SessionSnapshot.sessionId).count
        (some session.sessionId) = 1) : AtMostOneRequest server := by
  intro session member
  apply LeftJoin.partners_le_of_count member
  have ids : ((buildSessionAndRequestSnapshots texts frame rows).1.map SessionSnapshot.sessionId).count
      (some session.sessionId) = _ := (map_sessions_perm returned SessionSnapshot.sessionId
        (fun session => some session.sessionId) (fun _ => rfl)).count_eq (some session.sessionId)
  have fewer :
      ((LeftJoin.leftJoin sameSession server.userSessions server.requests).map Prod.fst).count session ≤
      (((LeftJoin.leftJoin sameSession server.userSessions server.requests).map Prod.fst).map
        fun session => some session.sessionId).count (some session.sessionId) :=
    List.count_le_count_map (f := fun session : DmExecSession => some session.sessionId)
  rwa [← ids, once session member] at fewer

theorem countsOnce_of_atMostOneRequest (returned : server.Returns rows)
    (unique : AtMostOneRequest server) :
    CountsOnce server (buildSessionAndRequestSnapshots texts frame rows).1
      (buildSessionAndRequestSnapshots texts frame rows).2.1 := by
  have single := LeftJoin.map_fst_of_unique unique
  have column {B : Type} (column : SessionSnapshot → B) (own : DmExecSession → B)
      (copied : ∀ joined,
        column (sessionSnapshot texts frame (server.sessionRequestRow joined)) = own joined.1) :
      ((buildSessionAndRequestSnapshots texts frame rows).1.map column).Perm
        (server.userSessions.map own) := by
    have joined := map_sessions_perm returned column own copied
    rwa [single] at joined
  have ids :=
    column SessionSnapshot.sessionId (fun session => some session.sessionId) (fun _ => rfl)
  have distinct : (server.userSessions.map fun session => some session.sessionId).Nodup := by
    simpa [Function.comp_def] using (userSessions_distinct server).map (Option.some_injective Int)
  have keys : ((buildSessionAndRequestSnapshots texts frame rows).2.1.map requestKey).Perm _ :=
    requests_perm returned
  exact {
    sessionOnce := by
      intro session member
      rw [ids.count_eq]
      exact List.count_eq_one_of_mem distinct (List.mem_map_of_mem member)
    sessionKnown := by
      intro snapshot member
      obtain ⟨session, inside, same⟩ :=
        List.mem_map.mp (ids.mem_iff.mp (List.mem_map_of_mem member))
      exact ⟨session, inside, same.symm⟩
    requestOnce := by
      intro session member request stored same
      rw [keys.count_eq]
      apply List.count_eq_one_of_mem (requestKeys_nodup server)
      apply List.mem_map_of_mem
        (f := fun request : DmExecRequest => (some request.sessionId, some request.requestId))
      exact List.mem_flatMap.mpr
        ⟨session, member, List.mem_filter.mpr ⟨stored, by simpa [sameSession] using same⟩⟩
    requestKnown := by
      intro snapshot member
      obtain ⟨request, inside, same⟩ :=
        List.mem_map.mp (keys.mem_iff.mp (List.mem_map_of_mem member))
      obtain ⟨session, -, kept⟩ := List.mem_flatMap.mp inside
      exact ⟨request, (List.mem_filter.mp kept).1, same.symm⟩
    sessionCount := by
      intro stored otherRequests blockingRows perm
      rw [List.toFinset_card_of_nodup (userSessions_distinct server), List.length_map]
      have lengths := ids.length_eq
      rw [List.length_map, List.length_map] at lengths
      exact perm.length_eq.trans lengths
    counters :=
      fun counter => (column counter.ofSnapshot counter.ofSession (counter_copied counter)).sum_eq }

end Counts

theorem frame_counts_once_iff (server : Server) (texts : SqlTextFunctions) (frame : FrameKey)
    (rows : List SessionRequestRow) (returned : server.Returns rows) :
    CountsOnce server (buildSessionAndRequestSnapshots texts frame rows).1
      (buildSessionAndRequestSnapshots texts frame rows).2.1 ↔ AtMostOneRequest server :=
  ⟨fun counts => atMostOneRequest_of_sessionOnce returned counts.sessionOnce,
    countsOnce_of_atMostOneRequest returned⟩

theorem frame_counts_once_iff_blockedServer :
    CountsOnce blockedServer
      (buildSessionAndRequestSnapshots plainTexts ⟨1, 1, 0⟩ blockedServer.sessionRequestQuery).1
      (buildSessionAndRequestSnapshots plainTexts ⟨1, 1, 0⟩ blockedServer.sessionRequestQuery).2.1 :=
  (frame_counts_once_iff blockedServer plainTexts ⟨1, 1, 0⟩ _ (List.Perm.refl _)).mpr
    (by unfold AtMostOneRequest; decide)

theorem marsServer_counted_twice :
    marsServer.Returns marsServer.sessionRequestQuery ∧
      ¬ CountsOnce marsServer
        (buildSessionAndRequestSnapshots plainTexts ⟨1, 1, 0⟩ marsServer.sessionRequestQuery).1
        (buildSessionAndRequestSnapshots plainTexts ⟨1, 1, 0⟩ marsServer.sessionRequestQuery).2.1 := by
  refine ⟨List.Perm.refl _, ?_⟩
  intro counts
  have once := counts.sessionOnce { sessionId := 51 } (by decide)
  have twice : ((buildSessionAndRequestSnapshots plainTexts ⟨1, 1, 0⟩ marsServer.sessionRequestQuery).1.map
      SessionSnapshot.sessionId).count (some 51) = 2 := by decide
  exact absurd (twice.symm.trans once) (by decide)

end SqlMonitor.Services
