import SqlMonitor.Collector.CallOutcomes
import SqlMonitor.Collector.SqlTextRuns
import SqlMonitor.Services.InstancePages

set_option autoImplicit false

namespace SqlMonitor.Services

open SnapshotRepository Collector Dmv TransitionSystem

section Folds

variable {env : Environment} {involved : String → Prop}

def collectedKey (collected : Collected) : FrameKey := collected.frame.snapshotFrame.frame

variable (env involved) in
/-- A collection of involved statements, with a text for each of its requests. -/
structure Gathered (collected : Collected) : Prop where
  shares : SharesKey collected.frame
  texts : ∀ stored ∈ collected.sqlTexts, ∃ text, involved text ∧
    stored = sqlTextOf env.texts (collectedKey collected) text
  referred : ∀ request ∈ collected.frame.requests, ∀ hash, request.sqlHash = some hash →
    ∃ stored ∈ collected.sqlTexts, stored.sqlHash = hash

theorem gathered_collectFrame {id : Uuid} {attempt : Attempt} {row : Instance}
    {collected : Collected} (hashed : ∀ text, env.texts.sqlHash text ≠ "")
    (runs : ∀ text, RunsText attempt text → involved text)
    (gathered : collectFrame env id attempt row = some collected) :
    Gathered env involved collected := by
  obtain ⟨rows, built⟩ := builtFrom_collectFrame gathered
  refine ⟨sharesKey_collectFrame gathered, ?_, ?_⟩
  · intro stored member
    rw [built.sqlTexts] at member
    obtain ⟨row, inside, text, found, same⟩ := mem_batch member
    exact ⟨text, runs text (built.returned row inside text found), same⟩
  · intro request member hash named
    rw [built.requests] at member
    obtain ⟨row, inside, rfl⟩ := List.mem_map.mp member
    have named : (rowHashes env.texts row).1 = some hash := named
    rw [rowHashes_fst, Option.map_eq_some_iff] at named
    obtain ⟨text, found, rfl⟩ := named
    rw [built.sqlTexts]
    exact exists_batch _ (List.mem_filter.mp inside).1 found (hashed text)

variable (tables : SnapshotTables) (collections : List Collected)

theorem frames_foldl : (collections.foldl storeCollected tables).frames =
    tables.frames ++ collections.map (·.frame.snapshotFrame) := by
  induction collections generalizing tables with
  | nil => simp
  | cons collected rest ih => simp [ih, storeCollected, storeFrame]

theorem sessions_foldl : (collections.foldl storeCollected tables).sessions =
    tables.sessions ++ collections.flatMap (·.frame.sessions) := by
  induction collections generalizing tables with
  | nil => simp
  | cons collected rest ih => simp [ih, storeCollected, storeFrame]

theorem requests_foldl : (collections.foldl storeCollected tables).requests =
    tables.requests ++ collections.flatMap (·.frame.requests) := by
  induction collections generalizing tables with
  | nil => simp
  | cons collected rest ih => simp [ih, storeCollected, storeFrame]

theorem waits_foldl : (collections.foldl storeCollected tables).waits =
    tables.waits ++ collections.flatMap (·.frame.waits) := by
  induction collections generalizing tables with
  | nil => simp
  | cons collected rest ih => simp [ih, storeCollected, storeFrame]

theorem blocking_foldl : (collections.foldl storeCollected tables).blocking =
    tables.blocking ++ collections.flatMap (·.frame.blocking) := by
  induction collections generalizing tables with
  | nil => simp
  | cons collected rest ih => simp [ih, storeCollected, storeFrame]

theorem sqlTexts_foldl : (collections.foldl storeCollected tables).sqlTexts =
    (collections.flatMap (·.sqlTexts)).foldl SnapshotTables.upsertSqlText tables.sqlTexts := by
  induction collections generalizing tables with
  | nil => rfl
  | cons collected rest ih => simp [ih, storeCollected, storeFrame]

end Folds

section Texts

variable {env : Environment} {involved : String → Prop} {batch : List SqlText}

def shownOf (env : Environment) (text : String) : String × String :=
  (((some (env.texts.previewSql text 512)).filter (· ≠ "")).getD text, text)

theorem shownText_foldl {stored : String → Option SqlText} {hash : String}
    (texts : ∀ row ∈ batch, ∃ frame text, involved text ∧ row = sqlTextOf env.texts frame text)
    (written : ∃ row ∈ batch, row.sqlHash = hash) :
    ∃ text, involved text ∧ env.texts.sqlHash text = hash ∧
      (batch.foldl SnapshotTables.upsertSqlText stored hash).map
        (fun row => (previewOrText row, row.sqlText)) = some (shownOf env text) := by
  induction batch generalizing stored with
  | nil => simp at written
  | cons first rest ih =>
      have later := fun row member => texts row (List.mem_cons_of_mem first member)
      rw [List.foldl_cons]
      by_cases again : ∃ row ∈ rest, row.sqlHash = hash
      · exact ih later again
      · have only : first.sqlHash = hash := by
          obtain ⟨row, member, same⟩ := written
          rcases List.mem_cons.mp member with rfl | inRest
          · exact same
          · exact absurd ⟨row, inRest, same⟩ again
        obtain ⟨frame, text, known, rfl⟩ := texts first List.mem_cons_self
        refine ⟨text, known, only, ?_⟩
        rw [SnapshotTables.foldl_upsertSqlText_of_absent
          fun row member same => again ⟨row, member, same⟩, ← only,
          SnapshotTables.upsertSqlText_self]
        rfl

end Texts

section Selections

variable {A B : Type} {rows : List A} {own : A → Bool} {parts : A → List B} {keep : B → Bool}

theorem filter_flatMap_filter
    (outside : ∀ row ∈ rows, own row = false → ∀ part ∈ parts row, keep part = false) :
    (rows.flatMap parts).filter keep = ((rows.filter own).flatMap parts).filter keep := by
  induction rows with
  | nil => rfl
  | cons row rest ih =>
      have later := ih fun other member => outside other (List.mem_cons_of_mem row member)
      rw [List.flatMap_cons, List.filter_append, later, List.filter_cons]
      cases selected : own row with
      | true => rw [if_pos rfl, List.flatMap_cons, List.filter_append]
      | false =>
          have nothing : (parts row).filter keep = [] := by
            refine List.filter_eq_nil_iff.mpr fun part inside kept => ?_
            rw [outside row List.mem_cons_self selected part inside] at kept
            simp at kept
          simp [nothing]

variable {env : Environment} {involved : String → Prop} {collections : List Collected}

theorem sameFrame_foldl {frame : FrameKey} {own : Collected → Bool}
    (gathered : ∀ collected ∈ collections, Gathered env involved collected)
    (apart : ∀ text other, involved text → involved other →
      env.texts.sqlHash text = env.texts.sqlHash other → text = other)
    (selected : ∀ collected ∈ collections, collectedKey collected = frame → own collected = true) :
    SameFrame (collections.foldl storeCollected .empty)
      ((collections.filter own).foldl storeCollected .empty) frame := by
  have outside : ∀ {B : Type} {keyOf : B → FrameKey} {parts : Collected → List B},
      (∀ collected ∈ collections, ∀ part ∈ parts collected, keyOf part = collectedKey collected) →
        ∀ collected ∈ collections, own collected = false → ∀ part ∈ parts collected,
          decide (keyOf part = frame) = false := by
    intro B keyOf parts shares collected member excluded part inside
    refine decide_eq_false fun same => ?_
    rw [selected collected member ((shares collected member part inside).symm.trans same)] at excluded
    simp at excluded
  have shownTexts : ∀ chosen : List Collected, (∀ collected ∈ chosen, collected ∈ collections) →
      ∀ hash, (∃ collected ∈ chosen, ∃ stored ∈ collected.sqlTexts, stored.sqlHash = hash) →
        ∃ text, involved text ∧ env.texts.sqlHash text = hash ∧
          shownText (chosen.foldl storeCollected .empty) hash = some (shownOf env text) := by
    intro chosen among hash written
    rw [shownText, sqlTexts_foldl]
    refine shownText_foldl ?_ ?_
    · intro stored member
      obtain ⟨collected, inside, batch⟩ := List.mem_flatMap.mp member
      obtain ⟨text, known, same⟩ := (gathered collected (among collected inside)).texts stored batch
      exact ⟨collectedKey collected, text, known, same⟩
    · obtain ⟨collected, inside, stored, batch, same⟩ := written
      exact ⟨stored, List.mem_flatMap.mpr ⟨collected, inside, batch⟩, same⟩
  refine ⟨?_, ?_, ?_, ?_, ?_⟩
  · simp only [sessions_foldl, SnapshotTables.empty, List.nil_append]
    exact filter_flatMap_filter (outside fun collected member => (gathered collected member).shares.sessions)
  · simp only [requests_foldl, SnapshotTables.empty, List.nil_append]
    exact filter_flatMap_filter (outside fun collected member => (gathered collected member).shares.requests)
  · simp only [waits_foldl, SnapshotTables.empty, List.nil_append]
    exact filter_flatMap_filter (outside fun collected member => (gathered collected member).shares.waits)
  · simp only [blocking_foldl, SnapshotTables.empty, List.nil_append]
    exact filter_flatMap_filter (outside fun collected member => (gathered collected member).shares.blocking)
  · intro request member hash named
    simp only [requests_foldl, SnapshotTables.empty, List.nil_append] at member
    obtain ⟨listed, owned⟩ := List.mem_filter.mp member
    obtain ⟨collected, inside, part⟩ := List.mem_flatMap.mp listed
    have key : collectedKey collected = frame :=
      ((gathered collected inside).shares.requests request part).symm.trans (of_decide_eq_true owned)
    obtain ⟨stored, batch, same⟩ := (gathered collected inside).referred request part hash named
    have chosen : collected ∈ collections.filter own :=
      List.mem_filter.mpr ⟨inside, selected collected inside key⟩
    obtain ⟨text, known, hashes, shown⟩ := shownTexts collections (fun _ member => member) hash
      ⟨collected, inside, stored, batch, same⟩
    obtain ⟨other, knownOther, hashesOther, shownOther⟩ := shownTexts (collections.filter own)
      (fun _ member => List.mem_of_mem_filter member) hash ⟨collected, chosen, stored, batch, same⟩
    rw [shown, shownOther, apart text other known knownOther (hashes.trans hashesOther.symm)]

theorem framesOf_foldl (instanceId : Uuid) :
    framesOf (collections.foldl storeCollected .empty) instanceId =
      (collections.filter fun collected => (collectedKey collected).instanceId = instanceId).map
        (·.frame.snapshotFrame) := by
  rw [framesOf, frames_foldl, SnapshotTables.empty, List.nil_append, List.filter_map]
  rfl

theorem sameInstance_foldl (instanceId : Uuid)
    (gathered : ∀ collected ∈ collections, Gathered env involved collected)
    (apart : ∀ text other, involved text → involved other →
      env.texts.sqlHash text = env.texts.sqlHash other → text = other) :
    SameInstance instanceId (collections.foldl storeCollected .empty)
      ((collections.filter fun collected =>
        (collectedKey collected).instanceId = instanceId).foldl storeCollected .empty) := by
  refine ⟨?_, fun frame own => sameFrame_foldl gathered apart fun collected _ same => ?_⟩
  · rw [framesOf_foldl, framesOf_foldl, List.filter_filter]
    simp only [Bool.and_self]
  · simp [same, own]

end Selections

section Runs

variable (env : Environment)

def RunInCalls (calls : List Call) (text : String) : Prop :=
  ∃ call ∈ calls, RunsText call.attempt text

def collectedAlone (instanceId : Uuid) (history : List CallRecord) : SnapshotTables :=
  (successfulFrames env (callsTo instanceId history)).foldl storeCollected .empty

variable {env} {start final : CollectorState} {calls : List Call}

theorem key_collected {record : CallRecord} {collected : Collected}
    (gathered : record.collected env = some collected) :
    collectedKey collected = ⟨record.call.attempt.frameId, record.call.instanceId, record.snapshotTime⟩ :=
  key_collectFrame gathered

theorem successfulFrames_callsTo (instanceId : Uuid) (history : List CallRecord) :
    successfulFrames env (callsTo instanceId history) =
      (successfulFrames env history).filter fun collected =>
        (collectedKey collected).instanceId = instanceId := by
  have swapped : (callsTo instanceId history).filter (·.succeeded) =
      (history.filter (·.succeeded)).filter (·.call.instanceId = instanceId) := by
    rw [callsTo, List.filter_filter, List.filter_filter]
    exact List.filter_congr fun record _ => Bool.and_comm _ _
  rw [successfulFrames, swapped, successfulFrames]
  induction history.filter (·.succeeded) with
  | nil => rfl
  | cons record rest ih =>
      cases gathered : record.collected env with
      | none => by_cases own : record.call.instanceId = instanceId <;> simp [own, gathered, ih]
      | some collected =>
          by_cases own : record.call.instanceId = instanceId <;>
            simp [own, gathered, ih, key_collected gathered]

theorem mem_successfulFrames {history : List CallRecord} {collected : Collected}
    (member : collected ∈ successfulFrames env history) :
    ∃ record ∈ history, record.collected env = some collected := by
  obtain ⟨record, inside, gathered⟩ := List.mem_filterMap.mp member
  exact ⟨record, (List.mem_filter.mp inside).1, gathered⟩

theorem gathered_run (begins : start.history = [])
    (ran : run (collectCall env) start calls = some final)
    (hashed : ∀ text, env.texts.sqlHash text ≠ "") :
    ∀ collected ∈ successfulFrames env final.history,
      Gathered env (RunInCalls calls) collected := by
  intro collected member
  obtain ⟨record, inside, gathered⟩ := mem_successfulFrames member
  have made : record.call ∈ calls := by
    rw [← calls_recorded begins ran]
    exact List.mem_map_of_mem inside
  exact gathered_collectFrame hashed (fun text runs => ⟨record.call, made, runs⟩) gathered

theorem sameInstance_run (instanceId : Uuid) (empty : start.tables = .empty)
    (begins : start.history = []) (ran : run (collectCall env) start calls = some final)
    (hashed : ∀ text, env.texts.sqlHash text ≠ "")
    (apart : ∀ text other, RunInCalls calls text → RunInCalls calls other →
      env.texts.sqlHash text = env.texts.sqlHash other → text = other) :
    SameInstance instanceId final.tables (collectedAlone env instanceId final.history) := by
  rw [(storesSuccesses_run empty begins ran).tables, collectedAlone, successfulFrames_callsTo]
  exact sameInstance_foldl instanceId (gathered_run begins ran hashed) apart

theorem pages_of_own_collections {F : Type} (floats : Floats F) (env : Environment)
    (start final : CollectorState) (calls : List Call) (empty : start.tables = .empty)
    (begins : start.history = []) (hashed : ∀ text, env.texts.sqlHash text ≠ "")
    (apart : ∀ text other, RunInCalls calls text → RunInCalls calls other →
      env.texts.sqlHash text = env.texts.sqlHash other → text = other)
    (ran : run (collectCall env) start calls = some final) :
    (∀ request : PageRequest, routePage floats final.tables request =
      routePage floats (collectedAlone env request.instanceId final.history) request) ∧
    ∀ instanceId, getBlockingChains final.tables instanceId none =
      getBlockingChains (collectedAlone env instanceId final.history) instanceId none := by
  constructor
  · intro request
    exact ((sameInstance_run request.instanceId empty begins ran hashed apart).routePage floats
      request rfl).symm
  · intro instanceId
    exact (sameInstance_run instanceId empty begins ran hashed apart).getBlockingChains.symm

def twoInstances : CollectorState :=
  { newInstance with
    instances := fun id => if id = 1 ∨ id = 2 then some ⟨id, "dsn", .offline, 0⟩ else none
    statuses := fun id => if id = 1 ∨ id = 2 then some (newCollectStatus id) else none }

def twoInstanceCalls : List Call :=
  [statementCallAt 5 true, { callAt 6 true with instanceId := 2 }, statementCallAt 7 false,
    statementCallAt 9 true, { callAt 11 true with instanceId := 2 }]

theorem runInCalls_twoInstanceCalls {text : String} (runs : RunInCalls twoInstanceCalls text) :
    text = "SELECT 1" := by
  obtain ⟨call, member, runs⟩ := runs
  simp only [twoInstanceCalls, List.mem_cons, List.not_mem_nil, or_false] at member
  rcases member with rfl | rfl | rfl | rfl | rfl
  · exact runsText_statementCallAt runs
  · obtain ⟨_, client, rows, row, made, answered, inside, -⟩ := runs
    obtain rfl := Option.some.inj made
    obtain rfl := Option.some.inj answered
    simp at inside
  · exact runsText_statementCallAt runs
  · exact runsText_statementCallAt runs
  · obtain ⟨_, client, rows, row, made, answered, inside, -⟩ := runs
    obtain rfl := Option.some.inj made
    obtain rfl := Option.some.inj answered
    simp at inside

theorem digestEnvironment_hashed (text : String) : digestEnvironment.texts.sqlHash text ≠ "" := by
  simp only [digestEnvironment]
  split <;> simp

theorem exists_run_twoInstanceCalls : ∃ final,
    run (collectCall digestEnvironment) twoInstances twoInstanceCalls = some final := by
  have ends : (run (collectCall digestEnvironment) twoInstances twoInstanceCalls).isSome = true := by
    decide +kernel
  exact Option.isSome_iff_exists.mp ends

theorem pages_of_own_collections_twoInstances :
    ∃ final, run (collectCall digestEnvironment) twoInstances twoInstanceCalls = some final ∧
      (∀ request : PageRequest, routePage rationalFloats final.tables request =
        routePage rationalFloats
          (collectedAlone digestEnvironment request.instanceId final.history) request) ∧
      ∀ instanceId, getBlockingChains final.tables instanceId none =
        getBlockingChains (collectedAlone digestEnvironment instanceId final.history) instanceId
          none := by
  obtain ⟨final, ran⟩ := exists_run_twoInstanceCalls
  refine ⟨final, ran, pages_of_own_collections rationalFloats digestEnvironment twoInstances final
    twoInstanceCalls rfl rfl digestEnvironment_hashed ?_ ran⟩
  intro text other known knownOther _
  rw [runInCalls_twoInstanceCalls known, runInCalls_twoInstanceCalls knownOther]

end Runs

section LivePages

variable {F : Type} (floats : Floats F) {tables other : SnapshotTables}

-- The replay is the one page that looks for a frame of its own.
def PageRequest.isLive : PageRequest → Bool
  | .replay _ _ => false
  | _ => true

def PageRequest.notFound : PageRequest → HttpError
  | .replay _ _ => replayFrameNotFound
  | _ => latestFrameNotFound

def Page.withoutTrends : Page F → Page F
  | .dashboard body => .dashboard { body with resourceTrends := [] }
  | page => page

theorem routePage_notFound {request : PageRequest}
    (nothing : framesOf tables request.instanceId = []) :
    routePage floats tables request = .error request.notFound := by
  have latest : getLatestFrame tables request.instanceId = none := by
    rw [getLatestFrame, nothing]
    rfl
  cases request with
  | replay id time =>
      have chosen : getFrameBefore tables id time maxDelaySeconds = none := by
        have empty : framesOf tables id = [] := nothing
        rw [getFrameBefore, empty]
        rfl
      simp only [routePage, getReplayFrame_eq, chosen]
      rfl
  | dashboard id window =>
      have latest : getLatestFrame tables id = none := latest
      simp only [routePage, getDashboard, latest]
      rfl
  | sqls id query =>
      have latest : getLatestFrame tables id = none := latest
      simp only [routePage, Sqls.listSqls, latest]
      rfl
  | sql id hash =>
      have latest : getLatestFrame tables id = none := latest
      simp only [routePage, ofLatestFrame, latest]
      rfl
  | sessions id query =>
      have latest : getLatestFrame tables id = none := latest
      simp only [routePage, Sessions.listSessions, latest]
      rfl
  | session id sessionId =>
      have latest : getLatestFrame tables id = none := latest
      simp only [routePage, ofLatestFrame, latest]
      rfl

theorem SameFrame.livePage {ref : SnapshotFrame} (same : SameFrame tables other ref.frame)
    {request : PageRequest} (live : request.isLive = true)
    (found : getLatestFrame tables request.instanceId = some ref)
    (foundOther : getLatestFrame other request.instanceId = some ref) :
    (routePage floats other request).map Page.withoutTrends =
      (routePage floats tables request).map Page.withoutTrends := by
  cases request with
  | replay id time => simp [PageRequest.isLive] at live
  | dashboard id window =>
      have found : getLatestFrame tables id = some ref := found
      have foundOther : getLatestFrame other id = some ref := foundOther
      simp only [routePage, getDashboard, found, foundOther, Option.none_or, Option.map_some,
        orNotFound, Except.map, Page.withoutTrends, same.dashboardOf]
  | sqls id query =>
      have found : getLatestFrame tables id = some ref := found
      have foundOther : getLatestFrame other id = some ref := foundOther
      simp only [routePage, Sqls.listSqls, found, foundOther, Option.none_or, Option.map_some,
        same.sqlListOf]
  | sql id hash =>
      have found : getLatestFrame tables id = some ref := found
      have foundOther : getLatestFrame other id = some ref := foundOther
      simp only [routePage, ofLatestFrame, found, foundOther, same.getSqlDetail]
  | sessions id query =>
      have found : getLatestFrame tables id = some ref := found
      have foundOther : getLatestFrame other id = some ref := foundOther
      simp only [routePage, Sessions.listSessions, found, foundOther, Option.none_or,
        Option.map_some, same.sessionListOf]
  | session id sessionId =>
      have found : getLatestFrame tables id = some ref := found
      have foundOther : getLatestFrame other id = some ref := foundOther
      simp only [routePage, ofLatestFrame, found, foundOther, same.getSessionDetail]

theorem SameFrame.getBlockingChains {ref : SnapshotFrame} {instanceId : Uuid}
    (same : SameFrame tables other ref.frame) (found : getLatestFrame tables instanceId = some ref)
    (foundOther : getLatestFrame other instanceId = some ref) :
    getBlockingChains other instanceId none = getBlockingChains tables instanceId none := by
  simp only [Services.getBlockingChains, found, foundOther, Option.none_or, Option.map_some,
    same.blockingOf]

theorem latestOf_of_rising {rows : List SnapshotFrame} {last : SnapshotFrame}
    (rising : (rows ++ [last]).Pairwise fun row next => snapshotTime row < snapshotTime next) :
    latestOf (rows ++ [last]) = some last := by
  cases found : latestOf (rows ++ [last]) with
  | none => simpa using latestOf_eq_none.mp found
  | some newest =>
      have reaches := le_of_latestOf found (List.mem_append_right rows (List.mem_singleton_self last))
      rcases List.mem_append.mp (mem_of_latestOf found) with earlier | single
      · have before := (List.pairwise_append.mp rising).2.2 newest earlier last
          (List.mem_singleton_self last)
        exact absurd reaches (not_le_of_gt before)
      · rw [List.mem_singleton.mp single]

end LivePages

section LastSuccess

variable {env : Environment} {start final : CollectorState} {calls : List Call}
  {instanceId : Uuid} {record : CallRecord}

def TimesRise (instanceId : Uuid) (calls : List Call) : Prop :=
  calls.Pairwise fun call next => call.instanceId = instanceId → next.instanceId = instanceId →
    call.attempt.snapshotTime < next.attempt.snapshotTime

theorem successes_rise (begins : start.history = [])
    (ran : run (collectCall env) start calls = some final) (rise : TimesRise instanceId calls) :
    (successesOf instanceId final.history).Pairwise fun record next =>
      record.snapshotTime < next.snapshotTime := by
  rw [TimesRise, ← calls_recorded begins ran, List.pairwise_map] at rise
  refine List.Pairwise.imp_of_mem ?_ ((rise.filter _).filter _)
  intro record next member memberNext ordered
  have own := (List.mem_filter.mp (List.mem_filter.mp member).1).2
  have ownNext := (List.mem_filter.mp (List.mem_filter.mp memberNext).1).2
  exact ordered (of_decide_eq_true own) (of_decide_eq_true ownNext)

theorem mem_successesOf (member : record ∈ successesOf instanceId final.history) :
    record ∈ final.history ∧ record.call.instanceId = instanceId ∧ record.succeeded = true := by
  obtain ⟨called, succeeded⟩ := List.mem_filter.mp member
  obtain ⟨made, own⟩ := List.mem_filter.mp called
  exact ⟨made, of_decide_eq_true own, succeeded⟩

theorem framesOf_run (instanceId : Uuid) (stores : StoresSuccesses env start final) :
    framesOf final.tables instanceId =
      ((successesOf instanceId final.history).filterMap (CallRecord.collected env)).map
        (·.frame.snapshotFrame) := by
  rw [stores.tables, framesOf_foldl, ← successfulFrames_callsTo]
  rfl

theorem frames_rise (stores : StoresSuccesses env start final)
    (rise : (successesOf instanceId final.history).Pairwise fun record next =>
      record.snapshotTime < next.snapshotTime) :
    (framesOf final.tables instanceId).Pairwise fun row next => snapshotTime row < snapshotTime next := by
  rw [framesOf_run instanceId stores, List.pairwise_map, List.pairwise_filterMap]
  refine rise.imp ?_
  intro record next ordered collected gathered later gatheredLater
  have time : (collectedKey collected).snapshotTime = record.snapshotTime := by
    rw [key_collected gathered]
  have timeLater : (collectedKey later).snapshotTime = next.snapshotTime := by
    rw [key_collected gatheredLater]
  exact time.trans_lt (ordered.trans_eq timeLater.symm)

theorem latest_run (stores : StoresSuccesses env start final)
    (rise : (successesOf instanceId final.history).Pairwise fun record next =>
      record.snapshotTime < next.snapshotTime)
    (last : (successesOf instanceId final.history).getLast? = some record) :
    ∃ collected, record.collected env = some collected ∧
      getLatestFrame final.tables instanceId = some collected.frame.snapshotFrame := by
  have ordered := frames_rise stores rise
  obtain ⟨earlier, split⟩ := List.getLast?_eq_some_iff.mp last
  have listed : record ∈ successesOf instanceId final.history := by simp [split]
  obtain ⟨made, -, succeeded⟩ := mem_successesOf listed
  obtain ⟨collected, gathered⟩ := Option.isSome_iff_exists.mp (stores.collected record made succeeded)
  refine ⟨collected, gathered, ?_⟩
  have frames := framesOf_run instanceId stores
  simp only [split, List.filterMap_append, List.filterMap_cons, gathered, List.filterMap_nil,
    List.map_append, List.map_cons, List.map_nil] at frames
  rw [frames] at ordered
  rw [getLatestFrame, frames]
  exact latestOf_of_rising ordered

theorem sameFrame_alone {involved : String → Prop} {collected : Collected}
    (stores : StoresSuccesses env start final)
    (gathered : ∀ collected ∈ successfulFrames env final.history, Gathered env involved collected)
    (apart : ∀ text other, involved text → involved other →
      env.texts.sqlHash text = env.texts.sqlHash other → text = other)
    (member : collected ∈ successfulFrames env final.history) :
    SameFrame final.tables (storeCollected .empty collected) (collectedKey collected) := by
  have keys := stores.wellFormed.distinct
  rw [stores.tables, frames_foldl, SnapshotTables.empty, List.nil_append, List.map_map] at keys
  have only : (successfulFrames env final.history).filter
      (fun other => collectedKey other = collectedKey collected) = [collected] := by
    obtain ⟨before, after, split⟩ := List.append_of_mem member
    have apartFrom : ∀ other ∈ before ++ after, collectedKey other ≠ collectedKey collected := by
      intro other inside same
      rw [split, List.map_append, List.map_cons, List.nodup_middle] at keys
      refine (List.nodup_cons.mp keys).1 ?_
      rw [← List.map_append]
      refine List.mem_map.mpr ⟨other, inside, ?_⟩
      exact congrArg (fun key : FrameKey => (key.frameId, key.snapshotTime)) same
    have others : (before ++ after).filter
        (fun other => collectedKey other = collectedKey collected) = [] :=
      List.filter_eq_nil_iff.mpr fun other inside => by simpa using apartFrom other inside
    rw [List.filter_append, List.append_eq_nil_iff] at others
    rw [split, List.filter_append, List.filter_cons_of_pos (by simp), others.1, others.2]
    rfl
  have same := @sameFrame_foldl env involved (successfulFrames env final.history)
    (collectedKey collected) (fun other => collectedKey other = collectedKey collected) gathered apart
    fun _ _ key => decide_eq_true key
  rw [only, ← stores.tables] at same
  exact same

theorem live_pages_show_last_success {F : Type} (floats : Floats F) (env : Environment)
    (start final : CollectorState) (calls : List Call) (instanceId : Uuid)
    (empty : start.tables = .empty) (begins : start.history = [])
    (hashed : ∀ text, env.texts.sqlHash text ≠ "")
    (apart : ∀ text other, RunInCalls calls text → RunInCalls calls other →
      env.texts.sqlHash text = env.texts.sqlHash other → text = other)
    (rise : TimesRise instanceId calls) (ran : run (collectCall env) start calls = some final) :
    (successesOf instanceId final.history = [] →
      (∀ request : PageRequest, request.instanceId = instanceId →
        routePage floats final.tables request = .error request.notFound) ∧
      getBlockingChains final.tables instanceId none = none) ∧
    ∀ record, (successesOf instanceId final.history).getLast? = some record →
      ∃ collected, record.collected env = some collected ∧
        (∀ request : PageRequest, request.isLive = true → request.instanceId = instanceId →
          (routePage floats final.tables request).map Page.withoutTrends =
            (routePage floats (storeCollected .empty collected) request).map Page.withoutTrends) ∧
        getBlockingChains final.tables instanceId none =
          getBlockingChains (storeCollected .empty collected) instanceId none ∧
        ∀ first, start.statuses instanceId = some first → ∃ status,
          final.statuses instanceId = some status ∧
            status.lastSuccessAt = (getLatestFrame final.tables instanceId).map snapshotTime := by
  have stores := storesSuccesses_run empty begins ran
  constructor
  · intro none
    have nothing : framesOf final.tables instanceId = [] := by
      rw [framesOf_run instanceId stores, none]
      rfl
    refine ⟨fun request about => routePage_notFound floats (about ▸ nothing), ?_⟩
    rw [getBlockingChains, getLatestFrame, nothing]
    rfl
  · intro record last
    obtain ⟨collected, gathered, latest⟩ :=
      latest_run stores (successes_rise begins ran rise) last
    have listed : record ∈ successesOf instanceId final.history := List.mem_of_getLast? last
    obtain ⟨made, own, succeeded⟩ := mem_successesOf listed
    have key := key_collected gathered
    have member : collected ∈ successfulFrames env final.history :=
      List.mem_filterMap.mpr ⟨record, List.mem_filter.mpr ⟨made, succeeded⟩, gathered⟩
    have same := sameFrame_alone stores (gathered_run begins ran hashed) apart member
    have alone : getLatestFrame (storeCollected .empty collected) instanceId =
        some collected.frame.snapshotFrame := by
      have owned : (collectedKey collected).instanceId = instanceId := by rw [key]; exact own
      have frames := @framesOf_foldl [collected] instanceId
      simp only [owned, List.filter_cons, decide_true, if_true, List.filter_nil, List.map_cons,
        List.map_nil] at frames
      rw [getLatestFrame]
      exact congrArg latestOf frames
    refine ⟨collected, gathered, ?_, (same.getBlockingChains latest alone).symm, ?_⟩
    · rintro request live rfl
      exact (same.livePage floats live latest alone).symm
    · intro first began
      obtain ⟨status, stored, told⟩ := stores.lastSuccess instanceId first began
      refine ⟨status, stored, ?_⟩
      have time : snapshotTime collected.frame.snapshotFrame = record.snapshotTime :=
        congrArg FrameKey.snapshotTime key
      rw [told, last, latest]
      simp [time]

theorem timesRise_twoInstanceCalls : TimesRise 1 twoInstanceCalls := by
  simp [TimesRise, twoInstanceCalls, statementCallAt, callAt]

theorem live_pages_show_last_success_twoInstances :
    ∃ final record collected,
      run (collectCall digestEnvironment) twoInstances twoInstanceCalls = some final ∧
      (successesOf 1 final.history).getLast? = some record ∧ record.snapshotTime = 9 ∧
      record.collected digestEnvironment = some collected ∧
      ∀ request : PageRequest, request.isLive = true → request.instanceId = 1 →
        (routePage rationalFloats final.tables request).map Page.withoutTrends =
          (routePage rationalFloats (storeCollected .empty collected) request).map
            Page.withoutTrends := by
  obtain ⟨final, ran⟩ := exists_run_twoInstanceCalls
  have times : (run (collectCall digestEnvironment) twoInstances twoInstanceCalls).map
      (fun state => (successesOf 1 state.history).getLast?.map (·.snapshotTime)) =
        some (some 9) := by decide +kernel
  rw [ran] at times
  obtain ⟨record, last, nine⟩ := Option.map_eq_some_iff.mp (Option.some.inj times)
  obtain ⟨-, shows⟩ := live_pages_show_last_success rationalFloats digestEnvironment twoInstances
    final twoInstanceCalls 1 rfl rfl digestEnvironment_hashed
    (fun text other known knownOther _ => by
      rw [runInCalls_twoInstanceCalls known, runInCalls_twoInstanceCalls knownOther])
    timesRise_twoInstanceCalls ran
  obtain ⟨collected, gathered, pages, -, -⟩ := shows record last
  exact ⟨final, record, collected, ran, last, nine, gathered, pages⟩

end LastSuccess

end SqlMonitor.Services
