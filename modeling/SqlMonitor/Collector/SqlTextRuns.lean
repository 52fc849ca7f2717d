import SqlMonitor.Collector.FrameConsistency

set_option autoImplicit false

namespace SqlMonitor.Collector

open Dmv UnitOfWork TransitionSystem

section Batch

variable (texts : SqlTextFunctions) (frame : FrameKey)

def textEntry (row : SessionRequestRow) : Option (String × SqlText) :=
  ((rowSqlText row).filter (texts.sqlHash · ≠ "")).map fun text =>
    (texts.sqlHash text, sqlTextOf texts frame text)

variable {texts frame}

theorem textEntry_eq_some {row : SessionRequestRow} {entry : String × SqlText} :
    textEntry texts frame row = some entry ↔ ∃ text, rowSqlText row = some text ∧
      texts.sqlHash text ≠ "" ∧ entry = (texts.sqlHash text, sqlTextOf texts frame text) := by
  cases found : rowSqlText row with
  | none => simp [textEntry, found]
  | some text =>
      by_cases empty : texts.sqlHash text = ""
      · simp [textEntry, found, Option.filter_some, empty]
      · simp only [textEntry, found, Option.filter_some, empty, ne_eq, not_false_eq_true,
          decide_true, if_true, Option.map_some, Option.some.injEq, existsAndEq, true_and]
        exact eq_comm

theorem sqlTexts_addRow (lists : SnapshotLists) (row : SessionRequestRow) :
    (addRow texts frame lists row).sqlTexts =
      (textEntry texts frame row).toList.foldl (fun dict entry => dict.set entry.1 entry.2)
        lists.sqlTexts := by
  cases found : rowSqlText row with
  | none => simp [addRow, textEntry, found]
  | some text =>
      by_cases empty : texts.sqlHash text = "" <;>
        simp [addRow, textEntry, found, Option.filter_some, empty]

theorem sqlTexts_foldl_addRow (rows : List SessionRequestRow) (lists : SnapshotLists) :
    (rows.foldl (addRow texts frame) lists).sqlTexts =
      (rows.filterMap (textEntry texts frame)).foldl
        (fun dict entry => dict.set entry.1 entry.2) lists.sqlTexts := by
  induction rows generalizing lists with
  | nil => rfl
  | cons row rest ih =>
      rw [List.foldl_cons, ih, sqlTexts_addRow, List.filterMap_cons]
      cases textEntry texts frame row <;> rfl

theorem sqlTexts_eq (rows : List SessionRequestRow) :
    (buildSessionAndRequestSnapshots texts frame rows).2.2 =
      (InsertionDict.ofList (rows.filterMap (textEntry texts frame))).values :=
  congrArg InsertionDict.values (sqlTexts_foldl_addRow rows ⟨[], [], .empty⟩)

theorem mem_batch {rows : List SessionRequestRow} {stored : SqlText}
    (member : stored ∈ (buildSessionAndRequestSnapshots texts frame rows).2.2) :
    ∃ row ∈ rows, ∃ text, rowSqlText row = some text ∧ stored = sqlTextOf texts frame text := by
  rw [sqlTexts_eq, InsertionDict.mem_values_iff] at member
  obtain ⟨hash, found⟩ := member
  obtain ⟨row, inside, entry⟩ := List.mem_filterMap.mp (InsertionDict.mem_of_get?_ofList found)
  obtain ⟨text, runs, -, same⟩ := textEntry_eq_some.mp entry
  exact ⟨row, inside, text, runs, congrArg Prod.snd same⟩

variable (frame) in
theorem exists_batch {rows : List SessionRequestRow} {row : SessionRequestRow} {text : String}
    (member : row ∈ rows) (runs : rowSqlText row = some text) (hashed : texts.sqlHash text ≠ "") :
    ∃ stored ∈ (buildSessionAndRequestSnapshots texts frame rows).2.2,
      stored.sqlHash = texts.sqlHash text := by
  have entry : textEntry texts frame row = some (texts.sqlHash text, sqlTextOf texts frame text) :=
    textEntry_eq_some.mpr ⟨text, runs, hashed, rfl⟩
  obtain ⟨stored, found⟩ :=
    InsertionDict.get?_ofList_isSome (List.mem_filterMap.mpr ⟨row, member, entry⟩)
  obtain ⟨other, -, wrote⟩ := List.mem_filterMap.mp (InsertionDict.mem_of_get?_ofList found)
  obtain ⟨_, -, -, same⟩ := textEntry_eq_some.mp wrote
  have hash : stored.sqlHash = texts.sqlHash text :=
    (congrArg (·.2.sqlHash) same).trans (congrArg Prod.fst same).symm
  refine ⟨stored, ?_, hash⟩
  rw [sqlTexts_eq]
  exact (InsertionDict.mem_values_iff _ _).mpr ⟨_, found⟩

theorem distinct_batch (rows : List SessionRequestRow) :
    ((buildSessionAndRequestSnapshots texts frame rows).2.2.map SqlText.sqlHash).Nodup := by
  let dict := InsertionDict.ofList (rows.filterMap (textEntry texts frame))
  have hashes : dict.values.map SqlText.sqlHash = dict.keys := by
    rw [InsertionDict.values, List.map_map]
    refine List.map_congr_left fun entry member => ?_
    have wrote := InsertionDict.mem_of_get?_ofList
      ((InsertionDict.get?_eq_some_iff _ _ _).mpr member)
    obtain ⟨row, -, made⟩ := List.mem_filterMap.mp wrote
    obtain ⟨text, -, -, same⟩ := textEntry_eq_some.mp made
    exact (congrArg (·.2.sqlHash) same).trans (congrArg Prod.fst same).symm
  rw [sqlTexts_eq, hashes]
  exact dict.keys_nodup

end Batch

section Frames

variable {env : Environment} {id : Uuid} {attempt : Attempt} {row : Instance}
  {collected : Collected}

def RunsText (attempt : Attempt) (text : String) : Prop :=
  ∃ connectionString client rows row, attempt.clientFactory connectionString = some client ∧
    client.sessionRequestRows = some rows ∧ row ∈ rows ∧ rowSqlText row = some text

def refersTo (sessions : List SessionSnapshot) (requests : List RequestSnapshot)
    (hash : String) (frame : SnapshotFrame) : Bool :=
  (sessions.any fun row => row.frame = frame.frame ∧ row.currentSqlHash = some hash) ||
    requests.any fun row => row.frame = frame.frame ∧ row.sqlHash = some hash

/-- The frames that have the statement, in the order of their commits. -/
def framesWith (tables : SnapshotTables) (hash : String) : List SnapshotFrame :=
  tables.frames.filter (refersTo tables.sessions tables.requests hash)

structure BuiltFrom (env : Environment) (attempt : Attempt) (collected : Collected)
    (rows : List SessionRequestRow) : Prop where
  returned : ∀ row ∈ rows, ∀ text, rowSqlText row = some text → RunsText attempt text
  sessions : collected.frame.sessions =
    rows.map (sessionSnapshot env.texts collected.frame.snapshotFrame.frame)
  requests : collected.frame.requests = (rows.filter (·.requestId.isSome)).map
    (requestSnapshot env.texts collected.frame.snapshotFrame.frame)
  sqlTexts : collected.sqlTexts = (buildSessionAndRequestSnapshots env.texts
    collected.frame.snapshotFrame.frame rows).2.2

theorem builtFrom_collectFrame (gathered : collectFrame env id attempt row = some collected) :
    ∃ rows, BuiltFrom env attempt collected rows := by
  simp only [collectFrame, Option.bind_eq_bind, Option.bind_eq_some_iff,
    Option.some.injEq] at gathered
  obtain ⟨connectionString, -, client, reached, rows, answered, _, -, _, -, rfl⟩ := gathered
  refine ⟨rows, ?_, sessions_eq rows, requests_eq rows, rfl⟩
  intro row member text runs
  exact ⟨connectionString, client, rows, row, reached, answered, member, runs⟩

variable {tables : SnapshotTables} {rows : List SessionRequestRow} {hash : String}

theorem rowHashes_fst {texts : SqlTextFunctions} {row : SessionRequestRow} :
    (rowHashes texts row).1 = (rowSqlText row).map texts.sqlHash := by
  unfold rowHashes
  split
  next none => rw [none]; rfl
  next some => rw [some]; rfl

theorem rowHashes_snd {texts : SqlTextFunctions} {row : SessionRequestRow} {text : String}
    (runs : rowSqlText row = some text) (hashed : texts.sqlHash text ≠ "") :
    (rowHashes texts row).2 = some (texts.normalizedSqlHash text) := by
  simp [rowHashes, runs, hashed]

theorem refersTo_append (sessions moreSessions : List SessionSnapshot)
    (requests moreRequests : List RequestSnapshot) (hash : String) (frame : SnapshotFrame) :
    refersTo (sessions ++ moreSessions) (requests ++ moreRequests) hash frame =
      (refersTo sessions requests hash frame || refersTo moreSessions moreRequests hash frame) := by
  simp only [refersTo, List.any_append]
  ac_rfl

theorem refersTo_eq_false {sessions : List SessionSnapshot} {requests : List RequestSnapshot}
    {frame : SnapshotFrame} (sessionsApart : ∀ row ∈ sessions, row.frame ≠ frame.frame)
    (requestsApart : ∀ row ∈ requests, row.frame ≠ frame.frame) (hash : String) :
    refersTo sessions requests hash frame = false := by
  rw [refersTo, Bool.or_eq_false_iff, List.any_eq_false, List.any_eq_false]
  constructor
  · intro row inside
    simp [sessionsApart row inside]
  · intro row inside
    simp [requestsApart row inside]

theorem framesWith_storeCollected (hash : String) (wellFormed : tables.WellFormed)
    (fresh : SnapshotTables.primaryKey collected.frame.snapshotFrame ∉
      tables.frames.map SnapshotTables.primaryKey)
    (shares : SharesKey collected.frame) :
    framesWith (storeCollected tables collected) hash = framesWith tables hash ++
      if refersTo collected.frame.sessions collected.frame.requests hash
        collected.frame.snapshotFrame then [collected.frame.snapshotFrame] else [] := by
  have apart : ∀ frame ∈ tables.frames, collected.frame.snapshotFrame.frame ≠ frame.frame := by
    intro frame member same
    refine fresh (List.mem_map.mpr ⟨frame, member, ?_⟩)
    rw [SnapshotTables.primaryKey, SnapshotTables.primaryKey, same]
  have owned : ∀ key, SnapshotTables.BelongsToOne tables.frames key →
      key ≠ collected.frame.snapshotFrame.frame := by
    intro key belongs same
    obtain ⟨owner, only⟩ := List.length_eq_one_iff.mp belongs
    have member : owner ∈ tables.frames.filter (·.frame = key) := by simp [only]
    obtain ⟨inside, own⟩ := List.mem_filter.mp member
    exact apart owner inside (same ▸ (of_decide_eq_true own).symm)
  have before : ∀ frame ∈ tables.frames,
      refersTo (tables.sessions ++ collected.frame.sessions)
        (tables.requests ++ collected.frame.requests) hash frame =
          refersTo tables.sessions tables.requests hash frame := by
    intro frame member
    have nothing := refersTo_eq_false
      (fun row inside => shares.sessions row inside ▸ apart frame member)
      (fun row inside => shares.requests row inside ▸ apart frame member) hash
    rw [refersTo_append, nothing, Bool.or_false]
  have added : refersTo (tables.sessions ++ collected.frame.sessions)
      (tables.requests ++ collected.frame.requests) hash collected.frame.snapshotFrame =
        refersTo collected.frame.sessions collected.frame.requests hash
          collected.frame.snapshotFrame := by
    have nothing := refersTo_eq_false
      (fun row inside => owned row.frame (wellFormed.sessions row inside))
      (fun row inside => owned row.frame (wellFormed.requests row inside)) hash
    rw [refersTo_append, nothing, Bool.false_or]
  simp only [framesWith, storeCollected, storeFrame, List.filter_append, List.filter_cons,
    List.filter_nil, added]
  rw [List.filter_congr before]

theorem refersTo_iff (built : BuiltFrom env attempt collected rows) :
    refersTo collected.frame.sessions collected.frame.requests hash
        collected.frame.snapshotFrame = true ↔
      ∃ row ∈ rows, ∃ text, rowSqlText row = some text ∧ env.texts.sqlHash text = hash := by
  have hashed : ∀ row, (rowHashes env.texts row).1 = some hash ↔
      ∃ text, rowSqlText row = some text ∧ env.texts.sqlHash text = hash := by
    intro row
    rw [rowHashes_fst, Option.map_eq_some_iff]
  simp only [refersTo, built.sessions, built.requests, Bool.or_eq_true, List.any_map,
    List.any_eq_true, Function.comp_apply, sessionSnapshot, requestSnapshot, true_and,
    decide_eq_true_eq, hashed]
  constructor
  · rintro (⟨row, member, found⟩ | ⟨row, member, found⟩)
    · exact ⟨row, member, found⟩
    · exact ⟨row, (List.mem_filter.mp member).1, found⟩
  · rintro ⟨row, member, found⟩
    exact Or.inl ⟨row, member, found⟩

theorem sqlTexts_storeCollected (tables : SnapshotTables)
    (built : BuiltFrom env attempt collected rows) (hashed : ∀ text, env.texts.sqlHash text ≠ "")
    (hash : String) :
    (refersTo collected.frame.sessions collected.frame.requests hash
        collected.frame.snapshotFrame = true ∧
      ∃ text, RunsText attempt text ∧ env.texts.sqlHash text = hash ∧
        (storeCollected tables collected).sqlTexts hash =
          some { sqlTextOf env.texts collected.frame.snapshotFrame.frame text with
            firstSeenAt := ((tables.sqlTexts hash).map SqlText.firstSeenAt).getD
              collected.frame.snapshotFrame.frame.snapshotTime }) ∨
    (refersTo collected.frame.sessions collected.frame.requests hash
        collected.frame.snapshotFrame = false ∧
      (storeCollected tables collected).sqlTexts hash = tables.sqlTexts hash) := by
  have distinct : (collected.sqlTexts.map SqlText.sqlHash).Nodup := by
    rw [built.sqlTexts]
    exact distinct_batch rows
  cases refers : refersTo collected.frame.sessions collected.frame.requests hash
    collected.frame.snapshotFrame with
  | true =>
      obtain ⟨row, member, text, runs, rfl⟩ := (refersTo_iff built).mp refers
      obtain ⟨stored, inBatch, same⟩ := exists_batch
        collected.frame.snapshotFrame.frame member runs (hashed text)
      obtain ⟨other, inside, written, runsWritten, rfl⟩ := mem_batch inBatch
      rw [← built.sqlTexts] at inBatch
      refine Or.inl ⟨rfl, written, built.returned other inside written runsWritten, same, ?_⟩
      rw [← same]
      exact (SnapshotTables.foldl_upsertSqlText_of_mem distinct inBatch).trans
        (SnapshotTables.upsertSqlText_self _ _)
  | false =>
      refine Or.inr ⟨rfl, SnapshotTables.foldl_upsertSqlText_of_absent fun stored inBatch same => ?_⟩
      rw [built.sqlTexts] at inBatch
      obtain ⟨row, member, text, runs, rfl⟩ := mem_batch inBatch
      rw [(refersTo_iff built).mpr ⟨row, member, text, runs, same⟩] at refers
      simp at refers

end Frames

section Runs

def frameTimes (frames : List SnapshotFrame) : List Timestamp :=
  frames.map (·.frame.snapshotTime)

/--
A text and when it was seen: it is made from its statement, and it names its first and
last frame.
-/
structure TextTells (env : Environment) (tables : SnapshotTables) (stored : SqlText) : Prop where
  hashed : env.texts.sqlHash stored.sqlText = stored.sqlHash
  normalized : stored.normalizedSqlHash = some (env.texts.normalizedSqlHash stored.sqlText)
  firstSeen : (frameTimes (framesWith tables stored.sqlHash)).head? = some stored.firstSeenAt
  lastSeen : (frameTimes (framesWith tables stored.sqlHash)).getLast? = some stored.lastSeenAt

structure TextsKept (env : Environment) (involved : String → Prop) (tables : SnapshotTables) :
    Prop where
  wellFormed : tables.WellFormed
  texts : ∀ hash stored, tables.sqlTexts hash = some stored →
    stored.sqlHash = hash ∧ involved stored.sqlText ∧ TextTells env tables stored
  sessions : ∀ row ∈ tables.sessions, ∀ hash, row.currentSqlHash = some hash →
    ∃ stored, tables.sqlTexts hash = some stored
  requests : ∀ row ∈ tables.requests, ∀ hash, row.sqlHash = some hash →
    (∃ stored, tables.sqlTexts hash = some stored) ∧
      ∃ text, involved text ∧ env.texts.sqlHash text = hash ∧
        row.normalizedSqlHash = some (env.texts.normalizedSqlHash text)

variable {env : Environment} {involved : String → Prop} {tables : SnapshotTables}

theorem TextsKept.framesWith_eq_nil (kept : TextsKept env involved tables) {hash : String}
    (absent : tables.sqlTexts hash = none) : framesWith tables hash = [] := by
  refine List.filter_eq_nil_iff.mpr fun frame _ refers => ?_
  simp only [refersTo, Bool.or_eq_true, List.any_eq_true, decide_eq_true_eq] at refers
  rcases refers with ⟨row, member, -, same⟩ | ⟨row, member, -, same⟩
  · obtain ⟨stored, found⟩ := kept.sessions row member hash same
    simp [absent] at found
  · obtain ⟨⟨stored, found⟩, -⟩ := kept.requests row member hash same
    simp [absent] at found

theorem textsKept_empty (env : Environment) (involved : String → Prop) :
    TextsKept env involved .empty := by
  refine ⟨SnapshotTables.wellFormed_empty, ?_, ?_, ?_⟩ <;> simp [SnapshotTables.empty]

section Step

variable {id : Uuid} {attempt : Attempt} {row : Instance} {collected : Collected}
  {rows : List SessionRequestRow}

theorem textTells_storeCollected (kept : TextsKept env involved tables)
    (fresh : SnapshotTables.primaryKey collected.frame.snapshotFrame ∉
      tables.frames.map SnapshotTables.primaryKey)
    (shares : SharesKey collected.frame) (built : BuiltFrom env attempt collected rows)
    (hashed : ∀ text, env.texts.sqlHash text ≠ "")
    (runs : ∀ text, RunsText attempt text → involved text)
    {hash : String} {stored : SqlText}
    (found : (storeCollected tables collected).sqlTexts hash = some stored) :
    stored.sqlHash = hash ∧ involved stored.sqlText ∧
      TextTells env (storeCollected tables collected) stored := by
  have frames := framesWith_storeCollected hash kept.wellFormed fresh shares
  rcases sqlTexts_storeCollected tables built hashed hash with
    ⟨refers, text, ran, same, written⟩ | ⟨unrelated, unchanged⟩
  · rw [refers, if_pos rfl] at frames
    obtain rfl := Option.some.inj (written.symm.trans found)
    subst same
    refine ⟨rfl, runs text ran, rfl, rfl, ?_, ?_⟩
    · simp only [sqlTextOf, frames, frameTimes, List.map_append]
      cases before : tables.sqlTexts (env.texts.sqlHash text) with
      | none => simp [kept.framesWith_eq_nil before]
      | some old =>
          obtain ⟨own, -, tells⟩ := kept.texts _ old before
          have first := tells.firstSeen
          rw [own] at first
          rw [List.head?_append, ← frameTimes, first]
          rfl
    · simp [sqlTextOf, frames, frameTimes]
  · rw [unrelated, if_neg Bool.false_ne_true, List.append_nil] at frames
    obtain ⟨rfl, known, tells⟩ := kept.texts hash stored (unchanged.symm.trans found)
    refine ⟨rfl, known, tells.hashed, tells.normalized, ?_, ?_⟩
    · rw [frames]
      exact tells.firstSeen
    · rw [frames]
      exact tells.lastSeen

theorem textsKept_storeCollected (kept : TextsKept env involved tables)
    (fresh : SnapshotTables.primaryKey collected.frame.snapshotFrame ∉
      tables.frames.map SnapshotTables.primaryKey)
    (gathered : collectFrame env id attempt row = some collected)
    (hashed : ∀ text, env.texts.sqlHash text ≠ "")
    (runs : ∀ text, RunsText attempt text → involved text) :
    TextsKept env involved (storeCollected tables collected) := by
  obtain ⟨rows, built⟩ := builtFrom_collectFrame gathered
  have shares := sharesKey_collectFrame gathered
  -- A text that was there stays, and a row of the new frame has its own in the batch.
  have stays : ∀ hash, (∃ stored, tables.sqlTexts hash = some stored) →
      ∃ stored, (storeCollected tables collected).sqlTexts hash = some stored := by
    intro hash present
    rcases sqlTexts_storeCollected tables built hashed hash with ⟨-, _, -, -, written⟩ | ⟨-, same⟩
    · exact ⟨_, written⟩
    · exact same ▸ present
  have arrives : ∀ row ∈ rows, ∀ hash, (rowHashes env.texts row).1 = some hash →
      ∃ text, rowSqlText row = some text ∧ env.texts.sqlHash text = hash ∧
        ∃ stored, (storeCollected tables collected).sqlTexts hash = some stored := by
    intro row member hash same
    rw [rowHashes_fst] at same
    obtain ⟨text, found, own⟩ := Option.map_eq_some_iff.mp same
    have refers := (refersTo_iff built).mpr ⟨row, member, text, found, own⟩
    rcases sqlTexts_storeCollected tables built hashed hash with
      ⟨-, _, -, -, written⟩ | ⟨unrelated, -⟩
    · exact ⟨text, found, own, _, written⟩
    · simp [refers] at unrelated
  refine ⟨wellFormed_storeCollected kept.wellFormed fresh shares, ?_, ?_, ?_⟩
  · exact fun hash stored found =>
      textTells_storeCollected kept fresh shares built hashed runs found
  · intro session member hash same
    rcases List.mem_append.mp member with old | new
    · exact stays hash (kept.sessions session old hash same)
    · rw [built.sessions] at new
      obtain ⟨row, inside, rfl⟩ := List.mem_map.mp new
      obtain ⟨_, -, -, stored⟩ := arrives row inside hash same
      exact stored
  · intro request member hash same
    rcases List.mem_append.mp member with old | new
    · obtain ⟨present, text⟩ := kept.requests request old hash same
      exact ⟨stays hash present, text⟩
    · rw [built.requests] at new
      obtain ⟨row, kept, rfl⟩ := List.mem_map.mp new
      have inside := (List.mem_filter.mp kept).1
      obtain ⟨text, found, own, stored⟩ := arrives row inside hash same
      refine ⟨stored, text, runs text (built.returned row inside text found), own, ?_⟩
      exact rowHashes_snd found (hashed text)

end Step

theorem textsKept_step {state next : CollectorState} {call : Call}
    (hashed : ∀ text, env.texts.sqlHash text ≠ "") (kept : TextsKept env involved state.tables)
    (runs : ∀ text, RunsText call.attempt text → involved text)
    (stepped : collectCall env state call = some next) : TextsKept env involved next.tables := by
  rcases call_tables stepped with unchanged | ⟨row, collected, gathered, fresh, stored⟩
  · rw [unchanged]
    exact kept
  · rw [stored]
    exact textsKept_storeCollected kept fresh gathered hashed runs

theorem sorted_frameTimes {start final : CollectorState} {calls : List Call}
    (sorted : (frameTimes start.tables.frames).Pairwise (· ≤ ·))
    (later : ∀ time ∈ frameTimes start.tables.frames, ∀ call ∈ calls,
      time ≤ call.attempt.snapshotTime)
    (nondecreasing : calls.Pairwise fun call next =>
      call.attempt.snapshotTime ≤ next.attempt.snapshotTime)
    (ran : run (collectCall env) start calls = some final) :
    (frameTimes final.tables.frames).Pairwise (· ≤ ·) := by
  induction calls generalizing start with
  | nil =>
      obtain rfl := Option.some.inj ran
      exact sorted
  | cons call rest ih =>
      obtain ⟨next, stepped, runRest⟩ := run_cons_eq_some ran
      obtain ⟨first, ordered⟩ := List.pairwise_cons.mp nondecreasing
      have before : ∀ time ∈ frameTimes start.tables.frames, ∀ call ∈ rest,
          time ≤ call.attempt.snapshotTime := fun time member other inside =>
        later time member other (List.mem_cons_of_mem _ inside)
      rcases call_tables stepped with unchanged | ⟨row, collected, gathered, -, stored⟩
      · exact ih (unchanged ▸ sorted) (unchanged ▸ before) ordered runRest
      · have times : frameTimes next.tables.frames =
            frameTimes start.tables.frames ++ [call.attempt.snapshotTime] := by
          rw [stored, frameTimes, storeCollected, storeFrame, List.map_append, List.map_singleton,
            key_collectFrame gathered, frameTimes]
        refine ih ?_ ?_ ordered runRest
        · rw [times]
          refine List.pairwise_append.mpr ⟨sorted, List.pairwise_singleton _ _, ?_⟩
          intro time member other single
          rw [List.mem_singleton.mp single]
          exact later time member call List.mem_cons_self
        · intro time member other inside
          rw [times] at member
          rcases List.mem_append.mp member with old | new
          · exact before time old other inside
          · rw [List.mem_singleton.mp new]
            exact first other inside

end Runs

section Stored

def IsStored (tables : SnapshotTables) (stored : SqlText) : Prop :=
  ∃ hash, tables.sqlTexts hash = some stored

def OnlyText (tables : SnapshotTables) (hash : String) (stored : SqlText) : Prop :=
  ∀ other, IsStored tables other ∧ other.sqlHash = hash ↔ other = stored

structure SqlTextsTell (env : Environment) (tables : SnapshotTables) : Prop where
  sessions : ∀ row ∈ tables.sessions, ∀ hash, row.currentSqlHash = some hash →
    ∃ stored, OnlyText tables hash stored
  requests : ∀ row ∈ tables.requests, ∀ hash, row.sqlHash = some hash →
    ∃ stored, OnlyText tables hash stored ∧ stored.normalizedSqlHash = row.normalizedSqlHash
  sorted : (frameTimes tables.frames).Pairwise (· ≤ ·)
  texts : ∀ stored, IsStored tables stored → TextTells env tables stored ∧
    stored.firstSeenAt ≤ stored.lastSeenAt

variable {env : Environment} {involved : String → Prop} {tables : SnapshotTables}

theorem TextsKept.onlyText (kept : TextsKept env involved tables) {hash : String}
    {stored : SqlText} (found : tables.sqlTexts hash = some stored) :
    OnlyText tables hash stored := by
  intro other
  constructor
  · rintro ⟨⟨key, held⟩, rfl⟩
    rw [(kept.texts key other held).1, held] at found
    exact Option.some.inj found
  · rintro rfl
    exact ⟨⟨hash, found⟩, (kept.texts hash other found).1⟩

theorem head_le_getLast {times : List Timestamp} {first last : Timestamp}
    (sorted : times.Pairwise (· ≤ ·)) (begins : times.head? = some first)
    (ends : times.getLast? = some last) : first ≤ last := by
  cases times with
  | nil => simp at begins
  | cons time rest =>
      obtain rfl : time = first := by simpa using begins
      rcases List.mem_cons.mp (List.mem_of_getLast? ends) with rfl | inRest
      · exact le_rfl
      · exact (List.pairwise_cons.mp sorted).1 last inRest

theorem TextsKept.tells (kept : TextsKept env involved tables)
    (apart : ∀ text other, involved text → involved other →
      env.texts.sqlHash text = env.texts.sqlHash other → text = other)
    (sorted : (frameTimes tables.frames).Pairwise (· ≤ ·)) : SqlTextsTell env tables := by
  refine ⟨?_, ?_, sorted, ?_⟩
  · intro row member hash same
    obtain ⟨stored, found⟩ := kept.sessions row member hash same
    exact ⟨stored, kept.onlyText found⟩
  · intro row member hash same
    obtain ⟨⟨stored, found⟩, text, known, own, normalized⟩ := kept.requests row member hash same
    obtain ⟨rfl, knownStored, tells⟩ := kept.texts hash stored found
    refine ⟨stored, kept.onlyText found, ?_⟩
    obtain rfl := apart text stored.sqlText known knownStored (own.trans tells.hashed.symm)
    rw [normalized, tells.normalized]
  · rintro stored ⟨hash, found⟩
    obtain ⟨-, -, tells⟩ := kept.texts hash stored found
    have chosen : (frameTimes (framesWith tables stored.sqlHash)).Pairwise (· ≤ ·) :=
      sorted.sublist (List.filter_sublist.map _)
    exact ⟨tells, head_le_getLast chosen tells.firstSeen tells.lastSeen⟩

end Stored

theorem sql_texts_tell (env : Environment) (start final : CollectorState) (calls : List Call)
    (empty : start.tables = .empty)
    (nondecreasing : calls.Pairwise fun call next =>
      call.attempt.snapshotTime ≤ next.attempt.snapshotTime)
    (hashed : ∀ text, env.texts.sqlHash text ≠ "")
    (apart : ∀ text other, (∃ call ∈ calls, RunsText call.attempt text) →
      (∃ call ∈ calls, RunsText call.attempt other) →
        env.texts.sqlHash text = env.texts.sqlHash other → text = other)
    (ran : run (collectCall env) start calls = some final) :
    SqlTextsTell env final.tables ∧ ∀ frame rows,
      ((buildSessionAndRequestSnapshots env.texts frame rows).2.2.map SqlText.sqlHash).Nodup := by
  have kept : TextsKept env (fun text => ∃ call ∈ calls, RunsText call.attempt text)
      final.tables := by
    refine run_invariant_along (I := fun state => TextsKept env _ state.tables)
      (P := fun _ call => call ∈ calls) (fun state call next holds member stepped => ?_) ?_ ?_ ran
    · exact textsKept_step hashed holds (fun text runs => ⟨call, member, runs⟩) stepped
    · rw [empty]
      exact textsKept_empty env _
    · intro before call after _ split _
      simp [split]
  have sorted : (frameTimes final.tables.frames).Pairwise (· ≤ ·) := by
    refine sorted_frameTimes ?_ ?_ nondecreasing ran
    · simp [empty, SnapshotTables.empty, frameTimes]
    · simp [empty, SnapshotTables.empty, frameTimes]
  exact ⟨kept.tells apart sorted, fun _ rows => distinct_batch rows⟩

def digestEnvironment : Environment where
  texts :=
    { sqlHash := fun text =>
        if text = "SELECT 1" then "e004ebd5b5532a4b85984a62f8ad48a81aa3460c1ca07701f386135d72cdecf5" else "0" ++ text
      normalizedSqlHash := fun text =>
        if text = "SELECT 1" then "e1c71d1661ae46e09b7aaec1c390957f0d6260410df4e4bc71b9c8d681021471" else "0" ++ text
      previewSql := fun text _ => text }
  milliseconds := plainEnvironment.milliseconds

def statementCallAt (time : Timestamp) (reached : Bool) : Call :=
  { callAt time reached with
    attempt := { (callAt time reached).attempt with
      clientFactory := fun _ =>
        if reached then
          some ⟨some [{ sessionId := some 51, requestId := some 0, sqlText := some "SELECT 1" },
            { sessionId := some 52, sqlText := some "SELECT 1" }], some [], some []⟩
        else none } }

theorem runsText_statementCallAt {time : Timestamp} {reached : Bool} {text : String}
    (runs : RunsText (statementCallAt time reached).attempt text) : text = "SELECT 1" := by
  obtain ⟨_, client, rows, row, made, answered, inside, found⟩ := runs
  obtain ⟨-, same⟩ := Option.ite_none_right_eq_some.mp made
  obtain rfl := Option.some.inj same
  obtain rfl := Option.some.inj answered
  simp only [List.mem_cons, List.not_mem_nil, or_false] at inside
  rcases inside with rfl | rfl
  · exact (Option.some.inj found).symm
  · exact (Option.some.inj found).symm

theorem sql_texts_tell_again :
    ∃ final, run (collectCall digestEnvironment) newInstance
        [statementCallAt 5 true, statementCallAt 7 false, statementCallAt 9 true] = some final ∧
      SqlTextsTell digestEnvironment final.tables ∧ ∀ frame rows,
        ((buildSessionAndRequestSnapshots digestEnvironment.texts frame rows).2.2.map
          SqlText.sqlHash).Nodup := by
  have ends : (run (collectCall digestEnvironment) newInstance
      [statementCallAt 5 true, statementCallAt 7 false, statementCallAt 9 true]).isSome = true := by
    decide +kernel
  obtain ⟨final, ran⟩ := Option.isSome_iff_exists.mp ends
  have only : ∀ text, (∃ call ∈ [statementCallAt 5 true, statementCallAt 7 false,
      statementCallAt 9 true], RunsText call.attempt text) → text = "SELECT 1" := by
    rintro text ⟨call, member, runs⟩
    simp only [List.mem_cons, List.not_mem_nil, or_false] at member
    rcases member with rfl | rfl | rfl
    · exact runsText_statementCallAt runs
    · exact runsText_statementCallAt runs
    · exact runsText_statementCallAt runs
  refine ⟨final, ran, sql_texts_tell digestEnvironment newInstance final _ rfl
    (by simp [statementCallAt, callAt]) ?_ ?_ ran⟩
  · intro text
    simp only [digestEnvironment]
    split <;> simp
  · intro text other known knownOther _
    rw [only text known, only other knownOther]

end SqlMonitor.Collector
