import SqlMonitor.Collector.IndexCollection
import SqlMonitor.Services.IndexOperations
import Mathlib.Data.Nat.Digits.Defs

set_option autoImplicit false

namespace SqlMonitor.Services

open Collector

section Names

-- `f"{stem}_{sequence:03d}"`
def numberedName (stem : String) (sequence : Nat) : String :=
  let digits := Nat.toDigits 10 sequence
  String.ofList (stem.toList ++ '_' :: (List.replicate (3 - digits.length) '0' ++ digits))

theorem runtimeError_named : "RuntimeError" ≠ "" := by decide

def buildDefaultIndexName (client : OperationClient) (databaseName schemaName tableName : String)
    (keyColumns : List String) : Raises String := do
  let baseName := buildLightweightIndexName tableName keyColumns
  let existingNames ← existingIndexNames client databaseName schemaName tableName
  if baseName ∉ existingNames then return baseName
  let stem := truncateIdentifier baseName.toList 4
  match (List.range' 1 999).find? fun sequence => numberedName stem sequence ∉ existingNames with
  | some sequence => return numberedName stem sequence
  | none => throw ⟨"RuntimeError", "INDEX_NAME_SEQUENCE_EXHAUSTED", runtimeError_named⟩

end Names

section Offers

def recommendedName (resolveNameConflicts : Bool) (client : OperationClient) (databaseName : String)
    (candidate : MissingIndexCandidate) : Raises String :=
  if resolveNameConflicts then
    buildDefaultIndexName client databaseName candidate.schemaName candidate.tableName
      (candidate.equalityColumns ++ candidate.inequalityColumns)
  else return candidate.recommendedIndexName

/-- `list_missing_indexes_page` with its switch; both clients are faces of one. -/
def listMissingIndexesPageWith (resolveNameConflicts : Bool) (client : IndexClient)
    (operations : OperationClient) (databaseName : String) (page pageSize : Nat) :
    Raises (IndexPage MissingIndexCandidate) := do
  validateIdentifier databaseName "database_name"
  let totalRows ← client.missingTotal databaseName page
  let rows ← client.missingRows databaseName ((page - 1) * pageSize + 1) (page * pageSize)
  let candidates ← (rows.filterMap (missingIndexCandidate databaseName)).mapM fun candidate => do
    let name ← recommendedName resolveNameConflicts operations databaseName candidate
    return { candidate with recommendedIndexName := name }
  return ⟨candidates, (totalRows.head?.join).getD 0⟩

def missingSnapshotItem (snapshot : MissingIndexSnapshot) : MissingIndexCandidate where
  databaseName := snapshot.databaseName
  schemaName := snapshot.schemaName
  tableName := snapshot.tableName
  equalityColumns := snapshot.equalityColumns
  inequalityColumns := snapshot.inequalityColumns
  includeColumns := snapshot.includeColumns
  userSeeks := snapshot.userSeeks
  userScans := snapshot.userScans
  avgTotalUserCost := snapshot.avgTotalUserCost
  avgUserImpact := snapshot.avgUserImpact
  recommendedIndexName := snapshot.recommendedIndexName
  createEnabled := true
  errorMessage := none

end Offers

theorem mem_mapM {A B : Type} {f : A → Raises B} {rows : List A} {results : List B}
    (done : rows.mapM f = .ok results) :
    (∀ result ∈ results, ∃ row ∈ rows, f row = .ok result) ∧
      ∀ row ∈ rows, ∃ result ∈ results, f row = .ok result := by
  induction rows generalizing results with
  | nil =>
      rw [List.mapM_nil, pure_eq_ok] at done
      simp [← done]
  | cons row rows ih =>
      simp only [List.mapM_cons, bind_eq_ok, pure_eq_ok] at done
      obtain ⟨result, here, rest, later, rfl⟩ := done
      obtain ⟨back, forth⟩ := ih later
      constructor
      · refine List.forall_mem_cons.mpr ⟨⟨row, List.mem_cons_self .., here⟩, ?_⟩
        intro result member
        obtain ⟨row, inside, found⟩ := back result member
        exact ⟨row, List.mem_cons_of_mem _ inside, found⟩
      · refine List.forall_mem_cons.mpr ⟨⟨result, List.mem_cons_self .., here⟩, ?_⟩
        intro row member
        obtain ⟨result, inside, found⟩ := forth row member
        exact ⟨result, List.mem_cons_of_mem _ inside, found⟩

theorem listMissingIndexesPageWith_false (client : IndexClient) (operations : OperationClient)
    (databaseName : String) (page pageSize : Nat) :
    listMissingIndexesPageWith false client operations databaseName page pageSize =
      listMissingIndexesPage client databaseName page pageSize := by
  have kept (candidates : List MissingIndexCandidate) :
      (candidates.mapM fun candidate => do
        let name ← recommendedName false operations databaseName candidate
        return { candidate with recommendedIndexName := name }) = .ok candidates := by
    induction candidates with
    | nil => rfl
    | cons candidate rest ih =>
        rw [List.mapM_cons, ih]
        rfl
  simp only [listMissingIndexesPageWith, listMissingIndexesPage, kept]
  rfl

section Identifiers

theorem isIdentifier_of_nameChars {name : List Char} (some : name ≠ [])
    (nameChars : ∀ c ∈ name, isNameChar c = true) : isIdentifier (String.ofList name) = true := by
  have apart : ∀ c, isNameChar c = true → c ∉ ['.', '[', ']', Char.ofNat 0] := by
    intro c nameChar member
    simp only [List.mem_cons, List.not_mem_nil, or_false] at member
    rcases member with rfl | rfl | rfl | rfl <;> exact absurd nameChar (by decide)
  have text : String.ofList name ≠ "" := by
    intro empty
    exact some (by simpa using congrArg String.toList empty)
  simp only [isIdentifier, Bool.and_eq_true, decide_eq_true_eq, String.toList_ofList,
    List.all_eq_true]
  exact ⟨text, fun c member => apart c (nameChars c member)⟩

theorem isNameChar_replaceRuns (inRun : Bool) {text : List Char} :
    ∀ c ∈ replaceRuns inRun text, isNameChar c = true := by
  induction text generalizing inRun with
  | nil => simp [replaceRuns]
  | cons d text ih =>
      rw [replaceRuns]
      split_ifs with nameChar run
      · exact List.forall_mem_cons.mpr ⟨nameChar, ih false⟩
      · exact ih true
      · exact List.forall_mem_cons.mpr ⟨by decide, ih true⟩

theorem isNameChar_namePart (value : String) : ∀ c ∈ namePart value, isNameChar c = true := by
  have stripped : ∀ c ∈ stripBy (· == '_') (replaceRuns false value.toList),
      isNameChar c = true :=
    fun c member => isNameChar_replaceRuns false c (mem_of_mem_stripBy member)
  rw [namePart]
  cases found : stripBy (· == '_') (replaceRuns false value.toList) with
  | nil => exact List.all_eq_true.mp (by decide)
  | cons first rest =>
      rw [found] at stripped
      exact stripped

theorem forall_mem_intercalate {P : Char → Prop} {separator : List Char} {parts : List (List Char)}
    (separates : ∀ c ∈ separator, P c) (inside : ∀ part ∈ parts, ∀ c ∈ part, P c) :
    ∀ c ∈ separator.intercalate parts, P c := by
  induction parts with
  | nil => simp
  | cons part parts ih =>
      obtain ⟨here, later⟩ := List.forall_mem_cons.mp inside
      cases parts with
      | nil => simpa using here
      | cons next parts =>
          rw [List.intercalate_cons_cons, List.append_assoc, List.forall_mem_append,
            List.forall_mem_append]
          exact ⟨here, separates, ih later⟩

structure NameText (name : String) : Prop where
  some : name.toList ≠ []
  nameChars : ∀ c ∈ name.toList, isNameChar c = true

theorem NameText.isIdentifier {name : String} (named : NameText name) :
    isIdentifier name = true := by
  rw [← String.ofList_toList (s := name)]
  exact isIdentifier_of_nameChars named.some named.nameChars

theorem nameText_truncate {value : List Char} {reserve : Nat} (some : value ≠ [])
    (short : reserve < 128) (nameChars : ∀ c ∈ value, isNameChar c = true) :
    NameText (truncateIdentifier value reserve) where
  some := by
    rw [truncateIdentifier, String.toList_ofList, Ne, List.take_eq_nil_iff, not_or]
    exact ⟨by omega, some⟩
  nameChars := by
    rw [truncateIdentifier, String.toList_ofList]
    exact fun c member => nameChars c (List.mem_of_mem_take member)

theorem nameText_lightweight (tableName : String) (keyColumns : List String) :
    NameText (buildLightweightIndexName tableName keyColumns) := by
  have start : ∀ c ∈ "IX_".toList, isNameChar c = true := List.all_eq_true.mp (by decide)
  have separates : ∀ c ∈ ['_'], isNameChar c = true := List.all_eq_true.mp (by decide)
  have parts : ∀ part ∈ namePart tableName :: keyColumns.map namePart, ∀ c ∈ part,
      isNameChar c = true := by
    refine List.forall_mem_cons.mpr ⟨isNameChar_namePart tableName, ?_⟩
    intro part member
    obtain ⟨column, -, rfl⟩ := List.mem_map.mp member
    exact isNameChar_namePart column
  have joined := forall_mem_intercalate separates parts
  exact nameText_truncate (by simp) (by omega) (List.forall_mem_append.mpr ⟨start, joined⟩)

theorem nameText_numbered {stem : String} (named : NameText stem) (sequence : Nat) :
    NameText (numberedName stem sequence) where
  some := by simp [numberedName]
  nameChars := by
    have digit : ∀ c ∈ Nat.toDigits 10 sequence, isNameChar c = true := by
      intro c member
      have range := Nat.isDigit_of_mem_toDigits (by omega) (by omega) member
      simp only [Char.isDigit, Bool.and_eq_true, decide_eq_true_eq] at range
      simp only [isNameChar, Bool.or_eq_true, Bool.and_eq_true, decide_eq_true_eq]
      exact Or.inl (Or.inl (Or.inl range))
    rw [numberedName, String.toList_ofList]
    refine List.forall_mem_append.mpr ⟨named.nameChars, List.forall_mem_cons.mpr ⟨by decide, ?_⟩⟩
    refine List.forall_mem_append.mpr ⟨fun c member => ?_, digit⟩
    rw [List.eq_of_mem_replicate member]
    decide

theorem nameText_buildDefault {client : OperationClient}
    {databaseName schemaName tableName name : String} {keyColumns : List String}
    (built : buildDefaultIndexName client databaseName schemaName tableName keyColumns = .ok name) :
    NameText name := by
  have base := nameText_lightweight tableName keyColumns
  have stem := @nameText_truncate _ 4 base.some (by omega) base.nameChars
  simp only [buildDefaultIndexName, bind_eq_ok] at built
  obtain ⟨existingNames, -, chosen⟩ := built
  by_cases free : buildLightweightIndexName tableName keyColumns ∉ existingNames
  · rw [if_pos free, pure_eq_ok] at chosen
    exact chosen ▸ base
  · rw [if_neg free] at chosen
    split at chosen
    · exact pure_eq_ok.mp chosen ▸ nameText_numbered stem _
    · exact absurd chosen throw_ne_ok

end Identifiers

section Sequence

variable {client : OperationClient} {databaseName schemaName tableName : String}
  {keyColumns : List String} {rows : List (Option String)}

theorem length_truncateIdentifier_le (value : List Char) (reserve : Nat) :
    (truncateIdentifier value reserve).length ≤ 128 - reserve := by
  rw [truncateIdentifier, String.length_ofList]
  exact List.length_take_le _ _

theorem length_numberedName {stem : String} {sequence : Nat} (tried : sequence < 1000) :
    (numberedName stem sequence).length = stem.length + 4 := by
  have digits : (Nat.toDigits 10 sequence).length ≤ 3 :=
    Nat.toDigits_length 10 sequence 3 (by omega) tried
  rw [numberedName, String.length_ofList, List.length_append, List.length_cons,
    List.length_append, List.length_replicate, Nat.sub_add_cancel digits, String.length_toList]

theorem existingIndexNames_eq
    (identifiers : ∀ value ∈ [databaseName, schemaName, tableName], isIdentifier value = true)
    (answered : ∀ quoted, quoteIdentifier databaseName = .ok quoted →
      client.indexNames quoted schemaName tableName = .ok rows) :
    existingIndexNames client databaseName schemaName tableName =
      .ok (rows.filterMap fun name => name.filter (· ≠ "")) := by
  have quoted := quoteIdentifier_of_valid (identifiers databaseName List.mem_cons_self)
  unfold existingIndexNames
  rw [validateIdentifiers_eq_ok.mpr identifiers, quoted]
  simp only [bind, Except.bind, answered _ quoted]
  rfl

theorem mem_existingNames_iff {name : String} (named : NameText name) :
    name ∈ rows.filterMap (fun name => name.filter (· ≠ "")) ↔ some name ∈ rows := by
  have text : name ≠ "" := fun empty => named.some (by rw [empty]; rfl)
  simp only [List.mem_filterMap, Option.filter_eq_some_iff, decide_eq_true_eq]
  constructor
  · rintro ⟨row, member, rfl, -⟩
    exact member
  · exact fun member => ⟨_, member, rfl, text⟩

def sequenceExhausted : PyException :=
  ⟨"RuntimeError", "INDEX_NAME_SEQUENCE_EXHAUSTED", runtimeError_named⟩

def numberedBase (tableName : String) (keyColumns : List String) (sequence : Nat) : String :=
  numberedName (truncateIdentifier (buildLightweightIndexName tableName keyColumns).toList 4)
    sequence

theorem nameText_numberedBase (tableName : String) (keyColumns : List String) (sequence : Nat) :
    NameText (numberedBase tableName keyColumns sequence) := by
  have base := nameText_lightweight tableName keyColumns
  exact nameText_numbered (nameText_truncate base.some (by omega) base.nameChars) sequence

theorem length_numberedBase_le {sequence : Nat} (tried : sequence < 1000) :
    (numberedBase tableName keyColumns sequence).length ≤ 128 := by
  have stem :=
    length_truncateIdentifier_le (buildLightweightIndexName tableName keyColumns).toList 4
  rw [numberedBase, length_numberedName tried]
  omega

theorem buildDefaultIndexName_eq
    (identifiers : ∀ value ∈ [databaseName, schemaName, tableName], isIdentifier value = true)
    (answered : ∀ quoted, quoteIdentifier databaseName = .ok quoted →
      client.indexNames quoted schemaName tableName = .ok rows) :
    buildDefaultIndexName client databaseName schemaName tableName keyColumns =
      if some (buildLightweightIndexName tableName keyColumns) ∉ rows then
        .ok (buildLightweightIndexName tableName keyColumns)
      else
        match (List.range' 1 999).find? fun sequence =>
            some (numberedBase tableName keyColumns sequence) ∉ rows with
        | some sequence => .ok (numberedBase tableName keyColumns sequence)
        | none => .error sequenceExhausted := by
  have free : (fun sequence => decide (numberedBase tableName keyColumns sequence ∉
      rows.filterMap fun name => name.filter (· ≠ ""))) =
      fun sequence => decide (some (numberedBase tableName keyColumns sequence) ∉ rows) :=
    funext fun sequence => decide_eq_decide.mpr (not_congr
      (mem_existingNames_iff (nameText_numberedBase tableName keyColumns sequence)))
  simp only [buildDefaultIndexName, existingIndexNames_eq identifiers answered, bind,
    Except.bind, mem_existingNames_iff (nameText_lightweight tableName keyColumns), ← free]
  rfl

theorem buildDefaultIndexName_free
    (identifiers : ∀ value ∈ [databaseName, schemaName, tableName], isIdentifier value = true)
    (answered : ∀ quoted, quoteIdentifier databaseName = .ok quoted →
      client.indexNames quoted schemaName tableName = .ok rows) :
    let built := buildDefaultIndexName client databaseName schemaName tableName keyColumns
    let base := buildLightweightIndexName tableName keyColumns
    let numbered := numberedBase tableName keyColumns
    ((∃ name, built = .ok name) ∨ built = .error sequenceExhausted) ∧
      (∀ name, built = .ok name →
        some name ∉ rows ∧ name.length ≤ 128 ∧ validateIdentifier name "identifier" = .ok () ∧
          (some base ∉ rows → name = base) ∧
          (some base ∈ rows → ∃ sequence, 1 ≤ sequence ∧ sequence ≤ 999 ∧
            name = numbered sequence ∧
            ∀ smaller, 1 ≤ smaller → smaller < sequence → some (numbered smaller) ∈ rows)) ∧
      (built = .error sequenceExhausted ↔
        some base ∈ rows ∧
          ∀ sequence, 1 ≤ sequence → sequence ≤ 999 → some (numbered sequence) ∈ rows) := by
  intro built base numbered
  have chosen : built = _ := buildDefaultIndexName_eq identifiers answered
  by_cases taken : some base ∈ rows
  · rw [if_neg (not_not_intro taken)] at chosen
    split at chosen
    case h_1 sequence found =>
      obtain ⟨free, member, least⟩ := List.find?_range'_eq_some.mp found
      obtain ⟨first, last⟩ := List.mem_range'_1.mp member
      have vacant : some (numbered sequence) ∉ rows := of_decide_eq_true free
      refine ⟨.inl ⟨_, chosen⟩, fun name same => ?_, ?_⟩
      · obtain rfl := Except.ok.inj (chosen.symm.trans same)
        refine ⟨vacant, length_numberedBase_le (by omega), ?_, fun kept => absurd taken kept,
          fun _ => ⟨sequence, first, by omega, rfl, fun smaller positive below => ?_⟩⟩
        · exact if_pos (nameText_numberedBase tableName keyColumns sequence).isIdentifier
        · simpa using least smaller positive below
      · rw [chosen]
        refine iff_of_false (by simp) fun full => vacant (full.2 sequence first (by omega))
    case h_2 absent =>
      refine ⟨.inr chosen, fun name same => ?_, fun _ => ⟨taken, fun sequence first last => ?_⟩,
        fun _ => chosen⟩
      · exact absurd (chosen.symm.trans same) (by simp)
      · simpa using List.find?_range'_eq_none.mp absent sequence first (by omega)
  · rw [if_pos taken] at chosen
    refine ⟨.inl ⟨_, chosen⟩, fun name same => ?_, ?_⟩
    · obtain rfl := Except.ok.inj (chosen.symm.trans same)
      refine ⟨taken, ?_, ?_, fun _ => rfl, fun kept => absurd kept taken⟩
      · exact length_truncateIdentifier_le _ 0
      · exact if_pos (nameText_lightweight tableName keyColumns).isIdentifier
    · rw [chosen]
      exact iff_of_false (by simp) fun full => taken full.1

def indexesNamed (names : List String) : OperationClient where
  indexNames := fun _ _ _ => .ok (names.map some)
  onlineSupport := .ok []
  execute := fun _ _ => .ok ()

theorem buildDefaultIndexName_free_orderItems :
    buildDefaultIndexName (indexesNamed ["IX_OrderItems_CustomerId_CreatedAt",
        "IX_OrderItems_CustomerId_CreatedAt_001"]) "Orders" "dbo" "OrderItems"
          ["CustomerId", "CreatedAt"] =
      .ok "IX_OrderItems_CustomerId_CreatedAt_002" := by
  obtain ⟨ends, free, full⟩ := @buildDefaultIndexName_free (indexesNamed
      ["IX_OrderItems_CustomerId_CreatedAt", "IX_OrderItems_CustomerId_CreatedAt_001"])
    "Orders" "dbo" "OrderItems" ["CustomerId", "CreatedAt"] _ (by decide) (fun _ _ => rfl)
  have second : some (numberedBase "OrderItems" ["CustomerId", "CreatedAt"] 2) ∉
      List.map some
        ["IX_OrderItems_CustomerId_CreatedAt", "IX_OrderItems_CustomerId_CreatedAt_001"] := by
    decide
  rcases ends with ⟨name, built⟩ | exhausted
  · obtain ⟨vacant, -, -, -, numbered⟩ := free name built
    obtain ⟨sequence, first, -, rfl, least⟩ := numbered (by decide)
    obtain rfl | rfl | later : sequence = 1 ∨ sequence = 2 ∨ 2 < sequence := by omega
    · exact absurd (by decide) vacant
    · exact built
    · exact absurd (least 2 (by omega) later) second
  · exact absurd ((full.mp exhausted).2 2 (by omega) (by omega)) second

end Sequence

section Acceptance

-- `build_create_index_sql` with what an item offers does not raise.
def AcceptedForCreation (item : MissingIndexCandidate) : Prop :=
  ∃ ddl, buildCreateIndexSql item.databaseName item.schemaName item.tableName
    item.recommendedIndexName (item.equalityColumns ++ item.inequalityColumns)
      item.includeColumns = .ok ddl

def CompleteRow (row : MissingIndexRow) : Prop :=
  orText row.tableName "" ≠ "" ∧ orText row.schemaName "" ≠ "" ∧
    parseColumnList row.equalityColumns ++ parseColumnList row.inequalityColumns ≠ []

def rowNames (databaseName : String) (row : MissingIndexRow) : List String :=
  [orText row.databaseName databaseName, orText row.schemaName "", orText row.tableName ""] ++
    (parseColumnList row.equalityColumns ++ parseColumnList row.inequalityColumns) ++
    parseColumnList row.includedColumns

variable {databaseName : String} {row : MissingIndexRow} {item : MissingIndexCandidate}

def OfferedOf (databaseName : String) (row : MissingIndexRow) (item : MissingIndexCandidate) :
    Prop :=
  ∃ candidate name, missingIndexCandidate databaseName row = some candidate ∧ NameText name ∧
    item = { candidate with recommendedIndexName := name }

theorem missingIndexCandidate_isSome_iff :
    (∃ candidate, missingIndexCandidate databaseName row = some candidate) ↔ CompleteRow row := by
  simp only [missingIndexCandidate, Option.ite_none_left_eq_some, not_or, CompleteRow]
  constructor
  · rintro ⟨candidate, complete, -⟩
    exact complete
  · exact fun complete => ⟨_, complete, rfl⟩

theorem OfferedOf.accepted_iff (offered : OfferedOf databaseName row item) :
    AcceptedForCreation item ↔ ∀ value ∈ rowNames databaseName row, isIdentifier value = true := by
  obtain ⟨candidate, name, built, named, rfl⟩ := offered
  simp only [missingIndexCandidate, Option.ite_none_left_eq_some, Option.some.injEq, not_or]
    at built
  obtain ⟨⟨-, -, keyed⟩, rfl⟩ := built
  rw [AcceptedForCreation, buildCreateIndexSql_returns_iff, rowNames]
  simp only [List.cons_append, List.nil_append, List.forall_mem_cons, List.forall_mem_append,
    named.isIdentifier, true_and]
  exact and_iff_right keyed

theorem OfferedOf.complete (offered : OfferedOf databaseName row item) : CompleteRow row := by
  obtain ⟨candidate, -, built, -, -⟩ := offered
  exact missingIndexCandidate_isSome_iff.mp ⟨candidate, built⟩

theorem OfferedOf.enabled (offered : OfferedOf databaseName row item) :
    item.createEnabled = true ∧ item.errorMessage = none := by
  obtain ⟨candidate, name, built, -, rfl⟩ := offered
  simp only [missingIndexCandidate, Option.ite_none_left_eq_some, Option.some.injEq] at built
  obtain ⟨-, rfl⟩ := built
  exact ⟨rfl, rfl⟩

theorem offeredOf_recommended {resolveNameConflicts : Bool} {operations : OperationClient}
    {candidate : MissingIndexCandidate}
    (built : missingIndexCandidate databaseName row = some candidate)
    (named : (do
      let name ← recommendedName resolveNameConflicts operations databaseName candidate
      return { candidate with recommendedIndexName := name }) = Except.ok item) :
    OfferedOf databaseName row item := by
  simp only [bind_eq_ok, pure_eq_ok] at named
  obtain ⟨name, chosen, rfl⟩ := named
  refine ⟨candidate, name, built, ?_, rfl⟩
  cases resolveNameConflicts with
  | true => exact nameText_buildDefault chosen
  | false =>
      rw [recommendedName, if_neg Bool.false_ne_true, pure_eq_ok] at chosen
      simp only [missingIndexCandidate, Option.ite_none_left_eq_some, Option.some.injEq] at built
      obtain ⟨-, rfl⟩ := built
      exact chosen ▸ nameText_lightweight _ _

variable {resolveNameConflicts : Bool} {client : IndexClient} {operations : OperationClient}
  {page pageSize : Nat} {rows : List MissingIndexRow} {result : IndexPage MissingIndexCandidate}

theorem items_of_page
    (answered : client.missingRows databaseName ((page - 1) * pageSize + 1) (page * pageSize) =
      .ok rows)
    (listed : listMissingIndexesPageWith resolveNameConflicts client operations databaseName page
      pageSize = .ok result) :
    (∀ item ∈ result.items, ∃ row ∈ rows, OfferedOf databaseName row item) ∧
      ∀ row ∈ rows, CompleteRow row → ∃ item ∈ result.items, OfferedOf databaseName row item := by
  simp only [listMissingIndexesPageWith, bind_eq_ok, pure_eq_ok, answered, Except.ok.injEq]
    at listed
  obtain ⟨-, -, -, -, rows, rfl, items, done, rfl⟩ := listed
  obtain ⟨back, forth⟩ := mem_mapM done
  constructor
  · intro item member
    obtain ⟨candidate, inside, named⟩ := back item member
    obtain ⟨row, present, built⟩ := List.mem_filterMap.mp inside
    exact ⟨row, present, offeredOf_recommended built named⟩
  · intro row present complete
    obtain ⟨candidate, built⟩ := missingIndexCandidate_isSome_iff.mpr complete
    obtain ⟨item, member, named⟩ := forth candidate (List.mem_filterMap.mpr ⟨row, present, built⟩)
    exact ⟨item, member, offeredOf_recommended built named⟩

theorem missingSnapshotItem_of_stored {instanceId : Uuid} {collectedAt : Timestamp}
    {store : IndexStore} {snapshot : MissingIndexSnapshot} {items : List MissingIndexCandidate}
    (enabled : ∀ item ∈ items, item.createEnabled = true ∧ item.errorMessage = none)
    (stored : snapshot ∈ (replaceMissingIndexSnapshots instanceId databaseName collectedAt items
      store).missing) (new : snapshot ∉ store.missing) :
    missingSnapshotItem snapshot ∈ items := by
  rcases List.mem_append.mp stored with old | added
  · exact absurd (List.mem_of_mem_filter old) new
  · obtain ⟨item, member, rfl⟩ := List.mem_map.mp added
    obtain ⟨offered, faultless⟩ := enabled item member
    have same : missingSnapshotItem
        { instanceId, collectedAt
          databaseName := item.databaseName, schemaName := item.schemaName
          tableName := item.tableName, equalityColumns := item.equalityColumns
          inequalityColumns := item.inequalityColumns, includeColumns := item.includeColumns
          userSeeks := item.userSeeks, userScans := item.userScans
          avgTotalUserCost := item.avgTotalUserCost, avgUserImpact := item.avgUserImpact
          recommendedIndexName := item.recommendedIndexName } = item := by
      cases item
      simp_all [missingSnapshotItem]
    exact same ▸ member

theorem offered_indexes_accepted_iff
    (answered : client.missingRows databaseName ((page - 1) * pageSize + 1) (page * pageSize) =
      .ok rows)
    (listed : listMissingIndexesPageWith resolveNameConflicts client operations databaseName page
      pageSize = .ok result) :
    ((∀ item ∈ result.items, item.createEnabled = true → AcceptedForCreation item) ∧
        ∀ instanceId collectedAt store,
          ∀ snapshot ∈ (replaceMissingIndexSnapshots instanceId databaseName collectedAt
            result.items store).missing, snapshot ∉ store.missing →
          (missingSnapshotItem snapshot).createEnabled = true →
          AcceptedForCreation (missingSnapshotItem snapshot)) ↔
      ∀ row ∈ rows, CompleteRow row →
        ∀ value ∈ rowNames databaseName row, isIdentifier value = true := by
  obtain ⟨back, forth⟩ := items_of_page answered listed
  have enabled : ∀ item ∈ result.items, item.createEnabled = true ∧ item.errorMessage = none := by
    intro item member
    obtain ⟨row, -, offered⟩ := back item member
    exact offered.enabled
  constructor
  · rintro ⟨accepted, -⟩ row present complete
    obtain ⟨item, member, offered⟩ := forth row present complete
    exact offered.accepted_iff.mp (accepted item member (enabled item member).1)
  · intro identifiers
    have accepted : ∀ item ∈ result.items, AcceptedForCreation item := by
      intro item member
      obtain ⟨row, present, offered⟩ := back item member
      exact offered.accepted_iff.mpr (identifiers row present offered.complete)
    refine ⟨fun item member _ => accepted item member, ?_⟩
    intro instanceId collectedAt store snapshot stored new _
    exact accepted _ (missingSnapshotItem_of_stored enabled stored new)

end Acceptance

section DottedColumn

def ordersIndexRow (column : String) : MissingIndexRow :=
  { databaseName := some "Sales", schemaName := some "dbo", tableName := some "Orders"
    equalityColumns := some column }

def oneMissingIndex (column : String) : IndexClient where
  userDatabases := .ok [some "Sales"]
  missingTotal := fun _ _ => .ok [some 1]
  missingRows := fun _ _ _ => .ok [ordersIndexRow column]
  onlineSupport := fun _ => .ok []
  fragmentationTotal := fun _ _ => .ok []
  fragmentationRows := fun _ _ _ => .ok []

def noOperations : OperationClient where
  indexNames := fun _ _ _ => .ok []
  onlineSupport := .ok []
  execute := fun _ _ => .ok ()

theorem oneMissingIndex_listed (column : String) :
    listMissingIndexesPageWith false (oneMissingIndex column) noOperations "Sales" 1 50 =
      .ok ⟨[ordersIndexRow column].filterMap (missingIndexCandidate "Sales"), 1⟩ := by
  rw [listMissingIndexesPageWith_false]
  rfl

theorem dotted_column_refused :
    ∃ result, listMissingIndexesPageWith false (oneMissingIndex "[unit.price]") noOperations
        "Sales" 1 50 = .ok result ∧
      ∃ item ∈ result.items, item.createEnabled = true ∧ ¬ AcceptedForCreation item := by
  refine ⟨_, oneMissingIndex_listed _, ?_⟩
  have complete : CompleteRow (ordersIndexRow "[unit.price]") := by
    unfold CompleteRow
    decide
  obtain ⟨item, member, offered⟩ := (items_of_page rfl (oneMissingIndex_listed "[unit.price]")).2 _
    (List.mem_singleton_self _) complete
  refine ⟨item, member, offered.enabled.1, ?_⟩
  rw [offered.accepted_iff]
  decide

theorem offered_indexes_accepted_iff_price :
    ∃ result, listMissingIndexesPageWith false (oneMissingIndex "[price]") noOperations
        "Sales" 1 50 = .ok result ∧
      ∀ item ∈ result.items, item.createEnabled = true → AcceptedForCreation item := by
  refine ⟨_, oneMissingIndex_listed _, ?_⟩
  refine ((offered_indexes_accepted_iff rfl (oneMissingIndex_listed "[price]")).mpr ?_).1
  intro row present _
  obtain rfl := List.mem_singleton.mp present
  decide

end DottedColumn

end SqlMonitor.Services
