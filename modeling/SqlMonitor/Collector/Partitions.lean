import SqlMonitor.Collector.CollectCycle
import SqlMonitor.Shared.Calendar

set_option autoImplicit false

namespace SqlMonitor.Collector

open Calendar

section Statements

structure MonthBounds where
  suffix : String
  monthStart : DateTime
  nextMonth : DateTime

-- `strftime("%Y%m")`, where a year has four digits.
def yearMonth (time : DateTime) : String :=
  String.ofList (Nat.toDigits 10 time.year ++ padded 2 time.month)

-- Nothing where the year is out of range.
def nextMonthOf (monthStart : DateTime) : Option DateTime :=
  if monthStart.month = 12 then
    monthStart.replace fun fields => { fields with year := fields.year + 1, month := 1 }
  else monthStart.replace fun fields => { fields with month := fields.month + 1 }

def monthBounds (snapshotTime : DateTime) : Option MonthBounds := do
  let monthStart ← snapshotTime.replace fun fields =>
    { fields with day := 1, hour := 0, minute := 0, second := 0, microsecond := 0 }
  let nextMonth ← nextMonthOf monthStart
  return ⟨yearMonth monthStart, monthStart, nextMonth⟩

structure PartitionStatement where
  tableName : String
  suffix : String
  monthStartLiteral : String
  nextMonthLiteral : String

def PartitionStatement.name (statement : PartitionStatement) : String :=
  statement.tableName ++ "_" ++ statement.suffix

def PartitionStatement.text (statement : PartitionStatement) : String :=
  "CREATE TABLE IF NOT EXISTS " ++ statement.name ++
    " PARTITION OF " ++ statement.tableName ++
    " FOR VALUES FROM ('" ++ statement.monthStartLiteral ++ "') TO ('" ++
      statement.nextMonthLiteral ++ "')"

def MonthBounds.range (bounds : MonthBounds) : Set Timestamp :=
  Set.Ico bounds.monthStart.timestamp bounds.nextMonth.timestamp

def MonthBounds.statement (bounds : MonthBounds) (tableName : String) : PartitionStatement :=
  ⟨tableName, bounds.suffix, isoformat bounds.monthStart, isoformat bounds.nextMonth⟩

def partitionStatements (snapshotTime : DateTime) : Option (List PartitionStatement) :=
  (monthBounds snapshotTime).map fun bounds => partitionedTables.map bounds.statement

structure Partition where
  name : String
  parent : String
  lower : Timestamp
  upper : Timestamp
deriving DecidableEq

def Partition.range (partition : Partition) : Set Timestamp :=
  Set.Ico partition.lower partition.upper

def Partition.Apart (partition : Partition) (lower upper : Timestamp) : Prop :=
  partition.upper ≤ lower ∨ upper ≤ partition.lower

instance (partition : Partition) (lower upper : Timestamp) :
    Decidable (partition.Apart lower upper) := inferInstanceAs (Decidable (_ ∨ _))

/-- What the database does with a statement, or nothing where it raises. -/
def createPartition (catalog : List Partition) (statement : PartitionStatement) :
    Option (List Partition) :=
  -- `IF NOT EXISTS` looks at the name only.
  if catalog.any (·.name = statement.name) then some catalog
  else do
    let lower ← (readIso statement.monthStartLiteral).map DateTime.timestamp
    let upper ← (readIso statement.nextMonthLiteral).map DateTime.timestamp
    guard (lower < upper ∧
      ∀ other ∈ catalog, other.parent = statement.tableName → other.Apart lower upper)
    return catalog ++ [⟨statement.name, statement.tableName, lower, upper⟩]

/-- `_ensure_snapshot_partitions`, on a session that executes. -/
def ensureSnapshotPartitions (catalog : List Partition) (snapshotTime : DateTime) :
    Option (List Partition) := do
  let statements ← partitionStatements snapshotTime
  statements.foldlM createPartition catalog

end Statements

section Bounds

/-- The years for which the collector is asked to create partitions. -/
def YearInRange (time : DateTime) : Prop := 1000 ≤ time.year ∧ time.year ≤ 9998

/-- The month of a time comes right after the month of another, also in the next year. -/
def Follows (time next : DateTime) : Prop :=
  if time.month = 12 then next.year = time.year + 1 ∧ next.month = 1
  else next.year = time.year ∧ next.month = time.month + 1

variable {time other : DateTime}

theorem monthStart_valid (time : DateTime) : (firstOfMonth time.year time.month).Valid :=
  firstOfMonth_valid time.valid.1 time.valid.2.1

def followingMonth (time : DateTime) : Fields :=
  if time.month = 12 then firstOfMonth (time.year + 1) 1
  else firstOfMonth time.year (time.month + 1)

theorem followingMonth_valid (late : time.month = 12 → time.year ≤ 9998) :
    (followingMonth time).Valid := by
  obtain ⟨⟨low, high⟩, ⟨first, last⟩, -⟩ := time.valid
  unfold followingMonth
  split
  next december =>
    have before := late december
    exact firstOfMonth_valid ⟨by omega, by omega⟩ (by decide)
  next => exact firstOfMonth_valid ⟨low, high⟩ ⟨by omega, by omega⟩

theorem monthBounds_eq (valid : (followingMonth time).Valid) :
    monthBounds time = some ⟨yearMonth time, ⟨_, monthStart_valid time⟩, ⟨_, valid⟩⟩ := by
  have start : time.replace (fun fields => { fields with
      day := 1, hour := 0, minute := 0, second := 0, microsecond := 0 }) =
        some ⟨_, monthStart_valid time⟩ := dateTime?_of_valid (monthStart_valid time)
  have next : nextMonthOf ⟨_, monthStart_valid time⟩ = some ⟨_, valid⟩ := by
    rw [← dateTime?_of_valid valid]
    by_cases december : time.month = 12
    · simp only [nextMonthOf, followingMonth, firstOfMonth, december, if_true, DateTime.replace]
    · simp only [nextMonthOf, followingMonth, firstOfMonth, december, if_false, DateTime.replace]
  simp only [monthBounds, start, next, Option.bind_eq_bind, Option.bind_some]
  rfl

example : (partitionStatements ⟨⟨2024, 12, 31, 23, 59, 59, 999999⟩, by decide⟩).bind
    (·.head?.map PartitionStatement.text) =
      some ("CREATE TABLE IF NOT EXISTS snapshot_frames_202412 PARTITION OF snapshot_frames " ++
        "FOR VALUES FROM ('2024-12-01T00:00:00+00:00') TO ('2025-01-01T00:00:00+00:00')") := by
  decide +kernel

theorem timestamp_monthStart (time : DateTime) :
    DateTime.timestamp ⟨_, monthStart_valid time⟩ = startOfMonth time.monthIndex :=
  timestamp_firstOfMonth (monthStart_valid time)

theorem timestamp_followingMonth (valid : (followingMonth time).Valid) :
    DateTime.timestamp ⟨_, valid⟩ = startOfMonth (time.monthIndex + 1) := by
  obtain ⟨⟨low, -⟩, ⟨first, -⟩, -⟩ := time.valid
  unfold followingMonth at valid ⊢
  by_cases december : time.month = 12
  · have index : time.monthIndex + 1 = 12 * (time.year + 1 - 1) + (1 - 1) := by
      unfold DateTime.monthIndex
      omega
    simp only [december, if_true] at valid ⊢
    rw [timestamp_firstOfMonth valid, index]
  · have index : time.monthIndex + 1 = 12 * (time.year - 1) + (time.month + 1 - 1) := by
      unfold DateTime.monthIndex
      omega
    simp only [december, if_false] at valid ⊢
    rw [timestamp_firstOfMonth valid, index]

theorem readIso_literals (valid : (followingMonth time).Valid) :
    (readIso (isoformat ⟨_, monthStart_valid time⟩)).map DateTime.timestamp =
        some (startOfMonth time.monthIndex) ∧
      (readIso (isoformat ⟨_, valid⟩)).map DateTime.timestamp =
        some (startOfMonth (time.monthIndex + 1)) := by
  rw [readIso_isoformat, readIso_isoformat, Option.map_some, Option.map_some,
    timestamp_monthStart, timestamp_followingMonth]
  exact ⟨rfl, rfl⟩

theorem monthIndex_eq_iff :
    time.monthIndex = other.monthIndex ↔ time.year = other.year ∧ time.month = other.month := by
  constructor
  · intro same
    rw [← time.year_eq, ← other.year_eq, ← time.month_eq, ← other.month_eq, same]
    exact ⟨rfl, rfl⟩
  · intro same
    rw [DateTime.monthIndex, DateTime.monthIndex, same.1, same.2]

theorem Follows.firstOfMonth_eq (follows : Follows time other) :
    firstOfMonth other.year other.month = followingMonth time := by
  unfold Follows at follows
  unfold followingMonth
  split at follows
  next december => rw [if_pos december, follows.1, follows.2]
  next other => rw [if_neg other, follows.1, follows.2]

theorem length_padded_month (time : DateTime) : (padded 2 time.month).length = 2 := by
  obtain ⟨-, ⟨-, last⟩, -⟩ := time.valid
  exact length_padded (by omega) (by omega)

theorem length_yearMonth (years : YearInRange time) : (yearMonth time).toList.length = 6 := by
  obtain ⟨low, high⟩ := years
  have short : (Nat.toDigits 10 time.year).length ≤ 4 :=
    (Nat.length_toDigits_le_iff (by decide) (by decide)).mpr (by omega)
  have long : ¬ (Nat.toDigits 10 time.year).length ≤ 3 := by
    rw [Nat.length_toDigits_le_iff (by decide) (by decide)]
    omega
  rw [yearMonth, String.toList_ofList, List.length_append, length_padded_month]
  omega

theorem yearMonth_eq_iff :
    yearMonth time = yearMonth other ↔ time.monthIndex = other.monthIndex := by
  rw [monthIndex_eq_iff]
  constructor
  · intro same
    obtain ⟨years, months⟩ := List.append_inj' (String.ofList_injective same)
      ((length_padded_month time).trans (length_padded_month other).symm)
    refine ⟨?_, ?_⟩
    · rw [← Nat.ofDigitChars_ten_toDigits (n := time.year), years, Nat.ofDigitChars_ten_toDigits]
    · rw [← ofDigitChars_padded 2 time.month, months, ofDigitChars_padded]
  · intro same
    rw [yearMonth, yearMonth, same.1, same.2]

end Bounds

section Catalogs

def monthPartition (tableName : String) (time : DateTime) : Partition :=
  ⟨tableName ++ "_" ++ yearMonth time, tableName,
    startOfMonth time.monthIndex, startOfMonth (time.monthIndex + 1)⟩

structure MonthCatalog (catalog : List Partition) : Prop where
  month : ∀ partition ∈ catalog,
    ∃ tableName time, YearInRange time ∧ partition = monthPartition tableName time
  nodup : catalog.Nodup

variable {time other : DateTime} {tableName otherName : String} {catalog : List Partition}

theorem monthPartition_congr (same : time.monthIndex = other.monthIndex) :
    monthPartition tableName time = monthPartition tableName other := by
  rw [monthPartition, monthPartition, yearMonth_eq_iff.mpr same, same]

theorem disjoint_monthPartition (apart : time.monthIndex ≠ other.monthIndex) :
    Disjoint (monthPartition tableName time).range (monthPartition otherName other).range :=
  disjoint_months apart

theorem monthPartition_eq_of_name (years : YearInRange time) (otherYears : YearInRange other)
    (same : (monthPartition tableName time).name = (monthPartition otherName other).name) :
    monthPartition tableName time = monthPartition otherName other := by
  have chars := congrArg String.toList same
  simp only [monthPartition, String.toList_append] at chars
  obtain ⟨tables, suffixes⟩ := List.append_inj' chars
    ((length_yearMonth years).trans (length_yearMonth otherYears).symm)
  have table : tableName = otherName :=
    String.toList_injective (List.append_inj_left' tables rfl)
  have month := yearMonth_eq_iff.mp (String.toList_injective suffixes)
  rw [table, monthPartition_congr month]

theorem apart_monthPartition (apart : other.monthIndex ≠ time.monthIndex) :
    (monthPartition otherName other).Apart (startOfMonth time.monthIndex)
      (startOfMonth (time.monthIndex + 1)) := by
  rcases Nat.lt_or_gt_of_ne apart with before | after
  · exact .inl (startOfMonth_strictMono.monotone before)
  · exact .inr (startOfMonth_strictMono.monotone after)

variable (sound : MonthCatalog catalog)
include sound

theorem MonthCatalog.any_name (years : YearInRange time) :
    catalog.any (·.name = (monthPartition tableName time).name) = true ↔
      monthPartition tableName time ∈ catalog := by
  rw [List.any_eq_true]
  constructor
  · rintro ⟨partition, member, same⟩
    obtain ⟨otherName, other, otherYears, rfl⟩ := sound.month partition member
    rwa [monthPartition_eq_of_name years otherYears (of_decide_eq_true same).symm]
  · intro member
    exact ⟨_, member, decide_eq_true rfl⟩

theorem MonthCatalog.append (years : YearInRange time)
    (absent : monthPartition tableName time ∉ catalog) :
    MonthCatalog (catalog ++ [monthPartition tableName time]) where
  month := by
    intro partition member
    rcases List.mem_append.mp member with old | added
    · exact sound.month partition old
    · exact ⟨tableName, time, years, List.mem_singleton.mp added⟩
  nodup := by
    rw [← List.concat_eq_append]
    exact sound.nodup.concat absent

theorem MonthCatalog.accepts (absent : monthPartition tableName time ∉ catalog) :
    startOfMonth time.monthIndex < startOfMonth (time.monthIndex + 1) ∧
      ∀ partition ∈ catalog, partition.parent = tableName →
        partition.Apart (startOfMonth time.monthIndex) (startOfMonth (time.monthIndex + 1)) := by
  refine ⟨startOfMonth_strictMono (Nat.lt_succ_self _), fun partition member parent => ?_⟩
  obtain ⟨otherName, other, -, rfl⟩ := sound.month partition member
  obtain rfl : otherName = tableName := parent
  refine apart_monthPartition fun same => absent ?_
  rwa [← monthPartition_congr same]

theorem MonthCatalog.createPartition (tableName : String)
    (valid : (followingMonth time).Valid) (years : YearInRange time) :
    ∃ next, Collector.createPartition catalog
        (MonthBounds.statement ⟨yearMonth time, ⟨_, monthStart_valid time⟩, ⟨_, valid⟩⟩ tableName) =
          some next ∧
      MonthCatalog next ∧ catalog ⊆ next ∧ monthPartition tableName time ∈ next := by
  by_cases present : monthPartition tableName time ∈ catalog
  · exact ⟨catalog, if_pos ((sound.any_name years).mpr present), sound, List.Subset.refl _, present⟩
  · refine ⟨catalog ++ [monthPartition tableName time], ?_, sound.append years present,
      List.subset_append_left _ _, List.mem_append_right _ (List.mem_singleton_self _)⟩
    have fresh := mt (sound.any_name years).mp present
    obtain ⟨lower, upper⟩ := readIso_literals valid
    refine (if_neg fresh).trans ?_
    rw [MonthBounds.statement, lower, upper, Option.bind_eq_bind, Option.bind_some,
      Option.bind_eq_bind, Option.bind_some, guard, if_pos (sound.accepts present)]
    rfl

theorem MonthCatalog.eq_of_meets {partition second : Partition} (member : partition ∈ catalog)
    (secondMember : second ∈ catalog) (parent : partition.parent = second.parent)
    (meets : ¬ Disjoint partition.range second.range) : partition = second := by
  obtain ⟨tableName, time, -, rfl⟩ := sound.month partition member
  obtain ⟨otherName, other, -, rfl⟩ := sound.month second secondMember
  obtain rfl : tableName = otherName := parent
  exact monthPartition_congr (by_contra fun apart => meets (disjoint_monthPartition apart))

theorem MonthCatalog.pairwise_disjoint :
    catalog.Pairwise fun partition second =>
      partition.parent = second.parent → Disjoint partition.range second.range := by
  refine sound.nodup.imp_of_mem fun member secondMember apart parent => ?_
  exact by_contra fun meets => apart (sound.eq_of_meets member secondMember parent meets)

theorem MonthCatalog.existsUnique (present : monthPartition tableName time ∈ catalog) :
    ∃! partition, partition ∈ catalog ∧ partition.parent = tableName ∧
      time.timestamp ∈ partition.range := by
  refine ⟨_, ⟨present, rfl, time.mem_month⟩, fun partition holds => ?_⟩
  obtain ⟨member, parent, inside⟩ := holds
  refine sound.eq_of_meets member present parent ?_
  exact Set.not_disjoint_iff.mpr ⟨_, inside, time.mem_month⟩

end Catalogs

section Runs

variable {catalog : List Partition}

theorem foldlM_grows {β γ : Type} {step : List γ → β → Option (List γ)} {Sound : List γ → Prop}
    {Added : β → List γ → Prop} (kept : ∀ x {before after}, before ⊆ after → Added x before →
      Added x after) {inputs : List β}
    (grows : ∀ x ∈ inputs, ∀ state, Sound state →
      ∃ next, step state x = some next ∧ Sound next ∧ state ⊆ next ∧ Added x next) :
    ∀ state, Sound state → ∃ last, inputs.foldlM step state = some last ∧ Sound last ∧
      state ⊆ last ∧ ∀ x ∈ inputs, Added x last := by
  induction inputs with
  | nil => exact fun state sound => ⟨state, rfl, sound, List.Subset.refl _, by simp⟩
  | cons x rest ih =>
      intro state sound
      obtain ⟨next, stepped, nextSound, grown, added⟩ := grows x List.mem_cons_self state sound
      obtain ⟨last, run, lastSound, later, all⟩ :=
        ih (fun y member => grows y (List.mem_cons_of_mem x member)) next nextSound
      refine ⟨last, ?_, lastSound, List.Subset.trans grown later, ?_⟩
      · rw [List.foldlM_cons, stepped, Option.bind_eq_bind, Option.bind_some, run]
      · intro y member
        rcases List.mem_cons.mp member with rfl | inRest
        · exact kept y later added
        · exact all y inRest

theorem MonthCatalog.ensureSnapshotPartitions (sound : MonthCatalog catalog) {time : DateTime}
    (years : YearInRange time) :
    ∃ next, Collector.ensureSnapshotPartitions catalog time = some next ∧ MonthCatalog next ∧
      catalog ⊆ next ∧ ∀ tableName ∈ partitionedTables, monthPartition tableName time ∈ next := by
  have valid := followingMonth_valid fun _ => years.2
  rw [Collector.ensureSnapshotPartitions, partitionStatements, monthBounds_eq valid,
    Option.map_some, Option.bind_eq_bind, Option.bind_some, List.foldlM_map]
  have kept (tableName : String) {before after : List Partition} (grown : before ⊆ after)
      (present : monthPartition tableName time ∈ before) :
      monthPartition tableName time ∈ after := grown present
  exact foldlM_grows kept
    (fun tableName _ _ stateSound => stateSound.createPartition tableName valid years)
    catalog sound

theorem MonthCatalog.run (sound : MonthCatalog catalog) {run : List DateTime}
    (years : ∀ time ∈ run, YearInRange time) :
    ∃ last, run.foldlM Collector.ensureSnapshotPartitions catalog = some last ∧
      MonthCatalog last ∧ catalog ⊆ last ∧ ∀ time ∈ run, ∀ tableName ∈ partitionedTables,
        monthPartition tableName time ∈ last :=
  foldlM_grows (fun _ _ _ grown present tableName member => grown (present tableName member))
    (fun time member _ stateSound => stateSound.ensureSnapshotPartitions (years time member))
    catalog sound

end Runs

section Cover

variable {time other : DateTime}

theorem monthStart_eq_iff :
    (⟨_, monthStart_valid time⟩ : DateTime) = ⟨_, monthStart_valid other⟩ ↔
      time.monthIndex = other.monthIndex := by
  rw [monthIndex_eq_iff, DateTime.mk.injEq, firstOfMonth, firstOfMonth, Fields.mk.injEq]
  exact ⟨fun same => ⟨same.1, same.2.1⟩, fun same => ⟨same.1, same.2, rfl, rfl, rfl, rfl, rfl⟩⟩

theorem followingMonth_congr (same : time.monthIndex = other.monthIndex) :
    followingMonth time = followingMonth other := by
  obtain ⟨year, month⟩ := monthIndex_eq_iff.mp same
  rw [followingMonth, followingMonth, year, month]

theorem monthBounds_suffix_iff (valid : (followingMonth time).Valid)
    (otherValid : (followingMonth other).Valid) :
    yearMonth time = yearMonth other ↔
      (⟨_, monthStart_valid time⟩ : DateTime) = ⟨_, monthStart_valid other⟩ ∧
        (⟨_, valid⟩ : DateTime) = ⟨_, otherValid⟩ := by
  rw [yearMonth_eq_iff, monthStart_eq_iff, DateTime.mk.injEq]
  exact ⟨fun same => ⟨same, followingMonth_congr same⟩, And.left⟩

theorem range_monthBounds (valid : (followingMonth time).Valid) :
    MonthBounds.range ⟨yearMonth time, ⟨_, monthStart_valid time⟩, ⟨_, valid⟩⟩ =
      Set.Ico (startOfMonth time.monthIndex) (startOfMonth (time.monthIndex + 1)) := by
  rw [MonthBounds.range, timestamp_monthStart, timestamp_followingMonth]

theorem snapshotPartitions_cover :
    (∀ time other : DateTime, YearInRange time → YearInRange other →
      ∃ bounds otherBounds, monthBounds time = some bounds ∧
        monthBounds other = some otherBounds ∧
        (bounds.monthStart.timestamp ≤ time.timestamp ∧
          time.timestamp < bounds.nextMonth.timestamp) ∧
        (bounds.suffix = otherBounds.suffix ↔
          bounds.monthStart = otherBounds.monthStart ∧
            bounds.nextMonth = otherBounds.nextMonth) ∧
        (bounds.suffix ≠ otherBounds.suffix → Disjoint bounds.range otherBounds.range)) ∧
    (∀ time next : DateTime, YearInRange time → Follows time next →
      ∃ bounds nextBounds, monthBounds time = some bounds ∧
        monthBounds next = some nextBounds ∧ bounds.nextMonth = nextBounds.monthStart) ∧
    ∀ run : List DateTime, (∀ time ∈ run, YearInRange time) →
      ∃ catalog, run.foldlM ensureSnapshotPartitions [] = some catalog ∧
        (∀ time ∈ run, ∀ tableName ∈ partitionedTables,
          ∃! partition, partition ∈ catalog ∧ partition.parent = tableName ∧
            time.timestamp ∈ partition.range) ∧
        catalog.Pairwise fun partition second =>
          partition.parent = second.parent → Disjoint partition.range second.range := by
  refine ⟨fun time other years otherYears => ?_, fun time next years follows => ?_,
    fun run years => ?_⟩
  · have valid := followingMonth_valid fun _ => years.2
    have otherValid := followingMonth_valid fun _ => otherYears.2
    refine ⟨_, _, monthBounds_eq valid, monthBounds_eq otherValid, ?_,
      monthBounds_suffix_iff valid otherValid, fun apart => ?_⟩
    · have inside := time.mem_month
      rwa [← range_monthBounds valid] at inside
    · rw [range_monthBounds, range_monthBounds]
      exact disjoint_months (mt yearMonth_eq_iff.mpr apart)
  · have valid := followingMonth_valid fun _ => years.2
    have late : next.month = 12 → next.year ≤ 9998 := by
      have before := years.2
      unfold Follows at follows
      split at follows <;> omega
    refine ⟨_, _, monthBounds_eq valid, monthBounds_eq (followingMonth_valid late), ?_⟩
    exact DateTime.mk.injEq .. ▸ follows.firstOfMonth_eq.symm
  · have empty : MonthCatalog [] := ⟨by simp, List.nodup_nil⟩
    obtain ⟨catalog, ran, sound, -, all⟩ := empty.run years
    exact ⟨catalog, ran,
      fun time member tableName table => sound.existsUnique (all time member tableName table),
      sound.pairwise_disjoint⟩

def newYearsEve : DateTime := ⟨⟨2024, 12, 31, 23, 59, 59, 999999⟩, by decide⟩

def newYear : DateTime := ⟨⟨2025, 1, 1, 0, 0, 0, 0⟩, by decide⟩

theorem snapshotPartitions_cover_newYear :
    (∃ bounds nextBounds, monthBounds newYearsEve = some bounds ∧
      monthBounds newYear = some nextBounds ∧ bounds.nextMonth = nextBounds.monthStart) ∧
    ∃ catalog, [newYearsEve, newYear].foldlM ensureSnapshotPartitions [] = some catalog ∧
      ∀ time ∈ [newYearsEve, newYear], ∀ tableName ∈ partitionedTables,
        ∃! partition, partition ∈ catalog ∧ partition.parent = tableName ∧
          time.timestamp ∈ partition.range := by
  have years : ∀ time ∈ [newYearsEve, newYear], YearInRange time := by
    intro time member
    simp only [List.mem_cons, List.not_mem_nil, or_false] at member
    rcases member with rfl | rfl <;> exact ⟨by decide, by decide⟩
  obtain ⟨-, follows, run⟩ := snapshotPartitions_cover
  obtain ⟨catalog, ran, covered, -⟩ := run [newYearsEve, newYear] years
  exact ⟨follows _ _ (years _ List.mem_cons_self) ⟨rfl, rfl⟩, catalog, ran, covered⟩

end Cover

end SqlMonitor.Collector
