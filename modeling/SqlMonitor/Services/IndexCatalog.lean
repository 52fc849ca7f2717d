import Mathlib.Algebra.Order.Ring.Int
import Mathlib.Data.List.Infix
import Mathlib.Data.List.Sort
import SqlMonitor.Db.Models

set_option autoImplicit false

namespace SqlMonitor.Services

structure PyException where
  className : String
  text : String
  named : className ≠ ""
deriving DecidableEq

abbrev Raises := Except PyException

-- `str.isspace`
def isSpace (c : Char) : Bool :=
  let n := c.toNat
  (9 ≤ n && n ≤ 13) || (28 ≤ n && n ≤ 32) || n == 0x85 || n == 0xA0 || n == 0x1680 ||
    (0x2000 ≤ n && n ≤ 0x200A) || n == 0x2028 || n == 0x2029 || n == 0x202F || n == 0x205F || n == 0x3000

def stripBy (drop : Char → Bool) (text : List Char) : List Char :=
  ((text.dropWhile drop).reverse.dropWhile drop).reverse

def strip (text : List Char) : List Char := stripBy isSpace text

theorem mem_of_mem_stripBy {drop : Char → Bool} {text : List Char} {c : Char}
    (member : c ∈ stripBy drop text) : c ∈ text := by
  have inside := List.dropWhile_subset drop (List.mem_reverse.mp member)
  exact List.dropWhile_subset drop (List.mem_reverse.mp inside)

-- `value or fallback` on texts
def orText (value : Option String) (fallback : String) : String :=
  (value.filter (· ≠ "")).getD fallback

section Identifiers

-- Not empty, and without `.`, `[`, `]` and the null character.
def isIdentifier (value : String) : Bool :=
  value ≠ "" && value.toList.all fun c => c ∉ ['.', '[', ']', Char.ofNat 0]

def validateIdentifier (value fieldName : String) : Raises Unit :=
  if isIdentifier value then .ok ()
  else .error ⟨"ValueError", "INVALID_" ++ fieldName.toUpper, by decide⟩

def quoteIdentifier (value : String) : Raises String := do
  validateIdentifier value "identifier"
  return "[" ++ value.replace "]" "]]" ++ "]"

def isNameChar (c : Char) : Bool :=
  ('0' ≤ c && c ≤ '9') || ('A' ≤ c && c ≤ 'Z') || ('a' ≤ c && c ≤ 'z') || c == '_'

-- Every run of other characters becomes one underscore.
def replaceRuns : Bool → List Char → List Char
  | _, [] => []
  | inRun, c :: rest =>
    if isNameChar c then c :: replaceRuns false rest
    else if inRun then replaceRuns true rest
    else '_' :: replaceRuns true rest

def namePart (value : String) : List Char :=
  match stripBy (· == '_') (replaceRuns false value.toList) with
  | [] => "col".toList
  | part => part

def truncateIdentifier (value : List Char) (reserve : Nat) : String :=
  String.ofList (value.take (128 - reserve))

def buildLightweightIndexName (tableName : String) (keyColumns : List String) : String :=
  truncateIdentifier
    ("IX_".toList ++ ['_'].intercalate (namePart tableName :: keyColumns.map namePart)) 0

def parseColumnList (value : Option String) : List String :=
  match value.filter (· ≠ "") with
  | none => []
  | some text =>
    (text.toList.splitOn ',').filterMap fun raw =>
      let column := strip raw
      let column :=
        if column.head? = some '[' ∧ column.getLast? = some ']' then column.tail.dropLast else column
      let column := strip column
      if column = [] then none else some (String.ofList column)

end Identifiers

section Rows

structure MissingIndexRow where
  databaseName : Option String := none
  schemaName : Option String := none
  tableName : Option String := none
  equalityColumns : Option String := none
  inequalityColumns : Option String := none
  includedColumns : Option String := none
  userSeeks : Option Int := none
  userScans : Option Int := none
  avgTotalUserCost : Option Rat := none
  avgUserImpact : Option Rat := none
deriving DecidableEq

structure FragmentationRow where
  databaseName : Option String := none
  schemaName : Option String := none
  tableName : Option String := none
  indexName : Option String := none
  indexType : Option String := none
  partitionNumber : Option Int := none
  avgFragmentationInPercent : Option Rat := none
  pageCount : Option Int := none
deriving DecidableEq

structure OnlineSupportRow where
  engineEdition : Option Int := none
  edition : Option String := none
  productMajorVersion : Option Int := none
deriving DecidableEq

/-- The answers of a server to the index queries; the rows wanted are given by their numbers. -/
structure IndexClient where
  userDatabases : Raises (List (Option String))
  missingTotal : String → Nat → Raises (List (Option Int))
  missingRows : String → Nat → Nat → Raises (List MissingIndexRow)
  onlineSupport : Nat → Raises (List OnlineSupportRow)
  fragmentationTotal : String → Nat → Raises (List (Option Int))
  fragmentationRows : String → Nat → Nat → Raises (List FragmentationRow)

end Rows

structure MissingIndexCandidate where
  databaseName : String
  schemaName : String
  tableName : String
  equalityColumns : List String
  inequalityColumns : List String
  includeColumns : List String
  userSeeks : Int
  userScans : Int
  avgTotalUserCost : Rat
  avgUserImpact : Rat
  recommendedIndexName : String
  createEnabled : Bool
  errorMessage : Option String
deriving DecidableEq

structure IndexFragmentationItem where
  databaseName : String
  schemaName : String
  tableName : String
  indexName : String
  indexType : String
  partitionNumber : Int
  avgFragmentationInPercent : Rat
  pageCount : Int
  recommendedAction : MaintenanceAction
  actionEnabled : Bool
  onlineRebuildSupported : Bool
  errorMessage : Option String
deriving DecidableEq

structure IndexPage (A : Type) where
  items : List A
  total : Int

def indexCollectPageSize : Nat := 500

def systemDatabases : List String := ["master", "model", "msdb", "tempdb"]

def listUserDatabases (client : IndexClient) : Raises (List String) := do
  let rows ← client.userDatabases
  return rows.filterMap fun row =>
    let name := orText row ""
    if name ≠ "" ∧ name.toLower ∉ systemDatabases then some name else none

/--
The `while True` loop of the two listings. `none` when the fuel runs out: the server has
kept reporting further rows.
-/
def collectPages {A : Type} (fetch : Nat → Raises (IndexPage A)) :
    Nat → Nat → List A → Option (Raises (List A))
  | 0, _, _ => none
  | fuel + 1, page, items =>
    match fetch page with
    | .error exc => some (.error exc)
    | .ok result =>
      if result.total ≤ page * indexCollectPageSize ∨ result.items = [] then
        some (.ok (items ++ result.items))
      else collectPages fetch fuel (page + 1) (items ++ result.items)

section Missing

def missingIndexCandidate (databaseName : String) (row : MissingIndexRow) :
    Option MissingIndexCandidate :=
  let tableName := orText row.tableName ""
  let schemaName := orText row.schemaName ""
  let equalityColumns := parseColumnList row.equalityColumns
  let inequalityColumns := parseColumnList row.inequalityColumns
  let keyColumns := equalityColumns ++ inequalityColumns
  if tableName = "" ∨ schemaName = "" ∨ keyColumns = [] then none
  else some
    { databaseName := orText row.databaseName databaseName
      schemaName, tableName, equalityColumns, inequalityColumns
      includeColumns := parseColumnList row.includedColumns
      userSeeks := row.userSeeks.getD 0
      userScans := row.userScans.getD 0
      avgTotalUserCost := row.avgTotalUserCost.getD 0
      avgUserImpact := row.avgUserImpact.getD 0
      recommendedIndexName := buildLightweightIndexName tableName keyColumns
      createEnabled := true
      errorMessage := none }

/-- `list_missing_indexes_page` as the collector calls it, without resolving name conflicts. -/
def listMissingIndexesPage (client : IndexClient) (databaseName : String) (page pageSize : Nat) :
    Raises (IndexPage MissingIndexCandidate) := do
  validateIdentifier databaseName "database_name"
  let totalRows ← client.missingTotal databaseName page
  let rows ← client.missingRows databaseName ((page - 1) * pageSize + 1) (page * pageSize)
  return ⟨rows.filterMap (missingIndexCandidate databaseName), (totalRows.head?.join).getD 0⟩

def listMissingIndexes (fuel : Nat) (client : IndexClient) (databaseName : String) :
    Option (Raises (List MissingIndexCandidate)) :=
  collectPages (fun page => listMissingIndexesPage client databaseName page indexCollectPageSize) fuel 1 []

end Missing

section Fragmentation

def recommendFragmentationAction (fragmentationPercent : Rat) (pageCount : Int) :
    MaintenanceAction :=
  if pageCount < 1000 then .none
  else if 30 < fragmentationPercent then .rebuild
  else if 5 ≤ fragmentationPercent then .reorganize
  else .none

def supportsOnlineIndexRebuild (rows : List OnlineSupportRow) : Bool :=
  let row := rows.head?.getD {}
  let edition := (orText row.edition "").toLower.toList
  if row.engineEdition.getD 0 ∈ [5, 8] then true
  else if "enterprise".toList <:+: edition ∨ "developer".toList <:+: edition then true
  else 15 ≤ row.productMajorVersion.getD 0

-- `value or fallback` on numbers
def orNumber {A : Type} [Zero A] [DecidableEq A] (value : Option A) (fallback : A) : A :=
  (value.filter (· ≠ 0)).getD fallback

def fragmentationItem (databaseName : String) (onlineSupported : Bool) (row : FragmentationRow) :
    IndexFragmentationItem :=
  let fragmentation := row.avgFragmentationInPercent.getD 0
  let pageCount := row.pageCount.getD 0
  let action := recommendFragmentationAction fragmentation pageCount
  { databaseName := orText row.databaseName databaseName
    schemaName := orText row.schemaName ""
    tableName := orText row.tableName ""
    indexName := orText row.indexName ""
    indexType := orText row.indexType ""
    partitionNumber := orNumber row.partitionNumber 1
    avgFragmentationInPercent := fragmentation
    pageCount
    recommendedAction := action
    actionEnabled := action = .reorganize ∨ action = .rebuild
    onlineRebuildSupported := onlineSupported
    errorMessage := none }

def byFragmentation (items : List IndexFragmentationItem) : List IndexFragmentationItem :=
  items.insertionSort fun item later => later.avgFragmentationInPercent ≤ item.avgFragmentationInPercent

def listIndexFragmentationPage (client : IndexClient) (databaseName : String)
    (page pageSize : Nat) :
    Raises (IndexPage IndexFragmentationItem) := do
  validateIdentifier databaseName "database_name"
  let support ← client.onlineSupport page
  let quotedDatabase ← quoteIdentifier databaseName
  let totalRows ← client.fragmentationTotal quotedDatabase page
  let rows ← client.fragmentationRows databaseName ((page - 1) * pageSize + 1) (page * pageSize)
  let items := rows.map (fragmentationItem databaseName (supportsOnlineIndexRebuild support))
  return ⟨byFragmentation items, (totalRows.head?.join).getD 0⟩

def listIndexFragmentation (fuel : Nat) (client : IndexClient) (databaseName : String) :
    Option (Raises (List IndexFragmentationItem)) :=
  (collectPages (fun page => listIndexFragmentationPage client databaseName page indexCollectPageSize)
    fuel 1 []).map fun listing => listing.map byFragmentation

end Fragmentation

section Names

theorem collectPages_forall {A : Type} {fetch : Nat → Raises (IndexPage A)} {P : A → Prop}
    (pages : ∀ page result, fetch page = .ok result → ∀ item ∈ result.items, P item)
    (fuel page : Nat)
    (items : List A) (before : ∀ item ∈ items, P item) {listing : List A}
    (done : collectPages fetch fuel page items = some (.ok listing)) :
    ∀ item ∈ listing, P item := by
  induction fuel generalizing page items with
  | zero => simp [collectPages] at done
  | succ fuel ih =>
      cases fetched : fetch page with
      | error exc => simp [collectPages, fetched] at done
      | ok result =>
          have extended : ∀ item ∈ items ++ result.items, P item := by
            intro item member
            rcases List.mem_append.mp member with old | new
            · exact before item old
            · exact pages page result fetched item new
          by_cases last : result.total ≤ page * indexCollectPageSize ∨ result.items = []
          · simp only [collectPages, fetched, if_pos last, Option.some.injEq,
              Except.ok.injEq] at done
            exact done ▸ extended
          · simp only [collectPages, fetched, if_neg last] at done
            exact ih (page + 1) _ extended done

def NamedAs (databaseName : String) (column : Option String) : Prop :=
  column = none ∨ column = some "" ∨ column = some databaseName

theorem orText_of_namedAs {databaseName : String} {column : Option String}
    (named : NamedAs databaseName column) :
    orText column databaseName = databaseName := by
  rcases named with rfl | rfl | rfl
  · rfl
  · rfl
  · by_cases empty : databaseName = "" <;> simp [orText, Option.filter_some, empty]

/-- The server names the database it was asked about, or none. -/
structure NamesRequested (client : IndexClient) (databaseName : String) : Prop where
  missing : ∀ first last rows, client.missingRows databaseName first last = .ok rows →
    ∀ row ∈ rows, NamedAs databaseName row.databaseName
  fragmentation : ∀ first last rows, client.fragmentationRows databaseName first last = .ok rows →
    ∀ row ∈ rows, NamedAs databaseName row.databaseName

theorem bind_eq_ok {A B : Type} {first : Raises A} {next : A → Raises B} {result : B} :
    (first >>= next) = .ok result ↔ ∃ value, first = .ok value ∧ next value = .ok result := by
  cases first <;> simp [bind, Except.bind]

theorem pure_eq_ok {A : Type} {value result : A} :
    (pure value : Raises A) = .ok result ↔ value = result := by
  simp [pure, Except.pure]

theorem databaseName_of_missing {fuel : Nat} {client : IndexClient} {databaseName : String}
    (names : NamesRequested client databaseName) {items : List MissingIndexCandidate}
    (listed : listMissingIndexes fuel client databaseName = some (.ok items)) :
    ∀ item ∈ items, item.databaseName = databaseName := by
  refine collectPages_forall ?_ fuel 1 [] (by simp) listed
  intro page result fetched item member
  simp only [listMissingIndexesPage, bind_eq_ok, pure_eq_ok] at fetched
  obtain ⟨_, -, _, -, rows, found, rfl⟩ := fetched
  obtain ⟨row, inside, built⟩ := List.mem_filterMap.mp member
  simp only [missingIndexCandidate, Option.ite_none_left_eq_some, Option.some.injEq] at built
  obtain ⟨-, rfl⟩ := built
  exact orText_of_namedAs (names.missing _ _ rows found row inside)

theorem mem_byFragmentation (items : List IndexFragmentationItem) (item : IndexFragmentationItem) :
    item ∈ byFragmentation items ↔ item ∈ items :=
  (List.perm_insertionSort _ items).mem_iff

theorem databaseName_of_fragmentation {fuel : Nat} {client : IndexClient} {databaseName : String}
    (names : NamesRequested client databaseName) {items : List IndexFragmentationItem}
    (listed : listIndexFragmentation fuel client databaseName = some (.ok items)) :
    ∀ item ∈ items, item.databaseName = databaseName := by
  obtain ⟨listing, done, sorted⟩ := Option.map_eq_some_iff.mp listed
  cases listing with
  | error exc => simp [Except.map] at sorted
  | ok found =>
      obtain rfl : byFragmentation found = items := by simpa [Except.map] using sorted
      have all : ∀ item ∈ found, item.databaseName = databaseName := by
        refine collectPages_forall ?_ fuel 1 [] (by simp) done
        intro page result fetched item member
        simp only [listIndexFragmentationPage, bind_eq_ok, pure_eq_ok] at fetched
        obtain ⟨_, -, _, -, _, -, _, -, rows, read, rfl⟩ := fetched
        obtain ⟨row, present, rfl⟩ := List.mem_map.mp ((mem_byFragmentation _ item).mp member)
        exact orText_of_namedAs (names.fragmentation _ _ rows read row present)
      exact fun item member => all item ((mem_byFragmentation found item).mp member)

end Names

end SqlMonitor.Services
