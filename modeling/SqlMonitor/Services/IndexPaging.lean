import Mathlib.Algebra.Order.Ring.Unbundled.Rat
import SqlMonitor.Services.OfferedIndexes
import SqlMonitor.Shared.Pages
import SqlMonitor.Shared.StableSort

set_option autoImplicit false

namespace SqlMonitor.Services

section Loop

variable {A : Type} {fetch : Nat → Raises (IndexPage A)} {pages : Nat → IndexPage A}

def LastPage (pages : Nat → IndexPage A) (page : Nat) : Prop :=
  (pages page).total ≤ page * indexCollectPageSize ∨ (pages page).items = []

theorem collectPages_last {fuel page : Nat} {items : List A}
    (fetched : fetch page = .ok (pages page)) (ends : LastPage pages page) :
    collectPages fetch (fuel + 1) page items = some (.ok (items ++ (pages page).items)) := by
  simp only [collectPages, fetched]
  exact if_pos ends

theorem collectPages_next {fuel page : Nat} {items : List A}
    (fetched : fetch page = .ok (pages page)) (goes : ¬ LastPage pages page) :
    collectPages fetch (fuel + 1) page items =
      collectPages fetch fuel (page + 1) (items ++ (pages page).items) := by
  simp only [collectPages, fetched]
  exact if_neg goes

theorem collectPages_from {further fuel page : Nat} {items : List A}
    (fetched : ∀ page, 0 < page → fetch page = .ok (pages page)) (numbered : 0 < page)
    (goes : ∀ k < further, ¬ LastPage pages (page + k)) (ends : LastPage pages (page + further))
    (enough : further < fuel) :
    collectPages fetch fuel page items =
      some (.ok (items ++ (List.range (further + 1)).flatMap fun k => (pages (page + k)).items)) := by
  obtain ⟨fuel, rfl⟩ := Nat.exists_eq_succ_of_ne_zero (Nat.ne_zero_of_lt enough)
  induction further generalizing fuel page items with
  | zero =>
      rw [collectPages_last (fetched page numbered) ends]
      simp
  | succ further ih =>
      have first := goes 0 (by omega)
      obtain ⟨fuel, rfl⟩ := Nat.exists_eq_succ_of_ne_zero (show fuel ≠ 0 by omega)
      have later : ∀ k < further, ¬ LastPage pages (page + 1 + k) := by
        intro k below
        rw [Nat.add_assoc, Nat.add_comm 1 k]
        exact goes (k + 1) (by omega)
      have last : LastPage pages (page + 1 + further) := by
        rw [Nat.add_assoc, Nat.add_comm 1 further]
        exact ends
      rw [collectPages_next (fetched page numbered) first,
        ih (by omega) later last fuel (by omega), List.range_succ_eq_map (n := further + 1)]
      simp only [List.flatMap_cons, List.flatMap_map, List.append_assoc, Nat.add_zero]
      congr 5
      funext k
      rw [Nat.add_assoc, Nat.add_comm 1 k]

theorem collectPages_returns (fetched : ∀ page, 0 < page → fetch page = .ok (pages page))
    (bounded : ∃ k, LastPage pages (k + 1)) :
    ∃ last, LastPage pages (last + 1) ∧ (∀ k < last, ¬ LastPage pages (k + 1)) ∧
      ∀ fuel, last < fuel → collectPages fetch fuel 1 [] =
        some (.ok ((List.range (last + 1)).flatMap fun k => (pages (k + 1)).items)) := by
  classical
  refine ⟨Nat.find bounded, Nat.find_spec bounded, fun k => Nat.find_min bounded, ?_⟩
  intro fuel enough
  have goes : ∀ k < Nat.find bounded, ¬ LastPage pages (1 + k) := by
    intro k below
    rw [Nat.add_comm]
    exact Nat.find_min bounded below
  have ends : LastPage pages (1 + Nat.find bounded) := by
    rw [Nat.add_comm]
    exact Nat.find_spec bounded
  rw [collectPages_from fetched Nat.one_pos goes ends enough]
  simp only [List.nil_append, Nat.add_comm 1]

theorem reported_le_iff {total page : Nat} :
    (total : Int) ≤ (page : Int) * (indexCollectPageSize : Int) ↔
      total ≤ page * indexCollectPageSize := by
  norm_cast

theorem invalid_database_raises {databaseName : String}
    (invalid : isIdentifier databaseName = false) {next : Raises (IndexPage A)} :
    ∃ exc, (validateIdentifier databaseName "database_name" >>= fun _ => next) = .error exc := by
  rw [validateIdentifier, if_neg (by simp [invalid])]
  exact ⟨_, rfl⟩

theorem collectPages_raises {exc : PyException} (raises : fetch 1 = .error exc) (fuel : Nat) :
    collectPages fetch (fuel + 1) 1 [] = some (.error exc) := by
  simp only [collectPages, raises]

end Loop

section Missing

instance (row : MissingIndexRow) : Decidable (CompleteRow row) :=
  inferInstanceAs (Decidable (_ ∧ _ ∧ _))

/-- The server answers every query of a call from the same rows, in the order of their numbers. -/
structure ServesMissing (client : IndexClient) (databaseName : String)
    (rows : List MissingIndexRow) : Prop where
  total : ∀ page, client.missingTotal databaseName page = .ok [some (rows.length : Int)]
  between : ∀ first last, client.missingRows databaseName (first + 1) last =
    .ok ((rows.drop first).take (last - first))

def OnePerCompleteRow (databaseName : String) (rows : List MissingIndexRow)
    (items : List MissingIndexCandidate) : Prop :=
  List.Forall₂ (fun row item => missingIndexCandidate databaseName row = some item)
    (rows.filter CompleteRow) items

variable {client : IndexClient} {databaseName : String} {rows : List MissingIndexRow}

theorem missingIndexCandidate_eq_none_iff {row : MissingIndexRow} :
    missingIndexCandidate databaseName row = none ↔ ¬ CompleteRow row := by
  rw [← @missingIndexCandidate_isSome_iff databaseName, Option.eq_none_iff_forall_ne_some,
    not_exists]

theorem onePerCompleteRow_iff {items : List MissingIndexCandidate} :
    OnePerCompleteRow databaseName rows items ↔
      items = rows.filterMap (missingIndexCandidate databaseName) := by
  unfold OnePerCompleteRow
  induction rows generalizing items with
  | nil => simp
  | cons row rows ih =>
      by_cases complete : CompleteRow row
      · obtain ⟨candidate, built⟩ := (@missingIndexCandidate_isSome_iff databaseName row).mpr
          complete
        rw [List.filter_cons_of_pos (by simpa using complete), List.filterMap_cons_some built,
          List.forall₂_cons_left_iff]
        constructor
        · rintro ⟨item, later, here, others, rfl⟩
          rw [ih.mp others, Option.some.inj (built.symm.trans here)]
        · rintro rfl
          exact ⟨candidate, _, built, ih.mpr rfl, rfl⟩
      · rw [List.filter_cons_of_neg (by simpa using complete),
          List.filterMap_cons_none (missingIndexCandidate_eq_none_iff.mpr complete)]
        exact ih

theorem window_length {page : Nat} (numbered : 0 < page) :
    page * indexCollectPageSize - (page - 1) * indexCollectPageSize = indexCollectPageSize := by
  rw [← Nat.sub_mul, Nat.sub_sub_self numbered, Nat.one_mul]

def missingPage (databaseName : String) (rows : List MissingIndexRow) (page : Nat) :
    IndexPage MissingIndexCandidate :=
  ⟨(Pages.slice indexCollectPageSize rows (page - 1)).filterMap (missingIndexCandidate databaseName),
    rows.length⟩

theorem missingPage_fetched (named : isIdentifier databaseName = true)
    (serves : ServesMissing client databaseName rows) {page : Nat} (numbered : 0 < page) :
    listMissingIndexesPage client databaseName page indexCollectPageSize =
      .ok (missingPage databaseName rows page) := by
  simp only [listMissingIndexesPage, validateIdentifier, named, if_true, serves.total,
    serves.between, window_length numbered]
  rfl

theorem listed_upTo (last : Nat) :
    ((List.range last).flatMap fun k => (missingPage databaseName rows (k + 1)).items) =
      (rows.take (last * indexCollectPageSize)).filterMap (missingIndexCandidate databaseName) := by
  rw [← Pages.upTo_eq_take, Pages.upTo, List.filterMap_flatMap]
  rfl

theorem lastPage_missing_iff {k : Nat} : LastPage (missingPage databaseName rows) (k + 1) ↔
    rows.length ≤ (k + 1) * indexCollectPageSize ∨
      ∀ row ∈ Pages.slice indexCollectPageSize rows k, ¬ CompleteRow row := by
  refine or_congr reported_le_iff ?_
  rw [missingPage, List.filterMap_eq_nil_iff]
  exact forall₂_congr fun row _ => missingIndexCandidate_eq_none_iff

theorem listed_all_iff {count : Nat} :
    (rows.take count).filterMap (missingIndexCandidate databaseName) =
        rows.filterMap (missingIndexCandidate databaseName) ↔
      ∀ row ∈ rows.drop count, ¬ CompleteRow row := by
  have split : rows.filterMap (missingIndexCandidate databaseName) =
      (rows.take count).filterMap (missingIndexCandidate databaseName) ++
        (rows.drop count).filterMap (missingIndexCandidate databaseName) := by
    rw [← List.filterMap_append, List.take_append_drop]
  rw [split, List.self_eq_append_right, List.filterMap_eq_nil_iff]
  exact forall₂_congr fun row _ => missingIndexCandidate_eq_none_iff

theorem listMissingIndexes_complete_iff (serves : ServesMissing client databaseName rows) :
    (∃ enough items, (∀ fuel, enough ≤ fuel →
        listMissingIndexes fuel client databaseName = some (.ok items)) ∧
          OnePerCompleteRow databaseName rows items) ↔
      isIdentifier databaseName = true ∧
        ∀ k, (∀ row ∈ (rows.drop (k * 500)).take 500, ¬ CompleteRow row) →
          ∀ row ∈ rows.drop ((k + 1) * 500), ¬ CompleteRow row := by
  cases named : isIdentifier databaseName with
  | false =>
      refine iff_of_false ?_ (by simp)
      rintro ⟨enough, items, listed, -⟩
      obtain ⟨exc, raises⟩ : ∃ exc,
          listMissingIndexesPage client databaseName 1 indexCollectPageSize = .error exc :=
        invalid_database_raises named
      have raised := listed (enough + 1) (by omega)
      rw [listMissingIndexes, collectPages_raises raises] at raised
      exact absurd raised (by simp)
  | true =>
      have bounded : ∃ k, LastPage (missingPage databaseName rows) (k + 1) := by
        refine ⟨rows.length, lastPage_missing_iff.mpr (Or.inl ?_)⟩
        rw [indexCollectPageSize]
        omega
      obtain ⟨last, ends, goes, returns⟩ := collectPages_returns
        (fun page => missingPage_fetched named serves) bounded
      rw [listed_upTo] at returns
      have all : (∃ enough items, (∀ fuel, enough ≤ fuel →
          listMissingIndexes fuel client databaseName = some (.ok items)) ∧
            OnePerCompleteRow databaseName rows items) ↔
          ∀ row ∈ rows.drop ((last + 1) * indexCollectPageSize), ¬ CompleteRow row := by
        simp only [onePerCompleteRow_iff, ← @listed_all_iff databaseName]
        constructor
        · rintro ⟨enough, items, listed, rfl⟩
          have both := (listed (enough + last + 1) (by omega)).symm.trans
            (returns (enough + last + 1) (by omega))
          simpa using both.symm
        · exact fun same => ⟨last + 1, _, fun fuel enough => returns fuel enough, same⟩
      rw [all]
      simp only [true_and]
      constructor
      · intro none k incomplete row member
        have reached : last ≤ k := by
          by_contra before
          exact goes k (by omega) (lastPage_missing_iff.mpr (Or.inr incomplete))
        refine none row ?_
        have start : (k + 1) * 500 = (last + 1) * 500 + (k - last) * 500 := by omega
        rw [start, ← List.drop_drop] at member
        exact List.mem_of_mem_drop member
      · intro later
        rcases lastPage_missing_iff.mp ends with total | incomplete
        · rw [List.drop_of_length_le total]
          simp
        · exact later last incomplete

end Missing

section SkippedPage

def missingServer (rows : List MissingIndexRow) : IndexClient where
  userDatabases := .ok [some "Sales"]
  missingTotal := fun _ _ => .ok [some (rows.length : Int)]
  missingRows := fun _ first last => .ok ((rows.drop (first - 1)).take (last - (first - 1)))
  onlineSupport := fun _ => .ok []
  fragmentationTotal := fun _ _ => .ok []
  fragmentationRows := fun _ _ _ => .ok []

theorem missingServer_serves (rows : List MissingIndexRow) :
    ServesMissing (missingServer rows) "Sales" rows where
  total := fun _ => rfl
  between := fun _ _ => rfl

def unnamedRow : MissingIndexRow := {}

-- The server knows no table for its first 500 rows.
def skippedRows : List MissingIndexRow :=
  List.replicate 500 unnamedRow ++ [ordersIndexRow "[id]"]

theorem ordersIndexRow_complete : CompleteRow (ordersIndexRow "[id]") := by decide

theorem skipped_page_ends_listing :
    (∀ fuel, listMissingIndexes (fuel + 1) (missingServer skippedRows) "Sales" = some (.ok [])) ∧
      ¬ OnePerCompleteRow "Sales" skippedRows [] := by
  have named : isIdentifier "Sales" = true := by decide
  have incomplete : ¬ CompleteRow unnamedRow := by decide
  have first : skippedRows.take indexCollectPageSize = List.replicate 500 unnamedRow := by
    rw [skippedRows, indexCollectPageSize, List.take_left' List.length_replicate]
  have skipped : (missingPage "Sales" skippedRows 1).items = [] := by
    rw [missingPage, List.filterMap_eq_nil_iff]
    intro row member
    rw [Pages.slice, Nat.sub_self, Nat.zero_mul, List.drop_zero, first] at member
    rw [List.eq_of_mem_replicate member, missingIndexCandidate_eq_none_iff]
    exact incomplete
  constructor
  · intro fuel
    have fetched := missingPage_fetched named (missingServer_serves skippedRows) Nat.one_pos
    rw [listMissingIndexes, collectPages_last fetched (Or.inr skipped), skipped]
    rfl
  · intro all
    have length := List.Forall₂.length_eq all
    have present : ordersIndexRow "[id]" ∈ skippedRows.filter CompleteRow :=
      List.mem_filter.mpr ⟨List.mem_append_right _ (List.mem_singleton_self _),
        decide_eq_true ordersIndexRow_complete⟩
    exact absurd (List.length_pos_of_mem present) (by rw [length]; decide)

theorem listMissingIndexes_complete_iff_orders : ∃ enough items, (∀ fuel, enough ≤ fuel →
      listMissingIndexes fuel (missingServer [ordersIndexRow "[id]"]) "Sales" = some (.ok items)) ∧
    OnePerCompleteRow "Sales" [ordersIndexRow "[id]"] items := by
  refine (listMissingIndexes_complete_iff (missingServer_serves _)).mpr ⟨by decide, ?_⟩
  intro k _ row member
  have beyond : [ordersIndexRow "[id]"].length ≤ (k + 1) * 500 := by
    rw [List.length_singleton]
    omega
  rw [List.drop_of_length_le beyond] at member
  simp at member

end SkippedPage

section Fragmentation

/-- The server answers from the same index targets, each with its partitions in their order. -/
structure ServesFragmentation (client : IndexClient) (databaseName : String)
    (targets : List (List FragmentationRow)) (support : List OnlineSupportRow) : Prop where
  partitioned : ∀ target ∈ targets, target ≠ []
  online : ∀ page, client.onlineSupport page = .ok support
  total : ∀ quotedDatabase page,
    client.fragmentationTotal quotedDatabase page = .ok [some (targets.length : Int)]
  between : ∀ first last, client.fragmentationRows databaseName (first + 1) last =
    .ok ((targets.drop first).take (last - first)).flatten

variable {client : IndexClient} {databaseName : String} {targets : List (List FragmentationRow)}
  {support : List OnlineSupportRow}

def itemsOf (databaseName : String) (support : List OnlineSupportRow)
    (targets : List (List FragmentationRow)) : List IndexFragmentationItem :=
  targets.flatten.map (fragmentationItem databaseName (supportsOnlineIndexRebuild support))

def fragmentationPage (databaseName : String) (support : List OnlineSupportRow)
    (targets : List (List FragmentationRow)) (page : Nat) : IndexPage IndexFragmentationItem :=
  ⟨byFragmentation (itemsOf databaseName support
    (Pages.slice indexCollectPageSize targets (page - 1))), targets.length⟩

theorem itemsOf_append (front back : List (List FragmentationRow)) :
    itemsOf databaseName support (front ++ back) =
      itemsOf databaseName support front ++ itemsOf databaseName support back := by
  simp [itemsOf]

theorem itemsOf_eq_nil_iff (partitioned : ∀ target ∈ targets, target ≠ []) :
    itemsOf databaseName support targets = [] ↔ targets = [] := by
  rw [itemsOf, List.map_eq_nil_iff, List.flatten_eq_nil_iff]
  constructor
  · intro empty
    refine List.eq_nil_iff_forall_not_mem.mpr fun target member => ?_
    exact partitioned target member (empty target member)
  · rintro rfl
    simp

theorem byFragmentation_perm (items : List IndexFragmentationItem) :
    (byFragmentation items).Perm items :=
  List.perm_insertionSort _ items

theorem byFragmentation_pairwise (items : List IndexFragmentationItem) :
    (byFragmentation items).Pairwise fun item later =>
      later.avgFragmentationInPercent ≤ item.avgFragmentationInPercent :=
  sortDescending_pairwise IndexFragmentationItem.avgFragmentationInPercent items

theorem fragmentationPage_fetched (named : isIdentifier databaseName = true)
    (serves : ServesFragmentation client databaseName targets support) {page : Nat}
    (numbered : 0 < page) :
    listIndexFragmentationPage client databaseName page indexCollectPageSize =
      .ok (fragmentationPage databaseName support targets page) := by
  simp only [listIndexFragmentationPage, validateIdentifier, named, if_true, serves.online,
    quoteIdentifier_of_valid named, serves.total, serves.between, window_length numbered]
  rfl

theorem lastPage_fragmentation_iff (partitioned : ∀ target ∈ targets, target ≠ []) {k : Nat} :
    LastPage (fragmentationPage databaseName support targets) (k + 1) ↔
      targets.length ≤ (k + 1) * indexCollectPageSize := by
  refine (or_congr reported_le_iff Iff.rfl).trans (or_iff_left_of_imp ?_)
  intro empty
  have items : itemsOf databaseName support (Pages.slice indexCollectPageSize targets k) = [] := by
    have perm := byFragmentation_perm (itemsOf databaseName support
      (Pages.slice indexCollectPageSize targets k))
    exact List.Perm.eq_nil (empty ▸ perm.symm)
  rw [itemsOf_eq_nil_iff fun target member => partitioned target (Pages.mem_of_mem_slice member)]
    at items
  by_contra short
  have within : k * indexCollectPageSize < targets.length := by
    rw [indexCollectPageSize] at short ⊢
    omega
  exact Pages.slice_ne_nil (by decide) within items

theorem gathered_perm (count : Nat) :
    ((List.range count).flatMap fun k =>
      (fragmentationPage databaseName support targets (k + 1)).items).Perm
      (itemsOf databaseName support (Pages.upTo indexCollectPageSize targets count)) := by
  induction count with
  | zero => rfl
  | succ count ih =>
      rw [List.range_succ, List.flatMap_append, Pages.upTo_succ, itemsOf_append]
      refine ih.append ?_
      rw [List.flatMap_singleton]
      exact byFragmentation_perm _

theorem listIndexFragmentation_gathers (named : isIdentifier databaseName = true)
    (serves : ServesFragmentation client databaseName targets support) :
    ∃ enough items, (∀ fuel, enough ≤ fuel →
        listIndexFragmentation fuel client databaseName = some (.ok items)) ∧
      items.Perm (targets.flatten.map
        (fragmentationItem databaseName (supportsOnlineIndexRebuild support))) ∧
      items.Pairwise fun item later =>
        later.avgFragmentationInPercent ≤ item.avgFragmentationInPercent := by
  have bounded : ∃ k, LastPage (fragmentationPage databaseName support targets) (k + 1) := by
    refine ⟨targets.length, (lastPage_fragmentation_iff serves.partitioned).mpr ?_⟩
    rw [indexCollectPageSize]
    omega
  obtain ⟨last, ends, -, returns⟩ := collectPages_returns
    (fun page => fragmentationPage_fetched named serves) bounded
  have total := (lastPage_fragmentation_iff serves.partitioned).mp ends
  have gathered := @gathered_perm databaseName targets support (last + 1)
  rw [Pages.upTo_eq_self total] at gathered
  refine ⟨last + 1, _, ?_, (byFragmentation_perm _).trans gathered, byFragmentation_pairwise _⟩
  intro fuel enough
  rw [listIndexFragmentation, returns fuel enough]
  rfl

theorem listIndexFragmentation_raises (invalid : isIdentifier databaseName = false) :
    ∃ exc, ∀ fuel, listIndexFragmentation (fuel + 1) client databaseName = some (.error exc) := by
  obtain ⟨exc, raises⟩ : ∃ exc,
      listIndexFragmentationPage client databaseName 1 indexCollectPageSize = .error exc :=
    invalid_database_raises invalid
  refine ⟨exc, fun fuel => ?_⟩
  rw [listIndexFragmentation, collectPages_raises raises]
  rfl

theorem listIndexFragmentation_all_iff
    (serves : ServesFragmentation client databaseName targets support) :
    (∃ enough items, (∀ fuel, enough ≤ fuel →
        listIndexFragmentation fuel client databaseName = some (.ok items)) ∧
      items.Perm (targets.flatten.map
        (fragmentationItem databaseName (supportsOnlineIndexRebuild support))) ∧
      items.Pairwise fun item later =>
        later.avgFragmentationInPercent ≤ item.avgFragmentationInPercent) ↔
      isIdentifier databaseName = true := by
  constructor
  · rintro ⟨enough, items, listed, -⟩
    by_contra invalid
    obtain ⟨exc, raised⟩ :=
      @listIndexFragmentation_raises client databaseName (Bool.eq_false_iff.mpr invalid)
    have returned := listed (enough + 1) (Nat.le_succ enough)
    rw [raised] at returned
    exact absurd returned (by simp)
  · intro named
    exact listIndexFragmentation_gathers named serves

def partitionRow (databaseName indexName : String) (partitionNumber : Int) (percent : Rat) :
    FragmentationRow :=
  { databaseName := some databaseName, schemaName := some "dbo", tableName := some "Orders"
    indexName := some indexName, partitionNumber := some partitionNumber
    avgFragmentationInPercent := some percent, pageCount := some 5000 }

def orderTargets (databaseName : String) : List (List FragmentationRow) :=
  [[partitionRow databaseName "IX_Date" 1 12, partitionRow databaseName "IX_Date" 2 45],
    [partitionRow databaseName "IX_Customer" 1 30]]

def fragmentationServer (targets : List (List FragmentationRow)) : IndexClient where
  userDatabases := .ok [some "Sales", some "Sales.Archive"]
  missingTotal := fun _ _ => .ok []
  missingRows := fun _ _ _ => .ok []
  onlineSupport := fun _ => .ok []
  fragmentationTotal := fun _ _ => .ok [some (targets.length : Int)]
  fragmentationRows := fun _ first last =>
    .ok ((targets.drop (first - 1)).take (last - (first - 1))).flatten

theorem fragmentationServer_serves (databaseName : String) :
    ServesFragmentation (fragmentationServer (orderTargets databaseName)) databaseName
      (orderTargets databaseName) [] where
  partitioned := by simp [orderTargets]
  online := fun _ => rfl
  total := fun _ _ => rfl
  between := fun _ _ => rfl

theorem listIndexFragmentation_all_iff_orders : ∃ enough items, (∀ fuel, enough ≤ fuel →
      listIndexFragmentation fuel (fragmentationServer (orderTargets "Sales")) "Sales" =
        some (.ok items)) ∧
    items.length = 3 := by
  obtain ⟨enough, items, listed, perm, -⟩ :=
    (listIndexFragmentation_all_iff (fragmentationServer_serves "Sales")).mpr (by decide)
  exact ⟨enough, items, listed, perm.length_eq⟩

theorem archive_not_listed :
    ServesFragmentation (fragmentationServer (orderTargets "Sales.Archive")) "Sales.Archive"
        (orderTargets "Sales.Archive") [] ∧
      ∀ fuel items,
        listIndexFragmentation fuel (fragmentationServer (orderTargets "Sales.Archive"))
          "Sales.Archive" ≠ some (.ok items) := by
  refine ⟨fragmentationServer_serves _, fun fuel items => ?_⟩
  obtain ⟨exc, raised⟩ := @listIndexFragmentation_raises
    (fragmentationServer (orderTargets "Sales.Archive")) "Sales.Archive" (by decide)
  cases fuel with
  | zero => simp [listIndexFragmentation, collectPages]
  | succ fuel => simp [raised]

end Fragmentation

end SqlMonitor.Services
