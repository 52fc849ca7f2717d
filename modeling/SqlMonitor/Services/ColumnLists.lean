import SqlMonitor.Collector.WhitespaceRuns
import SqlMonitor.Shared.TSql

set_option autoImplicit false

namespace SqlMonitor.Services

open SqlTexts

def dmvText (names : List String) : Option String :=
  if names = [] then none else some (", ".intercalate (names.map TSql.quote))

section Pieces

variable {text piece : List Char}

theorem not_mem_of_mem_splitOn {c : Char} (member : piece ∈ text.splitOn c) : c ∉ piece := by
  induction text generalizing piece with
  | nil =>
      simp only [List.splitOn_nil, List.mem_singleton] at member
      simp [member]
  | cons d text ih =>
      rw [List.splitOn_cons_eq_if_modifyHead] at member
      by_cases separates : (d == c) = true
      · rw [if_pos separates] at member
        rcases List.mem_cons.mp member with rfl | later
        · simp
        · exact ih later
      · rw [if_neg separates] at member
        obtain ⟨first, rest, split⟩ := List.exists_cons_of_ne_nil (List.splitOn_ne_nil c text)
        rw [split, List.modifyHead_cons] at member
        rcases List.mem_cons.mp member with rfl | later
        · have apart : c ≠ d := fun same => separates (by simp [same])
          exact List.not_mem_cons_of_ne_of_not_mem apart (ih (split ▸ List.mem_cons_self ..))
        · exact ih (split ▸ List.mem_cons_of_mem _ later)

theorem count_dropWhile {c : Char} (solid : isSpace c = false) :
    (text.dropWhile isSpace).count c = text.count c := by
  induction text with
  | nil => rfl
  | cons d text ih =>
      cases space : isSpace d with
      | false => simp [space]
      | true =>
          have apart : d ≠ c := fun same => by simp [same, solid] at space
          rw [List.dropWhile_cons_of_pos space, ih, List.count_cons_of_ne apart]

theorem count_strip {c : Char} (solid : isSpace c = false) :
    (strip text).count c = text.count c := by
  rw [strip, stripBy, List.count_reverse, count_dropWhile solid, List.count_reverse,
    count_dropWhile solid]

theorem strip_blank (text : List Char) : strip (' ' :: text) = strip text := by
  rw [strip, stripBy, List.dropWhile_cons_of_pos isSpace_space]
  rfl

end Pieces

section Columns

def columnOf (raw : List Char) : Option String :=
  let column := strip raw
  let column :=
    if column.head? = some '[' ∧ column.getLast? = some ']' then column.tail.dropLast else column
  let column := strip column
  if column = [] then none else some (String.ofList column)

theorem parseColumnList_some (text : String) :
    parseColumnList (some text) = (text.toList.splitOn ',').filterMap columnOf := by
  by_cases empty : text = ""
  · subst empty
    rfl
  · simp only [parseColumnList, Option.filter_some, empty, ne_eq, not_false_eq_true, decide_true,
      if_true]
    rfl

theorem mem_of_columnOf {raw : List Char} {column : String} (found : columnOf raw = some column)
    {c : Char} (member : c ∈ column.toList) : c ∈ raw := by
  simp only [columnOf, Option.ite_none_left_eq_some, Option.some.injEq] at found
  obtain ⟨-, rfl⟩ := found
  rw [String.toList_ofList] at member
  have inside := mem_of_mem_stripBy member
  split_ifs at inside with bracketed
  · exact mem_of_mem_stripBy (List.mem_of_mem_tail (List.mem_of_mem_dropLast inside))
  · exact mem_of_mem_stripBy inside

theorem comma_not_mem_of_parsed {text column : String}
    (member : column ∈ parseColumnList (some text)) : ',' ∉ column.toList := by
  rw [parseColumnList_some] at member
  obtain ⟨piece, split, found⟩ := List.mem_filterMap.mp member
  exact fun inside => not_mem_of_mem_splitOn split (mem_of_columnOf found inside)

theorem columnOf_quote (name : String) :
    columnOf (TSql.quote name).toList =
      if strip (TSql.escape name.toList) = [] then none
      else some (String.ofList (strip (TSql.escape name.toList))) := by
  have text := TSql.toList_quote name
  have kept : strip (TSql.quote name).toList = (TSql.quote name).toList := by
    refine strip_of_ends (fun c first => ?_) (fun c last => ?_)
    · rw [text, List.head?_cons, Option.some.injEq] at first
      exact first ▸ by decide
    · rw [text, ← List.cons_append, List.getLast?_concat, Option.some.injEq] at last
      exact last ▸ by decide
  have bracketed : (TSql.quote name).toList.head? = some '[' ∧
      (TSql.quote name).toList.getLast? = some ']' := by
    rw [text]
    exact ⟨rfl, by rw [← List.cons_append, List.getLast?_concat]⟩
  have inner : (TSql.quote name).toList.tail.dropLast = TSql.escape name.toList := by
    rw [text, List.tail_cons, List.dropLast_concat]
  simp only [columnOf, kept, if_pos bracketed, inner]

/-- A name that reads the same in and out of its brackets. -/
def PlainColumn (name : String) : Prop :=
  ',' ∉ name.toList ∧ ']' ∉ name.toList ∧ strip name.toList = name.toList

theorem columnOf_quote_iff {name : String} (named : name ≠ "") :
    columnOf (TSql.quote name).toList = some name ↔
      ']' ∉ name.toList ∧ strip name.toList = name.toList := by
  have read : columnOf (TSql.quote name).toList = some name ↔
      strip (TSql.escape name.toList) = name.toList := by
    rw [columnOf_quote]
    constructor
    · intro found
      simp only [Option.ite_none_left_eq_some, Option.some.injEq] at found
      rw [← String.toList_ofList (l := strip _), found.2]
    · intro same
      have some : name.toList ≠ [] := by simpa using named
      rw [same, if_neg some, String.ofList_toList]
  rw [read]
  constructor
  · intro same
    have count : (TSql.escape name.toList).count ']' = name.toList.count ']' := by
      rw [← count_strip (by decide), same]
    rw [TSql.count_escape] at count
    have absent : ']' ∉ name.toList := List.count_eq_zero.mp (by omega)
    rw [TSql.escape_of_not_mem absent] at same
    exact ⟨absent, same⟩
  · intro plain
    rw [TSql.escape_of_not_mem plain.1, plain.2]

theorem columnOf_blank (raw : List Char) : columnOf (' ' :: raw) = columnOf raw := by
  simp only [columnOf, strip_blank]

theorem filterMap_splitOn_blank (text : List Char) :
    ((' ' :: text).splitOn ',').filterMap columnOf = (text.splitOn ',').filterMap columnOf := by
  obtain ⟨first, rest, split⟩ := List.exists_cons_of_ne_nil (List.splitOn_ne_nil ',' text)
  rw [List.splitOn_cons_eq_if_modifyHead, if_neg (by decide), split, List.modifyHead_cons,
    List.filterMap_cons, List.filterMap_cons, columnOf_blank]

theorem comma_not_mem_quote {name : String} (absent : ',' ∉ name.toList) :
    ',' ∉ (TSql.quote name).toList := by
  intro member
  rw [TSql.toList_quote] at member
  have inside : ',' ∈ TSql.escape name.toList := by simpa using member
  exact absent (TSql.mem_of_mem_escape inside)

theorem columns_of_quoted {names : List String} (absent : ∀ name ∈ names, ',' ∉ name.toList) :
    ((", ".intercalate (names.map TSql.quote)).toList.splitOn ',').filterMap columnOf =
      names.filterMap fun name => columnOf (TSql.quote name).toList := by
  induction names with
  | nil => rfl
  | cons name names ih =>
      obtain ⟨here, later⟩ := List.forall_mem_cons.mp absent
      have apart := comma_not_mem_quote here
      cases names with
      | nil =>
          have text : (", ".intercalate ([name].map TSql.quote)).toList =
              (TSql.quote name).toList := by simp
          simp only [text, List.splitOn_eq_singleton apart, List.filterMap_cons, List.filterMap_nil]
      | cons next names =>
          have text : (", ".intercalate ((name :: next :: names).map TSql.quote)).toList =
              (TSql.quote name).toList ++ ',' :: ' ' ::
                (", ".intercalate ((next :: names).map TSql.quote)).toList := by simp
          have rest := ih later
          simp only [text, List.splitOn_append_cons_self_of_not_mem apart, List.filterMap_cons,
            filterMap_splitOn_blank] at rest ⊢
          rw [rest]

theorem parseColumnList_dmvText_iff {names : List String} (named : ∀ name ∈ names, name ≠ "") :
    parseColumnList (dmvText names) = names ↔ ∀ name ∈ names, PlainColumn name := by
  by_cases none : names = []
  · subst none
    exact iff_of_true rfl (by simp)
  have read : (∀ name ∈ names, ',' ∉ name.toList) →
      (parseColumnList (dmvText names) = names ↔
        ∀ name ∈ names, ']' ∉ name.toList ∧ strip name.toList = name.toList) := by
    intro absent
    have same := @List.filterMap_eq_map_iff_forall_eq_some _ _
      (fun name => columnOf (TSql.quote name).toList) id names
    rw [dmvText, if_neg none, parseColumnList_some, columns_of_quoted absent]
    rw [List.map_id] at same
    rw [same]
    exact forall₂_congr fun name member => columnOf_quote_iff (named name member)
  constructor
  · intro same
    have absent : ∀ name ∈ names, ',' ∉ name.toList := by
      intro name member
      rw [dmvText, if_neg none] at same
      exact comma_not_mem_of_parsed (same ▸ member)
    exact fun name member => ⟨absent name member, (read absent).mp same name member⟩
  · intro plain
    exact (read fun name member => (plain name member).1).mpr fun name member =>
      (plain name member).2

end Columns

section Recommendations

theorem recommended_columns_read_iff (names : List String) (named : ∀ name ∈ names, name ≠ "") :
    (parseColumnList (dmvText names) = names ↔ ∀ name ∈ names, PlainColumn name) ∧
    ∀ (databaseName : String) (row : MissingIndexRow) (candidate : MissingIndexCandidate)
      (equality inequality included : List String),
      (∀ name ∈ equality ++ inequality ++ included, name ≠ "") →
      row.equalityColumns = dmvText equality → row.inequalityColumns = dmvText inequality →
      row.includedColumns = dmvText included →
      missingIndexCandidate databaseName row = some candidate →
      ((candidate.equalityColumns = equality ∧ candidate.inequalityColumns = inequality ∧
          candidate.includeColumns = included) ↔
        ∀ name ∈ equality ++ inequality ++ included, PlainColumn name) := by
  refine ⟨parseColumnList_dmvText_iff named, ?_⟩
  intro databaseName row candidate equality inequality included named first second third built
  simp only [missingIndexCandidate, Option.ite_none_left_eq_some, Option.some.injEq] at built
  obtain ⟨-, rfl⟩ := built
  simp only [List.forall_mem_append] at named
  obtain ⟨⟨equalityNamed, inequalityNamed⟩, includedNamed⟩ := named
  simp only [first, second, third, parseColumnList_dmvText_iff equalityNamed,
    parseColumnList_dmvText_iff inequalityNamed, parseColumnList_dmvText_iff includedNamed,
    List.forall_mem_append, and_assoc]

def ordersRow (keys : List String) : MissingIndexRow :=
  { databaseName := some "Sales", schemaName := some "dbo", tableName := some "Orders"
    equalityColumns := dmvText keys }

theorem recommended_columns_read_iff_orders :
    parseColumnList (dmvText ["id", "customer [id"]) = ["id", "customer [id"] ∧
      ∀ candidate,
        missingIndexCandidate "Sales" (ordersRow ["id", "customer [id"]) = some candidate →
          candidate.equalityColumns = ["id", "customer [id"] := by
  have named : ∀ name ∈ ["id", "customer [id"], name ≠ "" := by decide
  have plain : ∀ name ∈ ["id", "customer [id"], PlainColumn name := by
    simp only [List.forall_mem_cons, PlainColumn]
    decide
  obtain ⟨list, candidates⟩ := recommended_columns_read_iff ["id", "customer [id"] named
  refine ⟨list.mpr plain, ?_⟩
  intro candidate built
  have read := candidates "Sales" (ordersRow ["id", "customer [id"]) candidate
    ["id", "customer [id"] [] [] (by simp) rfl rfl rfl built
  exact (read.mpr (by simpa using plain)).1

theorem comma_splits_column :
    parseColumnList (dmvText ["net,gross"]) = ["[net", "gross]"] ∧
      (missingIndexCandidate "Sales" (ordersRow ["net,gross"])).map
        MissingIndexCandidate.equalityColumns = some ["[net", "gross]"] := by
  decide

end Recommendations

end SqlMonitor.Services
