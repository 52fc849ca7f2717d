import SqlMonitor.Collector.SqlTextRuns
import SqlMonitor.Collector.WhitespaceRuns
import Mathlib.Data.List.DropRight

set_option autoImplicit false

namespace SqlMonitor.SqlTexts

open Services Collector

section Cut

def cutAt (maxLength : Nat) (text : List Char) : List Char :=
  (text.take (maxLength - 3)).rdropWhile isSpace

variable {text kept : List Char} {maxLength : Nat}

theorem Tidy.of_ellipsis (maxLength : Nat) : Tidy ("...".toList.take maxLength) := by
  have dots : ∀ c ∈ "...".toList.take maxLength, c = '.' := fun c member => by
    have inside : c ∈ ['.', '.', '.'] := List.mem_of_mem_take member
    simpa using inside
  refine ⟨fun c member space => ?_, ?_, fun first => ?_, fun last => ?_⟩
  · rw [dots c member] at space
    exact absurd space (by decide)
  · refine (List.isChain_iff_getElem.mpr fun i inside both => ?_)
    exact absurd ((dots _ (List.getElem_mem _)).symm.trans both.1) (by decide)
  · exact absurd (dots _ (List.mem_of_head? first)) (by decide)
  · exact absurd (dots _ (List.mem_of_getLast? last)) (by decide)

theorem Tidy.append_ellipsis (tidy : Tidy text) (front : kept <+: text) :
    Tidy (kept ++ "...".toList) := by
  obtain ⟨rest, rfl⟩ := front
  have dots := Tidy.of_ellipsis 3
  refine ⟨fun c member space => ?_, ?_, fun first => ?_, fun last => ?_⟩
  · rcases List.mem_append.mp member with inKept | inDots
    · exact tidy.spaces c (List.mem_append_left _ inKept) space
    · exact dots.spaces c inDots space
  · refine List.isChain_append.mpr ⟨tidy.single.left_of_append, dots.single, ?_⟩
    rintro c - d first ⟨-, rfl⟩
    exact dots.starts first
  · cases kept with
    | nil => exact dots.starts first
    | cons c kept => exact tidy.starts first
  · rw [List.getLast?_append_of_ne_nil _ (by decide)] at last
    exact dots.ends last

theorem cutAt_isFront (maxLength : Nat) (text : List Char) : cutAt maxLength text <+: text :=
  (List.rdropWhile_prefix isSpace _).trans (List.take_prefix _ _)

theorem length_cutAt_le (maxLength : Nat) (text : List Char) :
    (cutAt maxLength text).length ≤ maxLength - 3 :=
  (List.rdropWhile_prefix isSpace _).length_le.trans (List.length_take_le _ _)

theorem getLast?_cutAt {c : Char} (last : (cutAt maxLength text).getLast? = some c) :
    isSpace c = false := by
  have held : cutAt maxLength text ≠ [] := fun empty => by simp [empty] at last
  have solid := List.rdropWhile_last_not isSpace (text.take (maxLength - 3)) held
  rw [List.getLast?_eq_some_getLast held] at last
  obtain rfl := Option.some.inj last
  exact Bool.eq_false_iff.mpr solid

theorem cutAt_ne_nil (tidy : Tidy text) (long : text ≠ []) (roomy : 3 < maxLength) :
    cutAt maxLength text ≠ [] := by
  intro empty
  obtain ⟨c, rest, rfl⟩ := List.exists_cons_of_ne_nil long
  have first : c ∈ (c :: rest).take (maxLength - 3) := by
    obtain ⟨n, room⟩ : ∃ n, maxLength - 3 = n + 1 := ⟨maxLength - 4, by omega⟩
    rw [room]
    exact List.mem_cons_self
  have space : isSpace c = true := List.rdropWhile_eq_nil_iff.mp empty c first
  exact tidy.starts (congrArg some (tidy.spaces c List.mem_cons_self space))

end Cut

section Preview

def previewChars (text : List Char) (maxLength : Nat) : List Char :=
  let preview := collapseWhitespace text
  if preview.length ≤ maxLength then preview
  else if maxLength ≤ 3 then "...".toList.take maxLength
  else cutAt maxLength preview ++ "...".toList

theorem previewSql_eq (sqlText : Option String) (maxLength : Nat) :
    previewSql sqlText maxLength =
      String.ofList (previewChars (sqlText.getD "").toList maxLength) := by
  have blank : String.ofList (previewChars "".toList maxLength) = "" := by
    have collapsed : collapseWhitespace [] = [] := by decide
    simp [previewChars, collapsed]
  cases sqlText with
  | none => exact blank.symm
  | some text =>
      by_cases empty : text = ""
      · subst empty
        exact blank.symm
      · simp only [previewSql, Option.filter_some, decide_not, empty, decide_false, Bool.not_false,
          if_true, Option.getD_some, previewChars]
        split
        · rfl
        · split
          · rfl
          · rw [String.ofList_append]
            rfl

variable {text : List Char} {maxLength : Nat}

theorem length_previewChars_le (text : List Char) (maxLength : Nat) :
    (previewChars text maxLength).length ≤ maxLength := by
  unfold previewChars
  dsimp only
  split
  case isTrue fits => exact fits
  case isFalse =>
    split
    case isTrue => exact List.length_take_le _ _
    case isFalse =>
      have short := length_cutAt_le maxLength (collapseWhitespace text)
      have dots : "...".toList.length = 3 := by decide
      rw [List.length_append, dots]
      omega

theorem tidy_previewChars (text : List Char) (maxLength : Nat) :
    Tidy (previewChars text maxLength) := by
  have tidy := tidy_collapseWhitespace text
  unfold previewChars
  dsimp only
  split
  · exact tidy
  · split
    · exact Tidy.of_ellipsis maxLength
    · exact tidy.append_ellipsis (cutAt_isFront maxLength _)

theorem previewChars_of_fits (fits : (collapseWhitespace text).length ≤ maxLength) :
    previewChars text maxLength = collapseWhitespace text := if_pos fits

theorem previewChars_of_long (long : maxLength < (collapseWhitespace text).length)
    (roomy : 3 < maxLength) :
    previewChars text maxLength = cutAt maxLength (collapseWhitespace text) ++ "...".toList := by
  rw [previewChars, if_neg (by omega), if_neg (by omega)]

theorem previewChars_idem (text : List Char) (maxLength : Nat) :
    previewChars (previewChars text maxLength) maxLength = previewChars text maxLength := by
  have tidy := collapseWhitespace_of_tidy (tidy_previewChars text maxLength)
  have fits : (collapseWhitespace (previewChars text maxLength)).length ≤ maxLength := by
    rw [tidy]
    exact length_previewChars_le text maxLength
  rw [previewChars_of_fits fits, tidy]

-- The width of the `sql_preview` column.
def sqlPreviewWidth : Nat := 512

theorem previewSql_collapses (python : PythonText) (sha256Hex : String → String) :
    (∀ (sqlText : Option String) (maxLength : Nat),
      let preview := previewSql sqlText maxLength
      let collapsed := collapseWhitespace (sqlText.getD "").toList
      collapsed = strip (collapseRuns false (sqlText.getD "").toList) ∧
      preview.length ≤ maxLength ∧
      (preview.toList.head?.any isSpace = false ∧
        (∀ c ∈ preview.toList, isSpace c = true → c = ' ') ∧
        preview.toList.IsChain fun c d => ¬ (isSpace c = true ∧ isSpace d = true)) ∧
      (collapsed.length ≤ maxLength → preview.toList = collapsed) ∧
      (maxLength < collapsed.length → 3 < maxLength →
        ∃ kept, kept ≠ [] ∧ kept <+: collapsed ∧ kept.getLast?.any isSpace = false ∧
          preview.toList = kept ++ "...".toList) ∧
      previewSql (some preview) maxLength = preview) ∧
    ∀ frame rows, ∀ stored ∈ (buildSessionAndRequestSnapshots
        (sqlTextFunctions python sha256Hex) frame rows).2.2,
      ∃ preview, stored.sqlPreview = some preview ∧ preview.length ≤ sqlPreviewWidth := by
  refine ⟨fun sqlText maxLength => ?_, fun frame rows stored member => ?_⟩
  · simp only [previewSql_eq, String.toList_ofList, String.length_ofList, Option.getD_some,
      previewChars_idem]
    have tidy := tidy_previewChars (sqlText.getD "").toList maxLength
    refine ⟨collapseWhitespace_eq _, length_previewChars_le _ _, ⟨?_, tidy.spaces, ?_⟩,
      previewChars_of_fits, fun long roomy => ?_, trivial⟩
    · cases first : (previewChars (sqlText.getD "").toList maxLength).head? with
      | none => rfl
      | some c => exact tidy.starts_solid first
    · exact tidy.single.imp_of_mem_imp fun c d inC inD kept both =>
        kept ⟨tidy.spaces c inC both.1, tidy.spaces d inD both.2⟩
    · refine ⟨_, cutAt_ne_nil (tidy_collapseWhitespace _) ?_ roomy, cutAt_isFront _ _, ?_,
        previewChars_of_long long roomy⟩
      · exact List.ne_nil_of_length_pos (by omega)
      · cases last : (cutAt maxLength (collapseWhitespace (sqlText.getD "").toList)).getLast? with
        | none => rfl
        | some c => exact getLast?_cutAt last
  · obtain ⟨-, -, text, -, rfl⟩ := mem_batch member
    refine ⟨previewSql (some text) sqlPreviewWidth, rfl, ?_⟩
    rw [previewSql_eq, String.length_ofList]
    exact length_previewChars_le _ _

example : previewSql (some "SELECT  *\n FROM orders") 12 = "SELECT *..." := by decide +kernel

end Preview

end SqlMonitor.SqlTexts
