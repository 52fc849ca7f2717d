import Mathlib.Data.List.Basic

set_option autoImplicit false

namespace Replacement

open String Slice Pattern Model

theorem copy_sliceFrom_split {s : Slice} {start stop : s.Pos} (order : start ≤ stop) :
    (s.sliceFrom start).copy = (s.slice start stop order).copy ++ (s.sliceFrom stop).copy := by
  have whole : s.copy = (s.sliceTo start).copy ++ (s.sliceFrom start).copy :=
    start.splits.eq_append
  have parts := Slice.copy_eq_copy_slice (h := order)
  rw [whole, String.append_assoc] at parts
  exact (String.append_right_inj _).mp parts

theorem foldl_of_unmatched {pattern : String} {s : Slice} (replacement : String)
    (unmatched : ∀ pos : s.Pos, ¬ MatchesAt pattern pos) {pos : s.Pos}
    {steps : List (SearchStep s)} (valid : IsValidSearchFrom pattern pos steps) (sofar : String) :
    steps.foldl (fun
      | sofar, .matched .. => sofar ++ ToSlice.toSlice replacement
      | sofar, .rejected start stop => sofar ++ s.slice! start stop) sofar =
      sofar ++ (s.sliceFrom pos).copy := by
  induction valid generalizing sofar with
  | endPos => simp
  | matched found _ _ => exact absurd found.matchesAt (unmatched _)
  | mismatched order _ _ ih =>
      have forward := Std.le_of_lt order
      rw [List.foldl_cons, ih, copy_sliceFrom_split forward, ← String.append_assoc]
      simp only [Slice.slice!, dif_pos forward]
      rfl

theorem replace_of_not_mem {s : String} {c : Char} (absent : c ∉ s.toList) (replacement : String) :
    s.replace (String.singleton c) replacement = s := by
  have some : String.singleton c ≠ "" := by simp
  have lawful := ForwardStringSearcher.lawfulToForwardSearcherModel some
  have valid := lawful.isValidSearchFrom_toList s.toSlice
  have unmatched : ∀ pos : s.toSlice.Pos, ¬ MatchesAt (String.singleton c) pos := by
    intro pos found
    obtain ⟨front, back, splits⟩ := ForwardStringSearcher.matchesAt_iff_splits.mp found
    have text : s.toList = front.toList ++ c :: back.toList := by
      simpa using congrArg String.toList splits.eq_append
    exact absent (text ▸ by simp)
  have folded := foldl_of_unmatched replacement unmatched valid ""
  rw [String.replace, Slice.replace, ← Std.Iter.foldl_toList]
  exact folded.trans (by simp)

end Replacement
