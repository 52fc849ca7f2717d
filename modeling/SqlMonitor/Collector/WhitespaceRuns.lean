import SqlMonitor.Collector.SqlText

set_option autoImplicit false

namespace SqlMonitor.SqlTexts

open Services Regex

section Runs

-- The substitution without the pattern; the flag tells that the run was begun before.
def collapseRuns : Bool → List Char → List Char
  | _, [] => []
  | inRun, c :: rest =>
    if isSpace c then if inRun then collapseRuns true rest else ' ' :: collapseRuns true rest
    else c :: collapseRuns false rest

def inRunAfter : Bool → List Char → Bool
  | inRun, [] => inRun
  | _, c :: rest => inRunAfter (isSpace c) rest

variable {inRun : Bool} {c : Char} {text rest : List Char}

theorem collapseRuns_true (text : List Char) :
    collapseRuns true text = collapseRuns false (text.dropWhile isSpace) := by
  induction text with
  | nil => rfl
  | cons c rest ih =>
      cases space : isSpace c with
      | true => simpa [collapseRuns, space] using ih
      | false => simp [collapseRuns, space]

theorem collapseRuns_of_head (starts : text.head?.any isSpace = false) :
    collapseRuns inRun text = collapseRuns false text := by
  cases text with
  | nil => rfl
  | cons c rest =>
      have solid : isSpace c = false := starts
      simp [collapseRuns, solid]

theorem collapseRuns_append (inRun : Bool) (text rest : List Char) :
    collapseRuns inRun (text ++ rest) =
      collapseRuns inRun text ++ collapseRuns (inRunAfter inRun text) rest := by
  induction text generalizing inRun with
  | nil => rfl
  | cons c text ih =>
      rw [List.cons_append, collapseRuns, collapseRuns, inRunAfter]
      cases isSpace c <;> cases inRun <;> simp [ih]

theorem sub_whitespace (before text : List Char) :
    whitespaceRe.subAfter [' '] before text = collapseRuns false text := by
  induction counted : text.length using Nat.strong_induction_on generalizing before text with
  | _ length ih =>
      cases text with
      | nil => rw [subAfter_nil]; rfl
      | cons c rest =>
          cases space : isSpace c with
          | true =>
              have found : (plus (.one isSpace)).matchAt before (c :: rest) =
                  some (c :: rest.takeWhile isSpace, rest.dropWhile isSpace) :=
                matchAt_plus_one space
              have split : c :: rest =
                  (c :: rest.takeWhile isSpace) ++ rest.dropWhile isSpace := by simp
              have shorter : (rest.dropWhile isSpace).length < length := by
                have := (rest.dropWhile_suffix isSpace).length_le
                rw [← counted, List.length_cons]
                omega
              rw [split] at found
              rw [split, whitespaceRe, subAfter_of_some (List.cons_ne_nil _ _) found, ← split]
              simp only [collapseRuns, space, collapseRuns_true, if_true, Bool.false_eq_true,
                if_false, List.singleton_append]
              rw [← ih _ shorter _ _ rfl, whitespaceRe]
          | false =>
              rw [whitespaceRe, subAfter_of_none (matchAt_plus_one_of_not space),
                collapseRuns, space,
                ← ih _ (by simp [← counted]) (c :: before) rest rfl]
              rfl

theorem collapseWhitespace_eq (text : List Char) :
    collapseWhitespace text = strip (collapseRuns false text) :=
  congrArg strip (sub_whitespace [] text)

end Runs

section Tidy

structure Tidy (text : List Char) : Prop where
  spaces : ∀ c ∈ text, isSpace c = true → c = ' '
  single : text.IsChain fun c d => ¬ (c = ' ' ∧ d = ' ')
  starts : text.head? ≠ some ' '
  ends : text.getLast? ≠ some ' '

variable {text : List Char}

theorem isSpace_space : isSpace ' ' = true := by decide

theorem dropWhile_of_head (solid : ∀ c, text.head? = some c → isSpace c = false) :
    text.dropWhile isSpace = text := by
  cases text with
  | nil => rfl
  | cons c rest => simp [solid c rfl]

theorem head?_dropWhile {c : Char} (found : (text.dropWhile isSpace).head? = some c) :
    isSpace c = false := by
  have first := List.head?_dropWhile_not isSpace text
  rw [found] at first
  exact first

theorem strip_of_ends (starts : ∀ c, text.head? = some c → isSpace c = false)
    (ends : ∀ c, text.getLast? = some c → isSpace c = false) : strip text = text := by
  have back : text.reverse.dropWhile isSpace = text.reverse := dropWhile_of_head fun c last =>
    ends c (List.head?_reverse ▸ last)
  rw [strip, stripBy, dropWhile_of_head starts, back, List.reverse_reverse]

theorem Tidy.starts_solid (tidy : Tidy text) {c : Char} (first : text.head? = some c) :
    isSpace c = false := by
  refine Bool.eq_false_iff.mpr fun space => tidy.starts ?_
  rw [first, tidy.spaces c (List.mem_of_head? first) space]

theorem strip_of_tidy (tidy : Tidy text) : strip text = text := by
  refine strip_of_ends (fun c first => tidy.starts_solid first) (fun c last => ?_)
  refine Bool.eq_false_iff.mpr fun space => tidy.ends ?_
  rw [last, tidy.spaces c (List.mem_of_getLast? last) space]

theorem collapseRuns_of_single {inRun : Bool}
    (spaces : ∀ c ∈ text, isSpace c = true → c = ' ')
    (single : text.IsChain fun c d => ¬ (c = ' ' ∧ d = ' '))
    (starts : inRun = true → text.head? ≠ some ' ') : collapseRuns inRun text = text := by
  induction text generalizing inRun with
  | nil => rfl
  | cons c rest ih =>
      obtain ⟨next, later⟩ := List.isChain_cons.mp single
      have restSpaces := fun d member => spaces d (List.mem_cons_of_mem _ member)
      cases space : isSpace c with
      | true =>
          obtain rfl := spaces c List.mem_cons_self space
          have fresh : inRun = false := Bool.eq_false_iff.mpr fun begun => starts begun rfl
          rw [collapseRuns, space, fresh, if_pos rfl, if_neg Bool.false_ne_true,
            ih restSpaces later fun _ first => next ' ' first ⟨rfl, rfl⟩]
      | false =>
          rw [collapseRuns, space, if_neg Bool.false_ne_true, ih restSpaces later (by simp)]

theorem collapseWhitespace_of_tidy (tidy : Tidy text) : collapseWhitespace text = text := by
  rw [collapseWhitespace_eq, collapseRuns_of_single tidy.spaces tidy.single (by simp),
    strip_of_tidy tidy]

theorem mem_collapseRuns {inRun : Bool} {c : Char} (member : c ∈ collapseRuns inRun text) :
    c = ' ' ∨ c ∈ text ∧ isSpace c = false := by
  induction text generalizing inRun with
  | nil => simp [collapseRuns] at member
  | cons d rest ih =>
      have later : ∀ inRun, c ∈ collapseRuns inRun rest →
          c = ' ' ∨ c ∈ d :: rest ∧ isSpace c = false := fun inRun inRest =>
        (ih inRest).imp_right fun kept => ⟨List.mem_cons_of_mem d kept.1, kept.2⟩
      cases space : isSpace d with
      | true =>
          cases inRun with
          | true =>
              rw [collapseRuns, space, if_pos rfl, if_pos rfl] at member
              exact later true member
          | false =>
              rw [collapseRuns, space, if_pos rfl, if_neg Bool.false_ne_true] at member
              exact (List.mem_cons.mp member).elim Or.inl (later true)
      | false =>
          rw [collapseRuns, space, if_neg Bool.false_ne_true] at member
          rcases List.mem_cons.mp member with rfl | inRest
          · exact Or.inr ⟨List.mem_cons_self, space⟩
          · exact later false inRest

theorem head?_collapseRuns_true (text : List Char) : (collapseRuns true text).head? ≠ some ' ' := by
  rw [collapseRuns_true]
  cases kept : text.dropWhile isSpace with
  | nil => simp [collapseRuns]
  | cons c rest =>
      have solid : isSpace c = false := head?_dropWhile (by rw [kept]; rfl)
      rw [collapseRuns, solid, if_neg Bool.false_ne_true]
      rintro same
      obtain rfl : c = ' ' := Option.some.inj same
      exact absurd isSpace_space (by simp [solid])

theorem single_collapseRuns (inRun : Bool) (text : List Char) :
    (collapseRuns inRun text).IsChain fun c d => ¬ (c = ' ' ∧ d = ' ') := by
  induction text generalizing inRun with
  | nil => exact .nil
  | cons c rest ih =>
      cases space : isSpace c with
      | true =>
          cases inRun with
          | true => simpa [collapseRuns, space] using ih true
          | false =>
              rw [collapseRuns, space, if_pos rfl, if_neg Bool.false_ne_true]
              refine List.isChain_cons.mpr ⟨fun d first both => ?_, ih true⟩
              exact head?_collapseRuns_true rest (both.2 ▸ first)
      | false =>
          rw [collapseRuns, space, if_neg Bool.false_ne_true]
          refine List.isChain_cons.mpr ⟨fun d _ both => ?_, ih false⟩
          rw [both.1, isSpace_space] at space
          exact absurd space (by decide)

theorem strip_split (text : List Char) : ∃ front back, text = front ++ (strip text ++ back) := by
  obtain ⟨front, split⟩ := text.dropWhile_suffix isSpace
  obtain ⟨back, rest⟩ := (text.dropWhile isSpace).reverse.dropWhile_suffix isSpace
  refine ⟨front, back.reverse, ?_⟩
  have joined : strip text ++ back.reverse = text.dropWhile isSpace := by
    rw [strip, stripBy, ← List.reverse_append, rest, List.reverse_reverse]
  rw [joined, split]

theorem head?_strip {c : Char} (first : (strip text).head? = some c) : isSpace c = false := by
  obtain ⟨back, rest⟩ := (text.dropWhile isSpace).reverse.dropWhile_suffix isSpace
  have joined : text.dropWhile isSpace = strip text ++ back.reverse := by
    rw [strip, stripBy, ← List.reverse_append, rest, List.reverse_reverse]
  have front : (text.dropWhile isSpace).head? = some c := by
    rw [joined, List.head?_append, first]
    rfl
  exact head?_dropWhile front

theorem getLast?_strip {c : Char} (last : (strip text).getLast? = some c) : isSpace c = false := by
  rw [strip, stripBy, List.getLast?_reverse] at last
  exact head?_dropWhile last

theorem mem_collapseWhitespace {c : Char} (member : c ∈ collapseWhitespace text) :
    c = ' ' ∨ c ∈ text ∧ isSpace c = false := by
  rw [collapseWhitespace_eq] at member
  obtain ⟨front, back, split⟩ := strip_split (collapseRuns false text)
  have inRuns : c ∈ collapseRuns false text := by
    rw [split]
    exact List.mem_append_right _ (List.mem_append_left _ member)
  exact mem_collapseRuns inRuns

theorem tidy_collapseWhitespace (text : List Char) : Tidy (collapseWhitespace text) := by
  have single := single_collapseRuns false text
  obtain ⟨front, back, split⟩ := strip_split (collapseRuns false text)
  rw [split] at single
  refine ⟨fun c member space => ?_, ?_, ?_, ?_⟩
  · rcases mem_collapseWhitespace member with same | ⟨-, solid⟩
    · exact same
    · exact absurd space (by simp [solid])
  · rw [collapseWhitespace_eq]
    exact single.right_of_append.left_of_append
  · rw [collapseWhitespace_eq]
    exact fun first => absurd isSpace_space (by simp [head?_strip first])
  · rw [collapseWhitespace_eq]
    exact fun last => absurd isSpace_space (by simp [getLast?_strip last])

end Tidy

end SqlMonitor.SqlTexts
