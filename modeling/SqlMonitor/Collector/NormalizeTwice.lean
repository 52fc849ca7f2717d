import SqlMonitor.Collector.Characters
import SqlMonitor.Collector.WhitespaceRuns
import SqlMonitor.Collector.QuotedLiterals

set_option autoImplicit false

namespace SqlMonitor.SqlTexts

open Services Regex

section Numbers

variable {python : PythonText} {before after out outBefore : List Char}

theorem separates_mark : separates python '?' = true := by
  rw [separates_plain (by decide)]
  decide

theorem endsInWord_mark : endsInWord python ('?' :: before) = false :=
  isWordOrDot_of_separates separates_mark

theorem Number.unmarked {text : List Char} (number : Number python text) : '?' ∉ text :=
  fun member =>
  absurd (number.joined '?' member) (by simp [separates_mark])

theorem startsWithWord_substituted
    (run : Substituted (numericLiteralRe python) ['?'] before after out)
    (behind : endsInWord python before = true) :
    startsWithWord python after = startsWithWord python out := by
  cases run with
  | done => rfl
  | keep => rfl
  | replace _ found _ => exact absurd behind (by simp [(matchAt_number.mp found).1])

theorem Number.kept {text rest : List Char} (number : Number python text)
    (run : Substituted (numericLiteralRe python) ['?'] before after (text ++ rest))
    (ahead : startsWithWord python rest = false) :
    ∃ later, after = text ++ later ∧ startsWithWord python later = false := by
  obtain ⟨later, rfl, further⟩ := run.kept_prefix number.unmarked
  exact ⟨later, rfl, (startsWithWord_substituted further (number.endsInWord before)).trans ahead⟩

theorem endsInWord_of_none {text later : List Char}
    (none : (numericLiteralRe python).matchAt before after = none) (same : after = text ++ later)
    (number : Number python text) (ahead : startsWithWord python later = false) :
    endsInWord python before = true := by
  by_contra free
  have word := matchAt_number_none.mp none text later same (Bool.eq_false_iff.mpr free) number
  exact Bool.false_ne_true (ahead.symm.trans word)

theorem not_negative_kept {text rest later : List Char}
    (run : Substituted (numericLiteralRe python) ['?'] ('-' :: before) after out)
    (isUnsigned : Unsigned python text) (outSplit : out = text ++ rest)
    (split : after = text ++ later) (ahead : startsWithWord python later = false) : False := by
  have number := Number.plain isUnsigned
  obtain ⟨d, others, rfl⟩ := List.exists_cons_of_ne_nil number.nonempty
  cases run with
  | done => simp at split
  | keep none _ =>
      have word := endsInWord_of_none none split number ahead
      exact Bool.false_ne_true (isWordOrDot_minus.symm.trans word)
  | replace =>
      obtain ⟨rfl, -⟩ := List.cons.inj outSplit
      exact number.unmarked List.mem_cons_self

theorem matchAt_kept {c : Char}
    (none : (numericLiteralRe python).matchAt before (c :: after) = none)
    (run : Substituted (numericLiteralRe python) ['?'] (c :: before) after out)
    (context : endsInWord python outBefore = endsInWord python before ∨
      endsInWord python outBefore = false ∧ startsWithWord python (c :: after) = false) :
    (numericLiteralRe python).matchAt outBefore (c :: out) = Option.none := by
  refine matchAt_number_none.mpr fun text rest split outFree number => ?_
  by_contra aheadWord
  have ahead := Bool.eq_false_iff.mpr aheadWord
  have whole := Substituted.keep none run
  rw [split] at whole
  obtain ⟨later, same, free⟩ := number.kept whole ahead
  have blocked := endsInWord_of_none none same number free
  rcases context with agree | ⟨-, noWord⟩
  · exact Bool.false_ne_true (outFree.symm.trans (agree.trans blocked))
  · obtain ⟨first, digits, rfl, starts⟩ := number.starts
    obtain ⟨rfl, outRest⟩ := List.cons.inj split
    obtain ⟨-, afterRest⟩ := List.cons.inj same
    rcases starts with ⟨rfl, isUnsigned⟩ | ⟨word, -⟩
    · exact not_negative_kept run isUnsigned outRest afterRest free
    · exact Bool.false_ne_true (noWord.symm.trans word)

theorem subAfter_substituted (run : Substituted (numericLiteralRe python) ['?'] before after out)
    (context : endsInWord python outBefore = endsInWord python before ∨
      endsInWord python outBefore = false ∧ startsWithWord python after = false) :
    (numericLiteralRe python).subAfter ['?'] outBefore out = out := by
  induction run generalizing outBefore with
  | done => rw [subAfter_nil]
  | @keep before after out c none run ih =>
      have later : (numericLiteralRe python).subAfter ['?'] (c :: outBefore) out = out :=
        ih (Or.inl rfl)
      rw [subAfter_of_none (matchAt_kept none run context), later]
  | @replace before matched after out nonempty found run ih =>
      have nothing : (numericLiteralRe python).matchAt outBefore ('?' :: out) = Option.none := by
        refine matchAt_number_none.mpr fun text rest split _ number => ?_
        obtain ⟨first, digits, rfl, -⟩ := number.starts
        obtain ⟨rfl, -⟩ := List.cons.inj split
        exact absurd List.mem_cons_self number.unmarked
      rw [List.singleton_append, subAfter_of_none nothing,
        ih (Or.inr ⟨endsInWord_mark, (matchAt_number.mp found).2.2⟩)]

end Numbers

section NormalForms

variable {python : PythonText} {text : List Char}

variable (python) in
def normalChars (text : List Char) : List Char :=
  collapseWhitespace (replaceLiterals python (collapseWhitespace (python.lower text)))

theorem normalizeSql_eq (text : String) :
    normalizeSql python (some text) = String.ofList (normalChars python text.toList) := by
  by_cases empty : text = ""
  · subst empty
    have nothing : normalChars python [] = [] := by
      rw [normalChars, python.lower_plain [] rfl]
      rfl
    simp [normalizeSql, Option.filter, nothing]
  · simp [normalizeSql, Option.filter, empty, normalChars]

variable (python) in
structure NormalForm (text : List Char) : Prop where
  lower : ∀ c ∈ text, isPlain c = true ∧ c.toLower = c
  tidy : Tidy text
  quotes : text.count '\'' ≤ 1
  numbers : (numericLiteralRe python).sub ['?'] text = text

theorem NormalForm.normalChars (normal : NormalForm python text) :
    SqlTexts.normalChars python text = text := by
  have lower : python.lower text = text := by
    rw [python.lower_plain text (List.all_eq_true.mpr fun c member => (normal.lower c member).1)]
    exact (List.map_congr_left fun c member => (normal.lower c member).2).trans (List.map_id text)
  have strings : singleQuotedStringRe.sub ['?'] text = text := sub_quotedString_of_few normal.quotes
  rw [SqlTexts.normalChars, lower, collapseWhitespace_of_tidy normal.tidy, replaceLiterals, strings,
    normal.numbers, collapseWhitespace_of_tidy normal.tidy]

theorem Tidy.substituted {pattern : Regex Char} {before out : List Char} (tidy : Tidy text)
    (run : Substituted pattern ['?'] before text out) : Tidy out := by
  refine ⟨fun c member space => ?_, ?_, ?_, ?_⟩
  · rcases run.mem c member with rfl | kept
    · exact absurd space (by decide)
    · exact tidy.spaces c kept space
  · exact run.isChain tidy.single (by simp) (by simp)
  · rcases run.head? with marked | same
    · simp [marked]
    · rw [same]
      exact tidy.starts
  · rcases run.getLast? with marked | same
    · simp [marked]
    · rw [same]
      exact tidy.ends

theorem normalForm_normalChars (plain : ∀ c ∈ text, isPlain c = true) :
    NormalForm python (SqlTexts.normalChars python text) := by
  have lower : ∀ c ∈ python.lower text, isPlain c = true ∧ c.toLower = c := by
    rw [python.lower_plain text (List.all_eq_true.mpr plain)]
    intro c member
    obtain ⟨d, inText, rfl⟩ := List.mem_map.mp member
    exact ⟨isPlain_toLower (plain d inText), Char.toLower_toLower_eq_toLower d⟩
  have strings : Substituted singleQuotedStringRe ['?'] []
      (collapseWhitespace (python.lower text))
      (singleQuotedStringRe.sub ['?'] (collapseWhitespace (python.lower text))) :=
    substituted_subAfter solid_quotedString _ _
  have numbers : Substituted (numericLiteralRe python) ['?'] []
      (singleQuotedStringRe.sub ['?'] (collapseWhitespace (python.lower text)))
      (replaceLiterals python (collapseWhitespace (python.lower text))) :=
    substituted_subAfter solid_number _ _
  have tidy :=
    ((tidy_collapseWhitespace (python.lower text)).substituted strings).substituted numbers
  have same : SqlTexts.normalChars python text = replaceLiterals python
      (collapseWhitespace (python.lower text)) := collapseWhitespace_of_tidy tidy
  rw [same]
  refine ⟨fun c member => ?_, tidy, ?_, subAfter_substituted numbers (Or.inl rfl)⟩
  · rcases numbers.mem c member with rfl | kept
    · decide
    rcases strings.mem c kept with rfl | kept
    · decide
    rcases mem_collapseWhitespace kept with rfl | ⟨inLower, -⟩
    · decide
    exact lower c inLower
  · exact (numbers.count_le (by decide)).trans (count_quote_substituted strings)

theorem normalizeSql_idempotent (python : PythonText) (text : String)
    (ascii : ∀ c ∈ text.toList, c.toNat < 128) :
    normalizeSql python (some (normalizeSql python (some text))) =
      normalizeSql python (some text) := by
  have plain : ∀ c ∈ text.toList, isPlain c = true := fun c member => isPlain_of_lt (ascii c member)
  rw [normalizeSql_eq, normalizeSql_eq, String.toList_ofList,
    (normalForm_normalChars plain).normalChars]

theorem normalizeSql_idempotent_unbalanced :
    normalizeSql plainText (some (normalizeSql plainText (some "SELECT 'a''b, -1.5e3+2e 'X"))) =
      normalizeSql plainText (some "SELECT 'a''b, -1.5e3+2e 'X") :=
  normalizeSql_idempotent plainText _ (by simp)

end NormalForms

end SqlMonitor.SqlTexts
