import SqlMonitor.Collector.NumericLiterals

set_option autoImplicit false

namespace SqlMonitor.SqlTexts

open Regex

inductive QuotedContent : List Char → Prop
  | done : QuotedContent []
  | char {c : Char} {rest : List Char} (other : c ≠ '\'') (content : QuotedContent rest) :
      QuotedContent (c :: rest)
  | doubled {rest : List Char} (content : QuotedContent rest) :
      QuotedContent ('\'' :: '\'' :: rest)

def quoted (content : List Char) : List Char := '\'' :: (content ++ ['\''])

section Pattern

variable {before after matched content : List Char}

def contentRe : Regex Char := .alt (.seq (char '\'') (char '\'')) (.one (· != '\''))

theorem ends_contentRe_char {c : Char} (other : c ≠ '\'') :
    contentRe.ends before (c :: after) = [([c], after)] := by
  simp [contentRe, ends, char, andThen, other]

theorem ends_contentRe_doubled : (contentRe.ends before ('\'' :: '\'' :: after)).head? =
    some (['\'', '\''], after) := by
  simp [contentRe, ends, char, andThen]

theorem ends_contentRe_quote (single : after.head? ≠ some '\'') :
    contentRe.ends before ('\'' :: after) = [] := by
  cases after with
  | nil => simp [contentRe, ends, char, andThen]
  | cons c after =>
      have other : c ≠ '\'' := fun same => single (by rw [same]; rfl)
      simp [contentRe, ends, char, andThen, other]

theorem head?_content (isContent : QuotedContent content) (single : after.head? ≠ some '\'') :
    ∀ (fuel : Nat) (before : List Char), content.length ≤ fuel →
      (starEnds contentRe.ends fuel before (content ++ '\'' :: after)).head? =
        some (content, '\'' :: after) := by
  induction isContent with
  | done => exact fun fuel before _ => head?_starEnds_of_stop (ends_contentRe_quote single) fuel
  | @char c rest other _ ih =>
      intro fuel before enough
      obtain ⟨fuel, rfl⟩ := Nat.exists_eq_add_of_lt (Nat.lt_of_lt_of_le (Nat.succ_pos _) enough)
      rw [Nat.zero_add] at enough ⊢
      have first : (contentRe.ends before (c :: (rest ++ '\'' :: after))).head? =
          some ([c], rest ++ '\'' :: after) := by rw [ends_contentRe_char other]; rfl
      exact head?_starEnds first (List.cons_ne_nil _ _)
        (ih fuel _ (Nat.le_of_succ_le_succ enough))
  | @doubled rest _ ih =>
      intro fuel before enough
      obtain ⟨fuel, rfl⟩ := Nat.exists_eq_add_of_lt (Nat.lt_of_lt_of_le (Nat.succ_pos _) enough)
      rw [Nat.zero_add] at enough ⊢
      exact head?_starEnds ends_contentRe_doubled (List.cons_ne_nil _ _)
        (ih fuel _ (by simp only [List.length_cons] at enough; omega))

theorem matchAt_quoted (isContent : QuotedContent content) (single : after.head? ≠ some '\'') :
    singleQuotedStringRe.matchAt before (quoted content ++ after) =
      some (quoted content, after) := by
  have opening : ((char '\'').ends before ('\'' :: (content ++ '\'' :: after))).head? =
      some (['\''], content ++ '\'' :: after) := by simp [char, ends]
  have middle : ((Regex.star contentRe).ends (['\''].reverse ++ before)
      (content ++ '\'' :: after)).head? = some (content, '\'' :: after) :=
    head?_content isContent single _ _ (by simp)
  have closing : ((char '\'').ends (content.reverse ++ (['\''].reverse ++ before))
      ('\'' :: after)).head? = some (['\''], after) := by simp [char, ends]
  have body : ((Regex.seq (.star contentRe) (char '\'')).ends (['\''].reverse ++ before)
      (content ++ '\'' :: after)).head? = some (content ++ ['\''], after) :=
    head?_andThen middle closing
  have found : (singleQuotedStringRe.ends before ('\'' :: (content ++ '\'' :: after))).head? =
      some (['\''] ++ (content ++ ['\'']), after) :=
    head?_andThen opening body
  simpa [matchAt, quoted] using found

theorem matches_quotedString
    (matches' : singleQuotedStringRe.Matches before matched after) :
    ∃ content, matched = quoted content := by
  obtain ⟨first, _, rfl, opening, content, last, rfl, -, closing⟩ := matches'
  obtain rfl := matches_char.mp opening
  obtain rfl := matches_char.mp closing
  exact ⟨content, rfl⟩

theorem matches_unquoted (free : '\'' ∉ content) :
    singleQuotedStringRe.Matches before (quoted content) after := by
  refine ⟨['\''], content ++ ['\''], rfl, matches_char.mpr rfl, content, ['\''], rfl, ?_,
    matches_char.mpr rfl⟩
  generalize (['\''].reverse ++ before) = start
  induction content generalizing start with
  | nil => exact .stop _ _
  | cons c rest ih =>
      simp only [List.mem_cons, not_or] at free
      show Repeats _ start ([c] ++ rest) _
      refine .again (Or.inr ⟨c, ?_, rfl⟩) (List.cons_ne_nil c []) (ih free.2 _)
      simpa using Ne.symm free.1

theorem count_quoted (content : List Char) : 2 ≤ (quoted content).count '\'' := by
  simp [quoted, List.count_append]

theorem solid_quotedString : singleQuotedStringRe.Solid := by
  intro before after matches'
  obtain ⟨content, same⟩ := matches_quotedString matches'
  simp [quoted] at same

theorem matchAt_quotedString_none (few : after.count '\'' ≤ 1) :
    singleQuotedStringRe.matchAt before after = none := by
  refine matchAt_eq_none.mpr fun matched rest same matches' => ?_
  obtain ⟨content, rfl⟩ := matches_quotedString matches'
  have two := count_quoted content
  rw [same, List.count_append] at few
  omega

theorem matchAt_quotedString_of_char {c : Char} (other : c ≠ '\'') :
    singleQuotedStringRe.matchAt before (c :: after) = none := by
  refine matchAt_eq_none.mpr fun matched rest same matches' => ?_
  obtain ⟨content, rfl⟩ := matches_quotedString matches'
  exact other (List.cons.inj same).1

theorem quote_not_mem_of_none
    (none : singleQuotedStringRe.matchAt before ('\'' :: after) = none) : '\'' ∉ after := by
  intro member
  obtain ⟨content, rest, rfl, free⟩ := List.eq_append_cons_of_mem member
  refine matchAt_eq_none.mp none (quoted content) rest ?_ (matches_unquoted free)
  simp [quoted]

theorem count_quote_substituted {out : List Char}
    (run : Substituted singleQuotedStringRe ['?'] before after out) : out.count '\'' ≤ 1 := by
  induction run with
  | done => simp
  | @keep _ after out c none later ih =>
      by_cases quote : c = '\''
      · subst quote
        have rest := later.count_le (c := '\'') (by decide)
        rw [List.count_eq_zero_of_not_mem (quote_not_mem_of_none none)] at rest
        rw [List.count_cons_self]
        omega
      · rw [List.count_cons_of_ne quote]
        exact ih
  | replace _ _ _ ih =>
      rw [List.singleton_append, List.count_cons_of_ne (by decide)]
      exact ih

theorem sub_quotedString_of_few {text : List Char} (few : text.count '\'' ≤ 1) :
    singleQuotedStringRe.subAfter ['?'] before text = text := by
  induction text generalizing before with
  | nil => rw [subAfter_nil]
  | cons c rest ih =>
      rw [subAfter_of_none (matchAt_quotedString_none few)]
      have fewer : rest.count '\'' ≤ 1 := List.count_le_count_cons.trans few
      rw [ih fewer]

end Pattern

end SqlMonitor.SqlTexts
