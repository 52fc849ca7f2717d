import SqlMonitor.Collector.NormalizeTwice

set_option autoImplicit false

namespace SqlMonitor.SqlTexts

open Services Regex

section Relation

variable (python : PythonText) (quotes : Bool)

/-- Literals of one kind at the same places; a number may begin where the flag is set. -/
inductive Alike : Bool → List Char → List Char → Prop
  | done (free : Bool) : Alike free [] []
  | char {free : Bool} {c : Char} {text other : List Char} (unquoted : c ≠ '\'')
      (later : Alike (separates python c) text other) : Alike free (c :: text) (c :: other)
  | number {number otherNumber text other : List Char} (isNumber : Number python number)
      (isOther : Number python otherNumber) (ahead : startsWithWord python text = false)
      (otherAhead : startsWithWord python other = false) (later : Alike false text other) :
      Alike true (number ++ text) (otherNumber ++ other)
  | string {free : Bool} {content otherContent text other : List Char} (allowed : quotes = true)
      (isContent : QuotedContent content) (isOther : QuotedContent otherContent)
      (single : text.head? ≠ some '\'') (otherSingle : other.head? ≠ some '\'')
      (later : Alike true text other) :
      Alike free (quoted content ++ text) (quoted otherContent ++ other)

variable {python quotes} {free : Bool} {text other : List Char}

theorem Alike.symm (alike : Alike python quotes free text other) :
    Alike python quotes free other text := by
  induction alike with
  | done free => exact .done free
  | char unquoted _ ih => exact .char unquoted ih
  | number isNumber isOther ahead otherAhead _ ih =>
      exact .number isOther isNumber otherAhead ahead ih
  | string allowed isContent isOther single otherSingle _ ih =>
      exact .string allowed isOther isContent otherSingle single ih

theorem Alike.eq_nil_iff (alike : Alike python quotes free text other) :
    text = [] ↔ other = [] := by
  cases alike with
  | done => simp
  | char => simp
  | number isNumber isOther => simp [isNumber.nonempty, isOther.nonempty]
  | string => simp [quoted]

theorem Alike.prepend {shared : List Char} (unquoted : '\'' ∉ shared)
    (later : Alike python quotes (shared.foldl (fun _ c => separates python c) free) text other) :
    Alike python quotes free (shared ++ text) (shared ++ other) := by
  induction shared generalizing free with
  | nil => exact later
  | cons c shared ih =>
      simp only [List.mem_cons, not_or] at unquoted
      exact .char (Ne.symm unquoted.1) (ih unquoted.2 later)

end Relation

section Strip

variable {python : PythonText} {quotes free : Bool} {text other : List Char}

theorem Number.solid (number : Number python text) : ∀ c ∈ text, isSpace c = false :=
  fun c member =>
  Bool.eq_false_iff.mpr fun space =>
    Bool.false_ne_true ((number.joined c member).symm.trans (separates_of_isSpace space))

theorem dropWhile_append_of_head {front : List Char} (nonempty : front ≠ [])
    (solid : ∀ c, front.head? = some c → isSpace c = false) :
    (front ++ text).dropWhile isSpace = front ++ text := by
  obtain ⟨c, rest, rfl⟩ := List.exists_cons_of_ne_nil nonempty
  exact dropWhile_of_head fun d first => solid d first

theorem rdropWhile_append_of_getLast {front : List Char}
    (solid : ∀ c, front.getLast? = some c → isSpace c = false) :
    (front ++ text).rdropWhile isSpace = front ++ text.rdropWhile isSpace := by
  have kept : front.reverse.dropWhile isSpace = front.reverse := dropWhile_of_head fun c first =>
    solid c (by rwa [List.head?_reverse] at first)
  rw [List.rdropWhile, List.reverse_append, List.dropWhile_append, kept]
  cases spaces : (text.reverse.dropWhile isSpace).isEmpty with
  | true => simp [List.rdropWhile, List.isEmpty_iff.mp spaces]
  | false => simp [List.rdropWhile]

theorem rdropWhile_cons_space {c : Char} (space : isSpace c = true) :
    (c :: text).rdropWhile isSpace =
      if text.rdropWhile isSpace = [] then [] else c :: text.rdropWhile isSpace := by
  cases spaces : text.reverse.dropWhile isSpace with
  | nil => simp [List.rdropWhile, List.dropWhile_append, spaces, space]
  | cons d rest => simp [List.rdropWhile, List.dropWhile_append, spaces]

theorem Alike.dropWhile (alike : Alike python quotes free text other) (start : free = true) :
    Alike python quotes true (text.dropWhile isSpace) (other.dropWhile isSpace) := by
  induction alike with
  | done => exact .done true
  | @char free c text other unquoted later ih =>
      cases space : isSpace c with
      | true => simpa [space] using ih (separates_of_isSpace space)
      | false =>
          rw [List.dropWhile_cons_of_neg (by simp [space]),
            List.dropWhile_cons_of_neg (by simp [space])]
          exact .char unquoted later
  | number isNumber isOther ahead otherAhead later =>
      rw [dropWhile_append_of_head isNumber.nonempty fun c first =>
          isNumber.solid c (List.mem_of_head? first),
        dropWhile_append_of_head isOther.nonempty fun c first =>
          isOther.solid c (List.mem_of_head? first)]
      exact .number isNumber isOther ahead otherAhead later
  | string allowed isContent isOther single otherSingle later =>
      rw [dropWhile_append_of_head, dropWhile_append_of_head]
      exact .string allowed isContent isOther single otherSingle later
      all_goals simp [quoted]
      all_goals decide

theorem head?_rdropWhile (text : List Char) :
    (text.rdropWhile isSpace).head? = none ∨
      (text.rdropWhile isSpace).head? = text.head? := by
  obtain ⟨spaces, split⟩ := List.rdropWhile_prefix isSpace text
  cases kept : text.rdropWhile isSpace with
  | nil => exact Or.inl rfl
  | cons c rest =>
      rw [kept] at split
      exact Or.inr (by rw [← split]; rfl)

theorem startsWithWord_rdropWhile (ahead : startsWithWord python text = false) :
    startsWithWord python (text.rdropWhile isSpace) = false := by
  rcases head?_rdropWhile text with nothing | same
  · simp [startsWithWord, nothing]
  · rwa [startsWithWord, same]

theorem head?_rdropWhile_ne (single : text.head? ≠ some '\'') :
    (text.rdropWhile isSpace).head? ≠ some '\'' := by
  rcases head?_rdropWhile text with nothing | same
  · simp [nothing]
  · rwa [same]

theorem Alike.rdropWhile (alike : Alike python quotes free text other) :
    Alike python quotes free (text.rdropWhile isSpace) (other.rdropWhile isSpace) := by
  induction alike with
  | done free => exact .done free
  | @char free c text other unquoted _ ih =>
      cases space : isSpace c with
      | true =>
          rw [rdropWhile_cons_space space, rdropWhile_cons_space space]
          by_cases nothing : text.rdropWhile isSpace = []
          · rw [if_pos nothing, if_pos (ih.eq_nil_iff.mp nothing)]
            exact .done free
          · rw [if_neg nothing, if_neg (mt ih.eq_nil_iff.mpr nothing)]
            exact .char unquoted ih
      | false =>
          have solid : ∀ d, [c].getLast? = some d → isSpace d = false := by simp [space]
          rw [← List.singleton_append, ← List.singleton_append (l := other),
            rdropWhile_append_of_getLast solid, rdropWhile_append_of_getLast solid]
          exact .char unquoted ih
  | number isNumber isOther ahead otherAhead _ ih =>
      rw [rdropWhile_append_of_getLast fun c last => isNumber.solid c (List.mem_of_getLast? last),
        rdropWhile_append_of_getLast fun c last => isOther.solid c (List.mem_of_getLast? last)]
      exact .number isNumber isOther (startsWithWord_rdropWhile ahead)
        (startsWithWord_rdropWhile otherAhead) ih
  | @string free content otherContent text other allowed isContent isOther single otherSingle _ ih =>
      have solid : ∀ content c, (quoted content).getLast? = some c → isSpace c = false := by
        intro content c last
        obtain rfl : '\'' = c := by simpa [quoted, List.getLast?_cons] using last
        decide
      rw [rdropWhile_append_of_getLast (solid content),
        rdropWhile_append_of_getLast (solid otherContent)]
      exact .string allowed isContent isOther (head?_rdropWhile_ne single)
        (head?_rdropWhile_ne otherSingle) ih

theorem Alike.strip (alike : Alike python quotes true text other) :
    Alike python quotes true (strip text) (strip other) :=
  (alike.dropWhile rfl).rdropWhile

end Strip

section Passes

variable {python : PythonText} {quotes free : Bool} {text other before otherBefore : List Char}

theorem subAfter_of_unquoted {front : List Char} (unquoted : '\'' ∉ front) :
    singleQuotedStringRe.subAfter ['?'] before (front ++ text) =
      front ++ singleQuotedStringRe.subAfter ['?'] (front.reverse ++ before) text := by
  induction front generalizing before with
  | nil => rfl
  | cons c front ih =>
      simp only [List.mem_cons, not_or] at unquoted
      rw [List.cons_append, subAfter_of_none (matchAt_quotedString_of_char (Ne.symm unquoted.1)),
        ih unquoted.2]
      simp

theorem Number.unquoted (number : Number python text) : '\'' ∉ text := fun member => by
  have joined := number.joined '\'' member
  rw [separates_plain (by decide)] at joined
  exact absurd joined (by decide)

theorem startsWithWord_unquote (ahead : startsWithWord python text = false) :
    startsWithWord python (singleQuotedStringRe.subAfter ['?'] before text) = false := by
  have run : Substituted singleQuotedStringRe ['?'] before text _ :=
    substituted_subAfter solid_quotedString before text
  rcases run.head? with marked | same
  · rw [startsWithWord, marked]
    exact isWordOrDot_of_separates separates_mark
  · rwa [startsWithWord, same]

theorem Alike.unquote (alike : Alike python quotes free text other)
    (before otherBefore : List Char) :
    Alike python false free (singleQuotedStringRe.subAfter ['?'] before text)
      (singleQuotedStringRe.subAfter ['?'] otherBefore other) := by
  induction alike generalizing before otherBefore with
  | done free =>
      rw [subAfter_nil, subAfter_nil]
      exact .done free
  | char unquoted _ ih =>
      rw [subAfter_of_none (matchAt_quotedString_of_char unquoted),
        subAfter_of_none (matchAt_quotedString_of_char unquoted)]
      exact .char unquoted (ih _ _)
  | number isNumber isOther ahead otherAhead _ ih =>
      rw [subAfter_of_unquoted isNumber.unquoted, subAfter_of_unquoted isOther.unquoted]
      exact .number isNumber isOther (startsWithWord_unquote ahead)
        (startsWithWord_unquote otherAhead) (ih _ _)
  | string _ isContent isOther single otherSingle _ ih =>
      rw [subAfter_of_some (by simp [quoted]) (matchAt_quoted isContent single),
        subAfter_of_some (by simp [quoted]) (matchAt_quoted isOther otherSingle)]
      have free : separates python '?' = true := separates_mark
      exact .char (by decide) (free.symm ▸ ih _ _)

theorem Alike.head? (alike : Alike python false free text other) (inside : free = false) :
    text.head? = other.head? := by
  cases alike with
  | done => rfl
  | char => rfl
  | number => simp at inside
  | string allowed => simp at allowed

theorem Alike.uncons {c : Char} (alike : Alike python false free (c :: text) other)
    (inside : free = false) :
    ∃ rest, other = c :: rest ∧ Alike python false (separates python c) text rest := by
  generalize whole : c :: text = start at alike
  cases alike with
  | done => simp at whole
  | char _ later =>
      obtain ⟨rfl, rfl⟩ := List.cons.inj whole
      exact ⟨_, rfl, later⟩
  | number => simp at inside
  | string allowed => simp at allowed

theorem Alike.joined {word : List Char} (alike : Alike python false false (word ++ text) other)
    (joined : ∀ c ∈ word, separates python c = false) :
    ∃ rest, other = word ++ rest ∧ Alike python false false text rest := by
  induction word generalizing other with
  | nil => exact ⟨other, rfl, alike⟩
  | cons c word ih =>
      obtain ⟨rest, rfl, later⟩ := alike.uncons rfl
      rw [joined c List.mem_cons_self] at later
      obtain ⟨last, rfl, further⟩ :=
        ih later fun d member => joined d (List.mem_cons_of_mem c member)
      exact ⟨last, rfl, further⟩

theorem Alike.shared {c : Char} {number rest : List Char}
    (later : Alike python false (separates python c) text other) (isNumber : Number python number)
    (split : c :: text = number ++ rest) :
    ∃ last, c :: other = number ++ last ∧ Alike python false false rest last := by
  obtain ⟨first, word, rfl, -⟩ := isNumber.starts
  obtain ⟨rfl, rfl⟩ := List.cons.inj split
  rw [isNumber.joined c List.mem_cons_self] at later
  obtain ⟨last, rfl, further⟩ :=
    later.joined fun d member => isNumber.joined d (List.mem_cons_of_mem c member)
  exact ⟨last, rfl, further⟩

theorem Alike.matchAt_none {c : Char}
    (later : Alike python false (separates python c) text other)
    (context : endsInWord python before = endsInWord python otherBefore)
    (none : (numericLiteralRe python).matchAt before (c :: text) = none) :
    (numericLiteralRe python).matchAt otherBefore (c :: other) = Option.none := by
  refine matchAt_number_none.mpr fun number rest split free isNumber => ?_
  obtain ⟨last, same, further⟩ := later.symm.shared isNumber split
  have word := matchAt_number_none.mp none number last same (context.trans free) isNumber
  rw [startsWithWord] at word ⊢
  rw [further.head? rfl, word]

theorem Alike.subAfter_eq (alike : Alike python false free text other)
    (context : endsInWord python before = endsInWord python otherBefore)
    (start : free = true → endsInWord python before = false) :
    (numericLiteralRe python).subAfter ['?'] before text =
      (numericLiteralRe python).subAfter ['?'] otherBefore other := by
  induction counted : text.length using Nat.strong_induction_on
    generalizing free text other before otherBefore with
  | _ length ih =>
      cases alike with
      | done => rw [subAfter_nil, subAfter_nil]
      | @char _ c text other unquoted later =>
          cases found : (numericLiteralRe python).matchAt before (c :: text) with
          | none =>
              have next : endsInWord python (c :: before) = endsInWord python (c :: otherBefore) :=
                rfl
              rw [subAfter_of_none found, subAfter_of_none (later.matchAt_none context found),
                ih text.length (by simp [← counted]) later next isWordOrDot_of_separates rfl]
          | some last =>
              obtain ⟨number, rest⟩ := last
              obtain ⟨split, isMatch⟩ := matchAt_eq_some found
              obtain ⟨behind, isNumber, ahead⟩ := matches_number.mp isMatch
              obtain ⟨otherRest, otherSplit, further⟩ := later.shared isNumber split
              have otherAhead : startsWithWord python otherRest = false := by
                rwa [startsWithWord, ← further.head? rfl]
              have shorter : rest.length < length := by
                have := List.length_pos_iff.mpr isNumber.nonempty
                rw [← counted, split, List.length_append]
                omega
              rw [split, otherSplit,
                subAfter_of_some isNumber.nonempty (matchAt_number.mpr ⟨behind, isNumber, ahead⟩),
                subAfter_of_some isNumber.nonempty
                  (matchAt_number.mpr ⟨context ▸ behind, isNumber, otherAhead⟩),
                ih rest.length shorter further
                  ((isNumber.endsInWord before).trans (isNumber.endsInWord otherBefore).symm)
                  (by simp) rfl]
      | @number number otherNumber text other isNumber isOther ahead otherAhead later =>
          have behind := start rfl
          have shorter : text.length < length := by
            have := List.length_pos_iff.mpr isNumber.nonempty
            rw [← counted, List.length_append]
            omega
          rw [subAfter_of_some isNumber.nonempty (matchAt_number.mpr ⟨behind, isNumber, ahead⟩),
            subAfter_of_some isOther.nonempty
              (matchAt_number.mpr ⟨context ▸ behind, isOther, otherAhead⟩),
            ih text.length shorter later
              ((isNumber.endsInWord before).trans (isOther.endsInWord otherBefore).symm)
              (by simp) rfl]
      | string allowed => simp at allowed

theorem Alike.replaceLiterals_eq (alike : Alike python true true text other) :
    replaceLiterals python text = replaceLiterals python other :=
  (alike.unquote [] []).subAfter_eq rfl fun _ => rfl

end Passes

end SqlMonitor.SqlTexts
