import SqlMonitor.Collector.SqlText

set_option autoImplicit false

namespace SqlMonitor.SqlTexts

open Regex

section Grammar

variable (python : PythonText)

def Digits (text : List Char) : Prop := text ≠ [] ∧ ∀ c ∈ text, python.isDigit c = true

inductive Mantissa : List Char → Prop
  | whole {digits : List Char} (isDigits : Digits python digits) : Mantissa digits
  | point {digits fraction : List Char} (isDigits : Digits python digits)
      (all : ∀ c ∈ fraction, python.isDigit c = true) : Mantissa (digits ++ '.' :: fraction)
  | fraction {digits : List Char} (isDigits : Digits python digits) : Mantissa ('.' :: digits)

inductive Exponent : List Char → Prop
  | plain {digits : List Char} (isDigits : Digits python digits) : Exponent ('e' :: digits)
  | signed {sign : Char} {digits : List Char} (signs : sign = '+' ∨ sign = '-')
      (isDigits : Digits python digits) : Exponent ('e' :: sign :: digits)

inductive Unsigned : List Char → Prop
  | plain {mantissa : List Char} (isMantissa : Mantissa python mantissa) : Unsigned mantissa
  | scaled {mantissa exponent : List Char} (isMantissa : Mantissa python mantissa)
      (isExponent : Exponent python exponent) : Unsigned (mantissa ++ exponent)

inductive Number : List Char → Prop
  | plain {text : List Char} (isUnsigned : Unsigned python text) : Number text
  | negative {text : List Char} (isUnsigned : Unsigned python text) : Number ('-' :: text)

def endsInWord (before : List Char) : Bool := before.head?.any (isWordOrDot python)

def startsWithWord (after : List Char) : Bool := after.head?.any (isWordOrDot python)

variable {python} {before matched after : List Char}

theorem matches_char {c : Char} : (char c).Matches before matched after ↔ matched = [c] := by
  simp [char, Matches]

theorem matches_digits :
    (plus (.one python.isDigit)).Matches before matched after ↔ Digits python matched :=
  matches_plus_one

theorem matches_mantissa :
    (mantissaRe python).Matches before matched after ↔ Mantissa python matched := by
  constructor
  · rintro (⟨digits, right, rfl, first, point | rfl⟩ | ⟨left, digits, rfl, dot, isDigits⟩)
    · obtain ⟨left, fraction, rfl, dot, all⟩ := point
      obtain rfl := matches_char.mp dot
      exact .point (matches_digits.mp first) (matches_star_one.mp all)
    · rw [List.append_nil]
      exact .whole (matches_digits.mp first)
    · obtain rfl := matches_char.mp dot
      exact .fraction (matches_digits.mp isDigits)
  · rintro (isDigits | ⟨isDigits, all⟩ | isDigits)
    · exact Or.inl ⟨matched, [], (List.append_nil _).symm, matches_digits.mpr isDigits, Or.inr rfl⟩
    · exact Or.inl ⟨_, _, rfl, matches_digits.mpr isDigits,
        Or.inl ⟨['.'], _, rfl, matches_char.mpr rfl, matches_star_one.mpr all⟩⟩
    · exact Or.inr ⟨['.'], _, rfl, matches_char.mpr rfl, matches_digits.mpr isDigits⟩

theorem matches_exponent :
    (exponentRe python).Matches before matched after ↔ Exponent python matched := by
  constructor
  · rintro ⟨left, right, rfl, letter, sign, digits, rfl, signed | rfl, isDigits⟩
    · obtain rfl := matches_char.mp letter
      obtain ⟨c, either, rfl⟩ := signed
      exact .signed (by simpa using either) (matches_digits.mp isDigits)
    · obtain rfl := matches_char.mp letter
      exact .plain (matches_digits.mp isDigits)
  · rintro (isDigits | ⟨signs, isDigits⟩)
    · exact ⟨['e'], _, rfl, matches_char.mpr rfl, [], _, rfl, Or.inr rfl,
        matches_digits.mpr isDigits⟩
    · refine ⟨['e'], _, rfl, matches_char.mpr rfl, [_], _, rfl, Or.inl ⟨_, ?_, rfl⟩,
        matches_digits.mpr isDigits⟩
      simpa using signs

theorem matches_number : (numericLiteralRe python).Matches before matched after ↔
    endsInWord python before = false ∧ Number python matched ∧
      startsWithWord python after = false := by
  constructor
  · rintro ⟨_, _, rfl, ⟨rfl, behind⟩, minus, _, rfl, signed, mantissa, _, rfl, isMantissa, exponent,
      _, rfl, scaled, rfl, ahead⟩
    refine ⟨behind, ?_, ahead⟩
    have isUnsigned : Unsigned python (mantissa ++ (exponent ++ [])) := by
      rw [List.append_nil]
      rcases scaled with isExponent | rfl
      · exact .scaled (matches_mantissa.mp isMantissa) (matches_exponent.mp isExponent)
      · rw [List.append_nil]
        exact .plain (matches_mantissa.mp isMantissa)
    rcases signed with isMinus | rfl
    · obtain rfl := matches_char.mp isMinus
      exact .negative isUnsigned
    · exact .plain isUnsigned
  · rintro ⟨behind, number, ahead⟩
    have parts : ∀ before text, Unsigned python text →
        (Regex.seq (mantissaRe python) (.seq (optional (exponentRe python))
          (.notAhead (isWordOrDot python)))).Matches before text after := by
      rintro before _ (isMantissa | ⟨isMantissa, isExponent⟩)
      · exact ⟨_, [], (List.append_nil _).symm, matches_mantissa.mpr isMantissa, [], [], rfl,
          Or.inr rfl, rfl, ahead⟩
      · exact ⟨_, _, rfl, matches_mantissa.mpr isMantissa, _, [], (List.append_nil _).symm,
          Or.inl (matches_exponent.mpr isExponent), rfl, ahead⟩
    refine ⟨[], matched, rfl, ⟨rfl, behind⟩, ?_⟩
    rcases number with isUnsigned | isUnsigned
    · exact ⟨[], matched, rfl, Or.inr rfl, parts _ _ isUnsigned⟩
    · exact ⟨['-'], _, rfl, Or.inl (matches_char.mpr rfl), parts _ _ isUnsigned⟩

end Grammar

section Characters

variable {python : PythonText}

theorem isWordOrDot_plain {c : Char} (plain : isPlain c = true) :
    isWordOrDot python c = (c.isAlphanum || c == '_' || c == '.') := by
  rw [isWordOrDot, python.isWord_plain c plain]

theorem isWordOrDot_of_isDigit {c : Char} (digit : python.isDigit c = true) :
    isWordOrDot python c = true := by
  simp [isWordOrDot, python.isWord_of_isDigit c digit]

variable (python) in
def separates (c : Char) : Bool := !(isWordOrDot python c || c == '+' || c == '-')

theorem separates_plain {c : Char} (plain : isPlain c = true) : separates python c =
    !(c.isAlphanum || c == '_' || c == '.' || c == '+' || c == '-') := by
  rw [separates, isWordOrDot_plain plain]

theorem isWordOrDot_of_separates {c : Char} (apart : separates python c = true) :
    isWordOrDot python c = false := by
  simp only [separates, Bool.not_eq_true', Bool.or_eq_false_iff] at apart
  exact apart.1.1

theorem not_separates_of_isWordOrDot {c : Char} (word : isWordOrDot python c = true) :
    separates python c = false := by
  simp [separates, word]

theorem isWordOrDot_minus : isWordOrDot python '-' = false := by
  rw [isWordOrDot_plain (by decide)]
  decide

theorem isWordOrDot_sign {sign : Char} (signs : sign = '+' ∨ sign = '-') :
    isWordOrDot python sign = false := by
  rcases signs with rfl | rfl
  · rw [isWordOrDot_plain (by decide)]
    decide
  · exact isWordOrDot_minus

theorem separates_sign {sign : Char} (signs : sign = '+' ∨ sign = '-') :
    separates python sign = false := by
  rcases signs with rfl | rfl <;> simp [separates]

theorem isWordOrDot_e : isWordOrDot python 'e' = true := by
  rw [isWordOrDot_plain (by decide)]
  decide

theorem isDigit_ne_e {c : Char} (digit : python.isDigit c = true) : c ≠ 'e' := by
  rintro rfl
  rw [python.isDigit_plain 'e' (by decide)] at digit
  exact absurd digit (by decide)

end Characters

section Shape

variable {python : PythonText} {text digits : List Char}

theorem Digits.words (isDigits : Digits python digits) :
    ∀ c ∈ digits, isWordOrDot python c = true :=
  fun c member => isWordOrDot_of_isDigit (isDigits.2 c member)

theorem Digits.getLast? (isDigits : Digits python digits) :
    ∃ last, digits.getLast? = some last ∧ python.isDigit last = true := by
  obtain ⟨last, found⟩ := List.getLast?_isSome.mpr isDigits.1 |> Option.isSome_iff_exists.mp
  exact ⟨last, found, isDigits.2 last (List.mem_of_getLast? found)⟩

structure Words (python : PythonText) (text : List Char) : Prop where
  words : ∀ c ∈ text, isWordOrDot python c = true
  last : ∃ last, text.getLast? = some last ∧ last ≠ 'e'

theorem Digits.isWords (isDigits : Digits python digits) : Words python digits := by
  obtain ⟨last, found, digit⟩ := isDigits.getLast?
  exact ⟨isDigits.words, last, found, isDigit_ne_e digit⟩

theorem Words.append {front : List Char} (isWords : Words python text)
    (words : ∀ c ∈ front, isWordOrDot python c = true) : Words python (front ++ text) := by
  obtain ⟨last, found, other⟩ := isWords.last
  refine ⟨?_, last, by simp [found], other⟩
  intro c member
  rcases List.mem_append.mp member with inFront | inText
  · exact words c inFront
  · exact isWords.words c inText

theorem isWordOrDot_dot : isWordOrDot python '.' = true := by simp [isWordOrDot]

theorem words_point {fraction : List Char} (all : ∀ c ∈ fraction, python.isDigit c = true) :
    Words python ('.' :: fraction) := by
  cases fraction with
  | nil => exact ⟨by simp [isWordOrDot_dot], '.', rfl, by decide⟩
  | cons first rest =>
      have digits : Digits python (first :: rest) := ⟨List.cons_ne_nil _ _, all⟩
      show Words python (['.'] ++ first :: rest)
      exact digits.isWords.append (by simp [isWordOrDot_dot])

theorem Mantissa.isWords (isMantissa : Mantissa python text) : Words python text := by
  cases isMantissa with
  | whole isDigits => exact isDigits.isWords
  | point isDigits all => exact (words_point all).append isDigits.words
  | fraction isDigits => exact words_point isDigits.2

theorem Unsigned.shape (isUnsigned : Unsigned python text) : ∃ word tail, text = word ++ tail ∧
    (∀ c ∈ word, isWordOrDot python c = true) ∧
      ((tail = [] ∧ ∃ last, word.getLast? = some last ∧ last ≠ 'e') ∨
        (word.getLast? = some 'e' ∧ ∃ sign digits, tail = sign :: digits ∧
          (sign = '+' ∨ sign = '-') ∧ Digits python digits)) := by
  cases isUnsigned with
  | plain isMantissa =>
      exact ⟨text, [], (List.append_nil _).symm, isMantissa.isWords.words,
        Or.inl ⟨rfl, isMantissa.isWords.last⟩⟩
  | @scaled mantissa exponent isMantissa isExponent =>
      have words := isMantissa.isWords.words
      cases isExponent with
      | @plain digits isDigits =>
          have whole : Words python (mantissa ++ ('e' :: digits)) := by
            rw [List.append_cons]
            exact isDigits.isWords.append (by simpa [or_imp, forall_and, isWordOrDot_e] using words)
          exact ⟨_, [], (List.append_nil _).symm, whole.words, Or.inl ⟨rfl, whole.last⟩⟩
      | @signed sign digits signs isDigits =>
          refine ⟨mantissa ++ ['e'], sign :: digits, by simp, ?_,
            Or.inr ⟨by simp, sign, digits, rfl, signs, isDigits⟩⟩
          simpa [or_imp, forall_and, isWordOrDot_e] using words

theorem takeWhile_word {word rest : List Char} (words : ∀ c ∈ word, isWordOrDot python c = true)
    (stops : startsWithWord python rest = false) :
    (word ++ rest).takeWhile (isWordOrDot python) = word := by
  rw [List.takeWhile_append_of_pos words]
  cases rest with
  | nil => simp
  | cons c rest =>
      have stop : isWordOrDot python c = false := stops
      simp [stop]

theorem unsigned_unique {other after later : List Char} (isUnsigned : Unsigned python text)
    (otherUnsigned : Unsigned python other) (same : text ++ after = other ++ later)
    (ahead : startsWithWord python after = false)
    (otherAhead : startsWithWord python later = false) : text = other := by
  obtain ⟨word, tail, rfl, words, ending⟩ := isUnsigned.shape
  obtain ⟨otherWord, otherTail, rfl, otherWords, otherEnding⟩ := otherUnsigned.shape
  have stops : ∀ tail after : List Char, startsWithWord python after = false →
      (tail = [] ∨ ∃ sign digits, tail = sign :: digits ∧ (sign = '+' ∨ sign = '-') ∧
        Digits python digits) → startsWithWord python (tail ++ after) = false := by
    rintro tail after ahead (rfl | ⟨sign, digits, rfl, signs, -⟩)
    · exact ahead
    · exact isWordOrDot_sign signs
  -- Both words are the longest one at the start of the text.
  have sameWord : word = otherWord := by
    rw [← takeWhile_word words (stops tail after ahead (ending.imp And.left And.right)),
      ← takeWhile_word otherWords
        (stops otherTail later otherAhead (otherEnding.imp And.left And.right)),
      ← List.append_assoc, ← List.append_assoc, same]
  subst sameWord
  rw [List.append_assoc, List.append_assoc, List.append_cancel_left_eq] at same
  rcases ending with ⟨rfl, last, found, plain⟩ | ⟨found, sign, digits, rfl, -, isDigits⟩
  · rcases otherEnding with ⟨rfl, -⟩ | ⟨letter, -⟩
    · rfl
    · exact absurd (Option.some.inj (found.symm.trans letter)) plain
  · rcases otherEnding with ⟨rfl, last, otherFound, plain⟩ | ⟨-, otherSign, others, rfl, -, otherDigits⟩
    · exact absurd (Option.some.inj (otherFound.symm.trans found)) plain
    · obtain ⟨rfl, rest⟩ := List.cons.inj same
      have left : digits ++ after = others ++ later := rest
      have sameDigits : digits = others := by
        rw [← takeWhile_word isDigits.words ahead, ← takeWhile_word otherDigits.words otherAhead, left]
      rw [sameDigits]

end Shape

section Numbers

variable {python : PythonText} {text other before after later : List Char}

theorem Unsigned.starts (isUnsigned : Unsigned python text) :
    ∃ c rest, text = c :: rest ∧ isWordOrDot python c = true := by
  obtain ⟨word, tail, rfl, words, ending⟩ := isUnsigned.shape
  have nonempty : word ≠ [] := by
    rintro rfl
    rcases ending with ⟨-, last, found, -⟩ | ⟨found, -⟩ <;> simp at found
  obtain ⟨c, rest, rfl⟩ := List.exists_cons_of_ne_nil nonempty
  exact ⟨c, rest ++ tail, rfl, words c List.mem_cons_self⟩

theorem Unsigned.ends (isUnsigned : Unsigned python text) :
    ∃ last, text.getLast? = some last ∧ isWordOrDot python last = true := by
  obtain ⟨word, tail, rfl, words, ⟨rfl, last, found, -⟩ | ⟨-, sign, digits, rfl, -, isDigits⟩⟩ :=
    isUnsigned.shape
  · exact ⟨last, by rw [List.append_nil, found], words last (List.mem_of_getLast? found)⟩
  · obtain ⟨last, found, digit⟩ := isDigits.getLast?
    exact ⟨last, by simp [List.getLast?_cons, found], isWordOrDot_of_isDigit digit⟩

theorem Unsigned.joined (isUnsigned : Unsigned python text) :
    ∀ c ∈ text, separates python c = false := by
  obtain ⟨word, tail, rfl, words, ending⟩ := isUnsigned.shape
  intro c member
  rcases List.mem_append.mp member with inWord | inTail
  · exact not_separates_of_isWordOrDot (words c inWord)
  · rcases ending with ⟨rfl, -⟩ | ⟨-, sign, digits, rfl, signs, isDigits⟩
    · simp at inTail
    · rcases List.mem_cons.mp inTail with rfl | inDigits
      · exact separates_sign signs
      · exact not_separates_of_isWordOrDot (isDigits.words c inDigits)

theorem Number.starts (number : Number python text) : ∃ c rest, text = c :: rest ∧
    ((c = '-' ∧ Unsigned python rest) ∨ (isWordOrDot python c = true ∧ Unsigned python text)) := by
  cases number with
  | plain isUnsigned =>
      obtain ⟨c, rest, rfl, word⟩ := isUnsigned.starts
      exact ⟨c, rest, rfl, Or.inr ⟨word, isUnsigned⟩⟩
  | negative isUnsigned => exact ⟨'-', _, rfl, Or.inl ⟨rfl, isUnsigned⟩⟩

theorem Number.nonempty (number : Number python text) : text ≠ [] := by
  obtain ⟨c, rest, rfl, -⟩ := number.starts
  exact List.cons_ne_nil c rest

theorem Number.joined (number : Number python text) : ∀ c ∈ text, separates python c = false := by
  cases number with
  | plain isUnsigned => exact isUnsigned.joined
  | negative isUnsigned =>
      exact List.forall_mem_cons.mpr ⟨separates_sign (Or.inr rfl), isUnsigned.joined⟩

theorem Number.endsInWord (number : Number python text) (before : List Char) :
    endsInWord python (text.reverse ++ before) = true := by
  have last : ∃ last, text.getLast? = some last ∧ isWordOrDot python last = true := by
    cases number with
    | plain isUnsigned => exact isUnsigned.ends
    | negative isUnsigned =>
        obtain ⟨last, found, word⟩ := isUnsigned.ends
        exact ⟨last, by simp [List.getLast?_cons, found], word⟩
  obtain ⟨last, found, word⟩ := last
  simp [SqlTexts.endsInWord, List.head?_append, found, word]

theorem number_unique (number : Number python text) (otherNumber : Number python other)
    (same : text ++ after = other ++ later) (ahead : startsWithWord python after = false)
    (otherAhead : startsWithWord python later = false) : text = other := by
  obtain ⟨c, rest, rfl, starts⟩ := number.starts
  obtain ⟨d, otherRest, rfl, otherStarts⟩ := otherNumber.starts
  obtain ⟨rfl, sameRest⟩ := List.cons.inj same
  rcases starts with ⟨rfl, isUnsigned⟩ | ⟨word, isUnsigned⟩
  · rcases otherStarts with ⟨-, otherUnsigned⟩ | ⟨word, -⟩
    · rw [unsigned_unique isUnsigned otherUnsigned sameRest ahead otherAhead]
    · simp [isWordOrDot_minus] at word
  · rcases otherStarts with ⟨rfl, -⟩ | ⟨-, otherUnsigned⟩
    · simp [isWordOrDot_minus] at word
    · exact unsigned_unique isUnsigned otherUnsigned same ahead otherAhead

theorem matchAt_number : (numericLiteralRe python).matchAt before (text ++ after) =
      some (text, after) ↔
    endsInWord python before = false ∧ Number python text ∧
      startsWithWord python after = false := by
  constructor
  · intro found
    exact matches_number.mp (matchAt_eq_some found).2
  · rintro ⟨behind, number, ahead⟩
    refine matchAt_of_unique (matches_number.mpr ⟨behind, number, ahead⟩) ?_
    intro other later same matches'
    obtain ⟨-, otherNumber, otherAhead⟩ := matches_number.mp matches'
    exact (number_unique number otherNumber same ahead otherAhead).symm

theorem matchAt_number_none : (numericLiteralRe python).matchAt before text = none ↔
    ∀ matched rest, text = matched ++ rest → endsInWord python before = false →
      Number python matched → startsWithWord python rest = true := by
  rw [matchAt_eq_none]
  simp only [matches_number, not_and, Bool.not_eq_false]

theorem solid_number : (numericLiteralRe python).Solid := fun _ _ matches' =>
  (matches_number.mp matches').2.1.nonempty rfl

end Numbers

end SqlMonitor.SqlTexts
