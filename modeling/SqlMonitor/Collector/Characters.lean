import Mathlib
import SqlMonitor.Collector.NumericLiterals

set_option autoImplicit false

namespace SqlMonitor.SqlTexts

open Services

section Kinds

variable {python : PythonText} {c : Char}

theorem toNat_of_isAlpha (letter : c.isAlpha = true) :
    (65 ≤ c.toNat ∧ c.toNat ≤ 90) ∨ (97 ≤ c.toNat ∧ c.toNat ≤ 122) := by
  simpa [Char.isAlpha, Char.isUpper, Char.isLower, UInt32.le_iff_toNat_le] using letter

theorem toNat_of_isDigit (digit : c.isDigit = true) : 48 ≤ c.toNat ∧ c.toNat ≤ 57 := by
  simpa [Char.isDigit, UInt32.le_iff_toNat_le] using digit

theorem isPlain_of_lt (ascii : c.toNat < 128) : isPlain c = true := by simp [isPlain, ascii]

theorem isPlain_of_isSpace (space : isSpace c = true) : isPlain c = true := by
  simp [isPlain, space]

theorem isPlain_of_isAlpha (letter : c.isAlpha = true) : isPlain c = true := by
  have number := toNat_of_isAlpha letter
  exact isPlain_of_lt (by omega)

theorem isPlain_of_isDigit (digit : c.isDigit = true) : isPlain c = true := by
  have number := toNat_of_isDigit digit
  exact isPlain_of_lt (by omega)

theorem isSpace_of_isAlphanum (alphanum : c.isAlphanum = true) : isSpace c = false := by
  have number : (65 ≤ c.toNat ∧ c.toNat ≤ 90) ∨ (97 ≤ c.toNat ∧ c.toNat ≤ 122) ∨
      48 ≤ c.toNat ∧ c.toNat ≤ 57 := by
    rcases Bool.or_eq_true_iff.mp alphanum with letter | digit
    · exact (toNat_of_isAlpha letter).imp_right Or.inl
    · exact Or.inr (Or.inr (toNat_of_isDigit digit))
  simp only [isSpace, Bool.or_eq_false_iff, Bool.and_eq_false_iff, decide_eq_false_iff_not,
    beq_eq_false_iff_ne]
  omega

theorem isWordOrDot_of_isAlpha (letter : c.isAlpha = true) : isWordOrDot python c = true := by
  rw [isWordOrDot_plain (isPlain_of_isAlpha letter), Char.isAlphanum, letter]
  rfl

theorem separates_of_isSpace (space : isSpace c = true) : separates python c = true := by
  have alphanum : c.isAlphanum = false := Bool.eq_false_iff.mpr fun alphanum =>
    Bool.false_ne_true ((isSpace_of_isAlphanum alphanum).symm.trans space)
  have others : ∀ d, isSpace d = false → (c == d) = false := fun d solid =>
    beq_eq_false_iff_ne.mpr fun same => Bool.false_ne_true (solid.symm.trans (same ▸ space))
  rw [separates_plain (isPlain_of_isSpace space), alphanum, others '_' rfl, others '.' rfl,
    others '+' rfl, others '-' rfl]
  rfl

end Kinds

section LowerCase

variable {python : PythonText} {c : Char}

theorem toLower_cases (c : Char) : c.toLower = c ∨ c.isAlpha = true ∧ c.toLower.isAlpha = true := by
  by_cases upper : c.isUpper = true
  · have letter : c.isAlpha = true := by simp [Char.isAlpha, upper]
    exact Or.inr ⟨letter, by rw [Char.isAlpha_toLower_eq_isAlpha, letter]⟩
  · exact Or.inl (Char.toLower_eq_of_not_isUpper upper)

theorem toLower_of_isDigit (digit : c.isDigit = true) : c.toLower = c := by
  rcases toLower_cases c with same | ⟨letter, -⟩
  · exact same
  · have letterNumber := toNat_of_isAlpha letter
    have digitNumber := toNat_of_isDigit digit
    omega

theorem toLower_ne_quote (other : c ≠ '\'') : c.toLower ≠ '\'' := by
  rcases toLower_cases c with same | ⟨-, lowered⟩
  · rwa [same]
  · intro quote
    rw [quote] at lowered
    exact absurd lowered (by decide)

theorem isPlain_toLower (plain : isPlain c = true) : isPlain c.toLower = true := by
  rcases toLower_cases c with same | ⟨-, letter⟩
  · rw [same, plain]
  · exact isPlain_of_isAlpha letter

theorem isSpace_toLower (c : Char) : isSpace c.toLower = isSpace c := by
  rcases toLower_cases c with same | ⟨letter, lowered⟩
  · rw [same]
  · have solid : ∀ {d : Char}, d.isAlpha = true → isSpace d = false := fun letter =>
      isSpace_of_isAlphanum (by simp [Char.isAlphanum, letter])
    rw [solid letter, solid lowered]

theorem isWordOrDot_toLower (c : Char) : isWordOrDot python c.toLower = isWordOrDot python c := by
  rcases toLower_cases c with same | ⟨letter, lowered⟩
  · rw [same]
  · rw [isWordOrDot_of_isAlpha letter, isWordOrDot_of_isAlpha lowered]

theorem separates_toLower (c : Char) : separates python c.toLower = separates python c := by
  rcases toLower_cases c with same | ⟨letter, lowered⟩
  · rw [same]
  · rw [not_separates_of_isWordOrDot (isWordOrDot_of_isAlpha letter),
      not_separates_of_isWordOrDot (isWordOrDot_of_isAlpha lowered)]

end LowerCase

end SqlMonitor.SqlTexts
