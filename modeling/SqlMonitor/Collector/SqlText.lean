import SqlMonitor.Collector.Snapshots
import SqlMonitor.Services.IndexCatalog
import SqlMonitor.Shared.Regex

set_option autoImplicit false

namespace SqlMonitor.SqlTexts

open Services Regex

-- The characters that the documents of the language settle without a table.
def isPlain (c : Char) : Bool := c.toNat < 128 || isSpace c

/-- The text functions of the language; on plain characters they are known. -/
structure PythonText where
  -- `str.lower`.
  lower : List Char → List Char
  -- `\w`.
  isWord : Char → Bool
  -- `\d`.
  isDigit : Char → Bool
  lower_plain : ∀ text, text.all isPlain = true → lower text = text.map Char.toLower
  isWord_plain : ∀ c, isPlain c = true → isWord c = (c.isAlphanum || c == '_')
  isDigit_plain : ∀ c, isPlain c = true → isDigit c = c.isDigit
  isWord_of_isDigit : ∀ c, isDigit c = true → isWord c = true

def char (c : Char) : Regex Char := .one (· == c)

-- `\s+`
def whitespaceRe : Regex Char := plus (.one isSpace)

-- `'(?:''|[^'])*'`
def singleQuotedStringRe : Regex Char :=
  .seq (char '\'') (.seq
    (.star (.alt (.seq (char '\'') (char '\'')) (.one (· != '\''))))
    (char '\''))

def collapseWhitespace (text : List Char) : List Char := strip (whitespaceRe.sub [' '] text)

section Python

variable (python : PythonText)

-- `[\w.]`
def isWordOrDot (c : Char) : Bool := python.isWord c || c == '.'

-- `\d+(?:\.\d*)?|\.\d+`
def mantissaRe : Regex Char :=
  .alt (.seq (plus (.one python.isDigit))
      (optional (.seq (char '.') (.star (.one python.isDigit)))))
    (.seq (char '.') (plus (.one python.isDigit)))

-- `e[+-]?\d+`
def exponentRe : Regex Char :=
  .seq (char 'e') (.seq (optional (.one fun c => c == '+' || c == '-'))
    (plus (.one python.isDigit)))

-- `(?<![\w.])-?(?:...)(?:e[+-]?\d+)?(?![\w.])`
def numericLiteralRe : Regex Char :=
  .seq (.notBehind (isWordOrDot python)) (.seq (optional (char '-')) (.seq (mantissaRe python)
    (.seq (optional (exponentRe python)) (.notAhead (isWordOrDot python)))))

def replaceLiterals (text : List Char) : List Char :=
  (numericLiteralRe python).sub ['?'] (singleQuotedStringRe.sub ['?'] text)

def normalizeSql (sqlText : Option String) : String :=
  match sqlText.filter (· ≠ "") with
  | none => ""
  | some text =>
    String.ofList (collapseWhitespace (replaceLiterals python
      (collapseWhitespace (python.lower text.toList))))

end Python

def previewSql (sqlText : Option String) (maxLength : Nat) : String :=
  match sqlText.filter (· ≠ "") with
  | none => ""
  | some text =>
    let preview := collapseWhitespace text.toList
    if preview.length ≤ maxLength then String.ofList preview
    else if maxLength ≤ 3 then String.ofList ("...".toList.take maxLength)
    else
      String.ofList (((preview.take (maxLength - 3)).reverse.dropWhile isSpace).reverse) ++ "..."

section Hashes

variable (python : PythonText) (sha256Hex : String → String)

def sqlHash (sqlText : Option String) : String := sha256Hex (sqlText.getD "")

def normalizedSqlHash (sqlText : Option String) : String :=
  sha256Hex (normalizeSql python sqlText)

def sqlTextFunctions : Collector.SqlTextFunctions where
  sqlHash := fun text => sqlHash sha256Hex (some text)
  normalizedSqlHash := fun text => normalizedSqlHash python sha256Hex (some text)
  previewSql := fun text maxLength => previewSql (some text) maxLength

end Hashes

-- The text functions where every character beyond the plain ones is neither letter nor digit.
def plainText : PythonText where
  lower := fun text => text.map Char.toLower
  isWord := fun c => c.isAlphanum || c == '_'
  isDigit := Char.isDigit
  lower_plain := fun _ _ => rfl
  isWord_plain := fun _ _ => rfl
  isDigit_plain := fun _ _ => rfl
  isWord_of_isDigit := fun c digit => by simp [Char.isAlphanum, digit]

example : normalizeSql plainText (some "SELECT  -1.2e-5,\n'Alice''s order' FROM T1") =
    "select ?, ? from t1" := by decide +kernel

end SqlMonitor.SqlTexts
