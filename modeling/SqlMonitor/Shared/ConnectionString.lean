import Mathlib.Data.List.Basic

set_option autoImplicit false

namespace ConnectionString

structure Attribute where
  keyword : List Char
  value : List Char
deriving DecidableEq

def escapeChar (c : Char) : List Char := if c = '}' then ['}', '}'] else [c]

def escape (value : List Char) : List Char := value.flatMap escapeChar

def brace (value : List Char) : List Char := '{' :: (escape value ++ ['}'])

def isKeyword (text : List Char) : Bool := text.all fun c => c ≠ ';' && c ≠ '='

-- Where a reader is within an attribute, with what it has read of it.
inductive Place where
  | keyword (read : List Char)
  | start (keyword : List Char)
  | plain (keyword read : List Char)
  | braced (keyword read : List Char)
  -- After a closing brace, which another one makes part of the value.
  | closing (keyword read : List Char)

/-- An attribute ends at a semicolon outside of braces; one without a value is left out. -/
def parseFrom : Place → List Char → List Attribute
  | .keyword _, [] => []
  | .keyword read, c :: rest =>
    if c = ';' then parseFrom (.keyword []) rest
    else if c = '=' then parseFrom (.start read) rest
    else parseFrom (.keyword (read ++ [c])) rest
  | .start keyword, [] => [⟨keyword, []⟩]
  | .start keyword, c :: rest =>
    if c = ';' then ⟨keyword, []⟩ :: parseFrom (.keyword []) rest
    else if c = '{' then parseFrom (.braced keyword []) rest
    else parseFrom (.plain keyword [c]) rest
  | .plain keyword read, [] => [⟨keyword, read⟩]
  | .plain keyword read, c :: rest =>
    if c = ';' then ⟨keyword, read⟩ :: parseFrom (.keyword []) rest
    else parseFrom (.plain keyword (read ++ [c])) rest
  | .braced keyword read, [] => [⟨keyword, read⟩]
  | .braced keyword read, c :: rest =>
    if c = '}' then parseFrom (.closing keyword read) rest
    else parseFrom (.braced keyword (read ++ [c])) rest
  | .closing keyword read, [] => [⟨keyword, read⟩]
  | .closing keyword read, c :: rest =>
    if c = ';' then ⟨keyword, read⟩ :: parseFrom (.keyword []) rest
    else if c = '}' then parseFrom (.braced keyword (read ++ ['}'])) rest
    else parseFrom (.closing keyword read) rest

def parse (text : List Char) : List Attribute := parseFrom (.keyword []) text

-- The first attribute with the keyword counts.
def value? (names : List Char → Bool) (text : List Char) : Option (List Char) :=
  ((parse text).find? fun entry => names entry.keyword).map Attribute.value

section RoundTrip

variable {keyword : List Char}

theorem parseFrom_keyword (named : isKeyword keyword = true) (read rest : List Char) :
    parseFrom (.keyword read) (keyword ++ '=' :: rest) =
      parseFrom (.start (read ++ keyword)) rest := by
  induction keyword generalizing read with
  | nil => simp [parseFrom]
  | cons c keyword ih =>
      simp only [isKeyword, List.all_cons, Bool.and_eq_true, decide_eq_true_eq] at named
      obtain ⟨⟨inside, apart⟩, later⟩ := named
      rw [List.cons_append, parseFrom, if_neg inside, if_neg apart, ih later]
      simp

theorem parseFrom_escape (value read rest : List Char) :
    parseFrom (.braced keyword read) (escape value ++ '}' :: ';' :: rest) =
      ⟨keyword, read ++ value⟩ :: parseFrom (.keyword []) rest := by
  induction value generalizing read with
  | nil => simp [escape, parseFrom]
  | cons c value ih =>
      have split : escape (c :: value) = escapeChar c ++ escape value := by simp [escape]
      rw [split, List.append_assoc]
      by_cases closes : c = '}'
      · subst closes
        have next := ih (read ++ ['}'])
        simp only [escapeChar, if_true, List.cons_append, List.nil_append, parseFrom]
        rw [if_neg (by decide), next]
        simp
      · simp only [escapeChar, if_neg closes, List.cons_append, List.nil_append, parseFrom]
        rw [ih]
        simp

theorem parse_braced (named : isKeyword keyword = true) (value rest : List Char) :
    parse (keyword ++ '=' :: (brace value ++ ';' :: rest)) = ⟨keyword, value⟩ :: parse rest := by
  rw [parse, parseFrom_keyword named, brace]
  simp only [List.nil_append, List.cons_append, List.append_assoc, parseFrom, if_true]
  rw [if_neg (by decide)]
  exact parseFrom_escape value [] rest

end RoundTrip

end ConnectionString
