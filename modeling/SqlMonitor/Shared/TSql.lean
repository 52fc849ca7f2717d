import Mathlib.Data.List.Basic
import Mathlib.Data.Option.Basic

set_option autoImplicit false

namespace TSql

inductive Token where
  | name (text : String)
  | word (text : String)
  | sign (c : Char)
deriving DecidableEq

section Tokens

def isBlank (c : Char) : Bool := c = ' ' || c = '\t' || c = '\n' || c = '\r'

def isWordChar (c : Char) : Bool := c.isAlphanum || c = '_'

inductive Place where
  | between
  | word (read : List Char)
  | bracketed (read : List Char)
  -- After a closing bracket, which another one makes part of the name.
  | closing (read : List Char)

def openToken (c : Char) : List Token × Place :=
  if isBlank c then ([], .between)
  else if c = '[' then ([], .bracketed [])
  else if isWordChar c then ([], .word [c])
  else ([.sign c], .between)

def step : Place → Char → List Token × Place
  | .between, c => openToken c
  | .word read, c =>
    if isWordChar c then ([], .word (read ++ [c]))
    else (.word (String.ofList read) :: (openToken c).1, (openToken c).2)
  | .bracketed read, c =>
    if c = ']' then ([], .closing read) else ([], .bracketed (read ++ [c]))
  | .closing read, c =>
    if c = ']' then ([], .bracketed (read ++ [']']))
    else (.name (String.ofList read) :: (openToken c).1, (openToken c).2)

def readFrom : Place → List Char → List Token × Place
  | place, [] => ([], place)
  | place, c :: rest =>
    let after := readFrom (step place c).2 rest
    ((step place c).1 ++ after.1, after.2)

-- A name without its closing bracket is no token.
def lastToken : Place → Option (List Token)
  | .between => some []
  | .word read => some [.word (String.ofList read)]
  | .bracketed _ => none
  | .closing read => some [.name (String.ofList read)]

def tokensFrom (place : Place) (text : List Char) : Option (List Token) :=
  (lastToken (readFrom place text).2).map ((readFrom place text).1 ++ ·)

def tokensOf (text : String) : Option (List Token) := tokensFrom .between text.toList

end Tokens

section Names

def escapeChar (c : Char) : List Char := if c = ']' then [']', ']'] else [c]

def escape (name : List Char) : List Char := name.flatMap escapeChar

def quote (name : String) : String := "[" ++ String.ofList (escape name.toList) ++ "]"

theorem toList_quote (name : String) :
    (quote name).toList = '[' :: (escape name.toList ++ [']']) := by
  simp [quote]

theorem escape_cons (c : Char) (name : List Char) :
    escape (c :: name) = escapeChar c ++ escape name := List.flatMap_cons

theorem escape_of_not_mem {name : List Char} (absent : ']' ∉ name) : escape name = name := by
  induction name with
  | nil => rfl
  | cons c name ih =>
      obtain ⟨here, later⟩ := List.ne_and_not_mem_of_not_mem_cons absent
      rw [escape_cons, escapeChar, if_neg (Ne.symm here), ih later]
      rfl

theorem mem_of_mem_escape {name : List Char} {c : Char} (member : c ∈ escape name) : c ∈ name := by
  obtain ⟨d, inside, written⟩ := List.mem_flatMap.mp member
  by_cases closes : d = ']'
  · simp only [escapeChar, closes, if_true, List.mem_cons, List.not_mem_nil, or_false, or_self]
      at written
    exact written ▸ closes ▸ inside
  · rw [escapeChar, if_neg closes, List.mem_singleton] at written
    exact written ▸ inside

theorem count_escape (name : List Char) : (escape name).count ']' = 2 * name.count ']' := by
  induction name with
  | nil => rfl
  | cons c name ih =>
      rw [escape_cons, List.count_append, ih]
      by_cases closes : c = ']'
      · simp only [escapeChar, closes, if_true, List.count_cons_self, List.count_nil]
        omega
      · simp only [escapeChar, if_neg closes, List.count_cons_of_ne closes, List.count_nil]
        omega

theorem readFrom_then {place next last : Place} {front back : List Char}
    {first second : List Token} (before : readFrom place front = (first, next))
    (after : readFrom next back = (second, last)) :
    readFrom place (front ++ back) = (first ++ second, last) := by
  induction front generalizing place first with
  | nil => simp_all [readFrom]
  | cons c front ih =>
      obtain ⟨rfl, stopped⟩ := Prod.mk.inj before
      have rest := ih (Prod.ext rfl stopped)
      simp [readFrom, rest]

theorem tokensFrom_then {place next : Place} {front back : List Char} {first second : List Token}
    (before : readFrom place front = (first, next)) (after : tokensFrom next back = some second) :
    tokensFrom place (front ++ back) = some (first ++ second) := by
  obtain ⟨last, ended, rfl⟩ := Option.map_eq_some_iff.mp after
  simp [tokensFrom, readFrom_then before rfl, ended]

theorem readFrom_escape (name read : List Char) :
    readFrom (.bracketed read) (escape name ++ [']']) = ([], .closing (read ++ name)) := by
  induction name generalizing read with
  | nil => simp [escape, readFrom, step]
  | cons c name ih =>
      rw [escape_cons, List.append_assoc]
      by_cases closes : c = ']'
      · subst closes
        simp [escapeChar, readFrom, step, ih]
      · simp [escapeChar, closes, readFrom, step, ih]

theorem readFrom_quote (name : String) :
    readFrom .between (quote name).toList = ([], .closing name.toList) := by
  have bracket : step .between '[' = ([], .bracketed []) := rfl
  rw [toList_quote, readFrom, bracket, readFrom_escape]
  rfl

def nameTokens : List String → List Token
  | [] => []
  | [name] => [.name name]
  | name :: next :: names => .name name :: .sign ',' :: nameTokens (next :: names)

theorem readFrom_names {names : List String} (some : names ≠ []) :
    readFrom .between (", ".intercalate (names.map quote) ++ ")").toList =
      (nameTokens names ++ [.sign ')'], .between) := by
  induction names with
  | nil => exact absurd rfl some
  | cons name names ih =>
      cases names with
      | nil =>
          have text : (", ".intercalate ([name].map quote) ++ ")").toList =
              (quote name).toList ++ [')'] := by simp
          have closed : readFrom (.closing name.toList) [')'] =
              ([.name name, .sign ')'], .between) := by
            simp [readFrom, step, openToken, isBlank, isWordChar]
          rw [text, readFrom_then (readFrom_quote name) closed]
          rfl
      | cons next names =>
          have text : (", ".intercalate ((name :: next :: names).map quote) ++ ")").toList =
              (quote name).toList ++ (", ".toList ++
                (", ".intercalate ((next :: names).map quote) ++ ")").toList) := by simp
          have comma : readFrom (.closing name.toList) ", ".toList =
              ([.name name, .sign ','], .between) := by
            simp [readFrom, step, openToken, isBlank, isWordChar]
          rw [text, readFrom_then (readFrom_quote name) (readFrom_then comma (ih (by simp)))]
          rfl

end Names

section Grammar

def expect (token : Token) : List Token → Option (List Token)
  | [] => none
  | found :: rest => if found = token then some rest else none

@[simp] theorem expect_self (token : Token) (rest : List Token) :
    expect token (token :: rest) = some rest := if_pos rfl

def nameFirst : List Token → Option (String × List Token)
  | .name text :: rest => some (text, rest)
  | _ => none

def namesFirst : List Token → Option (List String × List Token)
  | .name text :: .sign ')' :: rest => some ([text], rest)
  | .name text :: .sign ',' :: rest =>
    (namesFirst rest).map fun found => (text :: found.1, found.2)
  | _ => none

structure ObjectName where
  databaseName : String
  schemaName : String
  tableName : String
deriving DecidableEq

-- `ON id.id.id`
def objectFirst (tokens : List Token) : Option (ObjectName × List Token) := do
  let rest ← expect (.word "ON") tokens
  let (databaseName, rest) ← nameFirst rest
  let rest ← expect (.sign '.') rest
  let (schemaName, rest) ← nameFirst rest
  let rest ← expect (.sign '.') rest
  let (tableName, rest) ← nameFirst rest
  return (⟨databaseName, schemaName, tableName⟩, rest)

structure CreateIndex where
  indexName : String
  object : ObjectName
  keyColumns : List String
  includeColumns : Option (List String)
deriving DecidableEq

/-- `CREATE INDEX id ON id.id.id (id, ...) [INCLUDE (id, ...)]` -/
def parseCreateIndex (text : String) : Option CreateIndex := do
  let rest ← tokensOf text
  let rest ← expect (.word "CREATE") rest
  let rest ← expect (.word "INDEX") rest
  let (indexName, rest) ← nameFirst rest
  let (object, rest) ← objectFirst rest
  let rest ← expect (.sign '(') rest
  let (keyColumns, rest) ← namesFirst rest
  if rest = [] then return ⟨indexName, object, keyColumns, none⟩
  let rest ← expect (.word "INCLUDE") rest
  let rest ← expect (.sign '(') rest
  let (includeColumns, rest) ← namesFirst rest
  guard (rest = [])
  return ⟨indexName, object, keyColumns, some includeColumns⟩

structure AlterIndex where
  indexName : String
  object : ObjectName
  action : String
  partition : Option Nat
  online : Bool
deriving DecidableEq

-- All partitions of the index, where the statement names none.
def AlterIndex.actsOn (statement : AlterIndex) (partitions : List Int) : List Int :=
  match statement.partition with
  | none => partitions
  | some number => [(number : Int)]

-- `[PARTITION = (number | ALL)]`
def partitionFirst : List Token → Option (Option Nat × List Token)
  | .word "PARTITION" :: .sign '=' :: .word value :: rest =>
    if value = "ALL" then some (none, rest) else value.toNat?.map fun number => (some number, rest)
  | rest => some (none, rest)

-- `[WITH (ONLINE = (ON | OFF))]`
def onlineLast : List Token → Option Bool
  | [] => some false
  | [.word "WITH", .sign '(', .word "ONLINE", .sign '=', .word value, .sign ')'] =>
    if value = "ON" then some true else if value = "OFF" then some false else none
  | _ => none

def indexActions : List String := ["REORGANIZE", "REBUILD"]

/-- `ALTER INDEX id ON id.id.id (REORGANIZE | REBUILD)` with the two options. -/
def parseAlterIndex (text : String) : Option AlterIndex := do
  let rest ← tokensOf text
  let rest ← expect (.word "ALTER") rest
  let rest ← expect (.word "INDEX") rest
  let (indexName, rest) ← nameFirst rest
  let (object, rest) ← objectFirst rest
  let (action, rest) ← indexActions.findSome? fun action =>
    (expect (.word action) rest).map fun rest => (action, rest)
  let (partition, rest) ← partitionFirst rest
  let online ← onlineLast rest
  return ⟨indexName, object, action, partition, online⟩

end Grammar

section RoundTrip

def ObjectName.text (object : ObjectName) : String :=
  quote object.databaseName ++ "." ++ quote object.schemaName ++ "." ++ quote object.tableName

def namesText (names : List String) : String := ", ".intercalate (names.map quote) ++ ")"

def includeText : Option (List String) → String
  | none => ""
  | some names => " INCLUDE (" ++ namesText names

def keysText (indexName : String) (object : ObjectName) (keyColumns : List String) : String :=
  "CREATE INDEX " ++ quote indexName ++ " ON " ++ object.text ++ " (" ++ namesText keyColumns

def CreateIndex.text (statement : CreateIndex) : String :=
  keysText statement.indexName statement.object statement.keyColumns ++
    includeText statement.includeColumns

theorem readFrom_object (indexName : String) (object : ObjectName) :
    readFrom (.closing indexName.toList) (" ON " ++ object.text).toList =
      ([.name indexName, .word "ON", .name object.databaseName, .sign '.',
        .name object.schemaName, .sign '.'], .closing object.tableName.toList) := by
  have dot (name : String) : readFrom (.closing name.toList) ".".toList =
      ([.name name, .sign '.'], .between) := by
    simp [readFrom, step, openToken, isBlank, isWordChar]
  have on : readFrom (.closing indexName.toList) " ON ".toList =
      ([.name indexName, .word "ON"], .between) := by
    simp [readFrom, step, openToken, isBlank, isWordChar]
  have table := readFrom_then (dot object.schemaName) (readFrom_quote object.tableName)
  have schema := readFrom_then (dot object.databaseName)
    (readFrom_then (readFrom_quote object.schemaName) table)
  have whole := readFrom_then on (readFrom_then (readFrom_quote object.databaseName) schema)
  simpa [ObjectName.text] using whole

theorem objectFirst_tokens (object : ObjectName) (rest : List Token) :
    objectFirst (.word "ON" :: .name object.databaseName :: .sign '.' ::
      .name object.schemaName :: .sign '.' :: .name object.tableName :: rest) =
      some (object, rest) := by
  simp [objectFirst, expect, nameFirst]

theorem namesFirst_nameTokens {names : List String} (some : names ≠ []) (rest : List Token) :
    namesFirst (nameTokens names ++ .sign ')' :: rest) = .some (names, rest) := by
  induction names with
  | nil => exact absurd rfl some
  | cons name names ih =>
      cases names with
      | nil => rfl
      | cons next names =>
          have later := ih (by simp)
          simp [nameTokens, namesFirst, later]

def CreateIndex.keyTokens (statement : CreateIndex) : List Token :=
  [.word "CREATE", .word "INDEX", .name statement.indexName, .word "ON",
    .name statement.object.databaseName, .sign '.', .name statement.object.schemaName, .sign '.',
    .name statement.object.tableName, .sign '('] ++ nameTokens statement.keyColumns ++ [.sign ')']

def includeTokens : Option (List String) → List Token
  | none => []
  | some names => .word "INCLUDE" :: .sign '(' :: nameTokens names ++ [.sign ')']

/-- A statement with key columns, and with an `INCLUDE` only where it has columns to include. -/
structure CreateIndex.WellFormed (statement : CreateIndex) : Prop where
  keyed : statement.keyColumns ≠ []
  included : statement.includeColumns ≠ some []

theorem readFrom_includeText {includeColumns : Option (List String)}
    (included : includeColumns ≠ some []) :
    readFrom .between (includeText includeColumns).toList =
      (includeTokens includeColumns, .between) := by
  cases includeColumns with
  | none => rfl
  | some names =>
      have keyword : readFrom .between " INCLUDE (".toList =
          ([.word "INCLUDE", .sign '('], .between) := by
        simp [readFrom, step, openToken, isBlank, isWordChar]
      have columns := @readFrom_names names (by simpa using included)
      rw [includeText, String.toList_append, namesText, readFrom_then keyword columns]
      rfl

theorem tokensOf_text {statement : CreateIndex} (wellFormed : statement.WellFormed) :
    tokensOf statement.text =
      some (statement.keyTokens ++ includeTokens statement.includeColumns) := by
  have create : readFrom .between "CREATE INDEX ".toList =
      ([.word "CREATE", .word "INDEX"], .between) := by
    simp [readFrom, step, openToken, isBlank, isWordChar]
  have parenthesis : readFrom (.closing statement.object.tableName.toList) " (".toList =
      ([.name statement.object.tableName, .sign '('], .between) := by
    simp [readFrom, step, openToken, isBlank, isWordChar]
  have text : statement.text.toList =
      "CREATE INDEX ".toList ++ ((quote statement.indexName).toList ++
        ((" ON " ++ statement.object.text).toList ++ (" (".toList ++
          ((namesText statement.keyColumns).toList ++
            (includeText statement.includeColumns).toList)))) := by
    unfold CreateIndex.text keysText
    simp only [String.toList_append, List.append_assoc]
  have included : tokensFrom .between (includeText statement.includeColumns).toList =
      some (includeTokens statement.includeColumns) := by
    simp [tokensFrom, readFrom_includeText wellFormed.included, lastToken]
  have keys := tokensFrom_then (readFrom_names wellFormed.keyed) included
  have object := tokensFrom_then (readFrom_object statement.indexName statement.object)
    (tokensFrom_then parenthesis keys)
  have whole := tokensFrom_then create (tokensFrom_then (readFrom_quote statement.indexName) object)
  rw [← namesText, ← text] at whole
  simp [tokensOf, whole, CreateIndex.keyTokens]

theorem parseCreateIndex_text {statement : CreateIndex} (wellFormed : statement.WellFormed) :
    parseCreateIndex statement.text = some statement := by
  have columns := namesFirst_nameTokens wellFormed.keyed
  obtain ⟨indexName, object, keyColumns, includeColumns⟩ := statement
  rw [parseCreateIndex, tokensOf_text wellFormed]
  simp only [CreateIndex.keyTokens, List.cons_append, List.nil_append, List.append_assoc,
    Option.bind_eq_bind, Option.bind_some, expect_self, nameFirst, objectFirst_tokens, columns]
  cases includeColumns with
  | none => rfl
  | some names =>
      have included := @namesFirst_nameTokens names (by simpa using wellFormed.included) []
      simp only [includeTokens, List.cons_append, expect_self, Option.bind_some, included]
      rfl

def onlineText (online : Bool) : String := if online then " WITH (ONLINE = ON)" else ""

def alterIndexText (indexName : String) (object : ObjectName) (action : String) (online : Bool) :
    String :=
  "ALTER INDEX " ++ quote indexName ++ " ON " ++ object.text ++ " " ++ action ++ onlineText online

def onlineTokens (online : Bool) : List Token :=
  if online then [.word "WITH", .sign '(', .word "ONLINE", .sign '=', .word "ON", .sign ')'] else []

theorem tokensFrom_action {action : String} (known : action ∈ indexActions) (table : String)
    (online : Bool) :
    tokensFrom (.closing table.toList) (" " ++ action ++ onlineText online).toList =
      some (.name table :: .word action :: onlineTokens online) := by
  simp only [indexActions, List.mem_cons, List.not_mem_nil, or_false] at known
  rcases known with rfl | rfl <;> cases online <;>
    simp [tokensFrom, readFrom, step, openToken, isBlank, isWordChar, lastToken, onlineText,
      onlineTokens]

theorem parseAlterIndex_text {action : String} (known : action ∈ indexActions) (indexName : String)
    (object : ObjectName) (online : Bool) :
    parseAlterIndex (alterIndexText indexName object action online) =
      some ⟨indexName, object, action, none, online⟩ := by
  have alter : readFrom .between "ALTER INDEX ".toList =
      ([.word "ALTER", .word "INDEX"], .between) := by
    simp [readFrom, step, openToken, isBlank, isWordChar]
  have text : (alterIndexText indexName object action online).toList =
      "ALTER INDEX ".toList ++ ((quote indexName).toList ++ ((" ON " ++ object.text).toList ++
        (" " ++ action ++ onlineText online).toList)) := by
    unfold alterIndexText
    simp only [String.toList_append, List.append_assoc]
  have tail := tokensFrom_then (readFrom_object indexName object)
    (tokensFrom_action known object.tableName online)
  have whole := tokensFrom_then alter (tokensFrom_then (readFrom_quote indexName) tail)
  rw [← text] at whole
  rw [parseAlterIndex, tokensOf, whole]
  simp only [List.cons_append, List.nil_append, Option.bind_eq_bind, Option.bind_some, expect_self,
    nameFirst, objectFirst_tokens]
  simp only [indexActions, List.mem_cons, List.not_mem_nil, or_false] at known
  rcases known with rfl | rfl <;> cases online <;> rfl

end RoundTrip

end TSql
