import SqlMonitor.Collector.AlikeTexts

set_option autoImplicit false

namespace SqlMonitor.SqlTexts

open Services Regex

section Literals

def AsciiDigits (text : List Char) : Prop := text ≠ [] ∧ ∀ c ∈ text, c.isDigit = true

inductive Unscaled : List Char → Prop
  | whole {digits : List Char} (isDigits : AsciiDigits digits) : Unscaled digits
  | point {digits fraction : List Char} (isDigits : AsciiDigits digits)
      (all : ∀ c ∈ fraction, c.isDigit = true) : Unscaled (digits ++ '.' :: fraction)
  | fraction {digits : List Char} (isDigits : AsciiDigits digits) : Unscaled ('.' :: digits)

inductive Scale : List Char → Prop
  | none : Scale []
  | some {letter : Char} {sign digits : List Char} (letters : letter = 'e' ∨ letter = 'E')
      (signs : sign = [] ∨ sign = ['+'] ∨ sign = ['-']) (isDigits : AsciiDigits digits) :
      Scale (letter :: (sign ++ digits))

inductive Hole where
  | numeric
  | string
deriving DecidableEq

inductive Literal : Hole → List Char → Prop
  | numeric {minus mantissa scale : List Char} (minuses : minus = [] ∨ minus = ['-'])
      (isMantissa : Unscaled mantissa) (isScale : Scale scale) :
      Literal .numeric (minus ++ (mantissa ++ scale))
  | string {content : List Char} (ascii : ∀ c ∈ content, c.toNat < 128)
      (isContent : QuotedContent content) : Literal .string (quoted content)

end Literals

section Templates

/-- Another case of the letters and other runs of whitespace. -/
inductive Varied : List Char → List Char → Prop
  | done : Varied [] []
  | char {c d : Char} {piece text : List Char} (solid : isSpace c = false)
      (same : d.toLower = c.toLower) (later : Varied piece text) :
      Varied (c :: piece) (d :: text)
  | spaces {run other piece text : List Char} (nonempty : run ≠ []) (otherNonempty : other ≠ [])
      (all : ∀ c ∈ run, isSpace c = true) (otherAll : ∀ c ∈ other, isSpace c = true)
      (later : Varied piece text) : Varied (run ++ piece) (other ++ text)

def Spaced (python : PythonText) : List Char → List (Hole × List Char) → Prop
  | _, [] => True
  | before, (hole, after) :: holes =>
    (hole = .numeric → (∀ c, before.getLast? = some c → separates python c = true) ∧
      startsWithWord python after = false) ∧
    (holes ≠ [] → after ≠ []) ∧ Spaced python after holes

structure Template (python : PythonText) where
  first : List Char
  holes : List (Hole × List Char)
  ascii : ∀ piece ∈ first :: holes.map Prod.snd, ∀ c ∈ piece, c.toNat < 128
  unquoted : ∀ piece ∈ first :: holes.map Prod.snd, '\'' ∉ piece
  spaced : Spaced python first holes

inductive Filling : List Char → List (Hole × List Char) → List Char → Prop
  | last {piece text : List Char} (varied : Varied piece text) : Filling piece [] text
  | hole {piece text literal next rest : List Char} {hole : Hole} {holes : List (Hole × List Char)}
      (varied : Varied piece text) (isLiteral : Literal hole literal)
      (filling : Filling next holes rest) :
      Filling piece ((hole, next) :: holes) (text ++ (literal ++ rest))

def Template.Filled {python : PythonText} (template : Template python) (text : String) : Prop :=
  Filling template.first template.holes text.toList

end Templates

section Squeeze

def squeeze (text : List Char) : List Char := collapseRuns false (text.map Char.toLower)

variable {text rest piece : List Char} {inRun : Bool}

theorem collapseRuns_spaces (nonempty : piece ≠ []) (all : ∀ c ∈ piece, isSpace c = true) :
    collapseRuns inRun (piece ++ rest) = collapseRuns inRun (' ' :: rest) := by
  obtain ⟨c, more, rfl⟩ := List.exists_cons_of_ne_nil nonempty
  have later : collapseRuns true (more ++ rest) = collapseRuns true rest := by
    rw [collapseRuns_true, collapseRuns_true,
      List.dropWhile_append_of_pos fun d member => all d (List.mem_cons_of_mem c member)]
  simp [collapseRuns, all c List.mem_cons_self, isSpace_space, later]

theorem collapseRuns_varied (varied : Varied piece text) (inRun : Bool) :
    collapseRuns inRun (text.map Char.toLower) = collapseRuns inRun (piece.map Char.toLower) := by
  induction varied generalizing inRun with
  | done => rfl
  | char solid same _ ih => simp [collapseRuns, same, isSpace_toLower, solid, ih]
  | spaces nonempty otherNonempty all otherAll _ ih =>
      have lowered : ∀ run : List Char, (∀ c ∈ run, isSpace c = true) →
          ∀ c ∈ run.map Char.toLower, isSpace c = true := by
        simp only [List.mem_map]
        rintro run all _ ⟨c, member, rfl⟩
        rw [isSpace_toLower, all c member]
      rw [List.map_append, List.map_append,
        collapseRuns_spaces (by simpa using otherNonempty) (lowered _ otherAll),
        collapseRuns_spaces (by simpa using nonempty) (lowered _ all)]
      simp [collapseRuns, isSpace_space, ih]

theorem squeeze_varied (varied : Varied piece text) : squeeze text = squeeze piece :=
  collapseRuns_varied varied false

theorem inRunAfter_of_getLast? {c : Char} (last : text.getLast? = some c) :
    inRunAfter inRun text = isSpace c := by
  obtain ⟨front, rfl⟩ := List.getLast?_eq_some_iff.mp last
  induction front generalizing inRun with
  | nil => rfl
  | cons d front ih => exact ih List.getLast?_concat

theorem collapseRuns_between {front : List Char} {first last : Char}
    (starts : text.head? = some first) (solidFirst : isSpace first = false)
    (ends : text.getLast? = some last) (solidLast : isSpace last = false) :
    collapseRuns false (front ++ (text ++ rest)) =
      collapseRuns false front ++ (collapseRuns false text ++ collapseRuns false rest) := by
  have head : (text ++ rest).head?.any isSpace = false := by simp [starts, solidFirst]
  rw [collapseRuns_append, collapseRuns_of_head head, collapseRuns_append,
    inRunAfter_of_getLast? ends, solidLast]

theorem collapseRuns_solid (solid : ∀ c ∈ text, isSpace c = false) :
    collapseRuns inRun text = text := by
  induction text generalizing inRun with
  | nil => rfl
  | cons c text ih =>
      rw [collapseRuns, solid c List.mem_cons_self, if_neg Bool.false_ne_true,
        ih fun d member => solid d (List.mem_cons_of_mem c member)]

theorem head?_squeeze (text : List Char) : (squeeze text).head? =
    text.head?.map fun c => if isSpace c then ' ' else c.toLower := by
  cases text with
  | nil => rfl
  | cons c text => cases space : isSpace c <;> simp [squeeze, collapseRuns, isSpace_toLower, space]

theorem squeeze_eq_nil_iff : squeeze text = [] ↔ text = [] := by
  rw [← List.head?_eq_none_iff, head?_squeeze, Option.map_eq_none_iff, List.head?_eq_none_iff]

theorem getLast?_collapseRuns {d : Char} (last : (collapseRuns inRun text).getLast? = some d) :
    d = ' ' ∨ text.getLast? = some d := by
  induction text using List.reverseRecOn with
  | nil => simp [collapseRuns] at last
  | append_singleton front c ih =>
      rw [collapseRuns_append] at last
      cases space : isSpace c with
      | false => exact Or.inr (by simpa [collapseRuns, space] using last)
      | true =>
          cases begun : inRunAfter inRun front with
          | false => exact Or.inl (by simpa [collapseRuns, space, begun, eq_comm] using last)
          | true =>
              -- The run went on, so its space is the last character.
              have same : (collapseRuns inRun front).getLast? = some d := by
                simpa [collapseRuns, space, begun] using last
              rcases ih same with isSpace' | found
              · exact Or.inl isSpace'
              · rw [inRunAfter_of_getLast? found] at begun
                rcases mem_collapseRuns (List.mem_of_getLast? same) with isSpace' | ⟨-, solid⟩
                · exact Or.inl isSpace'
                · exact absurd begun (by simp [solid])

end Squeeze

section SqueezedLiterals

variable {python : PythonText} {text front rest : List Char}

theorem map_toLower_digits (all : ∀ c ∈ text, c.isDigit = true) : text.map Char.toLower = text :=
  (List.map_congr_left fun c member => toLower_of_isDigit (all c member)).trans (List.map_id text)

theorem isDigit_python (all : ∀ c ∈ text, c.isDigit = true) :
    ∀ c ∈ text, python.isDigit c = true := fun c member => by
  rw [python.isDigit_plain c (isPlain_of_isDigit (all c member)), all c member]

theorem AsciiDigits.digits (isDigits : AsciiDigits text) :
    Digits python (text.map Char.toLower) := by
  rw [map_toLower_digits isDigits.2]
  exact ⟨isDigits.1, isDigit_python isDigits.2⟩

theorem Unscaled.mantissa (unscaled : Unscaled text) :
    Mantissa python (text.map Char.toLower) := by
  cases unscaled with
  | whole isDigits => exact .whole isDigits.digits
  | point isDigits all =>
      rw [List.map_append, List.map_cons, map_toLower_digits all]
      exact .point isDigits.digits (isDigit_python all)
  | fraction isDigits =>
      rw [List.map_cons]
      exact .fraction isDigits.digits

theorem Scale.unsigned {mantissa : List Char} (scale : Scale text)
    (isMantissa : Mantissa python mantissa) :
    Unsigned python (mantissa ++ text.map Char.toLower) := by
  cases scale with
  | none =>
      rw [List.map_nil, List.append_nil]
      exact .plain isMantissa
  | @some letter sign digits letters signs isDigits =>
      have lowered : letter.toLower = 'e' := by rcases letters with rfl | rfl <;> rfl
      rw [List.map_cons, lowered, List.map_append]
      rcases signs with rfl | rfl | rfl
      · exact .scaled isMantissa (.plain isDigits.digits)
      · exact .scaled isMantissa (.signed (Or.inl rfl) isDigits.digits)
      · exact .scaled isMantissa (.signed (Or.inr rfl) isDigits.digits)

theorem Literal.number (literal : Literal .numeric text) :
    Number python (text.map Char.toLower) := by
  cases literal with
  | numeric minuses isMantissa isScale =>
      have isUnsigned : Unsigned python _ := isScale.unsigned isMantissa.mantissa
      rw [List.map_append, List.map_append]
      rcases minuses with rfl | rfl
      · exact .plain isUnsigned
      · exact .negative isUnsigned

theorem Literal.squeezed_number (literal : Literal .numeric text) :
    Number python (squeeze text) := by
  have number : Number python (text.map Char.toLower) := literal.number
  rwa [squeeze, collapseRuns_solid number.solid]

theorem QuotedContent.squeezed (isContent : QuotedContent text) (inRun : Bool) :
    QuotedContent (collapseRuns inRun (text.map Char.toLower)) := by
  induction isContent generalizing inRun with
  | done => exact .done
  | @char c rest other _ ih =>
      rw [List.map_cons, collapseRuns]
      cases isSpace c.toLower with
      | true =>
          cases inRun with
          | true => exact ih true
          | false => exact .char (by decide) (ih true)
      | false => exact .char (toLower_ne_quote other) (ih false)
  | doubled _ ih => exact .doubled (ih false)

theorem squeeze_quoted (content : List Char) :
    squeeze (quoted content) = quoted (squeeze content) := by
  rw [squeeze, quoted, List.map_cons, List.map_append]
  show '\'' :: collapseRuns false (content.map Char.toLower ++ ['\'']) = _
  rw [collapseRuns_append]
  rfl

theorem Literal.squeeze_append {hole : Hole} (literal : Literal hole text) :
    squeeze (front ++ (text ++ rest)) = squeeze front ++ (squeeze text ++ squeeze rest) := by
  have ends : ∃ first last, (text.map Char.toLower).head? = some first ∧ isSpace first = false ∧
      (text.map Char.toLower).getLast? = some last ∧ isSpace last = false := by
    cases hole with
    | numeric =>
        have number : Number plainText (text.map Char.toLower) := literal.number
        obtain ⟨first, found⟩ := Option.isSome_iff_exists.mp (List.isSome_head?.mpr number.nonempty)
        obtain ⟨last, lastFound⟩ :=
          Option.isSome_iff_exists.mp (List.getLast?_isSome.mpr number.nonempty)
        exact ⟨first, last, found, number.solid first (List.mem_of_head? found), lastFound,
          number.solid last (List.mem_of_getLast? lastFound)⟩
    | string =>
        cases literal with
        | @string content => exact ⟨'\'', '\'', rfl, rfl, by simp [quoted, List.getLast?_cons], rfl⟩
  obtain ⟨first, last, starts, solidFirst, ending, solidLast⟩ := ends
  rw [squeeze, List.map_append, List.map_append,
    collapseRuns_between starts solidFirst ending solidLast]
  rfl

end SqueezedLiterals

section Plain

variable {text piece : List Char}

theorem Varied.plain (varied : Varied piece text) (ascii : ∀ c ∈ piece, c.toNat < 128) :
    ∀ c ∈ text, isPlain c = true := by
  induction varied with
  | done => simp
  | @char c d piece text _ same _ ih =>
      have plain := isPlain_of_lt (ascii c List.mem_cons_self)
      refine List.forall_mem_cons.mpr ⟨?_, ih fun e member => ascii e (List.mem_cons_of_mem c member)⟩
      rcases toLower_cases d with unchanged | ⟨letter, -⟩
      · rw [← unchanged, same]
        exact isPlain_toLower plain
      · exact isPlain_of_isAlpha letter
  | spaces _ _ _ otherAll _ ih =>
      refine List.forall_mem_append.mpr ⟨fun c member => ?_, ih fun c member => ascii c ?_⟩
      · exact isPlain_of_isSpace (otherAll c member)
      · exact List.mem_append_right _ member

theorem AsciiDigits.plain (isDigits : AsciiDigits text) : ∀ c ∈ text, isPlain c = true :=
  fun c member => isPlain_of_isDigit (isDigits.2 c member)

theorem Unscaled.plain (unscaled : Unscaled text) : ∀ c ∈ text, isPlain c = true := by
  cases unscaled with
  | whole isDigits => exact isDigits.plain
  | point isDigits all =>
      exact List.forall_mem_append.mpr ⟨isDigits.plain, List.forall_mem_cons.mpr
        ⟨by decide, fun c member => isPlain_of_isDigit (all c member)⟩⟩
  | fraction isDigits => exact List.forall_mem_cons.mpr ⟨by decide, isDigits.plain⟩

theorem Scale.plain (scale : Scale text) : ∀ c ∈ text, isPlain c = true := by
  cases scale with
  | none => simp
  | some letters signs isDigits =>
      refine List.forall_mem_cons.mpr ⟨?_, List.forall_mem_append.mpr ⟨?_, isDigits.plain⟩⟩
      · rcases letters with rfl | rfl <;> rfl
      · rcases signs with rfl | rfl | rfl <;> simp [isPlain]

theorem Literal.plain {hole : Hole} (literal : Literal hole text) :
    ∀ c ∈ text, isPlain c = true := by
  cases literal with
  | numeric minuses isMantissa isScale =>
      refine List.forall_mem_append.mpr
        ⟨?_, List.forall_mem_append.mpr ⟨isMantissa.plain, isScale.plain⟩⟩
      rcases minuses with rfl | rfl <;> simp [isPlain]
  | string ascii =>
      refine List.forall_mem_cons.mpr ⟨rfl, List.forall_mem_append.mpr ⟨?_, List.forall_mem_singleton.mpr rfl⟩⟩
      exact fun c member => isPlain_of_lt (ascii c member)

theorem Filling.plain {holes : List (Hole × List Char)} (filling : Filling piece holes text)
    (ascii : ∀ part ∈ piece :: holes.map Prod.snd, ∀ c ∈ part, c.toNat < 128) :
    ∀ c ∈ text, isPlain c = true := by
  induction filling with
  | last varied => exact varied.plain (ascii _ List.mem_cons_self)
  | hole varied isLiteral _ ih =>
      refine List.forall_mem_append.mpr ⟨varied.plain (ascii _ List.mem_cons_self),
        List.forall_mem_append.mpr ⟨isLiteral.plain, ih fun part member => ascii part ?_⟩⟩
      exact List.mem_cons_of_mem _ member

end Plain

section Fillings

variable {python : PythonText} {piece next text other rest : List Char}
  {holes : List (Hole × List Char)}

theorem Filling.head?_squeeze (filling : Filling next holes rest) (last : next = [] → holes = []) :
    (squeeze rest).head? = (squeeze next).head? := by
  cases filling with
  | last varied => rw [squeeze_varied varied]
  | hole varied isLiteral filling =>
      have nonempty : squeeze next ≠ [] := fun nothing =>
        List.cons_ne_nil _ _ (last (squeeze_eq_nil_iff.mp nothing))
      rw [isLiteral.squeeze_append, squeeze_varied varied, List.head?_append_of_ne_nil _ nonempty]

theorem quote_not_mem_squeeze (unquoted : '\'' ∉ piece) : '\'' ∉ squeeze piece := fun member => by
  rcases mem_collapseRuns member with same | ⟨lowered, -⟩
  · exact absurd same (by decide)
  · obtain ⟨c, inPiece, same⟩ := List.mem_map.mp lowered
    refine toLower_ne_quote ?_ same
    rintro rfl
    exact unquoted inPiece

theorem startsWithWord_squeeze (ahead : startsWithWord python next = false) :
    startsWithWord python (squeeze next) = false := by
  cases next with
  | nil => rfl
  | cons c next =>
      rw [startsWithWord, SqlTexts.head?_squeeze, List.head?_cons, Option.map_some, Option.any_some]
      cases isSpace c with
      | true => exact isWordOrDot_of_separates (separates_of_isSpace isSpace_space)
      | false => exact (isWordOrDot_toLower c).trans ahead

theorem separates_squeeze {c : Char}
    (apart : ∀ c, piece.getLast? = some c → separates python c = true)
    (last : (squeeze piece).getLast? = some c) : separates python c = true := by
  rcases getLast?_collapseRuns last with rfl | found
  · exact separates_of_isSpace isSpace_space
  · rw [List.getLast?_map] at found
    obtain ⟨d, isLast, rfl⟩ := Option.map_eq_some_iff.mp found
    rw [separates_toLower, apart d isLast]

theorem foldl_separates {free : Bool}
    (apart : ∀ c, text.getLast? = some c → separates python c = true)
    (start : text ≠ [] ∨ free = true) :
    text.foldl (fun _ c => separates python c) free = true := by
  cases last : text.getLast? with
  | none =>
      obtain rfl := List.getLast?_eq_none_iff.mp last
      exact start.resolve_left (by simp)
  | some c =>
      obtain ⟨front, rfl⟩ := List.getLast?_eq_some_iff.mp last
      rw [List.foldl_concat]
      exact apart c last

theorem Literal.alike {hole : Hole} {free : Bool} {literal otherLiteral : List Char}
    (isLiteral : Literal hole literal) (isOther : Literal hole otherLiteral)
    (numeric : hole = .numeric → free = true ∧ startsWithWord python text = false)
    (single : text.head? ≠ some '\'') (sameHead : text.head? = other.head?)
    (later : ∀ free, Alike python true free text other) :
    Alike python true free (squeeze literal ++ text) (squeeze otherLiteral ++ other) := by
  cases hole with
  | numeric =>
      obtain ⟨rfl, ahead⟩ := numeric rfl
      have otherAhead : startsWithWord python other = false := by rwa [startsWithWord, ← sameHead]
      exact .number isLiteral.squeezed_number isOther.squeezed_number ahead otherAhead (later false)
  | string =>
      cases isLiteral with
      | string _ isContent =>
          cases isOther with
          | string _ isOther =>
              rw [squeeze_quoted, squeeze_quoted]
              exact .string rfl (isContent.squeezed false) (isOther.squeezed false) single
                (sameHead ▸ single) (later true)

theorem Filling.alike {free : Bool} (filling : Filling piece holes text)
    (otherFilling : Filling piece holes other) (spaced : Spaced python piece holes)
    (unquoted : ∀ part ∈ piece :: holes.map Prod.snd, '\'' ∉ part)
    (start : piece ≠ [] ∨ holes = [] ∨ free = true) :
    Alike python true free (squeeze text) (squeeze other) := by
  induction filling generalizing other free with
  | @last piece text varied =>
      cases otherFilling with
      | last otherVaried =>
          have quoteFree := quote_not_mem_squeeze (unquoted piece List.mem_cons_self)
          rw [squeeze_varied varied, squeeze_varied otherVaried, ← List.append_nil (squeeze piece)]
          exact .prepend quoteFree (.done _)
  | @hole piece text literal next rest hole holes varied isLiteral filling ih =>
      cases otherFilling with
      | @hole _ _ otherLiteral _ otherRest _ _ otherVaried isOther otherFilling =>
          obtain ⟨around, nonempty, later⟩ := spaced
          have last : next = [] → holes = [] := fun nothing => by
            by_contra more
            exact nonempty more nothing
          have restStart : ∀ free, next ≠ [] ∨ holes = [] ∨ free = true := fun _ => by
            by_cases nothing : next = []
            · exact Or.inr (Or.inl (last nothing))
            · exact Or.inl nothing
          have further : ∀ free, Alike python true free (squeeze rest) (squeeze otherRest) :=
            fun free => ih otherFilling later
              (fun part member => unquoted part (List.mem_cons_of_mem _ member)) (restStart free)
          have begins : squeeze piece ≠ [] ∨ free = true := by
            rcases start with more | nothing | free
            · exact Or.inl (mt squeeze_eq_nil_iff.mp more)
            · exact absurd nothing (List.cons_ne_nil _ _)
            · exact Or.inr free
          have head := filling.head?_squeeze last
          have quoteFree := quote_not_mem_squeeze (unquoted next (by simp))
          rw [isLiteral.squeeze_append, isOther.squeeze_append, squeeze_varied varied,
            squeeze_varied otherVaried]
          refine .prepend (quote_not_mem_squeeze (unquoted piece List.mem_cons_self)) ?_
          refine isLiteral.alike isOther (fun numeric => ?_) ?_ ?_ further
          · obtain ⟨apart, ahead⟩ := around numeric
            refine ⟨foldl_separates (fun c => separates_squeeze apart) begins, ?_⟩
            rw [startsWithWord, head]
            exact startsWithWord_squeeze ahead
          · rw [head]
            exact fun quote => quoteFree (List.mem_of_head? quote)
          · rw [head, otherFilling.head?_squeeze last]

variable (python) in
theorem fillings_grouped (template : Template python) (text other : String)
    (filled : template.Filled text) (otherFilled : template.Filled other) :
    normalizeSql python (some text) = normalizeSql python (some other) ∧
      ∀ sha256Hex, normalizedSqlHash python sha256Hex (some text) =
        normalizedSqlHash python sha256Hex (some other) := by
  have lowered : ∀ text : String, template.Filled text →
      collapseWhitespace (python.lower text.toList) = strip (squeeze text.toList) := by
    intro text filled
    have plain := Filling.plain filled template.ascii
    rw [python.lower_plain _ (List.all_eq_true.mpr plain), collapseWhitespace_eq]
    rfl
  have alike : Alike python true true (squeeze text.toList) (squeeze other.toList) :=
    Filling.alike filled otherFilled template.spaced template.unquoted
      (Or.inr (Or.inr rfl))
  have same : normalizeSql python (some text) = normalizeSql python (some other) := by
    rw [normalizeSql_eq, normalizeSql_eq, normalChars, normalChars, lowered text filled,
      lowered other otherFilled, alike.strip.replaceLiterals_eq]
  refine ⟨same, fun sha256Hex => ?_⟩
  rw [normalizedSqlHash, normalizedSqlHash, same]

-- `a = 1, ''`
def comparison : Template plainText where
  first := ['a', ' ', '=', ' ']
  holes := [(.numeric, [',', ' ']), (.string, [])]
  ascii := by simp
  unquoted := by simp
  spaced := ⟨fun _ => ⟨by simp; decide, by decide⟩, by simp, by simp, by simp, trivial⟩

theorem fillings_grouped_comparison :
    normalizeSql plainText (some "A  =\n-1.5E3, 'x''Y'") =
        normalizeSql plainText (some "a = .5, ''") ∧
      ∀ sha256Hex, normalizedSqlHash plainText sha256Hex (some "A  =\n-1.5E3, 'x''Y'") =
        normalizedSqlHash plainText sha256Hex (some "a = .5, ''") := by
  have digits : ∀ c : Char, c.isDigit = true → AsciiDigits [c] := fun c digit =>
    ⟨List.cons_ne_nil _ _, by simpa using digit⟩
  have scaled : Literal .numeric ['-', '1', '.', '5', 'E', '3'] :=
    @Literal.numeric ['-'] ['1', '.', '5'] ['E', '3'] (Or.inr rfl)
      (.point (digits '1' rfl) (digits '5' rfl).2)
      (.some (Or.inr rfl) (Or.inl rfl) (digits '3' rfl))
  have fraction : Literal .numeric ['.', '5'] :=
    .numeric (Or.inl rfl) (.fraction (digits '5' rfl)) .none
  have content : QuotedContent ['x', '\'', '\'', 'Y'] :=
    .char (by decide) (.doubled (.char (by decide) .done))
  have gap : ∀ other piece text, other ≠ [] → (∀ c ∈ other, isSpace c = true) →
      Varied piece text → Varied (' ' :: piece) (other ++ text) :=
        fun other piece text nonempty all =>
    @Varied.spaces [' '] other piece text (by simp) nonempty (by simp [isSpace_space]) all
  have comma : Varied [',', ' '] [',', ' '] :=
    .char rfl rfl (gap [' '] [] [] (by simp) (by simp [isSpace_space]) .done)
  have wide : Varied ['a', ' ', '=', ' '] ['A', ' ', ' ', '=', '\n'] :=
    .char rfl rfl (gap [' ', ' '] _ _ (by simp) (by simp [isSpace_space])
      (.char rfl rfl (gap ['\n'] [] [] (by simp) (by simp; rfl) .done)))
  have narrow : Varied ['a', ' ', '=', ' '] ['a', ' ', '=', ' '] :=
    .char rfl rfl (gap [' '] _ _ (by simp) (by simp [isSpace_space])
      (.char rfl rfl (gap [' '] [] [] (by simp) (by simp [isSpace_space]) .done)))
  refine fillings_grouped plainText comparison _ _ ?_ ?_
  · exact .hole wide scaled (.hole comma (.string (by simp) content) (.last .done))
  · exact .hole narrow fraction (.hole comma (.string (by simp) .done) (.last .done))

end Fillings

end SqlMonitor.SqlTexts
