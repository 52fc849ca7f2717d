import Mathlib.Data.List.Basic
import Mathlib.Data.List.Chain
import Mathlib.Data.List.TakeWhile

set_option autoImplicit false

variable {A : Type}

inductive Regex (A : Type) where
  | one (test : A → Bool)
  | seq (first second : Regex A)
  | alt (first second : Regex A)
  | empty
  | star (body : Regex A)
  | notBehind (test : A → Bool)
  | notAhead (test : A → Bool)

namespace Regex

def plus (body : Regex A) : Regex A := .seq body (.star body)

def optional (body : Regex A) : Regex A := .alt body .empty

abbrev End (A : Type) := List A × List A

def andThen (before : List A) (firsts : List (End A)) (next : List A → List A → List (End A)) :
    List (End A) :=
  firsts.flatMap fun first =>
    (next (first.1.reverse ++ before) first.2).map fun last => (first.1 ++ last.1, last.2)

-- A repetition that matches nothing is not continued.
def starEnds (body : List A → List A → List (End A)) : Nat → List A → List A → List (End A)
  | 0, _, after => [([], after)]
  | fuel + 1, before, after =>
    andThen before ((body before after).filter fun first => !first.1.isEmpty)
      (starEnds body fuel) ++ [([], after)]

def ends : Regex A → List A → List A → List (End A)
  | .one _, _, [] => []
  | .one test, _, c :: after => if test c then [([c], after)] else []
  | .seq first second, before, after => andThen before (first.ends before after) second.ends
  | .alt first second, before, after => first.ends before after ++ second.ends before after
  | .empty, _, after => [([], after)]
  | .star body, before, after => starEnds body.ends after.length before after
  | .notBehind test, before, after => if before.head?.any test then [] else [([], after)]
  | .notAhead test, _, after => if after.head?.any test then [] else [([], after)]

def matchAt (pattern : Regex A) (before after : List A) : Option (End A) :=
  (pattern.ends before after).head?

-- From left to right; the first characters may belong to the match before. A match is never empty.
def subFrom (pattern : Regex A) (replacement : List A) : Nat → List A → List A → List A
  | _, _, [] => []
  | skip + 1, before, c :: after => subFrom pattern replacement skip (c :: before) after
  | 0, before, c :: after =>
    match pattern.matchAt before (c :: after) with
    | some (_ :: matched, _) =>
      replacement ++ subFrom pattern replacement matched.length (c :: before) after
    | _ => c :: subFrom pattern replacement 0 (c :: before) after

def sub (pattern : Regex A) (replacement text : List A) : List A :=
  pattern.subFrom replacement 0 [] text

section Matches

inductive Repeats (body : List A → List A → List A → Prop) : List A → List A → List A → Prop
  | stop (before after : List A) : Repeats body before [] after
  | again {before first rest after : List A} (matched : body before first (rest ++ after))
      (nonempty : first ≠ []) (later : Repeats body (first.reverse ++ before) rest after) :
      Repeats body before (first ++ rest) after

/-- What a pattern matches between two texts, in whatever order it is tried. -/
def Matches : Regex A → List A → List A → List A → Prop
  | .one test, _, matched, _ => ∃ c, test c = true ∧ matched = [c]
  | .seq first second, before, matched, after => ∃ left right, matched = left ++ right ∧
      first.Matches before left (right ++ after) ∧
        second.Matches (left.reverse ++ before) right after
  | .alt first second, before, matched, after =>
    first.Matches before matched after ∨ second.Matches before matched after
  | .empty, _, matched, _ => matched = []
  | .star body, before, matched, after => Repeats body.Matches before matched after
  | .notBehind test, before, matched, _ => matched = [] ∧ before.head?.any test = false
  | .notAhead test, _, matched, after => matched = [] ∧ after.head?.any test = false

variable {before after matched rest : List A}

theorem mem_here {after matched rest : List A} :
    (matched, rest) ∈ [(([], after) : End A)] ↔ after = matched ++ rest ∧ matched = [] := by
  rw [List.mem_singleton, Prod.mk.injEq]
  constructor
  · rintro ⟨rfl, rfl⟩
    exact ⟨rfl, rfl⟩
  · rintro ⟨rfl, rfl⟩
    exact ⟨rfl, rfl⟩

theorem mem_andThen {firsts : List (End A)} {next : List A → List A → List (End A)} {last : End A} :
    last ∈ andThen before firsts next ↔ ∃ left middle right, (left, middle) ∈ firsts ∧
      (right, last.2) ∈ next (left.reverse ++ before) middle ∧ last.1 = left ++ right := by
  simp only [andThen, List.mem_flatMap, List.mem_map]
  constructor
  · rintro ⟨⟨left, middle⟩, first, ⟨right, rest⟩, second, rfl⟩
    exact ⟨left, middle, right, first, second, rfl⟩
  · rintro ⟨left, middle, right, first, second, same⟩
    exact ⟨(left, middle), first, (right, last.2), second, Prod.ext same.symm rfl⟩

theorem mem_starEnds {body : List A → List A → List (End A)}
    {matches' : List A → List A → List A → Prop}
    (spec : ∀ before after matched rest, (matched, rest) ∈ body before after ↔
      after = matched ++ rest ∧ matches' before matched rest) :
    ∀ fuel before after matched rest, after.length ≤ fuel →
      ((matched, rest) ∈ starEnds body fuel before after ↔
        after = matched ++ rest ∧ Repeats matches' before matched rest) := by
  intro fuel
  induction fuel with
  | zero =>
      intro before after matched rest enough
      obtain rfl : after = [] := List.length_eq_zero_iff.mp (Nat.le_zero.mp enough)
      simp only [starEnds, List.mem_singleton, Prod.mk.injEq, List.nil_eq_append_iff]
      constructor
      · rintro ⟨rfl, rfl⟩
        exact ⟨⟨rfl, rfl⟩, .stop _ _⟩
      · exact And.left
  | succ fuel ih =>
      intro before after matched rest enough
      rw [starEnds, List.mem_append, mem_andThen, List.mem_singleton]
      constructor
      · rintro (⟨left, middle, right, first, second, same⟩ | same)
        · obtain ⟨inBody, progress⟩ := List.mem_filter.mp first
          have nonempty : left ≠ [] := by simpa using progress
          obtain ⟨rfl, matchesFirst⟩ := (spec _ _ _ _).mp inBody
          have shorter : middle.length ≤ fuel := by
            have := List.length_pos_iff.mpr nonempty
            simp only [List.length_append] at enough
            omega
          obtain ⟨rfl, later⟩ := (ih _ _ _ _ shorter).mp second
          obtain rfl : matched = left ++ right := same
          exact ⟨(List.append_assoc _ _ _).symm, .again matchesFirst nonempty later⟩
        · obtain ⟨rfl, rfl⟩ := Prod.mk.inj same
          exact ⟨rfl, .stop _ _⟩
      · rintro ⟨rfl, repeated⟩
        cases repeated with
        | stop => exact Or.inr rfl
        | @again _ left right _ matchesFirst nonempty later =>
            have shorter : (right ++ rest).length ≤ fuel := by
              have := List.length_pos_iff.mpr nonempty
              simp only [List.length_append] at enough ⊢
              omega
            refine Or.inl ⟨left, right ++ rest, right, ?_, ?_, rfl⟩
            · refine List.mem_filter.mpr ⟨?_, by simpa using nonempty⟩
              exact (spec _ _ _ _).mpr ⟨List.append_assoc _ _ _, matchesFirst⟩
            · exact (ih _ _ _ _ shorter).mpr ⟨rfl, later⟩

theorem mem_ends_one {test : A → Bool} : (matched, rest) ∈ (Regex.one test).ends before after ↔
    after = matched ++ rest ∧ (Regex.one test).Matches before matched rest := by
  cases after with
  | nil =>
      simp only [ends, List.not_mem_nil, Matches, false_iff, List.nil_eq_append_iff]
      rintro ⟨⟨rfl, -⟩, _, -, same⟩
      simp at same
  | cons c after =>
      by_cases passes : test c = true
      · simp only [ends, passes, if_true, List.mem_singleton, Prod.mk.injEq, Matches]
        constructor
        · rintro ⟨rfl, rfl⟩
          exact ⟨rfl, c, passes, rfl⟩
        · rintro ⟨same, d, -, rfl⟩
          obtain ⟨rfl, rfl⟩ := List.cons.inj same
          exact ⟨rfl, rfl⟩
      · simp only [ends, passes, Bool.false_eq_true, if_false, List.not_mem_nil, Matches,
          false_iff, not_and, not_exists]
        rintro same d test rfl
        obtain ⟨rfl, -⟩ := List.cons.inj same
        exact passes test

theorem mem_ends (pattern : Regex A) : ∀ before after matched rest,
    (matched, rest) ∈ pattern.ends before after ↔
      after = matched ++ rest ∧ pattern.Matches before matched rest := by
  induction pattern with
  | one test => exact fun _ _ _ _ => mem_ends_one
  | seq first second ihFirst ihSecond =>
      intro before after matched rest
      rw [ends, mem_andThen, Matches]
      constructor
      · rintro ⟨left, middle, right, inFirst, inSecond, same⟩
        obtain ⟨rfl, matchesFirst⟩ := (ihFirst _ _ _ _).mp inFirst
        obtain ⟨rfl, matchesSecond⟩ := (ihSecond _ _ _ _).mp inSecond
        obtain rfl : matched = left ++ right := same
        exact ⟨(List.append_assoc _ _ _).symm, left, right, rfl, matchesFirst, matchesSecond⟩
      · rintro ⟨rfl, left, right, rfl, matchesFirst, matchesSecond⟩
        exact ⟨left, right ++ rest, right,
          (ihFirst _ _ _ _).mpr ⟨List.append_assoc _ _ _, matchesFirst⟩,
          (ihSecond _ _ _ _).mpr ⟨rfl, matchesSecond⟩, rfl⟩
  | alt first second ihFirst ihSecond =>
      intro before after matched rest
      rw [ends, List.mem_append, ihFirst, ihSecond, Matches, and_or_left]
  | empty =>
      intro before after matched rest
      exact mem_here
  | star body ih =>
      intro before after matched rest
      exact mem_starEnds ih _ _ _ _ _ le_rfl
  | notBehind test =>
      intro before after matched rest
      cases behind : before.head?.any test with
      | true => simp [ends, Matches, behind]
      | false =>
          rw [ends, behind, if_neg Bool.false_ne_true, mem_here, Matches, behind]
          simp only [and_true]
  | notAhead test =>
      intro before after matched rest
      cases ahead : after.head?.any test with
      | true =>
          simp only [ends, ahead, if_true, List.not_mem_nil, Matches, false_iff]
          rintro ⟨rfl, rfl, free⟩
          exact Bool.false_ne_true (free.symm.trans ahead)
      | false =>
          rw [ends, ahead, if_neg Bool.false_ne_true, mem_here, Matches]
          refine and_congr_right fun same => ⟨?_, And.left⟩
          rintro rfl
          obtain rfl : after = rest := same
          exact ⟨rfl, ahead⟩

theorem matchAt_eq_some {pattern : Regex A}
    (found : pattern.matchAt before after = some (matched, rest)) :
    after = matched ++ rest ∧ pattern.Matches before matched rest :=
  (pattern.mem_ends _ _ _ _).mp (List.mem_of_head? found)

theorem matchAt_eq_none {pattern : Regex A} :
    pattern.matchAt before after = none ↔
      ∀ matched rest, after = matched ++ rest → ¬ pattern.Matches before matched rest := by
  rw [matchAt, List.head?_eq_none_iff, List.eq_nil_iff_forall_not_mem]
  constructor
  · intro nothing matched rest same matches'
    exact nothing (matched, rest) ((pattern.mem_ends _ _ _ _).mpr ⟨same, matches'⟩)
  · rintro nothing ⟨matched, rest⟩ member
    obtain ⟨same, matches'⟩ := (pattern.mem_ends _ _ _ _).mp member
    exact nothing matched rest same matches'

theorem matchAt_of_unique {pattern : Regex A} (matches' : pattern.Matches before matched rest)
    (unique : ∀ other later, matched ++ rest = other ++ later →
      pattern.Matches before other later → other = matched) :
    pattern.matchAt before (matched ++ rest) = some (matched, rest) := by
  cases found : pattern.matchAt before (matched ++ rest) with
  | none => exact absurd matches' (matchAt_eq_none.mp found matched rest rfl)
  | some last =>
      obtain ⟨other, later⟩ := last
      obtain ⟨same, otherMatches⟩ := matchAt_eq_some found
      obtain rfl := unique other later same otherMatches
      rw [List.append_cancel_left same]

theorem matches_star_one {test : A → Bool} :
    (Regex.star (.one test)).Matches before matched after ↔ ∀ c ∈ matched, test c = true := by
  constructor
  · intro repeated
    simp only [Matches] at repeated
    induction repeated with
    | stop => simp
    | again matchesFirst _ _ ih =>
        obtain ⟨c, passes, rfl⟩ := matchesFirst
        simpa [passes] using ih
  · intro all
    induction matched generalizing before with
    | nil => exact .stop _ _
    | cons c matched ih =>
        show Repeats _ before ([c] ++ matched) after
        refine .again ⟨c, all c List.mem_cons_self, rfl⟩ (List.cons_ne_nil c []) ?_
        exact ih fun d member => all d (List.mem_cons_of_mem _ member)

theorem matches_plus_one {test : A → Bool} :
    (plus (.one test)).Matches before matched after ↔
      matched ≠ [] ∧ ∀ c ∈ matched, test c = true := by
  simp only [plus, Matches]
  constructor
  · rintro ⟨_, right, rfl, ⟨c, passes, rfl⟩, repeated⟩
    refine ⟨by simp, ?_⟩
    simpa [passes] using matches_star_one.mp repeated
  · rintro ⟨nonempty, all⟩
    obtain ⟨c, right, rfl⟩ := List.exists_cons_of_ne_nil nonempty
    refine ⟨[c], right, rfl, ⟨c, all c List.mem_cons_self, rfl⟩, ?_⟩
    exact matches_star_one.mpr fun d member => all d (List.mem_cons_of_mem _ member)

end Matches

section Greedy

variable {before after rest : List A}

theorem head?_andThen {firsts : List (End A)} {next : List A → List A → List (End A)}
    {first last : End A} (found : firsts.head? = some first)
    (later : (next (first.1.reverse ++ before) first.2).head? = some last) :
    (andThen before firsts next).head? = some (first.1 ++ last.1, last.2) := by
  obtain ⟨others, rfl⟩ := List.head?_eq_some_iff.mp found
  rw [andThen, List.flatMap_cons, List.head?_append, List.head?_map, later]
  rfl

theorem head?_starEnds {body : List A → List A → List (End A)} {fuel : Nat} {first last : End A}
    (found : (body before after).head? = some first) (progress : first.1 ≠ [])
    (later : (starEnds body fuel (first.1.reverse ++ before) first.2).head? = some last) :
    (starEnds body (fuel + 1) before after).head? = some (first.1 ++ last.1, last.2) := by
  obtain ⟨others, split⟩ := List.head?_eq_some_iff.mp found
  have kept : ((body before after).filter fun first => !first.1.isEmpty).head? = some first := by
    rw [split, List.filter_cons_of_pos (by simpa using progress)]
    rfl
  rw [starEnds, List.head?_append, head?_andThen kept later]
  rfl

theorem head?_starEnds_of_stop {body : List A → List A → List (End A)}
    (stops : body before after = []) :
    ∀ fuel, (starEnds body fuel before after).head? = some ([], after)
  | 0 => rfl
  | fuel + 1 => by simp [starEnds, stops, andThen]

theorem head?_star_one (test : A → Bool) : ∀ (fuel : Nat) (before after : List A),
    after.length ≤ fuel → (starEnds (Regex.one test).ends fuel before after).head? =
      some (after.takeWhile test, after.dropWhile test)
  | fuel, before, [], _ => head?_starEnds_of_stop rfl fuel
  | fuel + 1, before, c :: after, enough => by
      cases passes : test c with
      | true =>
          have first : ((Regex.one test).ends before (c :: after)).head? = some ([c], after) := by
            simp [ends, passes]
          have later := head?_star_one test fuel (c :: before) after (Nat.le_of_succ_le_succ enough)
          rw [head?_starEnds first (List.cons_ne_nil c []) later]
          simp [passes]
      | false =>
          rw [head?_starEnds_of_stop (by simp [ends, passes])]
          simp [passes]

theorem matchAt_plus_one {test : A → Bool} {c : A} (passes : test c = true) :
    (plus (.one test)).matchAt before (c :: after) =
      some (c :: after.takeWhile test, after.dropWhile test) := by
  have first : ((Regex.one test).ends before (c :: after)).head? = some ([c], after) := by
    simp [ends, passes]
  have later : ((Regex.star (.one test)).ends ([c].reverse ++ before) after).head? =
      some (after.takeWhile test, after.dropWhile test) :=
    head?_star_one test after.length _ after le_rfl
  exact head?_andThen first later

theorem matchAt_plus_one_of_not {test : A → Bool} {c : A} (fails : test c = false) :
    (plus (.one test)).matchAt before (c :: after) = none := by
  simp [matchAt, plus, ends, fails, andThen]

end Greedy

section Sub

variable {pattern : Regex A} {replacement before after matched : List A} {c : A}

def subAfter (pattern : Regex A) (replacement before after : List A) : List A :=
  pattern.subFrom replacement 0 before after

@[simp] theorem subAfter_nil : pattern.subAfter replacement before [] = [] := by
  simp [subAfter, subFrom]

theorem subFrom_skip : ∀ skipped before : List A, pattern.subFrom replacement skipped.length before
    (skipped ++ after) = pattern.subAfter replacement (skipped.reverse ++ before) after
  | [], before => rfl
  | c :: skipped, before => by
      rw [List.length_cons, List.cons_append, subFrom, subFrom_skip skipped (c :: before)]
      simp

theorem subAfter_of_none (none : pattern.matchAt before (c :: after) = none) :
    pattern.subAfter replacement before (c :: after) =
      c :: pattern.subAfter replacement (c :: before) after := by
  rw [subAfter, subFrom, none]
  rfl

theorem subAfter_of_some (nonempty : matched ≠ [])
    (found : pattern.matchAt before (matched ++ after) = some (matched, after)) :
    pattern.subAfter replacement before (matched ++ after) =
      replacement ++ pattern.subAfter replacement (matched.reverse ++ before) after := by
  obtain ⟨c, matched, rfl⟩ := List.exists_cons_of_ne_nil nonempty
  rw [List.cons_append] at found
  rw [subAfter, List.cons_append, subFrom, found]
  simp only [subFrom_skip, List.reverse_cons, List.append_assoc, List.singleton_append]

def Solid (pattern : Regex A) : Prop :=
  ∀ before after, ¬ pattern.Matches before [] after

/-- How a substitution runs through a text, character by character or match by match. -/
inductive Substituted (pattern : Regex A) (replacement : List A) :
    List A → List A → List A → Prop
  | done (before : List A) : Substituted pattern replacement before [] []
  | keep {before after out : List A} {c : A} (none : pattern.matchAt before (c :: after) = none)
      (later : Substituted pattern replacement (c :: before) after out) :
      Substituted pattern replacement before (c :: after) (c :: out)
  | replace {before matched after out : List A} (nonempty : matched ≠ [])
      (found : pattern.matchAt before (matched ++ after) = some (matched, after))
      (later : Substituted pattern replacement (matched.reverse ++ before) after out) :
      Substituted pattern replacement before (matched ++ after) (replacement ++ out)

theorem substituted_subAfter (solid : pattern.Solid) (before after : List A) :
    Substituted pattern replacement before after (pattern.subAfter replacement before after) := by
  induction counted : after.length using Nat.strong_induction_on generalizing before after with
  | _ length ih =>
      cases after with
      | nil =>
          rw [subAfter_nil]
          exact .done before
      | cons c after =>
          cases found : pattern.matchAt before (c :: after) with
          | none =>
              rw [subAfter_of_none found]
              exact .keep found (ih _ (by simp [← counted]) _ _ rfl)
          | some last =>
              obtain ⟨matched, rest⟩ := last
              obtain ⟨same, matches'⟩ := matchAt_eq_some found
              have nonempty : matched ≠ [] := by
                rintro rfl
                exact solid _ _ matches'
              have shorter : rest.length < length := by
                have := List.length_pos_iff.mpr nonempty
                rw [← counted, same, List.length_append]
                omega
              rw [same] at found ⊢
              rw [subAfter_of_some nonempty found]
              exact .replace nonempty found (ih _ shorter _ _ rfl)

section Mark

variable {mark : A} {out : List A}

theorem Substituted.kept_prefix {kept later : List A}
    (run : Substituted pattern [mark] before after (kept ++ later)) (unmarked : mark ∉ kept) :
    ∃ rest, after = kept ++ rest ∧ Substituted pattern [mark] (kept.reverse ++ before) rest later := by
  induction kept generalizing before after with
  | nil => exact ⟨after, rfl, run⟩
  | cons c kept ih =>
      simp only [List.mem_cons, not_or] at unmarked
      rw [List.cons_append] at run
      generalize written : c :: (kept ++ later) = out at run
      cases run with
      | done => simp at written
      | keep none further =>
          obtain ⟨rfl, rfl⟩ := List.cons.inj written
          obtain ⟨rest, rfl, run⟩ := ih further unmarked.2
          exact ⟨rest, rfl, by simpa using run⟩
      | replace =>
          obtain ⟨rfl, -⟩ := List.cons.inj written
          exact absurd rfl unmarked.1

theorem Substituted.mem (run : Substituted pattern [mark] before after out) :
    ∀ c ∈ out, c = mark ∨ c ∈ after := by
  induction run with
  | done => simp
  | keep _ _ ih =>
      intro c member
      rcases List.mem_cons.mp member with rfl | later
      · exact Or.inr List.mem_cons_self
      · exact (ih c later).imp_right (List.mem_cons_of_mem _)
  | replace _ _ _ ih =>
      intro c member
      rcases List.mem_cons.mp member with rfl | later
      · exact Or.inl rfl
      · exact (ih c later).imp_right (List.mem_append_right _)

theorem Substituted.head? (run : Substituted pattern [mark] before after out) :
    out.head? = some mark ∨ out.head? = after.head? := by
  cases run with
  | done => exact Or.inr rfl
  | keep => exact Or.inr rfl
  | replace => exact Or.inl rfl

theorem Substituted.getLast? (run : Substituted pattern [mark] before after out) :
    out.getLast? = some mark ∨ out.getLast? = after.getLast? := by
  induction run with
  | done => exact Or.inr rfl
  | keep _ _ ih =>
      rcases ih with marked | same
      · exact Or.inl (by simp [List.getLast?_cons, marked])
      · exact Or.inr (by simp [List.getLast?_cons, same])
  | @replace _ matched after out _ _ _ ih =>
      rw [List.singleton_append, List.getLast?_cons, List.getLast?_append]
      rcases ih with marked | same
      · exact Or.inl (by simp [marked])
      · rw [same]
        cases after.getLast? with
        | none => exact Or.inl rfl
        | some last => exact Or.inr rfl

theorem Substituted.isChain {R : A → A → Prop} (run : Substituted pattern [mark] before after out)
    (chain : after.IsChain R) (left : ∀ c, R mark c) (right : ∀ c, R c mark) : out.IsChain R := by
  induction run with
  | done => exact chain
  | keep _ later ih =>
      obtain ⟨next, rest⟩ := List.isChain_cons.mp chain
      refine List.isChain_cons.mpr ⟨fun d first => ?_, ih rest⟩
      rcases later.head? with marked | same
      · obtain rfl : mark = d := Option.some.inj (marked.symm.trans first)
        exact right _
      · exact next d (same ▸ first)
  | replace _ _ _ ih =>
      exact List.isChain_cons.mpr ⟨fun d _ => left d, ih chain.right_of_append⟩

theorem Substituted.count_le [DecidableEq A] (run : Substituted pattern [mark] before after out)
    {c : A} (other : c ≠ mark) : out.count c ≤ after.count c := by
  induction run with
  | done => simp
  | @keep _ after out d _ _ ih =>
      rw [List.count_cons, List.count_cons]
      exact Nat.add_le_add_right ih _
  | @replace _ matched after out _ _ _ ih =>
      rw [List.singleton_append, List.count_cons_of_ne (Ne.symm other), List.count_append]
      omega

end Mark

end Sub

end Regex
