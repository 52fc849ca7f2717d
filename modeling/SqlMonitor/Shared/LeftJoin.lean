import Mathlib.Data.List.Nodup

set_option autoImplicit false

namespace LeftJoin

variable {A B : Type} (on : A → B → Bool)

def partners (right : List B) (a : A) : List B := right.filter (on a)

def joinRows (right : List B) (a : A) : List (A × Option B) :=
  match partners on right a with
  | [] => [(a, none)]
  | joined => joined.map fun b => (a, some b)

def leftJoin (left : List A) (right : List B) : List (A × Option B) :=
  left.flatMap (joinRows on right)

variable {on}

theorem map_fst_joinRows (right : List B) (a : A) :
    (joinRows on right a).map Prod.fst = List.replicate (max 1 (partners on right a).length) a := by
  cases joined : partners on right a with
  | nil => simp [joinRows, joined]
  | cons b rest =>
      simp [joinRows, joined, Function.comp_def, List.map_const', List.replicate_succ]

theorem filterMap_snd_joinRows (right : List B) (a : A) :
    (joinRows on right a).filterMap Prod.snd = partners on right a := by
  cases joined : partners on right a with
  | nil => simp [joinRows, joined]
  | cons b rest => simp [joinRows, joined, List.filterMap_map]

theorem mem_some_iff {left : List A} {right : List B} {a : A} {b : B} :
    (a, some b) ∈ leftJoin on left right ↔ a ∈ left ∧ b ∈ right ∧ on a b = true := by
  have inside (other : A) : (a, some b) ∈ joinRows on right other ↔ a = other ∧
      b ∈ partners on right a := by
    cases joined : partners on right other with
    | nil =>
        simp only [joinRows, joined, List.mem_singleton, Prod.mk.injEq, reduceCtorEq, and_false,
          false_iff]
        rintro ⟨rfl, member⟩
        simp [joined] at member
    | cons first rest =>
        simp only [joinRows, joined, List.mem_map, Prod.mk.injEq, Option.some.injEq]
        constructor
        · rintro ⟨_, member, rfl, rfl⟩
          exact ⟨rfl, joined ▸ member⟩
        · rintro ⟨rfl, member⟩
          exact ⟨b, joined ▸ member, rfl, rfl⟩
  simp [leftJoin, inside, partners]

theorem mem_left {left : List A} {right : List B} {pair : A × Option B}
    (joined : pair ∈ leftJoin on left right) : pair.1 ∈ left := by
  obtain ⟨a, member, inside⟩ := List.mem_flatMap.mp joined
  have kept := List.mem_map_of_mem (f := Prod.fst) inside
  rw [map_fst_joinRows] at kept
  exact List.eq_of_mem_replicate kept ▸ member

theorem map_fst_of_unique {left : List A} {right : List B}
    (unique : ∀ a ∈ left, (partners on right a).length ≤ 1) :
    (leftJoin on left right).map Prod.fst = left := by
  rw [leftJoin, List.map_flatMap]
  induction left with
  | nil => rfl
  | cons a rest ih =>
      have single : max 1 (partners on right a).length = 1 := Nat.max_eq_left (unique a (by simp))
      rw [List.flatMap_cons, map_fst_joinRows, single,
        ih (fun other member => unique other (List.mem_cons_of_mem _ member))]
      rfl

theorem filterMap_snd (left : List A) (right : List B) :
    (leftJoin on left right).filterMap Prod.snd = left.flatMap (partners on right) := by
  simp only [leftJoin, List.filterMap_flatMap, filterMap_snd_joinRows]

theorem partners_le_of_count {left : List A} {right : List B} [DecidableEq A] {a : A}
    (member : a ∈ left)
    (once : ((leftJoin on left right).map Prod.fst).count a ≤ 1) :
    (partners on right a).length ≤ 1 := by
  have rows : (joinRows on right a).Sublist (leftJoin on left right) :=
    List.sublist_flatten_of_mem (List.mem_map_of_mem member)
  have fewer := (rows.map Prod.fst).count_le a
  rw [map_fst_joinRows, List.count_replicate_self] at fewer
  omega

end LeftJoin
