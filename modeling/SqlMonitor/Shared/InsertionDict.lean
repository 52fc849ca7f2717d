import Mathlib.Data.List.Nodup
import Mathlib.Data.List.Induction

set_option autoImplicit false

variable {K V A : Type} [DecidableEq K]

structure InsertionDict (K V : Type) where
  entries : List (K × V)
  distinct : (entries.map Prod.fst).Nodup

namespace InsertionDict

def empty : InsertionDict K V := ⟨[], List.nodup_nil⟩

def keys (dict : InsertionDict K V) : List K := dict.entries.map Prod.fst

def values (dict : InsertionDict K V) : List V := dict.entries.map Prod.snd

def get? (dict : InsertionDict K V) (key : K) : Option V := dict.entries.lookup key

def setEntries (key : K) (value : V) : List (K × V) → List (K × V)
  | [] => [(key, value)]
  | entry :: rest =>
    if entry.1 = key then (key, value) :: rest else entry :: setEntries key value rest

theorem fst_setEntries (key : K) (value : V) (entries : List (K × V)) :
    (setEntries key value entries).map Prod.fst =
      if key ∈ entries.map Prod.fst then entries.map Prod.fst else entries.map Prod.fst ++ [key] := by
  induction entries with
  | nil => simp [setEntries]
  | cons entry rest ih =>
      by_cases same : entry.1 = key
      · simp [setEntries, same]
      · by_cases later : key ∈ rest.map Prod.fst <;>
          simp_all [setEntries, Ne.symm same]

def set (dict : InsertionDict K V) (key : K) (value : V) : InsertionDict K V where
  entries := setEntries key value dict.entries
  distinct := by
    rw [fst_setEntries]
    split
    · exact dict.distinct
    next absent =>
      exact List.nodup_append.mpr ⟨dict.distinct, List.nodup_singleton _, by
        intro a member b single
        rw [List.mem_singleton.mp single]
        exact fun same => absent (same ▸ member)⟩

def erase (dict : InsertionDict K V) (key : K) : InsertionDict K V where
  entries := dict.entries.filter (fun entry => entry.1 ≠ key)
  distinct := dict.distinct.sublist (List.filter_sublist.map _)

def ofList (entries : List (K × V)) : InsertionDict K V :=
  entries.foldl (fun dict entry => dict.set entry.1 entry.2) empty

-- `dict.update`
def update (dict other : InsertionDict K V) : InsertionDict K V :=
  other.entries.foldl (fun dict entry => dict.set entry.1 entry.2) dict

def mapValues {W : Type} (convert : V → W) (dict : InsertionDict K V) : InsertionDict K W where
  entries := dict.entries.map fun entry => (entry.1, convert entry.2)
  distinct := by simpa [Function.comp_def] using dict.distinct

def groupBy (key : A → K) (elements : List A) : InsertionDict K (List A) :=
  elements.foldl (fun dict element =>
    dict.set (key element) ((dict.get? (key element)).getD [] ++ [element])) empty

@[simp] theorem get?_empty (key : K) : (empty : InsertionDict K V).get? key = none := rfl

omit [DecidableEq K] in
theorem keys_nodup (dict : InsertionDict K V) : dict.keys.Nodup := dict.distinct

theorem lookup_cons (key : K) (entry : K × V) (rest : List (K × V)) :
    (entry :: rest).lookup key = if key = entry.1 then some entry.2 else rest.lookup key := by
  obtain ⟨first, value⟩ := entry
  rw [List.lookup_cons]
  by_cases same : key = first
  · simp [same]
  · simp [same, beq_eq_false_iff_ne.mpr same]

theorem lookup_eq_some_iff (entries : List (K × V)) (distinct : (entries.map Prod.fst).Nodup)
    (key : K) (value : V) : entries.lookup key = some value ↔ (key, value) ∈ entries := by
  induction entries with
  | nil => simp
  | cons entry rest ih =>
      obtain ⟨fresh, tail⟩ := List.nodup_cons.mp distinct
      by_cases same : key = entry.1
      · have outside : (key, value) ∉ rest := fun member =>
          fresh (List.mem_map.mpr ⟨_, member, same⟩)
        rw [lookup_cons, if_pos same, List.mem_cons, or_iff_left outside, Option.some.injEq]
        constructor
        · intro equal
          exact Prod.ext same equal.symm
        · intro equal
          rw [← equal]
      · rw [lookup_cons, if_neg same, ih tail, List.mem_cons]
        constructor
        · exact Or.inr
        · rintro (equal | member)
          · exact absurd (congrArg Prod.fst equal) same
          · exact member

theorem get?_eq_some_iff (dict : InsertionDict K V) (key : K) (value : V) :
    dict.get? key = some value ↔ (key, value) ∈ dict.entries :=
  lookup_eq_some_iff dict.entries dict.distinct key value

theorem mem_keys_iff (dict : InsertionDict K V) (key : K) :
    key ∈ dict.keys ↔ ∃ value, dict.get? key = some value := by
  simp [keys, get?_eq_some_iff]

theorem get?_eq_none_iff (dict : InsertionDict K V) (key : K) :
    dict.get? key = none ↔ key ∉ dict.keys := by
  rw [mem_keys_iff, not_exists, Option.eq_none_iff_forall_ne_some]

theorem mem_values_iff (dict : InsertionDict K V) (value : V) :
    value ∈ dict.values ↔ ∃ key, dict.get? key = some value := by
  simp [values, get?_eq_some_iff]

theorem keys_set (dict : InsertionDict K V) (key : K) (value : V) :
    (dict.set key value).keys = if key ∈ dict.keys then dict.keys else dict.keys ++ [key] :=
  fst_setEntries key value dict.entries

theorem lookup_setEntries (key other : K) (value : V) (entries : List (K × V)) :
    (setEntries key value entries).lookup other =
      if other = key then some value else entries.lookup other := by
  induction entries with
  | nil => simp [setEntries, lookup_cons]
  | cons entry rest ih =>
      by_cases hit : entry.1 = key
      · by_cases same : other = key <;> simp [setEntries, lookup_cons, hit, same]
      · by_cases first : other = entry.1
        · simp [setEntries, lookup_cons, hit, first]
        · simp [setEntries, lookup_cons, hit, first, ih]

@[simp] theorem get?_set (dict : InsertionDict K V) (key other : K) (value : V) :
    (dict.set key value).get? other = if other = key then some value else dict.get? other :=
  lookup_setEntries key other value dict.entries

theorem get?_foldl_set (pairs : List (K × V)) (dict : InsertionDict K V) (key : K) :
    (pairs.foldl (fun dict entry => dict.set entry.1 entry.2) dict).get? key =
      ((pairs.filter (fun entry => entry.1 = key)).getLast?.map Prod.snd).or (dict.get? key) := by
  induction pairs using List.reverseRecOn with
  | nil => simp
  | append_singleton pairs entry ih =>
      rw [List.foldl_append, List.foldl_cons, List.foldl_nil, get?_set]
      by_cases same : entry.1 = key
      · simp [same]
      · rw [if_neg (Ne.symm same), ih]
        simp [same]

theorem get?_update_of_absent {dict other : InsertionDict K V} {key : K}
    (absent : key ∉ other.keys) : (dict.update other).get? key = dict.get? key := by
  have nothing : other.entries.filter (fun entry => entry.1 = key) = [] := by
    refine List.filter_eq_nil_iff.mpr fun entry member same => absent ?_
    exact List.mem_map.mpr ⟨entry, member, of_decide_eq_true same⟩
  rw [update, get?_foldl_set, nothing]
  rfl

@[simp] theorem get?_mapValues {W : Type} (convert : V → W) (dict : InsertionDict K V) (key : K) :
    (dict.mapValues convert).get? key = (dict.get? key).map convert := by
  simp only [get?, mapValues]
  induction dict.entries with
  | nil => rfl
  | cons entry rest ih =>
      simp only [List.map_cons, lookup_cons, ih]
      split <;> rfl

theorem get?_ofList (pairs : List (K × V)) (key : K) :
    (ofList pairs).get? key =
      (pairs.filter (fun entry => entry.1 = key)).getLast?.map Prod.snd := by
  rw [ofList, get?_foldl_set]
  simp

theorem mem_of_get?_ofList {pairs : List (K × V)} {key : K} {value : V}
    (found : (ofList pairs).get? key = some value) : (key, value) ∈ pairs := by
  rw [get?_ofList, Option.map_eq_some_iff] at found
  obtain ⟨entry, last, rfl⟩ := found
  obtain ⟨member, same⟩ := List.mem_filter.mp (List.mem_of_getLast? last)
  obtain rfl := of_decide_eq_true same
  exact member

theorem get?_ofList_isSome {pairs : List (K × V)} {entry : K × V} (member : entry ∈ pairs) :
    ∃ value, (ofList pairs).get? entry.1 = some value := by
  rw [get?_ofList]
  cases last : (pairs.filter fun other => other.1 = entry.1).getLast? with
  | some other => exact ⟨other.2, rfl⟩
  | none =>
      have nothing := List.filter_eq_nil_iff.mp (List.getLast?_eq_none_iff.mp last) entry member
      simp at nothing

theorem find?_keys_ofList (pairs : List (K × V)) (test : K → Bool) :
    (ofList pairs).keys.find? test = (pairs.map Prod.fst).find? test := by
  induction pairs using List.reverseRecOn with
  | nil => rfl
  | append_singleton pairs entry ih =>
      have step : ofList (pairs ++ [entry]) = (ofList pairs).set entry.1 entry.2 := by simp [ofList]
      rw [step, keys_set, List.map_append, List.find?_append, ← ih]
      split
      next present =>
        cases first : (ofList pairs).keys.find? test with
        | some key => rfl
        | none =>
            have fails := List.find?_eq_none.mp first entry.1 present
            simp [fails]
      next => rw [List.find?_append]; rfl

theorem setEntries_of_absent (key : K) (value : V) (entries : List (K × V))
    (absent : key ∉ entries.map Prod.fst) :
    setEntries key value entries = entries ++ [(key, value)] := by
  induction entries with
  | nil => rfl
  | cons entry rest ih =>
      simp only [List.map_cons, List.mem_cons, not_or] at absent
      simp [setEntries, Ne.symm absent.1, ih absent.2]

theorem entries_set_of_absent (dict : InsertionDict K V) (key : K) (value : V)
    (absent : key ∉ dict.keys) :
    (dict.set key value).entries = dict.entries ++ [(key, value)] :=
  setEntries_of_absent key value dict.entries absent

theorem filter_key_perm (key : K) (value : V) (entries : List (K × V))
    (distinct : (entries.map Prod.fst).Nodup)
    (present : (key, value) ∈ entries) :
    entries.Perm ((key, value) :: entries.filter (fun entry => entry.1 ≠ key)) := by
  induction entries with
  | nil => simp at present
  | cons entry rest ih =>
      obtain ⟨fresh, tail⟩ := List.nodup_cons.mp distinct
      rcases List.mem_cons.mp present with rfl | later
      · have others : rest.filter (fun entry => entry.1 ≠ key) = rest := by
          rw [List.filter_eq_self]
          intro other member
          have apart : other.1 ≠ key := fun same => fresh (List.mem_map.mpr ⟨other, member, same⟩)
          simpa using apart
        rw [List.filter_cons_of_neg (by simp), others]
      · have apart : entry.1 ≠ key := fun same => fresh (List.mem_map.mpr ⟨_, later, same.symm⟩)
        rw [List.filter_cons_of_pos (by simpa using apart)]
        exact ((ih tail later).cons entry).trans (List.Perm.swap ..)

theorem entries_perm_erase (dict : InsertionDict K V) (key : K) (value : V)
    (found : dict.get? key = some value) :
    dict.entries.Perm ((key, value) :: (dict.erase key).entries) :=
  filter_key_perm key value dict.entries dict.distinct ((get?_eq_some_iff dict key value).mp found)

theorem mem_erase_iff (dict : InsertionDict K V) (key : K) (entry : K × V) :
    entry ∈ (dict.erase key).entries ↔ entry ∈ dict.entries ∧ entry.1 ≠ key := by
  simp [erase]

theorem groupBy_append (key : A → K) (elements : List A) (element : A) :
    groupBy key (elements ++ [element]) =
      (groupBy key elements).set (key element)
        (((groupBy key elements).get? (key element)).getD [] ++ [element]) := by
  simp [groupBy]

theorem get?_groupBy (key : A → K) (elements : List A) (group : K) :
    (groupBy key elements).get? group =
      if group ∈ elements.map key then some (elements.filter (fun element => key element = group))
      else none := by
  induction elements using List.reverseRecOn generalizing group with
  | nil => simp [groupBy]
  | append_singleton elements element ih =>
      rw [groupBy_append, get?_set]
      by_cases same : group = key element
      · subst same
        rw [if_pos rfl, ih]
        by_cases present : key element ∈ elements.map key
        · simp [present]
        · have none_kept : elements.filter (fun other => key other = key element) = [] := by
            rw [List.filter_eq_nil_iff]
            intro other member equal
            exact present (List.mem_map.mpr ⟨other, member, by simpa using equal⟩)
          simp [present, none_kept]
      · rw [if_neg same, ih]
        by_cases present : group ∈ elements.map key <;>
          simp [present, same, Ne.symm same]

theorem flatten_setEntries (key : K) (group : List A) (element : A) (entries : List (K × List A))
    (current : (entries.lookup key).getD [] = group) :
    ((setEntries key (group ++ [element]) entries).map Prod.snd).flatten.Perm
      ((entries.map Prod.snd).flatten ++ [element]) := by
  induction entries with
  | nil => simp_all [setEntries]
  | cons entry rest ih =>
      rw [lookup_cons] at current
      by_cases same : key = entry.1
      · rw [if_pos same, Option.getD_some] at current
        simp only [setEntries, same, if_true, List.map_cons, List.flatten_cons, ← current,
          List.append_assoc]
        exact List.perm_append_comm.append_left entry.2
      · rw [if_neg same] at current
        simp only [setEntries, if_neg (Ne.symm same), List.map_cons, List.flatten_cons,
          List.append_assoc]
        exact (ih current).append_left entry.2

theorem flatten_groupBy_perm (key : A → K) (elements : List A) :
    (groupBy key elements).values.flatten.Perm elements := by
  induction elements using List.reverseRecOn with
  | nil => rfl
  | append_singleton elements element ih =>
      rw [groupBy_append]
      exact (flatten_setEntries _ _ element _ rfl).trans (ih.append_right _)

end InsertionDict
