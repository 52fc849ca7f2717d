import Mathlib.Data.List.Sort
import Mathlib.Order.Defs.LinearOrder

set_option autoImplicit false

variable {A K : Type} [LinearOrder K]

def sortAscending (key : A → K) (rows : List A) : List A :=
  rows.insertionSort (fun row later => key row ≤ key later)

def sortDescending (key : A → K) (rows : List A) : List A :=
  rows.insertionSort (fun row later => key later ≤ key row)

section Perm

variable (key : A → K) (rows : List A)

theorem sortAscending_perm : (sortAscending key rows).Perm rows := List.perm_insertionSort _ rows

theorem sortDescending_perm : (sortDescending key rows).Perm rows := List.perm_insertionSort _ rows

@[simp] theorem mem_sortAscending {row : A} : row ∈ sortAscending key rows ↔ row ∈ rows :=
  (sortAscending_perm key rows).mem_iff

@[simp] theorem mem_sortDescending {row : A} : row ∈ sortDescending key rows ↔ row ∈ rows :=
  (sortDescending_perm key rows).mem_iff

@[simp] theorem length_sortAscending : (sortAscending key rows).length = rows.length :=
  (sortAscending_perm key rows).length_eq

@[simp] theorem length_sortDescending : (sortDescending key rows).length = rows.length :=
  (sortDescending_perm key rows).length_eq

end Perm

section Order

variable (key : A → K) (rows : List A)

theorem ascending_total : Std.Total fun row later : A => key row ≤ key later :=
  ⟨fun row later => le_total (key row) (key later)⟩

theorem ascending_trans : IsTrans A fun row later => key row ≤ key later :=
  ⟨fun _ _ _ first second => first.trans second⟩

theorem descending_total : Std.Total fun row later : A => key later ≤ key row :=
  ⟨fun row later => le_total (key later) (key row)⟩

theorem descending_trans : IsTrans A fun row later => key later ≤ key row :=
  ⟨fun _ _ _ first second => second.trans first⟩

theorem sortAscending_pairwise :
    (sortAscending key rows).Pairwise (fun row later => key row ≤ key later) := by
  have total := ascending_total key
  have transitive := ascending_trans key
  exact List.pairwise_insertionSort _ rows

theorem sortDescending_pairwise :
    (sortDescending key rows).Pairwise (fun row later => key later ≤ key row) := by
  have total := descending_total key
  have transitive := descending_trans key
  exact List.pairwise_insertionSort _ rows

@[simp] theorem sortAscending_sortAscending :
    sortAscending key (sortAscending key rows) = sortAscending key rows :=
  List.Pairwise.insertionSort_eq (sortAscending_pairwise key rows)

variable {key rows}

theorem le_of_head?_sortDescending {first row : A}
    (found : (sortDescending key rows).head? = some first) (member : row ∈ rows) :
    key row ≤ key first := by
  have ordered := sortDescending_pairwise key rows
  rw [List.eq_cons_of_mem_head? found] at ordered
  have inside : row ∈ sortDescending key rows := (mem_sortDescending key rows).mpr member
  rw [List.eq_cons_of_mem_head? found] at inside
  rcases List.mem_cons.mp inside with rfl | later
  · exact le_rfl
  · exact (List.pairwise_cons.mp ordered).1 row later

theorem mem_of_head?_sortDescending {first : A}
    (found : (sortDescending key rows).head? = some first) : first ∈ rows :=
  (mem_sortDescending key rows).mp (List.mem_of_mem_head? found)

theorem head?_sortDescending_eq_none : (sortDescending key rows).head? = none ↔ rows = [] := by
  rw [List.head?_eq_none_iff, ← List.length_eq_zero_iff, length_sortDescending,
    List.length_eq_zero_iff]

end Order

section Threshold

variable {r : A → A → Prop} [DecidableRel r]

theorem orderedInsert_append_left {a : A} {front back : List A} (before : ∀ b ∈ back, r a b) :
    (front ++ back).orderedInsert r a = front.orderedInsert r a ++ back := by
  induction front with
  | nil =>
      cases back with
      | nil => rfl
      | cons b rest => simp [before b (List.mem_cons_self ..)]
  | cons first rest ih =>
      by_cases here : r a first
      · simp [here]
      · simp [here, ih]

theorem orderedInsert_append_right {a : A} {front back : List A} (after : ∀ b ∈ front, ¬ r a b) :
    (front ++ back).orderedInsert r a = front ++ back.orderedInsert r a := by
  induction front with
  | nil => rfl
  | cons first rest ih =>
      have here : ¬ r a first := after first (List.mem_cons_self ..)
      have later : ∀ b ∈ rest, ¬ r a b := fun b member => after b (List.mem_cons_of_mem _ member)
      simp [here, ih later]

theorem insertionSort_split (low : A → Bool)
    (before : ∀ a b, low a = true → low b = false → r a b)
    (after : ∀ a b, low a = false → low b = true → ¬ r a b) (rows : List A) :
    rows.insertionSort r =
      (rows.filter low).insertionSort r ++ (rows.filter (fun row => ! low row)).insertionSort r := by
  induction rows with
  | nil => rfl
  | cons row rest ih =>
      rw [List.insertionSort_cons, ih]
      cases side : low row with
      | true =>
          rw [List.filter_cons_of_pos side, List.filter_cons_of_neg (by simp [side]),
            List.insertionSort_cons]
          refine orderedInsert_append_left ?_
          intro b member
          have high : low b = false := by
            simpa using (List.mem_filter.mp ((List.mem_insertionSort r).mp member)).2
          exact before row b side high
      | false =>
          rw [List.filter_cons_of_neg (by simp [side]), List.filter_cons_of_pos (by simp [side]),
            List.insertionSort_cons]
          refine orderedInsert_append_right ?_
          intro b member
          exact after row b side (List.mem_filter.mp ((List.mem_insertionSort r).mp member)).2

theorem sortAscending_split (key : A → K) (low : A → Bool)
    (apart : ∀ a b, low a = true → low b = false → key a < key b) (rows : List A) :
    sortAscending key rows =
      sortAscending key (rows.filter low) ++
        sortAscending key (rows.filter (fun row => ! low row)) :=
  insertionSort_split (r := fun row later => key row ≤ key later) low
    (fun a b small large => (apart a b small large).le)
    (fun a b large small => not_le_of_gt (apart b a small large)) rows

end Threshold

section Filter

variable {r : A → A → Prop} [DecidableRel r]

theorem filter_orderedInsert [IsTrans A r] {row : A} {rows : List A} (sorted : rows.Pairwise r)
    (p : A → Bool) :
    (rows.orderedInsert r row).filter p =
      if p row then (rows.filter p).orderedInsert r row else rows.filter p := by
  induction rows with
  | nil => cases kept : p row <;> simp [kept]
  | cons first rest ih =>
      obtain ⟨before, later⟩ := List.pairwise_cons.mp sorted
      by_cases here : r row first
      · have front : ∀ b ∈ (first :: rest).filter p, r row b := by
          intro b member
          rcases List.mem_cons.mp (List.mem_of_mem_filter member) with rfl | behind
          · exact here
          · exact IsTrans.trans row first b here (before b behind)
        have inserted : ((first :: rest).filter p).orderedInsert r row =
            row :: (first :: rest).filter p := @orderedInsert_append_left A r _ row [] _ front
        rw [List.orderedInsert_cons, if_pos here, inserted, List.filter_cons]
      · rw [List.orderedInsert_cons, if_neg here, List.filter_cons, ih later, List.filter_cons]
        cases kept : p first with
        | true =>
            simp only [if_true, List.orderedInsert_cons, if_neg here]
            cases p row <;> rfl
        | false => rfl

theorem filter_insertionSort [Std.Total r] [IsTrans A r] (p : A → Bool) (rows : List A) :
    (rows.insertionSort r).filter p = (rows.filter p).insertionSort r := by
  induction rows with
  | nil => rfl
  | cons row rest ih =>
      rw [List.insertionSort_cons, filter_orderedInsert (List.pairwise_insertionSort r rest), ih,
        List.filter_cons]
      cases p row <;> rfl

variable (key : A → K) (rows : List A)

theorem filter_sortAscending (p : A → Bool) :
    (sortAscending key rows).filter p = sortAscending key (rows.filter p) := by
  have total := ascending_total key
  have transitive := ascending_trans key
  exact filter_insertionSort p rows

theorem filter_sortDescending (p : A → Bool) :
    (sortDescending key rows).filter p = sortDescending key (rows.filter p) := by
  have total := descending_total key
  have transitive := descending_trans key
  exact filter_insertionSort p rows

variable {rows} in
theorem sortAscending_congr {J : Type} [LinearOrder J] {other : A → J}
    (agree : ∀ row ∈ rows, ∀ later ∈ rows, key row ≤ key later ↔ other row ≤ other later) :
    sortAscending key rows = sortAscending other rows := by
  have mapped := List.map_insertionSort (fun row later => key row ≤ key later)
    (fun row later => other row ≤ other later) id rows agree
  simpa [sortAscending] using mapped

end Filter
