import Mathlib.Data.List.Basic

set_option autoImplicit false

namespace Pages

variable {A : Type} {size count k : Nat} {rows : List A}

def slice (size : Nat) (rows : List A) (k : Nat) : List A := (rows.drop (k * size)).take size

def upTo (size : Nat) (rows : List A) (count : Nat) : List A :=
  (List.range count).flatMap (slice size rows)

theorem upTo_succ : upTo size rows (count + 1) = upTo size rows count ++ slice size rows count := by
  simp [upTo, List.range_succ]

theorem upTo_eq_take : upTo size rows count = rows.take (count * size) := by
  induction count with
  | zero => simp [upTo]
  | succ count ih => rw [upTo_succ, ih, slice, Nat.succ_mul, List.take_add]

theorem upTo_eq_self (all : rows.length ≤ count * size) : upTo size rows count = rows := by
  rw [upTo_eq_take, List.take_of_length_le all]

theorem slice_eq_nil (beyond : rows.length ≤ k * size) : slice size rows k = [] := by
  rw [slice, List.drop_of_length_le beyond, List.take_nil]

theorem slice_ne_nil (positive : 0 < size) (within : k * size < rows.length) :
    slice size rows k ≠ [] := by
  rw [slice, Ne, List.take_eq_nil_iff, List.drop_eq_nil_iff]
  omega

theorem mem_of_mem_slice {row : A} (member : row ∈ slice size rows k) : row ∈ rows :=
  List.mem_of_mem_drop (List.mem_of_mem_take member)

def pageCount (total size : Nat) : Nat := (total + size - 1) / size

theorem le_pageCount_mul (total : Nat) (positive : 0 < size) :
    total ≤ pageCount total size * size := by
  have split := Nat.div_add_mod (total + size - 1) size
  have below := Nat.mod_lt (total + size - 1) positive
  rw [Nat.mul_comm] at split
  unfold pageCount
  omega

theorem upTo_pageCount (positive : 0 < size) :
    upTo size rows (pageCount rows.length size) = rows :=
  upTo_eq_self (le_pageCount_mul _ positive)

end Pages
