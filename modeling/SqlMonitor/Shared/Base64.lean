import Mathlib.Data.List.GetD

set_option autoImplicit false

namespace Base64

def alphabet : List Char :=
  "ABCDEFGHIJKLMNOPQRSTUVWXYZabcdefghijklmnopqrstuvwxyz0123456789+/".toList

def digit (value : Nat) : Char := alphabet.getD value '='

def value? (c : Char) : Option Nat := alphabet.idxOf? c

def encode : List UInt8 → List Char
  | [] => []
  | [a] => [digit (a.toNat / 4), digit (a.toNat % 4 * 16), '=', '=']
  | [a, b] =>
    [digit (a.toNat / 4), digit (a.toNat % 4 * 16 + b.toNat / 16), digit (b.toNat % 16 * 4), '=']
  | a :: b :: c :: rest =>
    digit (a.toNat / 4) :: digit (a.toNat % 4 * 16 + b.toNat / 16) ::
      digit (b.toNat % 16 * 4 + c.toNat / 64) :: digit (c.toNat % 64) :: encode rest

/-- How many digits of a group were read, their bits that are not yet in a byte, and the padding. -/
structure Reader where
  position : Nat
  left : Nat
  pads : Nat
  bytes : List UInt8

def Reader.start (bytes : List UInt8) : Reader := ⟨0, 0, 0, bytes⟩

def Reader.take (reader : Reader) (value : Nat) : Reader :=
  match reader.position with
  | 0 => ⟨1, value, 0, reader.bytes⟩
  | 1 => ⟨2, value % 16, 0, reader.bytes ++ [UInt8.ofNat (reader.left * 4 + value / 16)]⟩
  | 2 => ⟨3, value % 4, 0, reader.bytes ++ [UInt8.ofNat (reader.left * 16 + value / 4)]⟩
  | _ => .start (reader.bytes ++ [UInt8.ofNat (reader.left * 64 + value)])

def read (reader : Reader) : List Char → Option (List UInt8)
  | [] => if reader.position = 0 then some reader.bytes else none
  | c :: rest =>
    if c = '=' then
      if reader.position < 2 then read reader rest
      else if 4 ≤ reader.position + (reader.pads + 1) then some reader.bytes
      else read { reader with pads := reader.pads + 1 } rest
    else
      match value? c with
      | none => read reader rest
      | some value => read (reader.take value) rest

def decode (text : List Char) : Option (List UInt8) := read (.start []) text

section RoundTrip

theorem value?_digit : ∀ value < 64, value? (digit value) = some value := by decide +kernel

theorem digit_ne_pad : ∀ value < 64, digit value ≠ '=' := by decide +kernel

theorem read_digit {value : Nat} (small : value < 64) (reader : Reader) (rest : List Char) :
    read reader (digit value :: rest) = read (reader.take value) rest := by
  rw [read, if_neg (digit_ne_pad value small), value?_digit value small]

theorem ofNat_of_eq {byte : UInt8} {value : Nat} (same : value = byte.toNat) :
    UInt8.ofNat value = byte := by
  rw [same]
  exact UInt8.ofNat_toNat

theorem read_first (a : UInt8) (low : Nat) (small : low < 16) (bytes : List UInt8)
    (rest : List Char) :
    read (.start bytes) (digit (a.toNat / 4) :: digit (a.toNat % 4 * 16 + low) :: rest) =
      read ⟨2, low, 0, bytes ++ [a]⟩ rest := by
  have bound := a.toNat_lt
  have byte : UInt8.ofNat (a.toNat / 4 * 4 + (a.toNat % 4 * 16 + low) / 16) = a :=
    ofNat_of_eq (by omega)
  have kept : (a.toNat % 4 * 16 + low) % 16 = low := by omega
  rw [read_digit (by omega), read_digit (by omega)]
  simp only [Reader.take, Reader.start, byte, kept]

theorem read_second (b : UInt8) (low : Nat) (small : low < 4) (bytes : List UInt8)
    (rest : List Char) :
    read ⟨2, b.toNat / 16, 0, bytes⟩ (digit (b.toNat % 16 * 4 + low) :: rest) =
      read ⟨3, low, 0, bytes ++ [b]⟩ rest := by
  have bound := b.toNat_lt
  have byte : UInt8.ofNat (b.toNat / 16 * 16 + (b.toNat % 16 * 4 + low) / 4) = b :=
    ofNat_of_eq (by omega)
  have kept : (b.toNat % 16 * 4 + low) % 4 = low := by omega
  rw [read_digit (by omega)]
  simp only [Reader.take, byte, kept]

theorem read_third (c : UInt8) (bytes : List UInt8) (rest : List Char) :
    read ⟨3, c.toNat / 64, 0, bytes⟩ (digit (c.toNat % 64) :: rest) =
      read (.start (bytes ++ [c])) rest := by
  have byte : UInt8.ofNat (c.toNat / 64 * 64 + c.toNat % 64) = c := ofNat_of_eq (by omega)
  rw [read_digit (by omega)]
  simp only [Reader.take, byte]

theorem read_encode (text bytes : List UInt8) :
    read (.start bytes) (encode text) = some (bytes ++ text) := by
  induction text using encode.induct generalizing bytes with
  | case1 => simp [encode, read, Reader.start]
  | case2 a =>
      have first := read_first a 0 (by omega) bytes ['=', '=']
      rw [Nat.add_zero] at first
      rw [encode, first]
      simp [read]
  | case3 a b =>
      have bound := b.toNat_lt
      have second := read_second b 0 (by omega) (bytes ++ [a]) ['=']
      rw [Nat.add_zero] at second
      rw [encode, read_first a _ (by omega), second]
      simp [read]
  | case4 a b c rest ih =>
      have small := b.toNat_lt
      have bound := c.toNat_lt
      rw [encode, read_first a _ (by omega), read_second b _ (by omega), read_third, ih]
      simp

theorem digit_mem (value : Nat) : digit value ∈ '=' :: alphabet := by
  unfold digit
  by_cases inside : value < alphabet.length
  · rw [List.getD_eq_getElem _ _ inside]
    exact List.mem_cons_of_mem _ (List.getElem_mem inside)
  · rw [List.getD_eq_default _ _ (Nat.le_of_not_lt inside)]
    exact List.mem_cons_self ..

theorem mem_of_mem_encode {c : Char} {text : List UInt8} (member : c ∈ encode text) :
    c ∈ '=' :: alphabet := by
  induction text using encode.induct with
  | case1 => simp [encode] at member
  | case2 a =>
      simp only [encode, List.mem_cons, List.not_mem_nil, or_false] at member
      rcases member with rfl | rfl | rfl | rfl
      · exact digit_mem _
      · exact digit_mem _
      · exact List.mem_cons_self ..
      · exact List.mem_cons_self ..
  | case3 a b =>
      simp only [encode, List.mem_cons, List.not_mem_nil, or_false] at member
      rcases member with rfl | rfl | rfl | rfl
      · exact digit_mem _
      · exact digit_mem _
      · exact digit_mem _
      · exact List.mem_cons_self ..
  | case4 a b c rest ih =>
      simp only [encode, List.mem_cons] at member
      rcases member with rfl | rfl | rfl | rfl | later
      · exact digit_mem _
      · exact digit_mem _
      · exact digit_mem _
      · exact digit_mem _
      · exact ih later

theorem decode_encode (text : List UInt8) : decode (encode text) = some text :=
  read_encode text []

end RoundTrip

end Base64
