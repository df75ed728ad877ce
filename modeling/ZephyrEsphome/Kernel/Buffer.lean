/- Digest: Buffers of a fixed size, what is copied into them, and the strings in them. -/

import Mathlib.Data.List.TakeWhile
import ZephyrEsphome.Kernel.CString

set_option autoImplicit false
set_option relaxedAutoImplicit false

namespace ZephyrEsphome.Kernel

/-- `strlen`. -/
def strlen (str : CString) : Nat := str.bytes.length

def CString.stored (str : CString) : List UInt8 := str.bytes ++ [0]

theorem CString.length_stored (str : CString) : str.stored.length = strlen str + 1 := by
  rw [CString.stored, List.length_append, List.length_singleton, strlen]

/-- A buffer whose size a `uint16_t` can count. -/
structure Buffer where
  bytes : List UInt8
  nonempty : 0 < bytes.length
  small : bytes.length < UInt16.size
  deriving DecidableEq

namespace Buffer

def single (b : UInt8) : Buffer where
  bytes := [b]
  nonempty := Nat.zero_lt_one
  small := Nat.le_of_ble_eq_true rfl

def size (buffer : Buffer) : UInt16 := UInt16.ofNat buffer.bytes.length

theorem size_toNat (buffer : Buffer) : buffer.size.toNat = buffer.bytes.length := by
  rw [size, UInt16.toNat_ofNat']
  exact Nat.mod_eq_of_lt buffer.small

theorem length_overwritten (dest : Buffer) {src : List UInt8} {count : Nat}
    (inside : count ≤ src.length ∧ count ≤ dest.bytes.length) :
    (src.take count ++ dest.bytes.drop count).length = dest.bytes.length := by
  rw [List.length_append, List.length_take, List.length_drop]
  omega

/-- `memcpy` from `src`; beyond one of both it has no defined behaviour. -/
def memcpy (dest : Buffer) (src : List UInt8) (count : Nat) : Option Buffer :=
  if inside : count ≤ src.length ∧ count ≤ dest.bytes.length then
    some
      { bytes := src.take count ++ dest.bytes.drop count
        nonempty := Nat.lt_of_lt_of_eq dest.nonempty (dest.length_overwritten inside).symm
        small := Nat.lt_of_le_of_lt (Nat.le_of_eq (dest.length_overwritten inside)) dest.small }
  else none

def string (buffer : Buffer) : List UInt8 := buffer.bytes.takeWhile (· ≠ 0)

structure HoldsLongest (buffer : Buffer) (name : CString) : Prop where
  terminated : 0 ∈ buffer.bytes
  start : buffer.string <+: name.bytes
  longest : ∀ other, other <+: name.bytes → other.length + 1 ≤ buffer.bytes.length →
    other.length ≤ buffer.string.length

theorem holds_of_terminated {buffer : Buffer} {name : CString} {rest : List UInt8}
    (bytes : buffer.bytes = name.bytes ++ 0 :: rest) : HoldsLongest buffer name := by
  have whole : buffer.string = name.bytes := by
    have read : ∀ b ∈ name.bytes, decide (b ≠ 0) = true := by
      intro b member
      exact decide_eq_true fun zero => name.noNul (zero ▸ member)
    rw [string, bytes, List.takeWhile_append_of_pos read]
    simp
  constructor
  · rw [bytes]
    exact List.mem_append_right _ List.mem_cons_self
  · exact whole ▸ List.prefix_rfl
  · intro other start _
    rw [whole]
    exact start.length_le

/-- `filled` is `dest` after `strlen(src) + 1` bytes of `src` were copied, or as many as it has
room for. -/
def Copied (dest : Buffer) (src : CString) (filled : Buffer) : Prop :=
  filled.bytes = src.stored.take (min dest.bytes.length (strlen src + 1)) ++
    dest.bytes.drop (min dest.bytes.length (strlen src + 1))

theorem memcpy_string (dest : Buffer) (src : CString) :
    ∃ filled, dest.memcpy src.stored (min dest.bytes.length (strlen src + 1)) = some filled ∧
      Copied dest src filled := by
  have inside : min dest.bytes.length (strlen src + 1) ≤ src.stored.length ∧
      min dest.bytes.length (strlen src + 1) ≤ dest.bytes.length := by
    rw [src.length_stored]
    exact ⟨Nat.min_le_right _ _, Nat.min_le_left _ _⟩
  exact ⟨_, dif_pos inside, rfl⟩

theorem Copied.holdsLongest_iff {dest filled : Buffer} {src : CString}
    (copied : Copied dest src filled) :
    HoldsLongest filled src ↔ strlen src < dest.bytes.length := by
  constructor
  · intro holds
    by_contra long
    -- The whole buffer is then filled with bytes of the string, and none of these is a terminator.
    have cut : min dest.bytes.length (strlen src + 1) = dest.bytes.length := by omega
    have within : dest.bytes.length ≤ src.bytes.length := Nat.le_of_not_lt long
    rw [Copied, cut, List.drop_length, List.append_nil, CString.stored,
      List.take_append_of_le_length within] at copied
    have terminated := holds.terminated
    rw [copied] at terminated
    exact src.noNul (List.mem_of_mem_take terminated)
  · intro short
    have whole : min dest.bytes.length (strlen src + 1) = src.stored.length := by
      rw [src.length_stored]
      omega
    rw [Copied, whole, List.take_length, CString.stored, List.append_assoc,
      List.singleton_append] at copied
    exact holds_of_terminated copied

end Buffer

end ZephyrEsphome.Kernel
