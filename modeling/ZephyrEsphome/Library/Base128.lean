/- Digest: Base-128 numbers: their value, where they end, and the canonical sequence of a number. -/

import Mathlib.Algebra.Group.Nat.Defs
import Mathlib.Tactic.Common

set_option autoImplicit false
set_option relaxedAutoImplicit false

namespace ZephyrEsphome.Library.Base128

def value : List UInt8 → Nat
  | [] => 0
  | b :: bs => b.toNat % 128 + 128 * value bs

def Terminated : List UInt8 → Prop
  | [] => False
  | b :: bs => if b.toNat < 128 then bs = [] else Terminated bs

instance decidableTerminated : DecidablePred Terminated
  | [] => inferInstanceAs (Decidable False)
  | b :: bs => by
    have := decidableTerminated bs
    unfold Terminated
    infer_instance

@[simp] theorem not_terminated_nil : ¬ Terminated [] := id

theorem terminated_last {b : UInt8} (hb : b.toNat < 128) (bs : List UInt8) :
    Terminated (b :: bs) ↔ bs = [] := by
  simp [Terminated, hb]

theorem terminated_more {b : UInt8} (hb : ¬ b.toNat < 128) (bs : List UInt8) :
    Terminated (b :: bs) ↔ Terminated bs := by
  simp [Terminated, hb]

theorem Terminated.ne_nil {bs : List UInt8} (h : Terminated bs) : bs ≠ [] := by
  rintro rfl
  exact h

theorem Terminated.prefix_unique {bs : List UInt8} : ∀ {cs rest rest' : List UInt8},
    Terminated bs → Terminated cs → bs ++ rest = cs ++ rest' → bs = cs ∧ rest = rest' := by
  induction bs with
  | nil =>
    intro cs rest rest' h
    exact absurd h not_terminated_nil
  | cons b bs ih =>
    intro cs rest rest' h h' same
    obtain ⟨c, cs, rfl⟩ := List.exists_cons_of_ne_nil h'.ne_nil
    rw [List.cons_append, List.cons_append] at same
    rw [List.cons.injEq] at same
    obtain ⟨rfl, same⟩ := same
    by_cases last : b.toNat < 128
    · rw [terminated_last last] at h h'
      subst h h'
      exact ⟨rfl, same⟩
    · rw [terminated_more last] at h h'
      obtain ⟨rfl, tails⟩ := ih h h' same
      exact ⟨rfl, tails⟩

def encode (n : Nat) : List UInt8 :=
  if n < 128 then [UInt8.ofNat n]
  else UInt8.ofNat (n % 128 + 128) :: encode (n / 128)

theorem encode_small {n : Nat} (h : n < 128) : encode n = [UInt8.ofNat n] := by
  rw [encode, if_pos h]

theorem encode_large {n : Nat} (h : ¬ n < 128) :
    encode n = UInt8.ofNat (n % 128 + 128) :: encode (n / 128) := by
  rw [encode, if_neg h]

theorem toNat_ofNat_byte {n : Nat} (h : n < 256) : (UInt8.ofNat n).toNat = n := by
  rw [UInt8.toNat_ofNat']
  exact Nat.mod_eq_of_lt h

theorem encode_terminated (n : Nat) : Terminated (encode n) := by
  induction n using Nat.strongRecOn with
  | ind n ih =>
    by_cases h : n < 128
    · rw [encode_small h, terminated_last]
      rwa [toNat_ofNat_byte (by omega)]
    · rw [encode_large h, terminated_more]
      · exact ih (n / 128) (by omega)
      · rw [toNat_ofNat_byte (by omega)]
        omega

theorem value_encode (n : Nat) : value (encode n) = n := by
  induction n using Nat.strongRecOn with
  | ind n ih =>
    by_cases h : n < 128
    · rw [encode_small h]
      simp only [value, toNat_ofNat_byte (show n < 256 by omega)]
      omega
    · rw [encode_large h]
      simp only [value, ih (n / 128) (by omega),
        toNat_ofNat_byte (show n % 128 + 128 < 256 by omega)]
      omega

theorem Terminated.encode_shortest {bs : List UInt8} : Terminated bs →
    encode (value bs) = bs ∨ (encode (value bs)).length < bs.length := by
  induction bs with
  | nil =>
    intro h
    exact absurd h not_terminated_nil
  | cons b bs ih =>
    intro h
    have byte := b.toNat_lt
    by_cases last : b.toNat < 128
    · obtain rfl := (terminated_last last bs).mp h
      left
      have same : value [b] = b.toNat := by
        simp only [value]
        omega
      rw [same, encode_small last, UInt8.ofNat_toNat]
    · have ended := (terminated_more last bs).mp h
      by_cases zeros : value bs = 0
      · -- The groups after this one are zeros, which the canonical sequence leaves out.
        right
        have small : value (b :: bs) < 128 := by
          simp only [value]
          omega
        have some := List.length_pos_iff.mpr ended.ne_nil
        rw [encode_small small, List.length_singleton, List.length_cons]
        omega
      · have large : ¬ value (b :: bs) < 128 := by
          simp only [value]
          omega
        have first : value (b :: bs) % 128 + 128 = b.toNat := by
          simp only [value]
          omega
        have rest : value (b :: bs) / 128 = value bs := by
          simp only [value]
          omega
        rw [encode_large large, first, rest, UInt8.ofNat_toNat, List.length_cons,
          List.length_cons]
        rcases ih ended with same | shorter
        · left
          rw [same]
        · right
          omega

theorem length_encode_pos (n : Nat) : 0 < (encode n).length :=
  List.length_pos_iff.mpr (encode_terminated n).ne_nil

theorem length_encode_le (k n : Nat) (h : n < 128 ^ (k + 1)) : (encode n).length ≤ k + 1 := by
  induction k generalizing n with
  | zero =>
    rw [encode_small (by simpa using h)]
    simp
  | succ k ih =>
    by_cases hn : n < 128
    · rw [encode_small hn]
      simp
    · rw [encode_large hn, List.length_cons]
      have bound : n / 128 < 128 ^ (k + 1) := by
        rw [Nat.div_lt_iff_lt_mul (by decide)]
        rwa [Nat.pow_succ] at h
      have := ih (n / 128) bound
      omega

theorem length_encode_le_ten {n : Nat} (h : n < 2 ^ 64) : (encode n).length ≤ 10 :=
  length_encode_le 9 n (by omega)

theorem length_encode_le_five {n : Nat} (h : n < 2 ^ 32) : (encode n).length ≤ 5 :=
  length_encode_le 4 n (by omega)

end ZephyrEsphome.Library.Base128
