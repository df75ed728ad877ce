/- Digest: The encoder writes the one shortest sequence that the decoder takes for its number. -/

import ZephyrEsphome.Rpc.Varint

set_option autoImplicit false
set_option relaxedAutoImplicit false

namespace ZephyrEsphome.Rpc.Canonical

open Kernel
open Library.Base128 (value encode value_encode)
open Varint

/-- The bytes that `varint_encode` stores, in order. -/
def written (val : UInt64) (out : Nat) : List UInt8 :=
  (varintEncode val (some out)).2.map Store.byte

/-- The decoder accepts what the socket brings as a whole, and stores `val`. -/
structure AcceptsWhole (value₀ : UInt64) (rx : Receiver) (val : UInt64) : Prop where
  plain : rx.schedule = []
  stored : (readDecodeVarint value₀ rx).1 = (0, val)
  whole : (readDecodeVarint value₀ rx).2.incoming = []

theorem bytes_storesAt (out i : Nat) (bytes : List UInt8) :
    (storesAt (some out) i bytes).map Store.byte = bytes := by
  rw [storesAt_eq, List.map_map]
  exact List.map_snd_zip (Nat.le_of_eq List.length_range'.symm)

theorem written_eq (val : UInt64) (out : Nat) : written val out = encode val.toNat := by
  rw [written, varintEncode_eq]
  exact bytes_storesAt out 0 (encode val.toNat)

theorem AcceptsWhole.number {value₀ val : UInt64} {rx : Receiver}
    (accepts : AcceptsWhole value₀ rx val) :
    IsVarint rx.incoming ∧ value rx.incoming = val.toNat := by
  obtain ⟨plain, stored, whole⟩ := accepts
  have zero : (readDecodeVarint value₀ rx).1.1 = 0 := by rw [stored]
  obtain ⟨g, rest, next, varint⟩ := readDecodeVarint_sound plain value₀ zero
  have run := readDecodeVarint_accepts plain next varint value₀
  rw [run] at stored whole
  obtain rfl : rest = [] := whole
  rw [List.append_nil] at next
  have same : UInt64.ofNat (value g) = val := (Prod.mk.inj stored).2
  rw [next, ← same, toNat_ofNat_word varint.value_lt]
  exact ⟨varint, rfl⟩

theorem accepts_encode {rx : Receiver} (plain : rx.schedule = []) {val : UInt64}
    (bytes : rx.incoming = encode val.toNat) (value₀ : UInt64) : AcceptsWhole value₀ rx val := by
  have next : rx.incoming = encode val.toNat ++ [] := by rw [bytes, List.append_nil]
  have run := readDecodeVarint_accepts plain next (isVarint_encode val.toNat_lt) value₀
  rw [value_encode, UInt64.ofNat_toNat] at run
  exact ⟨plain, by rw [run], by rw [run]⟩

/-- What `varint_encode` writes for a number is no longer than any sequence that is accepted as a
whole for it, as long only as itself, and is accepted for it. -/
structure IsCanonical (val : UInt64) : Prop where
  shortest : ∀ out value₀ rx, AcceptsWhole value₀ rx val →
    (written val out).length ≤ rx.incoming.length ∧
      ((written val out).length = rx.incoming.length ↔ written val out = rx.incoming)
  decoded : ∀ out value₀ rx, rx.schedule = [] → rx.incoming = written val out →
    AcceptsWhole value₀ rx val
  unique : ∀ out value₀ rx, AcceptsWhole value₀ rx val → rx.incoming ≠ written val out →
    (written val out).length < rx.incoming.length
  counted : ∀ out, (varintEncode val out).1 = (written val 0).length

theorem varintEncode_canonical (val : UInt64) : IsCanonical val := by
  have either : ∀ out value₀ rx, AcceptsWhole value₀ rx val →
      written val out = rx.incoming ∨ (written val out).length < rx.incoming.length := by
    intro out value₀ rx accepts
    obtain ⟨varint, same⟩ := accepts.number
    rw [written_eq, ← same]
    exact varint.terminated.encode_shortest
  constructor
  · intro out value₀ rx accepts
    rcases either out value₀ rx accepts with same | shorter
    · rw [same]
      exact ⟨Nat.le_refl _, fun _ => rfl, fun _ => rfl⟩
    · refine ⟨Nat.le_of_lt shorter, fun equal => absurd equal (Nat.ne_of_lt shorter), ?_⟩
      intro same
      rw [same]
  · intro out value₀ rx plain bytes
    rw [written_eq] at bytes
    exact accepts_encode plain bytes value₀
  · intro out value₀ rx accepts other
    rcases either out value₀ rx accepts with same | shorter
    · exact absurd same.symm other
    · exact shorter
  · intro out
    rw [written_eq, varintEncode_eq]

end ZephyrEsphome.Rpc.Canonical
