/- Digest: The decoder accepts exactly the 64-bit numbers, within ten bytes and 64-bit shifts. -/

import ZephyrEsphome.Rpc.Varint

set_option autoImplicit false
set_option relaxedAutoImplicit false

namespace ZephyrEsphome.Rpc.VarintBounds

open Kernel
open Library.Base128 (value Terminated toNat_ofNat_byte)
open Varint

/-- A run that does not return 0 returned one of two errors, left the caller's variable as it was
and took no more than the bytes it had room for. -/
structure Rejects (room : Nat) (value₀ : UInt64) (rx : Receiver)
    (run : (Int × UInt64) × Receiver) : Prop where
  error : run.1.1 = -eoverflow ∨ run.1.1 = -eof
  kept : run.1.2 = value₀
  taken : ∃ bytes, rx.incoming = bytes ++ run.2.incoming ∧ bytes.length ≤ room

private theorem loop_rejects (bs : List UInt8) : ∀ (rx : Receiver) {k acc : Nat} (val : UInt8)
    (value₀ : UInt64), rx.schedule = [] → rx.incoming = bs → k ≤ 9 → acc < 128 ^ k →
    (readDecodeVarintLoop val (UInt64.ofNat acc) (UInt8.ofNat (7 * k)) value₀ rx).1.1 ≠ 0 →
    Rejects (10 - k) value₀ rx
      (readDecodeVarintLoop val (UInt64.ofNat acc) (UInt8.ofNat (7 * k)) value₀ rx) := by
  induction bs with
  | nil =>
    intro rx k acc val value₀ plain ended hk hacc nonzero
    rw [loop_nothing (recv_end plain ended)]
    exact ⟨Or.inr rfl, rfl, [], rfl, Nat.zero_le _⟩
  | cons b bs ih =>
    intro rx k acc val value₀ plain next hk hacc nonzero
    rw [loop_call (recv_byte plain next) one_ne_zero hk hacc rfl, List.headD_cons] at nonzero ⊢
    by_cases guard : k = 9 ∧ 2 ≤ b.toNat
    · rw [if_pos guard]
      exact ⟨Or.inl rfl, rfl, [b], next, by rw [List.length_singleton]; omega⟩
    · rw [if_neg guard] at nonzero ⊢
      by_cases last : b.toNat < 128
      · rw [if_pos last] at nonzero
        exact absurd rfl nonzero
      · rw [if_neg last] at nonzero ⊢
        have below : k + 1 ≤ 9 := by
          by_contra top
          apply guard
          omega
        obtain ⟨error, kept, bytes, split, room⟩ :=
          ih { rx with incoming := bs, calls := rx.calls + 1 } b value₀ plain rfl below
            (next_bound hacc b) nonzero
        refine ⟨error, kept, b :: bytes, ?_, ?_⟩
        · rw [next, List.cons_append]
          exact congrArg (b :: ·) split
        · rw [List.length_cons]
          omega

theorem readDecodeVarint_rejects {rx : Receiver} (plain : rx.schedule = []) (value₀ : UInt64)
    (nonzero : (readDecodeVarint value₀ rx).1.1 ≠ 0) :
    Rejects 10 value₀ rx (readDecodeVarint value₀ rx) :=
  loop_rejects rx.incoming rx (rx.residue rx.calls) value₀ plain rfl (show 0 ≤ 9 by decide)
    (show 0 < 128 ^ 0 by decide) nonzero

/-- The loop of `read_decode_varint`, with the amounts of the shifts it makes. -/
def shiftingLoop (val : UInt8) (result : UInt64) (bitpos : UInt8) (value : UInt64)
    (rx : Receiver) : ((Int × UInt64) × Receiver) × List UInt64 :=
  let ((ret, got), rx) := rx.zsockRecv 1
  let val := got.headD val
  if ret = 0 then (((-eof, value), rx), [])
  else if 63 ≤ bitpos ∧ val &&& 0xFE ≠ 0 then (((-eoverflow, value), rx), [])
  else
    let amount := bitpos.toUInt64
    let result := result ||| (val &&& 0x7F).toUInt64 <<< amount
    if val &&& 0x80 ≠ 0 then
      let (run, amounts) := shiftingLoop val result (bitpos + 7) value rx
      (run, amount :: amounts)
    else (((0, result), rx), [amount])
termination_by 70 - bitpos.toNat
decreasing_by
  rename_i guard more
  have low := below_top guard more
  rw [UInt8.toNat_add]
  simp only [UInt8.reduceToNat]
  omega

/-- `read_decode_varint`, with the amounts of the shifts it makes. -/
def shiftingVarint (value : UInt64) (rx : Receiver) :
    ((Int × UInt64) × Receiver) × List UInt64 :=
  shiftingLoop (rx.residue rx.calls) 0 0 value rx

private def Bounded (bitpos : UInt8) : Prop :=
  ∀ (val : UInt8) (result value : UInt64) (rx : Receiver),
    (shiftingLoop val result bitpos value rx).1 =
        readDecodeVarintLoop val result bitpos value rx ∧
      ∀ amount ∈ (shiftingLoop val result bitpos value rx).2, amount.toNat < 64

private theorem bounded_round {bitpos : UInt8} (top : bitpos.toNat ≤ 63)
    (later : bitpos.toNat < 63 → Bounded (bitpos + 7)) : Bounded bitpos := by
  intro val result value rx
  have shift : bitpos.toUInt64.toNat < 64 := by
    rw [UInt8.toNat_toUInt64]
    omega
  obtain ⟨⟨ret, got⟩, rx', call⟩ : ∃ returned rx', rx.zsockRecv 1 = (returned, rx') :=
    ⟨_, _, rfl⟩
  rw [shiftingLoop, readDecodeVarintLoop, call]
  dsimp only
  by_cases nothing : ret = 0
  · rw [if_pos nothing, if_pos nothing]
    exact ⟨rfl, fun _ member => absurd member List.not_mem_nil⟩
  rw [if_neg nothing, if_neg nothing]
  by_cases guard : 63 ≤ bitpos ∧ got.headD val &&& 0xFE ≠ 0
  · rw [if_pos guard, if_pos guard]
    exact ⟨rfl, fun _ member => absurd member List.not_mem_nil⟩
  rw [if_neg guard, if_neg guard]
  by_cases more : got.headD val &&& 0x80 ≠ 0
  · rw [if_pos more, if_pos more]
    obtain ⟨same, below⟩ := later (below_top guard more) (got.headD val)
      (result ||| (got.headD val &&& 0x7F).toUInt64 <<< bitpos.toUInt64) value rx'
    refine ⟨same, ?_⟩
    intro amount member
    rcases List.mem_cons.mp member with rfl | member
    · exact shift
    · exact below amount member
  · rw [if_neg more, if_neg more]
    refine ⟨rfl, ?_⟩
    intro amount member
    rcases List.mem_singleton.mp member with rfl
    exact shift

private theorem bounded_from (left : Nat) : ∀ {k : Nat}, k + left = 9 →
    Bounded (UInt8.ofNat (7 * k)) := by
  induction left with
  | zero =>
    intro k hk
    have position : (UInt8.ofNat (7 * k)).toNat = 7 * k := toNat_ofNat_byte (by omega)
    apply bounded_round
    · omega
    · intro low
      omega
  | succ left ih =>
    intro k hk
    have position : (UInt8.ofNat (7 * k)).toNat = 7 * k := toNat_ofNat_byte (by omega)
    apply bounded_round
    · omega
    · intro low
      rw [position_succ (by omega)]
      exact ih (by omega)

/-- The decoder accepts a 64-bit number of at most ten bytes, stores it and takes exactly its
bytes. It rejects everything else, within ten bytes and without a store, and in no case does it
shift by 64 or more. -/
theorem readDecodeVarint_exact {rx : Receiver} (plain : rx.schedule = []) (value₀ : UInt64) :
    ((readDecodeVarint value₀ rx).1.1 = 0 ↔
        ∃ g rest, rx.incoming = g ++ rest ∧ IsVarint g) ∧
      (∀ g rest, rx.incoming = g ++ rest → IsVarint g →
        (readDecodeVarint value₀ rx).1.2.toNat = value g ∧
          (readDecodeVarint value₀ rx).2.incoming = rest) ∧
      ((readDecodeVarint value₀ rx).1.1 ≠ 0 →
        Rejects 10 value₀ rx (readDecodeVarint value₀ rx)) ∧
      (shiftingVarint value₀ rx).1 = readDecodeVarint value₀ rx ∧
      ∀ amount ∈ (shiftingVarint value₀ rx).2, amount.toNat < 64 := by
  refine ⟨⟨readDecodeVarint_sound plain value₀, ?_⟩, ?_, readDecodeVarint_rejects plain value₀,
    bounded_from 9 (show 0 + 9 = 9 from rfl) (rx.residue rx.calls) 0 value₀ rx⟩
  · rintro ⟨g, rest, next, varint⟩
    rw [readDecodeVarint_accepts plain next varint]
  · intro g rest next varint
    rw [readDecodeVarint_accepts plain next varint]
    exact ⟨toNat_ofNat_word varint.value_lt, rfl⟩

private def threeHundred : Receiver where
  incoming := [0xAC, 0x02, 0x07]
  schedule := []
  calls := 0
  residue := fun _ => 0xA5

theorem readDecodeVarint_exact_three_hundred :
    (readDecodeVarint 9 threeHundred).1.2.toNat = 300 ∧
      (readDecodeVarint 9 threeHundred).2.incoming = [0x07] := by
  obtain ⟨-, stores, -⟩ := readDecodeVarint_exact (show threeHundred.schedule = [] from rfl) 9
  exact stores [0xAC, 0x02] [0x07] rfl ⟨by decide, by decide, by decide⟩

end ZephyrEsphome.Rpc.VarintBounds
