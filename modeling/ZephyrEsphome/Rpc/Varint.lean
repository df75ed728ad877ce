/- Digest: The encoder and the decoder of the header's variable-length numbers. -/

import ZephyrEsphome.Kernel.Socket
import ZephyrEsphome.Library.Base128
import Mathlib.Tactic.Ring

set_option autoImplicit false
set_option relaxedAutoImplicit false

namespace ZephyrEsphome.Rpc.Varint

open Kernel
open Library.Base128 (value Terminated encode encode_small encode_large toNat_ofNat_byte)

structure Store where
  address : Nat
  byte : UInt8
  deriving DecidableEq

/-- The store `out[i] = byte`, made only when the pointer is not null. -/
def storeAt (out : Option Nat) (i : Nat) (byte : UInt8) : List Store :=
  match out with
  | none => []
  | some p => [⟨p + i, byte⟩]

/-- The loop of `varint_encode`: the final `i`, and the stores in the order they are made. -/
def varintEncodeLoop (val : UInt64) (i : Nat) (out : Option Nat) : Nat × List Store :=
  if val = 0 then (i, [])
  else
    let temp := (val &&& 0x7F).toUInt8
    let rest := val >>> 7
    let byte := if rest ≠ 0 then temp ||| 0x80 else temp
    let (n, stores) := varintEncodeLoop rest (i + 1) out
    (n, storeAt out i byte ++ stores)
termination_by val.toNat
decreasing_by
  rename_i hval
  have positive : 0 < val.toNat := by
    rw [Nat.pos_iff_ne_zero]
    intro zero
    exact hval (UInt64.toNat_inj.mp zero)
  simp only [UInt64.toNat_shiftRight, UInt64.reduceToNat, Nat.reduceMod,
    Nat.shiftRight_eq_div_pow]
  omega

/-- `varint_encode`: the number of bytes, and the stores made when `out` is not null. -/
def varintEncode (val : UInt64) (out : Option Nat) : Nat × List Store :=
  if val ≤ 0x7F then (1, storeAt out 0 val.toUInt8)
  else varintEncodeLoop val 0 out

theorem continuation_clear {val : UInt8} (h : val &&& 0xFE = 0) : val &&& 0x80 = 0 := by
  have split : (0x80 : UInt8) = 0xFE &&& 0x80 := rfl
  rw [split, ← UInt8.and_assoc, h, UInt8.zero_and]

theorem below_top {bitpos val : UInt8} (guard : ¬ (63 ≤ bitpos ∧ val &&& 0xFE ≠ 0))
    (more : val &&& 0x80 ≠ 0) : bitpos.toNat < 63 := by
  by_contra high
  have reached : 63 ≤ bitpos := UInt8.le_iff_toNat_le.mpr (by simpa using high)
  apply more
  apply continuation_clear
  by_contra nonzero
  exact guard ⟨reached, nonzero⟩

/-- The loop of `read_decode_varint`; `val` is the byte variable, `value` what the caller's
variable holds. The result is the return value and that variable afterwards. -/
def readDecodeVarintLoop (val : UInt8) (result : UInt64) (bitpos : UInt8) (value : UInt64)
    (rx : Receiver) : (Int × UInt64) × Receiver :=
  let ((ret, got), rx) := rx.zsockRecv 1
  -- A failed call stores nothing, so the loop goes on with the byte it had.
  let val := got.headD val
  if ret = 0 then ((-eof, value), rx)
  else if 63 ≤ bitpos ∧ val &&& 0xFE ≠ 0 then ((-eoverflow, value), rx)
  else
    let result := result ||| (val &&& 0x7F).toUInt64 <<< bitpos.toUInt64
    if val &&& 0x80 ≠ 0 then readDecodeVarintLoop val result (bitpos + 7) value rx
    else ((0, result), rx)
termination_by 70 - bitpos.toNat
decreasing_by
  rename_i guard more
  have low := below_top guard more
  rw [UInt8.toNat_add]
  simp only [UInt8.reduceToNat]
  omega

/-- `read_decode_varint`. -/
def readDecodeVarint (value : UInt64) (rx : Receiver) : (Int × UInt64) × Receiver :=
  readDecodeVarintLoop (rx.residue rx.calls) 0 0 value rx

/-- The stores that put `bytes` one after the other from `out[i]` on. -/
def storesAt (out : Option Nat) (i : Nat) : List UInt8 → List Store
  | [] => []
  | byte :: bytes => storeAt out i byte ++ storesAt out (i + 1) bytes

theorem storesAt_eq (out : Nat) (bytes : List UInt8) : ∀ i : Nat, storesAt (some out) i bytes =
    ((List.range' (out + i) bytes.length).zip bytes).map fun store => ⟨store.1, store.2⟩ := by
  induction bytes with
  | nil =>
    intro i
    rfl
  | cons byte bytes ih =>
    intro i
    rw [storesAt, ih (i + 1), List.length_cons, List.range'_succ, List.zip_cons_cons, List.map_cons]
    rfl

private theorem low_group (val : UInt64) : ((val &&& 0x7F).toUInt8).toNat = val.toNat % 128 := by
  rw [UInt64.toNat_toUInt8, UInt64.toNat_and]
  have mask : (0x7F : UInt64).toNat = 2 ^ 7 - 1 := rfl
  rw [mask, Nat.and_two_pow_sub_one_eq_mod]
  omega

private theorem set_continuation {b : UInt8} (h : b.toNat < 128) :
    (b ||| 0x80).toNat = b.toNat + 128 := by
  rw [UInt8.toNat_or]
  have bit : (0x80 : UInt8).toNat = 2 ^ 7 * 1 := rfl
  rw [bit, Nat.or_comm, ← Nat.two_pow_add_eq_or_of_lt h]
  omega

private theorem toNat_shift (val : UInt64) : (val >>> 7).toNat = val.toNat / 128 := by
  simp only [UInt64.toNat_shiftRight, UInt64.reduceToNat, Nat.reduceMod,
    Nat.shiftRight_eq_div_pow, Nat.reducePow]

private theorem shift_eq_zero (val : UInt64) : val >>> 7 = 0 ↔ val.toNat < 128 := by
  rw [← UInt64.toNat_inj, toNat_shift]
  simp only [UInt64.toNat_zero]
  omega

private theorem varintEncodeLoop_eq (val : UInt64) (hval : val ≠ 0) (i : Nat)
    (out : Option Nat) :
    varintEncodeLoop val i out =
      (i + (encode val.toNat).length, storesAt out i (encode val.toNat)) := by
  induction hn : val.toNat using Nat.strongRecOn generalizing val i with
  | ind n ih =>
    subst hn
    rw [varintEncodeLoop, if_neg hval]
    by_cases small : val.toNat < 128
    · have last : val >>> 7 = 0 := (shift_eq_zero val).mpr small
      have byte : (val &&& 0x7F).toUInt8 = UInt8.ofNat val.toNat := by
        apply UInt8.toNat_inj.mp
        rw [low_group, toNat_ofNat_byte (by omega)]
        omega
      simp only [last, ne_eq, not_true_eq_false, if_false, byte]
      rw [varintEncodeLoop, if_pos rfl, encode_small small]
      simp [storesAt]
    · have more : val >>> 7 ≠ 0 := fun zero => small ((shift_eq_zero val).mp zero)
      have byte : (val &&& 0x7F).toUInt8 ||| 0x80 = UInt8.ofNat (val.toNat % 128 + 128) := by
        apply UInt8.toNat_inj.mp
        rw [set_continuation (by rw [low_group]; omega), low_group, toNat_ofNat_byte (by omega)]
      have rest := ih (val >>> 7).toNat (by rw [toNat_shift]; omega) (val >>> 7) more (i + 1) rfl
      simp only [more, ne_eq, not_false_eq_true, if_true, byte, rest]
      rw [encode_large small, toNat_shift, storesAt, List.length_cons]
      simp only [Prod.mk.injEq, and_true]
      omega

theorem varintEncode_eq (val : UInt64) (out : Option Nat) :
    varintEncode val out = ((encode val.toNat).length, storesAt out 0 (encode val.toNat)) := by
  unfold varintEncode
  split
  · rename_i fast
    have small : val.toNat < 128 := by
      have := UInt64.le_iff_toNat_le.mp fast
      simp only [UInt64.reduceToNat] at this
      omega
    have byte : val.toUInt8 = UInt8.ofNat val.toNat := by
      apply UInt8.toNat_inj.mp
      rw [toNat_ofNat_byte (by omega), UInt64.toNat_toUInt8]
      omega
    rw [encode_small small, byte]
    simp [storesAt]
  · rename_i slow
    have nonzero : val ≠ 0 := by
      rintro rfl
      exact slow (by decide)
    rw [varintEncodeLoop_eq val nonzero]
    simp

private theorem payload_group (b : UInt8) : (b &&& 0x7F).toNat = b.toNat % 128 := by
  rw [UInt8.toNat_and]
  have mask : (0x7F : UInt8).toNat = 2 ^ 7 - 1 := rfl
  rw [mask, Nat.and_two_pow_sub_one_eq_mod]

private theorem continuation_set (b : UInt8) : b &&& 0x80 ≠ 0 ↔ ¬ b.toNat < 128 := by
  have table : ∀ i : Fin 256,
      UInt8.ofFin i &&& 0x80 ≠ 0 ↔ ¬ (UInt8.ofFin i).toNat < 128 := by decide +kernel
  exact table b.toFin

private theorem high_bits_set (b : UInt8) : b &&& 0xFE ≠ 0 ↔ 2 ≤ b.toNat := by
  have table : ∀ i : Fin 256,
      UInt8.ofFin i &&& 0xFE ≠ 0 ↔ 2 ≤ (UInt8.ofFin i).toNat := by decide +kernel
  exact table b.toFin

theorem toNat_ofNat_word {n : Nat} (h : n < 2 ^ 64) : (UInt64.ofNat n).toNat = n := by
  rw [UInt64.toNat_ofNat']
  exact Nat.mod_eq_of_lt h

theorem pow_le_top {k : Nat} (hk : k ≤ 9) : 128 ^ k ≤ 2 ^ 63 := by
  calc 128 ^ k ≤ 128 ^ 9 := Nat.pow_le_pow_right (by decide) hk
    _ = 2 ^ 63 := by decide

theorem group_fits {k : Nat} (hk : k ≤ 9) {b : UInt8}
    (guard : ¬ (k = 9 ∧ 2 ≤ b.toNat)) : b.toNat % 128 * 128 ^ k < 2 ^ 64 := by
  by_cases top : k = 9
  · subst top
    have : b.toNat < 2 := by omega
    have : b.toNat % 128 ≤ 1 := by omega
    calc b.toNat % 128 * 128 ^ 9 ≤ 1 * 128 ^ 9 := Nat.mul_le_mul_right _ this
      _ < 2 ^ 64 := by decide
  · have low : 128 ^ k ≤ 128 ^ 8 := Nat.pow_le_pow_right (by decide) (by omega)
    calc b.toNat % 128 * 128 ^ k ≤ 127 * 128 ^ 8 :=
          Nat.mul_le_mul (by omega) low
      _ < 2 ^ 64 := by decide

private theorem accumulate {k acc : Nat} (hk : k ≤ 9) (hacc : acc < 128 ^ k) {b : UInt8}
    (guard : ¬ (k = 9 ∧ 2 ≤ b.toNat)) :
    UInt64.ofNat acc ||| (b &&& 0x7F).toUInt64 <<< (UInt8.ofNat (7 * k)).toUInt64 =
      UInt64.ofNat (acc + b.toNat % 128 * 128 ^ k) := by
  have power : 128 ^ k = 2 ^ (7 * k) := by
    rw [Nat.pow_mul]
  have fits := group_fits hk guard
  have bound := pow_le_top hk
  have position : ((UInt8.ofNat (7 * k)).toUInt64).toNat % 64 = 7 * k := by
    rw [UInt8.toNat_toUInt64, toNat_ofNat_byte (by omega)]
    omega
  apply UInt64.toNat_inj.mp
  rw [UInt64.toNat_or, UInt64.toNat_shiftLeft, UInt8.toNat_toUInt64, payload_group, position,
    toNat_ofNat_word (by omega), Nat.shiftLeft_eq, ← power, Nat.mod_eq_of_lt fits]
  have separate : acc ||| b.toNat % 128 * 128 ^ k = acc + b.toNat % 128 * 128 ^ k := by
    rw [power] at hacc ⊢
    rw [Nat.or_comm, Nat.mul_comm, ← Nat.two_pow_add_eq_or_of_lt hacc]
    omega
  have total : acc + b.toNat % 128 * 128 ^ k < 2 ^ 64 := by
    rw [← separate]
    exact Nat.or_lt_two_pow (by omega) fits
  rw [separate, toNat_ofNat_word total]

theorem position_succ {k : Nat} (hk : k ≤ 9) :
    UInt8.ofNat (7 * k) + 7 = UInt8.ofNat (7 * (k + 1)) := by
  apply UInt8.toNat_inj.mp
  rw [UInt8.toNat_add, toNat_ofNat_byte (by omega), toNat_ofNat_byte (by omega)]
  simp only [UInt8.reduceToNat]
  omega

theorem loop_call {rx rx' : Receiver} {ret : Int} {got : List UInt8}
    (call : rx.zsockRecv 1 = ((ret, got), rx')) (returned : ret ≠ 0) {k acc : Nat} (hk : k ≤ 9)
    (hacc : acc < 128 ^ k) {val b : UInt8} (holds : got.headD val = b) (value : UInt64) :
    readDecodeVarintLoop val (UInt64.ofNat acc) (UInt8.ofNat (7 * k)) value rx =
      if k = 9 ∧ 2 ≤ b.toNat then ((-eoverflow, value), rx')
      else if b.toNat < 128 then ((0, UInt64.ofNat (acc + b.toNat % 128 * 128 ^ k)), rx')
      else
        readDecodeVarintLoop b (UInt64.ofNat (acc + b.toNat % 128 * 128 ^ k))
          (UInt8.ofNat (7 * (k + 1))) value rx' := by
  have reached : 63 ≤ UInt8.ofNat (7 * k) ↔ k = 9 := by
    rw [UInt8.le_iff_toNat_le, toNat_ofNat_byte (by omega)]
    simp only [UInt8.reduceToNat]
    omega
  rw [readDecodeVarintLoop, call]
  simp only [holds, if_neg returned, reached, high_bits_set, continuation_set]
  by_cases guard : k = 9 ∧ 2 ≤ b.toNat
  · rw [if_pos guard, if_pos guard]
  · rw [if_neg guard, if_neg guard, accumulate hk hacc guard, position_succ hk]
    by_cases last : b.toNat < 128
    · rw [if_neg (not_not_intro last), if_pos last]
    · rw [if_pos last, if_neg last]

theorem loop_nothing {rx rx' : Receiver} {got : List UInt8}
    (call : rx.zsockRecv 1 = ((0, got), rx')) (val : UInt8) (result : UInt64) (bitpos : UInt8)
    (value : UInt64) :
    readDecodeVarintLoop val result bitpos value rx = ((-eof, value), rx') := by
  rw [readDecodeVarintLoop, call]
  simp only [if_true]

section Stream

variable {rx : Receiver} (plain : rx.schedule = [])

include plain

theorem recv_end (ended : rx.incoming = []) :
    rx.zsockRecv 1 = ((0, []), { rx with calls := rx.calls + 1 }) := by
  simp [Receiver.zsockRecv, plain, ended]

theorem recv_byte {b : UInt8} {bs : List UInt8} (next : rx.incoming = b :: bs) :
    rx.zsockRecv 1 = ((1, [b]), { rx with incoming := bs, calls := rx.calls + 1 }) := by
  simp [Receiver.zsockRecv, plain, next]

end Stream

theorem next_bound {k acc : Nat} (hacc : acc < 128 ^ k) (b : UInt8) :
    acc + b.toNat % 128 * 128 ^ k < 128 ^ (k + 1) := by
  have group : b.toNat % 128 + 1 ≤ 128 := by omega
  have scaled := Nat.mul_le_mul_right (128 ^ k) group
  rw [Nat.pow_succ]
  rw [Nat.add_mul] at scaled
  omega

theorem last_fits {k acc : Nat} (hk : k ≤ 9) (hacc : acc < 128 ^ k) {b : UInt8}
    (guard : ¬ (k = 9 ∧ 2 ≤ b.toNat)) : acc + b.toNat % 128 * 128 ^ k < 2 ^ 64 := by
  by_cases top : k = 9
  · subst top
    have small : b.toNat % 128 ≤ 1 := by omega
    have scaled := Nat.mul_le_mul_right (128 ^ 9) small
    omega
  · have small := next_bound hacc b
    have bound := pow_le_top (show k + 1 ≤ 9 by omega)
    omega

theorem value_cons_mul (b : UInt8) (g : List UInt8) (k : Nat) :
    value (b :: g) * 128 ^ k = b.toNat % 128 * 128 ^ k + value g * 128 ^ (k + 1) := by
  rw [value, Nat.add_mul, Nat.pow_succ]
  ring

inductive Delivers : Receiver → List UInt8 → Receiver → Prop
  | none (rx : Receiver) : Delivers rx [] rx
  | next {rx rx' rx'' : Receiver} {b : UInt8} {bs : List UInt8}
      (call : rx.zsockRecv 1 = ((1, [b]), rx')) (later : Delivers rx' bs rx'') :
      Delivers rx (b :: bs) rx''

theorem delivers_plain (g : List UInt8) : ∀ (rx : Receiver) {rest : List UInt8},
    rx.schedule = [] → rx.incoming = g ++ rest →
    Delivers rx g { rx with incoming := rest, calls := rx.calls + g.length } := by
  induction g with
  | nil =>
    intro rx rest _ next
    rw [List.nil_append] at next
    subst next
    exact .none rx
  | cons b g ih =>
    intro rx rest plain next
    have call := recv_byte plain (show rx.incoming = b :: (g ++ rest) from next)
    have later := ih { rx with incoming := g ++ rest, calls := rx.calls + 1 } plain rfl
    rw [List.length_cons, Nat.add_comm g.length 1, ← Nat.add_assoc]
    exact .next call later

private theorem loop_accepts {rx rx' : Receiver} {g : List UInt8} (delivers : Delivers rx g rx') :
    ∀ {k acc : Nat} (val : UInt8) (value₀ : UInt64), Terminated g → k + g.length ≤ 10 →
    acc < 128 ^ k → acc + value g * 128 ^ k < 2 ^ 64 →
    readDecodeVarintLoop val (UInt64.ofNat acc) (UInt8.ofNat (7 * k)) value₀ rx =
      ((0, UInt64.ofNat (acc + value g * 128 ^ k)), rx') := by
  induction delivers with
  | none rx =>
    intro k acc val value₀ ended
    exact absurd ended Library.Base128.not_terminated_nil
  | @next rx rx' rx'' b g call later ih =>
    intro k acc val value₀ ended room hacc fits
    rw [List.length_cons] at room
    rw [value_cons_mul] at fits ⊢
    have hk : k ≤ 9 := by omega
    have guard : ¬ (k = 9 ∧ 2 ≤ b.toNat) := by
      rintro ⟨rfl, two⟩
      have alone : g = [] := by
        apply List.length_eq_zero_iff.mp
        omega
      have last : b.toNat < 128 := by
        by_contra more
        rw [Library.Base128.terminated_more more, alone] at ended
        exact ended
      rw [Nat.mod_eq_of_lt last] at fits
      have := Nat.mul_le_mul_right (128 ^ 9) two
      omega
    rw [loop_call call one_ne_zero hk hacc rfl, List.headD_cons, if_neg guard]
    by_cases last : b.toNat < 128
    · obtain rfl := (Library.Base128.terminated_last last g).mp ended
      rw [if_pos last]
      cases later
      simp [value]
    · have tail := ih b value₀ ((Library.Base128.terminated_more last g).mp ended)
        (by omega) (next_bound hacc b) (by omega)
      rw [if_neg last, tail, Nat.add_assoc]

private theorem loop_sound (bs : List UInt8) : ∀ (rx : Receiver) {k acc : Nat} (val : UInt8)
    (value₀ : UInt64), rx.schedule = [] → rx.incoming = bs → k ≤ 9 → acc < 128 ^ k →
    (readDecodeVarintLoop val (UInt64.ofNat acc) (UInt8.ofNat (7 * k)) value₀ rx).1.1 = 0 →
    ∃ g rest, bs = g ++ rest ∧ Terminated g ∧ k + g.length ≤ 10 ∧
      acc + value g * 128 ^ k < 2 ^ 64 := by
  induction bs with
  | nil =>
    intro rx k acc val value₀ plain ended hk hacc zero
    rw [loop_nothing (recv_end plain ended)] at zero
    simp [eof] at zero
  | cons b bs ih =>
    intro rx k acc val value₀ plain next hk hacc zero
    rw [loop_call (recv_byte plain next) one_ne_zero hk hacc rfl, List.headD_cons] at zero
    by_cases guard : k = 9 ∧ 2 ≤ b.toNat
    · rw [if_pos guard] at zero
      simp [eoverflow] at zero
    · rw [if_neg guard] at zero
      by_cases last : b.toNat < 128
      · refine ⟨[b], bs, rfl, (Library.Base128.terminated_last last []).mpr rfl, ?_, ?_⟩
        · simp only [List.length_singleton]
          omega
        · rw [value_cons_mul]
          simpa [value] using last_fits hk hacc guard
      · rw [if_neg last] at zero
        have below : k + 1 ≤ 9 := by
          by_contra top
          apply guard
          omega
        obtain ⟨g, rest, rfl, ended, room, fits⟩ :=
          ih { rx with incoming := bs, calls := rx.calls + 1 } b value₀ plain rfl below
            (next_bound hacc b) zero
        refine ⟨b :: g, rest, rfl, (Library.Base128.terminated_more last g).mpr ended, ?_, ?_⟩
        · rw [List.length_cons]
          omega
        · rw [value_cons_mul]
          omega

structure IsVarint (g : List UInt8) : Prop where
  terminated : Terminated g
  length_le : g.length ≤ 10
  value_lt : value g < 2 ^ 64

theorem isVarint_encode {n : Nat} (h : n < 2 ^ 64) : IsVarint (encode n) where
  terminated := Library.Base128.encode_terminated n
  length_le := Library.Base128.length_encode_le_ten h
  value_lt := by rwa [Library.Base128.value_encode]

theorem readDecodeVarint_delivers {rx rx' : Receiver} {g : List UInt8}
    (delivers : Delivers rx g rx') (hg : IsVarint g) (value₀ : UInt64) :
    readDecodeVarint value₀ rx = ((0, UInt64.ofNat (value g)), rx') := by
  have loop := loop_accepts delivers (rx.residue rx.calls) value₀ hg.terminated
    (show 0 + g.length ≤ 10 by simpa using hg.length_le) (show 0 < 128 ^ 0 by decide)
    (by simpa using hg.value_lt)
  simpa [readDecodeVarint] using loop

theorem readDecodeVarint_accepts {rx : Receiver} {g rest : List UInt8} (plain : rx.schedule = [])
    (next : rx.incoming = g ++ rest) (hg : IsVarint g) (value₀ : UInt64) :
    readDecodeVarint value₀ rx =
      ((0, UInt64.ofNat (value g)),
        { rx with incoming := rest, calls := rx.calls + g.length }) :=
  readDecodeVarint_delivers (delivers_plain g rx plain next) hg value₀

theorem readDecodeVarint_sound {rx : Receiver} (plain : rx.schedule = []) (value₀ : UInt64)
    (zero : (readDecodeVarint value₀ rx).1.1 = 0) :
    ∃ g rest, rx.incoming = g ++ rest ∧ IsVarint g := by
  obtain ⟨g, rest, split, ended, room, fits⟩ :=
    loop_sound rx.incoming rx (rx.residue rx.calls) value₀ plain rfl (show 0 ≤ 9 by decide)
      (show 0 < 128 ^ 0 by decide) zero
  exact ⟨g, rest, split, ended, by omega, by simpa using fits⟩

end ZephyrEsphome.Rpc.Varint
