/- Digest: What a header's receiver makes of failed calls, and which of them it does not notice.

   The calls of the receiver meet a script: each gives one byte, nothing, or an error that leaves
   the byte variable as it was. A call after the script's end gives nothing. -/

import ZephyrEsphome.Rpc.HeaderWidth

set_option autoImplicit false
set_option relaxedAutoImplicit false

namespace ZephyrEsphome.Rpc.FailedReceive

open Kernel
open Library.Base128 (value Terminated terminated_last terminated_more)
open Library.Exec
open HeaderWidth (narrowed)
open Reading
open Varint hiding recv_byte

/-- The result of one `zsock_recv` of one byte. -/
inductive Outcome
  | byte (b : UInt8)
  | nothing
  | failed (reason : Failure)
  deriving DecidableEq

def Outcome.delivered : Outcome → Option UInt8
  | .byte b => some b
  | .nothing => none
  | .failed _ => none

def Outcome.arrival : Outcome → Arrival
  | .byte _ => .upTo 1
  | .nothing => .upTo 0
  | .failed reason => .failure reason

def script (residue : Nat → UInt8) (calls : Nat) (outcomes : List Outcome) : Receiver where
  incoming := outcomes.filterMap Outcome.delivered
  schedule := outcomes.map Outcome.arrival
  calls := calls
  residue := residue

section Calls

variable (residue : Nat → UInt8) (calls : Nat) (later : List Outcome)

theorem recv_byte (b : UInt8) :
    (script residue calls (.byte b :: later)).zsockRecv 1 =
      ((1, [b]), script residue (calls + 1) later) := by
  simp [script, Receiver.zsockRecv, Outcome.arrival, Outcome.delivered]

theorem recv_nothing :
    (script residue calls (.nothing :: later)).zsockRecv 1 =
      ((0, []), script residue (calls + 1) later) := by
  simp [script, Receiver.zsockRecv, List.filterMap_cons, Outcome.arrival, Outcome.delivered]

theorem recv_failed (reason : Failure) :
    (script residue calls (.failed reason :: later)).zsockRecv 1 =
      ((reason.code, []), script residue (calls + 1) later) := by
  simp [script, Receiver.zsockRecv, List.filterMap_cons, Outcome.arrival, Outcome.delivered]

theorem recv_over :
    (script residue calls []).zsockRecv 1 = ((0, []), script residue (calls + 1) []) := by
  simp [script, Receiver.zsockRecv]

end Calls

/-- Of so many calls none has failed, but for the last `slack` ones. -/
def UnfailedBut (slack : Nat) (outcomes : List Outcome) (calls : Nat) : Prop :=
  ∀ pre reason post, outcomes = pre ++ .failed reason :: post → calls ≤ pre.length + slack

structure Interrupted (outcomes : List Outcome) : Prop where
  early : ∃ (p : List UInt8) (reason : Failure) (rest : List Outcome),
    outcomes = p.map .byte ++ .failed reason :: rest ∧ (∀ b ∈ p, 128 ≤ b.toNat) ∧ p.length < 9

theorem unfailed_one (outcomes : List Outcome) : UnfailedBut 1 outcomes 1 := by
  intro pre reason post _
  omega

theorem unfailed_zero (slack : Nat) (outcomes : List Outcome) : UnfailedBut slack outcomes 0 :=
  fun _ _ _ _ => Nat.zero_le _

theorem unfailed_cons {slack calls : Nat} {outcome : Outcome} {later : List Outcome}
    (tail : UnfailedBut slack later calls) (delivered : ∀ reason, outcome ≠ .failed reason) :
    UnfailedBut slack (outcome :: later) (calls + 1) := by
  intro pre reason post split
  cases pre with
  | nil => exact absurd (List.cons.inj split).1 (delivered reason)
  | cons first pre =>
    have bound := tail pre reason post (List.cons.inj split).2
    rw [List.length_cons]
    omega

theorem unfailed_append {slack calls : Nat} {seen later : List Outcome}
    (tail : UnfailedBut slack later calls)
    (delivered : ∀ outcome ∈ seen, ∀ reason, outcome ≠ .failed reason) :
    UnfailedBut slack (seen ++ later) (seen.length + calls) := by
  induction seen with
  | nil => simpa using tail
  | cons outcome seen ih =>
    have rest := ih fun other member => delivered other (List.mem_cons_of_mem outcome member)
    have all := unfailed_cons rest (delivered outcome List.mem_cons_self)
    rw [List.length_cons, Nat.add_right_comm]
    exact all

theorem unfailed_zeros {slack calls : Nat} {b : UInt8} {later : List Outcome}
    (tail : UnfailedBut slack later calls) (zeros : Nat) :
    UnfailedBut slack (List.replicate zeros .nothing ++ .byte b :: later)
      (zeros + 1 + calls) := by
  have waited : ∀ outcome ∈ List.replicate zeros Outcome.nothing, ∀ reason,
      outcome ≠ .failed reason := by
    intro outcome member
    rw [List.eq_of_mem_replicate member]
    exact nofun
  have first : UnfailedBut slack (.byte b :: later) (calls + 1) := unfailed_cons tail nofun
  have all := unfailed_append first waited
  rw [List.length_replicate] at all
  rwa [Nat.add_assoc, Nat.add_comm 1]

theorem unfailed_bytes {slack calls : Nat} {later : List Outcome}
    (tail : UnfailedBut slack later calls) (g : List UInt8) :
    UnfailedBut slack (g.map .byte ++ later) (g.length + calls) := by
  have delivered : ∀ outcome ∈ g.map Outcome.byte, ∀ reason, outcome ≠ .failed reason := by
    intro outcome member
    obtain ⟨b, -, rfl⟩ := List.mem_map.mp member
    exact nofun
  have all := unfailed_append tail delivered
  rwa [List.length_map] at all

/-- What the decoder makes of the outcomes of its calls, once it has gathered `acc` from `k` groups:
it accepts delivered bytes only, or ends with an error right after a failed call, unless its calls
fail before the tenth. -/
inductive LoopMakes (residue : Nat → UInt8) (value₀ : UInt64) (k acc calls : Nat)
    (outcomes : List Outcome) : (Int × UInt64) × Receiver → Prop
  | accepted (g : List UInt8) (rest : List Outcome) (split : outcomes = g.map .byte ++ rest)
      (ended : Terminated g) (room : k + g.length ≤ 10)
      (fits : acc + value g * 128 ^ k < 2 ^ 64) :
      LoopMakes residue value₀ k acc calls outcomes
        ((0, UInt64.ofNat (acc + value g * 128 ^ k)), script residue (calls + g.length) rest)
  | rejected (e : Int) (made : Nat) (rest : List Outcome) (nonzero : e ≠ 0)
      (last : UnfailedBut 1 outcomes made) :
      LoopMakes residue value₀ k acc calls outcomes
        ((e, value₀), script residue (calls + made) rest)
  | interrupted (p : List UInt8) (reason : Failure) (rest : List Outcome)
      (split : outcomes = p.map .byte ++ .failed reason :: rest)
      (continued : ∀ b ∈ p, 128 ≤ b.toNat) (early : k + p.length < 9)
      (result : (Int × UInt64) × Receiver) :
      LoopMakes residue value₀ k acc calls outcomes result

theorem LoopMakes.cons {residue : Nat → UInt8} {value₀ : UInt64} {k acc calls : Nat} {b : UInt8}
    {later : List Outcome} {result : (Int × UInt64) × Receiver} (more : 128 ≤ b.toNat)
    (tail : LoopMakes residue value₀ (k + 1) (acc + b.toNat % 128 * 128 ^ k) (calls + 1) later
      result) : LoopMakes residue value₀ k acc calls (.byte b :: later) result := by
  cases tail with
  | accepted g rest split ended room fits =>
    have sum : acc + b.toNat % 128 * 128 ^ k + value g * 128 ^ (k + 1) =
        acc + value (b :: g) * 128 ^ k := by
      rw [value_cons_mul, Nat.add_assoc]
    have count : calls + 1 + g.length = calls + (b :: g).length := by
      rw [List.length_cons]
      omega
    rw [sum] at fits ⊢
    rw [count]
    apply accepted (b :: g) rest
    · rw [split]
      rfl
    · exact (terminated_more (by omega) g).mpr ended
    · rw [List.length_cons]
      omega
    · exact fits
  | rejected e made rest nonzero last =>
    have delivered : ∀ reason, Outcome.byte b ≠ .failed reason := by
      intro reason same
      cases same
    rw [Nat.add_assoc calls 1 made, Nat.add_comm 1 made]
    exact rejected e (made + 1) rest nonzero (unfailed_cons last delivered)
  | interrupted p reason rest split continued early =>
    apply interrupted (b :: p) reason rest
    · rw [split]
      rfl
    · exact List.forall_mem_cons.mpr ⟨more, continued⟩
    · rw [List.length_cons]
      omega

theorem loop_outcomes (residue : Nat → UInt8) (value₀ : UInt64) (outcomes : List Outcome) :
    ∀ {k acc calls : Nat} {val : UInt8}, k ≤ 9 → acc < 128 ^ k → (0 < k → 128 ≤ val.toNat) →
    LoopMakes residue value₀ k acc calls outcomes
      (readDecodeVarintLoop val (UInt64.ofNat acc) (UInt8.ofNat (7 * k)) value₀
        (script residue calls outcomes)) := by
  induction outcomes with
  | nil =>
    intro k acc calls val hk hacc stale
    rw [loop_nothing (recv_over residue calls)]
    exact .rejected (-eof) 1 [] (by decide) (unfailed_one _)
  | cons outcome later ih =>
    intro k acc calls val hk hacc stale
    cases outcome with
    | byte b =>
      rw [loop_call (recv_byte residue calls later b) one_ne_zero hk hacc rfl, List.headD_cons]
      by_cases guard : k = 9 ∧ 2 ≤ b.toNat
      · rw [if_pos guard]
        exact .rejected (-eoverflow) 1 later (by decide) (unfailed_one _)
      rw [if_neg guard]
      by_cases last : b.toNat < 128
      · have alone : value [b] * 128 ^ k = b.toNat % 128 * 128 ^ k := by
          rw [value_cons_mul, value, Nat.zero_mul, Nat.add_zero]
        have fits := last_fits hk hacc guard
        rw [← alone] at fits
        rw [if_pos last, ← alone]
        apply LoopMakes.accepted [b] later rfl ((terminated_last last []).mpr rfl) _ fits
        rw [List.length_singleton]
        omega
      · rw [if_neg last]
        have more : 128 ≤ b.toNat := Nat.not_lt.mp last
        have below : k + 1 ≤ 9 := by omega
        exact .cons more (ih below (next_bound hacc b) fun _ => more)
    | nothing =>
      rw [loop_nothing (recv_nothing residue calls later)]
      exact .rejected (-eof) 1 later (by decide) (unfailed_one _)
    | failed reason =>
      by_cases top : k = 9
      · -- The byte of the call before is still there, and its bit 7 is set.
        have old := stale (by omega)
        have negative := reason.negative
        rw [loop_call (recv_failed residue calls later reason) (by omega) hk hacc rfl,
          List.headD_nil, if_pos ⟨top, by omega⟩]
        exact .rejected (-eoverflow) 1 later (by decide) (unfailed_one _)
      · apply LoopMakes.interrupted [] reason later rfl
        · intro b member
          exact absurd member List.not_mem_nil
        · rw [List.length_nil]
          omega

theorem recv_calls (rx : Receiver) (len : Nat) : (rx.zsockRecv len).2.calls = rx.calls + 1 := by
  unfold Receiver.zsockRecv
  split <;> rfl

theorem loop_calls (value₀ : UInt64) (left : Nat) : ∀ {k acc : Nat} (val : UInt8) (rx : Receiver),
    k + left = 9 → acc < 128 ^ k →
    rx.calls + 1 ≤ (readDecodeVarintLoop val (UInt64.ofNat acc) (UInt8.ofNat (7 * k)) value₀
      rx).2.calls := by
  induction left with
  | zero =>
    intro k acc val rx hk hacc
    obtain ⟨⟨ret, got⟩, rx', call⟩ : ∃ returned rx', rx.zsockRecv 1 = (returned, rx') :=
      ⟨_, _, rfl⟩
    have count : rx'.calls = rx.calls + 1 := by rw [← recv_calls rx 1, call]
    by_cases nothing : ret = 0
    · subst nothing
      rw [loop_nothing call, count]
    rw [loop_call call nothing (by omega) hacc rfl]
    by_cases guard : k = 9 ∧ 2 ≤ (got.headD val).toNat
    · rw [if_pos guard, count]
    · rw [if_neg guard, if_pos (by omega), count]
  | succ left ih =>
    intro k acc val rx hk hacc
    obtain ⟨⟨ret, got⟩, rx', call⟩ : ∃ returned rx', rx.zsockRecv 1 = (returned, rx') :=
      ⟨_, _, rfl⟩
    have count : rx'.calls = rx.calls + 1 := by rw [← recv_calls rx 1, call]
    by_cases nothing : ret = 0
    · subst nothing
      rw [loop_nothing call, count]
    rw [loop_call call nothing (by omega) hacc rfl, if_neg (by omega)]
    by_cases last : (got.headD val).toNat < 128
    · rw [if_pos last, count]
    · rw [if_neg last]
      have further := ih (got.headD val) rx' (show k + 1 + left = 9 by omega)
        (next_bound hacc (got.headD val))
      omega

theorem readVarint_calls {rx rx' : Receiver} {outcome : Int × UInt64}
    (run : readVarint.run rx = .ok outcome rx') : rx.calls + 1 ≤ rx'.calls := by
  rw [run_readVarint] at run
  obtain ⟨-, rfl⟩ := EStateM.Result.ok.inj run
  exact loop_calls 0 9 (rx.residue rx.calls) rx (show 0 + 9 = 9 from rfl) (by decide)

theorem loop_interrupted (residue : Nat → UInt8) (value₀ : UInt64) (reason : Failure)
    (rest : List Outcome) (p : List UInt8) : ∀ {k acc : Nat} (calls : Nat) (val : UInt8),
    acc < 128 ^ k → (∀ b ∈ p, 128 ≤ b.toNat) → k + p.length < 9 →
    (∃ result, readDecodeVarintLoop val (UInt64.ofNat acc) (UInt8.ofNat (7 * k)) value₀
        (script residue calls (p.map .byte ++ .failed reason :: rest)) =
      ((0, result), script residue (calls + p.length + 1) rest)) ∨
    calls + p.length + 2 ≤ (readDecodeVarintLoop val (UInt64.ofNat acc) (UInt8.ofNat (7 * k))
      value₀ (script residue calls (p.map .byte ++ .failed reason :: rest))).2.calls := by
  induction p with
  | nil =>
    intro k acc calls val hacc _ early
    rw [List.length_nil] at early
    have negative := reason.negative
    rw [List.map_nil, List.nil_append, loop_call (recv_failed residue calls rest reason) (by omega)
      (by omega) hacc rfl, List.headD_nil, if_neg (by omega)]
    by_cases last : val.toNat < 128
    · left
      rw [if_pos last]
      exact ⟨_, rfl⟩
    · right
      rw [if_neg last]
      have position : k + 1 + (8 - k) = 9 := by omega
      exact loop_calls value₀ (8 - k) val (script residue (calls + 1) rest) position
        (next_bound hacc val)
  | cons b p ih =>
    intro k acc calls val hacc continued early
    rw [List.length_cons] at early
    have more := continued b List.mem_cons_self
    have tail := @ih (k + 1) _ (calls + 1) b (next_bound hacc b)
      (fun c member => continued c (List.mem_cons_of_mem b member)) (by omega)
    rw [List.map_cons, List.cons_append, loop_call (recv_byte residue calls _ b) one_ne_zero
      (by omega) hacc rfl, List.headD_cons, if_neg (by omega), if_neg (by omega), List.length_cons]
    rw [show calls + (p.length + 1) = calls + 1 + p.length by omega]
    exact tail

theorem readVarint_outcomes (residue : Nat → UInt8) (calls : Nat) (outcomes : List Outcome) :
    (∃ g rest, outcomes = g.map .byte ++ rest ∧ IsVarint g ∧
      readVarint.run (script residue calls outcomes) =
        .ok (0, UInt64.ofNat (value g)) (script residue (calls + g.length) rest)) ∨
    (∃ e val more rest, e ≠ 0 ∧ UnfailedBut 1 outcomes more ∧
      readVarint.run (script residue calls outcomes) =
        .ok (e, val) (script residue (calls + more) rest)) ∨ Interrupted outcomes := by
  have makes : LoopMakes residue 0 0 0 calls outcomes
      (readDecodeVarint 0 (script residue calls outcomes)) :=
    @loop_outcomes residue 0 outcomes 0 0 calls (residue calls) (by decide) (by decide) nofun
  rw [run_readVarint]
  generalize readDecodeVarint 0 (script residue calls outcomes) = result at makes
  cases makes with
  | accepted g rest split ended room fits =>
    left
    simp only [Nat.zero_add, Nat.pow_zero, Nat.mul_one] at fits ⊢
    exact ⟨g, rest, split, ⟨ended, by omega, fits⟩, rfl⟩
  | rejected e made rest nonzero last =>
    right; left
    exact ⟨e, 0, made, rest, nonzero, last, rfl⟩
  | interrupted p reason rest split continued early =>
    right; right
    exact ⟨p, reason, rest, split, continued, by omega⟩

theorem awaitByte_nothing {rx rx' : Receiver} (call : rx.zsockRecv 1 = ((0, []), rx'))
    (fuel : Nat) (byte : UInt8) :
    (awaitByte (fuel + 1) byte).run rx = (awaitByte fuel byte).run rx' := by
  apply loop_next
  rw [run_bind_ok _ (run_zsockRecv_of call)]
  rfl

theorem awaitByte_returned {rx rx' : Receiver} {ret : Int} {got : List UInt8}
    (call : rx.zsockRecv 1 = ((ret, got), rx')) (returned : ret ≠ 0) (fuel : Nat) (byte : UInt8) :
    (awaitByte (fuel + 1) byte).run rx = .ok (ret, got.headD byte) rx' := by
  apply loop_done
  rw [run_bind_ok _ (run_zsockRecv_of call)]
  dsimp only
  rw [if_neg returned]
  rfl

theorem awaitByte_over (residue : Nat → UInt8) (fuel : Nat) : ∀ (calls : Nat) (byte : UInt8),
    (awaitByte fuel byte).run (script residue calls []) =
      .error .unfinished (script residue (calls + fuel) []) := by
  induction fuel with
  | zero =>
    intro calls byte
    rfl
  | succ fuel ih =>
    intro calls byte
    rw [awaitByte_nothing (recv_over residue calls), ih, Nat.add_assoc, Nat.add_comm 1]

theorem awaitByte_outcomes (residue : Nat → UInt8) (fuel : Nat) : ∀ (calls : Nat) (byte : UInt8)
    (outcomes : List Outcome),
    (∃ zeros b rest, zeros < fuel ∧
      outcomes = List.replicate zeros .nothing ++ .byte b :: rest ∧
      (awaitByte fuel byte).run (script residue calls outcomes) =
        .ok (1, b) (script residue (calls + zeros + 1) rest)) ∨
    (∃ e b more rest, e < 0 ∧ UnfailedBut 1 outcomes more ∧
      (awaitByte fuel byte).run (script residue calls outcomes) =
        .ok (e, b) (script residue (calls + more) rest)) ∨
    ∃ more rest, UnfailedBut 0 outcomes more ∧
      (awaitByte fuel byte).run (script residue calls outcomes) =
        .error .unfinished (script residue (calls + more) rest) := by
  induction fuel with
  | zero =>
    intro calls byte outcomes
    right; right
    exact ⟨0, outcomes, unfailed_zero 0 outcomes, rfl⟩
  | succ fuel ih =>
    intro calls byte outcomes
    cases outcomes with
    | nil =>
      right; right
      refine ⟨fuel + 1, [], ?_, awaitByte_over residue (fuel + 1) calls byte⟩
      intro pre reason post split
      exact absurd split (by simp)
    | cons outcome later =>
      cases outcome with
      | byte b =>
        left
        refine ⟨0, b, later, Nat.succ_pos fuel, rfl, ?_⟩
        rw [awaitByte_returned (recv_byte residue calls later b) one_ne_zero]
        rfl
      | failed reason =>
        right; left
        have negative := reason.negative
        refine ⟨reason.code, byte, 1, later, negative, unfailed_one _, ?_⟩
        rw [awaitByte_returned (recv_failed residue calls later reason) (by omega)]
        rfl
      | nothing =>
        rw [awaitByte_nothing (recv_nothing residue calls later)]
        rcases ih (calls + 1) byte later with
          ⟨zeros, b, rest, within, rfl, run⟩ | ⟨e, b, more, rest, negative, last, run⟩ |
          ⟨more, rest, none, run⟩
        · left
          refine ⟨zeros + 1, b, rest, by omega, rfl, ?_⟩
          rw [run]
          simp only [Nat.add_assoc, Nat.add_comm 1]
        · right; left
          refine ⟨e, b, more + 1, rest, negative, unfailed_cons last nofun, ?_⟩
          rw [run]
          simp only [Nat.add_assoc, Nat.add_comm 1]
        · right; right
          refine ⟨more + 1, rest, unfailed_cons none nofun, ?_⟩
          rw [run]
          simp only [Nat.add_assoc, Nat.add_comm 1]

theorem awaitByte_zeros (residue : Nat → UInt8) (b : UInt8) (later : List Outcome) (zeros : Nat) :
    ∀ {fuel : Nat} (calls : Nat) (byte : UInt8), zeros < fuel →
    (awaitByte fuel byte).run
        (script residue calls (List.replicate zeros .nothing ++ .byte b :: later)) =
      .ok (1, b) (script residue (calls + zeros + 1) later) := by
  induction zeros with
  | zero =>
    intro fuel calls byte within
    obtain ⟨fuel, rfl⟩ := Nat.exists_eq_succ_of_ne_zero (Nat.ne_of_gt within)
    exact awaitByte_returned (recv_byte residue calls later b) one_ne_zero fuel byte
  | succ zeros ih =>
    intro fuel calls byte within
    obtain ⟨fuel, rfl⟩ := Nat.exists_eq_succ_of_ne_zero (Nat.ne_of_gt (Nat.zero_lt_of_lt within))
    rw [List.replicate_succ, List.cons_append, awaitByte_nothing (recv_nothing residue calls _),
      ih (calls + 1) byte (Nat.lt_of_succ_lt_succ within)]
    simp only [Nat.add_assoc, Nat.add_comm 1]

structure Delivered (fuel : Nat) (outcomes : List Outcome) (g g' : List UInt8) (calls : Nat) :
    Prop where
  first : IsVarint g
  second : IsVarint g'
  split : ∃ zeros rest, zeros < fuel ∧ calls = zeros + 1 + g.length + g'.length ∧
    outcomes = List.replicate zeros .nothing ++ .byte 0 :: (g.map .byte ++ (g'.map .byte ++ rest))

theorem Delivered.unfailed {fuel calls : Nat} {outcomes : List Outcome} {g g' : List UInt8}
    (delivered : Delivered fuel outcomes g g' calls) : UnfailedBut 0 outcomes calls := by
  obtain ⟨-, -, zeros, rest, -, rfl, rfl⟩ := delivered
  have numbers := unfailed_bytes (unfailed_bytes (unfailed_zero 0 rest) g') g
  have all := @unfailed_zeros 0 _ 0 _ numbers zeros
  rwa [Nat.add_zero, ← Nat.add_assoc] at all

/-- The calls for one of a header's numbers fail before the tenth for it. -/
structure FailsInside (fuel : Nat) (outcomes : List Outcome) : Prop where
  numbers : ∃ zeros later, zeros < fuel ∧
    outcomes = List.replicate zeros .nothing ++ .byte 0 :: later ∧
    (Interrupted later ∨ ∃ g rest, IsVarint g ∧ later = g.map .byte ++ rest ∧ Interrupted rest)

theorem length_before (zeros : Nat) (b : UInt8) (g : List UInt8) :
    (List.replicate zeros Outcome.nothing ++ .byte b :: g.map Outcome.byte).length =
      zeros + 1 + g.length := by
  simp only [List.length_append, List.length_replicate, List.length_cons, List.length_map]
  omega

/-- The part of `esphome_read_header` after the first byte. -/
def readNumbers : Exec Receiver (Except Int (UInt32 × UInt32)) := do
  let (ret, val) ← readVarint
  if ret ≠ 0 then
    return .error ret
  let len := val.toUInt32
  let (ret, val) ← readVarint
  if ret ≠ 0 then
    return .error ret
  return .ok (val.toUInt32, len)

section Stages

variable {fuel : Nat} {rx rx' rx'' : Receiver}

theorem readHeader_zero
    (first : (awaitByte fuel (rx.residue rx.calls)).run rx = .ok (1, 0) rx') :
    (esphomeReadHeader fuel).run rx = readNumbers.run rx' := by
  rw [esphomeReadHeader, run_bind_ok _ (run_get rx), run_bind_ok _ first]
  rfl

theorem readHeader_other {b : UInt8} (nonzero : b ≠ 0)
    (first : (awaitByte fuel (rx.residue rx.calls)).run rx = .ok (1, b) rx') :
    (esphomeReadHeader fuel).run rx = .ok (.error (-eio)) rx' := by
  rw [esphomeReadHeader, run_bind_ok _ (run_get rx), run_bind_ok _ first]
  dsimp only
  rw [if_neg (by decide), if_pos nonzero]
  rfl

theorem readHeader_failed {e : Int} {b : UInt8} (negative : e < 0)
    (first : (awaitByte fuel (rx.residue rx.calls)).run rx = .ok (e, b) rx') :
    (esphomeReadHeader fuel).run rx = .ok (.error e) rx' := by
  rw [esphomeReadHeader, run_bind_ok _ (run_get rx), run_bind_ok _ first]
  dsimp only
  rw [if_pos negative]
  rfl

theorem readNumbers_rejects {e : Int} {val : UInt64} (nonzero : e ≠ 0)
    (len : readVarint.run rx = .ok (e, val) rx') :
    readNumbers.run rx = .ok (.error e) rx' := by
  rw [readNumbers, run_bind_ok _ len]
  dsimp only
  rw [if_pos nonzero]
  rfl

theorem readNumbers_rejects_id {e : Int} {val val' : UInt64} (nonzero : e ≠ 0)
    (len : readVarint.run rx = .ok (0, val) rx')
    (id : readVarint.run rx' = .ok (e, val') rx'') :
    readNumbers.run rx = .ok (.error e) rx'' := by
  rw [readNumbers, run_bind_ok _ len]
  dsimp only
  rw [if_neg (not_not_intro rfl), run_bind_ok _ id]
  dsimp only
  rw [if_pos nonzero]
  rfl

theorem readNumbers_accepts {val val' : UInt64} (len : readVarint.run rx = .ok (0, val) rx')
    (id : readVarint.run rx' = .ok (0, val') rx'') :
    readNumbers.run rx = .ok (.ok (val'.toUInt32, val.toUInt32)) rx'' := by
  rw [readNumbers, run_bind_ok _ len]
  dsimp only
  rw [if_neg (not_not_intro rfl), run_bind_ok _ id]
  rfl

end Stages

theorem readNumbers_outcomes (residue : Nat → UInt8) (calls : Nat) (outcomes : List Outcome) :
    (∃ g g' rest, outcomes = g.map .byte ++ (g'.map .byte ++ rest) ∧ IsVarint g ∧ IsVarint g' ∧
      readNumbers.run (script residue calls outcomes) =
        .ok (.ok ((UInt64.ofNat (value g')).toUInt32, (UInt64.ofNat (value g)).toUInt32))
          (script residue (calls + g.length + g'.length) rest)) ∨
    (∃ e more rest, e ≠ 0 ∧ UnfailedBut 1 outcomes more ∧
      readNumbers.run (script residue calls outcomes) =
        .ok (.error e) (script residue (calls + more) rest)) ∨
    Interrupted outcomes ∨
    ∃ g rest, IsVarint g ∧ outcomes = g.map .byte ++ rest ∧ Interrupted rest := by
  rcases readVarint_outcomes residue calls outcomes with
    ⟨g, rest, rfl, first, lenRun⟩ | ⟨e, val, more, rest, nonzero, last, lenRun⟩ | interrupted
  · rcases readVarint_outcomes residue (calls + g.length) rest with
      ⟨g', rest', rfl, second, idRun⟩ | ⟨e, val, more, rest', nonzero, last, idRun⟩ | interrupted
    · left
      exact ⟨g, g', rest', rfl, first, second, readNumbers_accepts lenRun idRun⟩
    · right; left
      refine ⟨e, g.length + more, rest', nonzero, unfailed_bytes last g, ?_⟩
      rw [← Nat.add_assoc]
      exact readNumbers_rejects_id nonzero lenRun idRun
    · right; right; right
      exact ⟨g, rest, first, rfl, interrupted⟩
  · right; left
    exact ⟨e, more, rest, nonzero, last, readNumbers_rejects nonzero lenRun⟩
  · right; right; left
    exact interrupted

theorem readHeader_outcomes (fuel : Nat) (residue : Nat → UInt8) (outcomes : List Outcome) :
    (∃ g g' calls rest, Delivered fuel outcomes g g' calls ∧
      (esphomeReadHeader fuel).run (script residue 0 outcomes) =
        .ok (.ok ((UInt64.ofNat (value g')).toUInt32, (UInt64.ofNat (value g)).toUInt32))
          (script residue calls rest)) ∨
    (∃ e calls rest, e ≠ 0 ∧ UnfailedBut 1 outcomes calls ∧
      (esphomeReadHeader fuel).run (script residue 0 outcomes) =
        .ok (.error e) (script residue calls rest)) ∨
    (∃ calls rest, UnfailedBut 0 outcomes calls ∧
      (esphomeReadHeader fuel).run (script residue 0 outcomes) =
        .error .unfinished (script residue calls rest)) ∨
    FailsInside fuel outcomes := by
  rcases awaitByte_outcomes residue fuel 0 (residue 0) outcomes with
    ⟨zeros, b, later, within, rfl, run⟩ | ⟨e, b, more, rest, negative, last, run⟩ |
    ⟨more, rest, none, run⟩
  · rw [Nat.zero_add] at run
    by_cases zero : b = 0
    · subst zero
      rw [readHeader_zero run]
      rcases readNumbers_outcomes residue (zeros + 1) later with
        ⟨g, g', rest, rfl, first, second, numbers⟩ | ⟨e, more, rest, nonzero, last, numbers⟩ |
        inside
      · left
        exact ⟨g, g', _, rest, ⟨first, second, zeros, rest, within, rfl, rfl⟩, numbers⟩
      · right; left
        exact ⟨e, _, rest, nonzero, unfailed_zeros last zeros, numbers⟩
      · right; right; right
        exact ⟨zeros, later, within, rfl, inside⟩
    · right; left
      exact ⟨-eio, _, later, by decide, unfailed_zeros (unfailed_zero 1 later) zeros,
        readHeader_other zero run⟩
  · rw [Nat.zero_add] at run
    right; left
    exact ⟨e, more, rest, by omega, last, readHeader_failed negative run⟩
  · rw [Nat.zero_add] at run
    right; right; left
    refine ⟨more, rest, none, ?_⟩
    rw [esphomeReadHeader, run_bind_ok _ (run_get _)]
    exact run_bind_error _ run

theorem delivers_script (residue : Nat → UInt8) (later : List Outcome) (g : List UInt8) :
    ∀ calls : Nat, Delivers (script residue calls (g.map .byte ++ later)) g
      (script residue (calls + g.length) later) := by
  induction g with
  | nil =>
    intro calls
    exact .none _
  | cons b g ih =>
    intro calls
    have tail := ih (calls + 1)
    rw [Nat.add_assoc, Nat.add_comm 1] at tail
    exact .next (recv_byte residue calls _ b) tail

theorem readHeader_zeros (residue : Nat → UInt8) (later : List Outcome) {zeros fuel : Nat}
    (within : zeros < fuel) :
    (esphomeReadHeader fuel).run
        (script residue 0 (List.replicate zeros .nothing ++ .byte 0 :: later)) =
      readNumbers.run (script residue (zeros + 1) later) := by
  have first := awaitByte_zeros residue 0 later zeros 0 (residue 0) within
  rw [Nat.zero_add] at first
  exact readHeader_zero first

theorem readVarint_delivers {rx rx' : Receiver} {g : List UInt8} (delivers : Delivers rx g rx')
    (varint : IsVarint g) : readVarint.run rx = .ok (0, UInt64.ofNat (value g)) rx' := by
  rw [run_readVarint, readDecodeVarint_delivers delivers varint]

theorem readHeader_delivers {fuel : Nat} {outcomes : List Outcome} {g g' : List UInt8}
    {calls : Nat} (delivered : Delivered fuel outcomes g g' calls) (residue : Nat → UInt8) :
    ∃ rx', (esphomeReadHeader fuel).run (script residue 0 outcomes) =
      .ok (.ok ((UInt64.ofNat (value g')).toUInt32, (UInt64.ofNat (value g)).toUInt32)) rx' := by
  obtain ⟨first, second, zeros, rest, within, rfl, rfl⟩ := delivered
  refine ⟨script residue (zeros + 1 + g.length + g'.length) rest, ?_⟩
  rw [readHeader_zeros residue _ within]
  exact readNumbers_accepts (readVarint_delivers (delivers_script residue _ g _) first)
    (readVarint_delivers (delivers_script residue _ g' _) second)

theorem readVarint_interrupted {outcomes : List Outcome} {p : List UInt8} {reason : Failure}
    {rest : List Outcome} (split : outcomes = p.map .byte ++ .failed reason :: rest)
    (continued : ∀ b ∈ p, 128 ≤ b.toNat) (early : p.length < 9) (residue : Nat → UInt8)
    (calls : Nat) :
    ∃ e val rx', readVarint.run (script residue calls outcomes) = .ok (e, val) rx' ∧
      (e = 0 ∧ rx' = script residue (calls + p.length + 1) rest ∨
        calls + p.length + 2 ≤ rx'.calls) := by
  subst split
  refine ⟨_, _, _, rfl, ?_⟩
  rcases @loop_interrupted residue 0 reason rest p 0 0 calls (residue calls) (by decide) continued
    (by omega) with ⟨result, run⟩ | further
  · left
    exact ⟨congrArg (fun r => r.1.1) run, congrArg (fun r => r.2) run⟩
  · right
    exact further

theorem readNumbers_interrupted {rx rx' : Receiver} {e : Int} {val : UInt64} {calls : Nat}
    (len : readVarint.run rx = .ok (e, val) rx')
    (unnoticed : e = 0 ∧ calls + 1 ≤ rx'.calls ∨ calls + 2 ≤ rx'.calls) :
    calls + 2 ≤ (final (readNumbers.run rx)).calls := by
  by_cases zero : e = 0
  · subst zero
    obtain ⟨⟨e', val'⟩, rx'', id⟩ : ∃ outcome rx'', readVarint.run rx' = .ok outcome rx'' :=
      ⟨_, _, rfl⟩
    have further := readVarint_calls id
    have last : (final (readNumbers.run rx)).calls = rx''.calls := by
      by_cases zero' : e' = 0
      · subst zero'
        rw [readNumbers_accepts len id, final_ok]
      · rw [readNumbers_rejects_id zero' len id, final_ok]
    omega
  · rw [readNumbers_rejects zero len, final_ok]
    omega

/-- A header is stored from delivered bytes only, in the sense of `reads`, and a failed call is
the last one before an error is returned. -/
structure FromDelivered (reads : List UInt8 → UInt32 → Prop) (fuel : Nat) (residue : Nat → UInt8)
    (outcomes : List Outcome) : Prop where
  delivered : ∀ msgId len rx',
    (esphomeReadHeader fuel).run (script residue 0 outcomes) = .ok (.ok (msgId, len)) rx' →
    (∃ g g', Delivered fuel outcomes g g' rx'.calls) ∧
      ∀ g g' calls, Delivered fuel outcomes g g' calls → reads g len ∧ reads g' msgId
  stops : ∀ pre reason post, outcomes = pre ++ .failed reason :: post →
    pre.length < (final ((esphomeReadHeader fuel).run (script residue 0 outcomes))).calls →
    ∃ e rx', e ≠ 0 ∧ rx'.calls = pre.length + 1 ∧
      (esphomeReadHeader fuel).run (script residue 0 outcomes) = .ok (.error e) rx'

/-- The number stored is the one of the bytes, after the cast to `uint32_t`. -/
def Narrowed (g : List UInt8) (n : UInt32) : Prop := (UInt64.ofNat (value g)).toUInt32 = n

/-- The number stored is the one of the bytes. -/
def Exact (g : List UInt8) (n : UInt32) : Prop := value g = n.toNat

/-- If the numbers of a header are delivered, both fit 32 bits. -/
def NumbersFit (fuel : Nat) (outcomes : List Outcome) : Prop :=
  ∀ g g' calls, Delivered fuel outcomes g g' calls → value g < 2 ^ 32 ∧ value g' < 2 ^ 32

theorem not_fromDelivered {reads : List UInt8 → UInt32 → Prop} {fuel : Nat}
    {residue : Nat → UInt8} {outcomes : List Outcome} (fails : FailsInside fuel outcomes) :
    ¬ FromDelivered reads fuel residue outcomes := by
  rintro ⟨-, stops⟩
  obtain ⟨zeros, later, within, rfl, inside⟩ := fails
  rw [readHeader_zeros residue later within] at stops
  rcases inside with ⟨p, reason, rest, rfl, continued, early⟩ |
    ⟨g, later, varint, rfl, p, reason, rest, rfl, continued, early⟩
  · obtain ⟨e, val, rx', len, unnoticed⟩ :=
      @readVarint_interrupted _ p reason rest rfl continued early residue (zeros + 1)
    have further := @readNumbers_interrupted _ _ _ _ (zeros + 1 + p.length) len (by
      rcases unnoticed with ⟨zero, rfl⟩ | further
      · exact Or.inl ⟨zero, Nat.le_refl _⟩
      · exact Or.inr further)
    obtain ⟨e', rx'', -, count, rejected⟩ :=
      stops (List.replicate zeros .nothing ++ .byte 0 :: p.map .byte) reason rest
        (by rw [List.append_assoc, List.cons_append])
        (by rw [length_before]; omega)
    rw [length_before] at count
    rw [rejected, final_ok] at further
    omega
  · have len := readVarint_delivers
      (delivers_script residue (p.map .byte ++ .failed reason :: rest) g (zeros + 1)) varint
    obtain ⟨e, val, rx', id, unnoticed⟩ :=
      @readVarint_interrupted _ p reason rest rfl continued early residue (zeros + 1 + g.length)
    have split : List.replicate zeros Outcome.nothing ++ .byte 0 ::
        (g.map .byte ++ (p.map .byte ++ .failed reason :: rest)) =
        (List.replicate zeros .nothing ++ .byte 0 :: (g ++ p).map .byte) ++
          .failed reason :: rest := by
      simp only [List.append_assoc, List.cons_append, List.map_append]
    by_cases zero : e = 0
    · subst zero
      have accepted := readNumbers_accepts len id
      obtain ⟨e', rx'', -, -, rejected⟩ := stops _ reason rest split (by
        rw [accepted, final_ok, length_before, List.length_append]
        rcases unnoticed with ⟨-, rfl⟩ | further
        · exact Nat.lt_succ_of_le (by omega)
        · omega)
      rw [accepted] at rejected
      exact absurd (EStateM.Result.ok.inj rejected).1 nofun
    · have rejects := readNumbers_rejects_id zero len id
      have further : zeros + 1 + g.length + p.length + 2 ≤ rx'.calls := by
        rcases unnoticed with ⟨none, -⟩ | further
        · exact absurd none zero
        · exact further
      obtain ⟨e', rx'', -, count, rejected⟩ := stops _ reason rest split (by
        rw [rejects, final_ok, length_before, List.length_append]
        omega)
      rw [rejects] at rejected
      obtain ⟨-, rfl⟩ := EStateM.Result.ok.inj rejected
      rw [length_before, List.length_append] at count
      omega

theorem fromDelivered {reads : List UInt8 → UInt32 → Prop} {fuel : Nat} {residue : Nat → UInt8}
    {outcomes : List Outcome} (none : ¬ FailsInside fuel outcomes)
    (values : ∀ g g' calls, Delivered fuel outcomes g g' calls →
      reads g (UInt64.ofNat (value g)).toUInt32 ∧ reads g' (UInt64.ofNat (value g')).toUInt32) :
    FromDelivered reads fuel residue outcomes := by
  rcases readHeader_outcomes fuel residue outcomes with
    ⟨g, g', calls, rest, delivered, run⟩ | ⟨e, calls, rest, nonzero, last, run⟩ |
    ⟨calls, rest, waits, run⟩ | fails
  · constructor
    · intro msgId len rx' run'
      rw [run] at run'
      obtain ⟨numbers, rfl⟩ := EStateM.Result.ok.inj run'
      refine ⟨⟨g, g', delivered⟩, ?_⟩
      intro h h' calls' delivered'
      obtain ⟨rx'', again⟩ := readHeader_delivers delivered' residue
      rw [run] at again
      obtain ⟨numbers', -⟩ := EStateM.Result.ok.inj again
      obtain ⟨rfl, rfl⟩ := Prod.mk.inj (Except.ok.inj (numbers'.symm.trans numbers))
      exact values h h' calls' delivered'
    · intro pre reason post split made
      rw [run, final_ok] at made
      exact absurd (delivered.unfailed pre reason post split) (Nat.not_le.mpr made)
  · constructor
    · intro msgId len rx' run'
      rw [run] at run'
      exact absurd (EStateM.Result.ok.inj run').1 nofun
    · intro pre reason post split made
      rw [run, final_ok] at made
      refine ⟨e, _, nonzero, ?_, run⟩
      exact Nat.le_antisymm (last pre reason post split) made
  · constructor
    · intro msgId len rx' run'
      rw [run] at run'
      exact absurd run' nofun
    · intro pre reason post split made
      rw [run] at made
      exact absurd (waits pre reason post split) (Nat.not_le.mpr made)
  · exact absurd fails none

/-- Failed calls do no harm exactly when none comes before the tenth call for a number; and the
numbers are those delivered exactly when these also fit 32 bits. -/
theorem fromDelivered_iff (fuel : Nat) (residue : Nat → UInt8) (outcomes : List Outcome) :
    (FromDelivered Narrowed fuel residue outcomes ↔ ¬ FailsInside fuel outcomes) ∧
    (FromDelivered Exact fuel residue outcomes ↔
      ¬ FailsInside fuel outcomes ∧ NumbersFit fuel outcomes) := by
  refine ⟨⟨?_, ?_⟩, ?_, ?_⟩
  · intro holds fails
    exact not_fromDelivered fails holds
  · intro none
    exact fromDelivered none fun _ _ _ _ => ⟨rfl, rfl⟩
  · intro holds
    refine ⟨fun fails => not_fromDelivered fails holds, ?_⟩
    intro g g' calls delivered
    obtain ⟨rx', run⟩ := readHeader_delivers delivered residue
    obtain ⟨len, msgId⟩ := (holds.delivered _ _ rx' run).2 g g' calls delivered
    exact ⟨(narrowed delivered.first.value_lt).mp len.symm,
      (narrowed delivered.second.value_lt).mp msgId.symm⟩
  · rintro ⟨none, fit⟩
    apply fromDelivered none
    intro g g' calls delivered
    obtain ⟨small, small'⟩ := fit g g' calls delivered
    exact ⟨((narrowed delivered.first.value_lt).mpr small).symm,
      ((narrowed delivered.second.value_lt).mpr small').symm⟩

/-- The call for the length fails, the uninitialised byte is taken for it, and the id follows. -/
theorem failed_length : ¬ ∀ (fuel : Nat) (residue : Nat → UInt8) (outcomes : List Outcome),
    FromDelivered Narrowed fuel residue outcomes := by
  intro always
  have fails : FailsInside 1 [.byte 0x00, .failed ⟨-eio, by decide⟩, .byte 0x07] :=
    ⟨0, _, Nat.one_pos, rfl, Or.inl ⟨[], _, _, rfl, nofun, by decide⟩⟩
  exact not_fromDelivered fails (always 1 (fun _ => 0x00) _)

end ZephyrEsphome.Rpc.FailedReceive
