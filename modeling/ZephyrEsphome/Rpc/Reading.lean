/- Digest: What receiving a message takes from the stream, and which streams hold a message. -/

import ZephyrEsphome.Rpc.Writing

set_option autoImplicit false
set_option relaxedAutoImplicit false

namespace ZephyrEsphome.Rpc.Reading

open Kernel
open Library.Base128 (encode value value_encode)
open Library.Exec
open Varint (IsVarint isVarint_encode readDecodeVarint readDecodeVarint_accepts
  readDecodeVarint_sound recv_byte)
open Writing (header frame length_uninitialised run_kMalloc)

structure IsHeader (bytes : List UInt8) (msgId len : UInt32) : Prop where
  parts : ∃ g g', IsVarint g ∧ IsVarint g' ∧ bytes = 0 :: (g ++ g') ∧
    (UInt64.ofNat (value g)).toUInt32 = len ∧ (UInt64.ofNat (value g')).toUInt32 = msgId

theorem isHeader_header (rpcId : UInt32) {len : Nat} (h : len < 2 ^ 32) :
    IsHeader (header rpcId len) rpcId (UInt32.ofNat len) := by
  have small := rpcId.toNat_lt
  refine ⟨encode len, encode rpcId.toNat, isVarint_encode (by omega), isVarint_encode (by omega),
    rfl, ?_, ?_⟩
  · rw [value_encode]
    apply UInt32.toNat_inj.mp
    rw [UInt64.toNat_toUInt32, UInt64.toNat_ofNat', UInt32.toNat_ofNat']
    omega
  · rw [value_encode]
    apply UInt32.toNat_inj.mp
    rw [UInt64.toNat_toUInt32, UInt64.toNat_ofNat']
    omega

/-- The receiver after so many calls, with `rest` still to come. -/
def took (rx : Receiver) (rest : List UInt8) (calls : Nat) : Receiver :=
  { rx with incoming := rest, calls := rx.calls + calls }

theorem took_took (rx : Receiver) (rest rest' : List UInt8) (calls calls' : Nat) :
    took (took rx rest calls) rest' calls' = took rx rest' (calls + calls') := by
  simp only [took, Nat.add_assoc]

theorem run_zsockRecv (rx : Receiver) (len : Nat) :
    (zsockRecv len).run rx = .ok (rx.zsockRecv len).1 (rx.zsockRecv len).2 := rfl

theorem run_zsockRecv_of {rx rx' : Receiver} {len : Nat} {returned : Int × List UInt8}
    (call : rx.zsockRecv len = (returned, rx')) : (zsockRecv len).run rx = .ok returned rx' := by
  rw [run_zsockRecv, call]

theorem run_readVarint (rx : Receiver) :
    readVarint.run rx = .ok (readDecodeVarint 0 rx).1 (readDecodeVarint 0 rx).2 := rfl

theorem awaitByte_end (fuel : Nat) : ∀ (rx : Receiver) (byte : UInt8), rx.schedule = [] →
    rx.incoming = [] → (awaitByte fuel byte).run rx = .error .unfinished (took rx [] fuel) := by
  induction fuel with
  | zero =>
    intro rx byte _ ended
    rw [took, ← ended]
    rfl
  | succ fuel ih =>
    intro rx byte plain ended
    have call : (zsockRecv 1).run rx = .ok (0, []) (took rx [] 1) := by
      simp [run_zsockRecv, Receiver.zsockRecv, plain, ended, took]
    have later := ih (took rx [] 1) byte plain rfl
    rw [took_took, Nat.add_comm 1 fuel] at later
    rw [← later]
    apply loop_next
    rw [run_bind_ok _ call]
    rfl

section Header

variable {rx : Receiver} (plain : rx.schedule = [])

include plain

theorem recv_took {got rest : List UInt8} (next : rx.incoming = got ++ rest) :
    (zsockRecv got.length).run rx = .ok ((got.length : Int), got) (took rx rest 1) := by
  rw [run_zsockRecv, Receiver.zsockRecv_plain plain next, took]

theorem awaitByte_byte {b : UInt8} {bs : List UInt8} (next : rx.incoming = b :: bs) (fuel : Nat)
    (byte : UInt8) : (awaitByte (fuel + 1) byte).run rx = .ok (1, b) (took rx bs 1) := by
  apply loop_done
  have call := @recv_took _ plain [b] bs next
  rw [List.length_singleton] at call
  rw [run_bind_ok _ call]
  rfl

theorem readVarint_accepts {g rest : List UInt8} (next : rx.incoming = g ++ rest)
    (varint : IsVarint g) :
    readVarint.run rx = .ok (0, UInt64.ofNat (value g)) (took rx rest g.length) := by
  rw [run_readVarint, readDecodeVarint_accepts plain next varint, took]

theorem readVarint_cases :
    (∃ g rest, rx.incoming = g ++ rest ∧ IsVarint g) ∨
      ∃ e val rx', e ≠ 0 ∧ readVarint.run rx = .ok (e, val) rx' := by
  by_cases accepted : (readDecodeVarint 0 rx).1.1 = 0
  · exact Or.inl (readDecodeVarint_sound plain 0 accepted)
  · exact Or.inr ⟨_, _, _, accepted, rfl⟩

theorem readHeader_end (ended : rx.incoming = []) (fuel : Nat) :
    (esphomeReadHeader fuel).run rx = .error .unfinished (took rx [] fuel) := by
  have waits := awaitByte_end fuel rx (rx.residue rx.calls) plain ended
  rw [esphomeReadHeader, run_bind_ok _ (run_get rx), run_bind_error _ waits]

theorem readHeader_accepts {bytes rest : List UInt8} {msgId len : UInt32}
    (next : rx.incoming = bytes ++ rest) (whole : IsHeader bytes msgId len) (fuel : Nat) :
    (esphomeReadHeader (fuel + 1)).run rx =
      .ok (.ok (msgId, len)) (took rx rest bytes.length) := by
  obtain ⟨g, g', first, second, rfl, rfl, rfl⟩ := whole
  rw [List.cons_append, List.append_assoc] at next
  have byte := awaitByte_byte plain next fuel (rx.residue rx.calls)
  have lenRead := @readVarint_accepts (took rx (g ++ (g' ++ rest)) 1) plain _ _ rfl first
  rw [took_took] at lenRead
  have idRead := @readVarint_accepts (took rx (g' ++ rest) (1 + g.length)) plain _ _ rfl second
  rw [took_took] at idRead
  rw [esphomeReadHeader, run_bind_ok _ (run_get rx), run_bind_ok _ byte]
  dsimp only
  rw [if_neg (by decide), if_neg (not_not_intro rfl), run_bind_ok _ lenRead]
  dsimp only
  rw [if_neg (not_not_intro rfl), run_bind_ok _ idRead]
  have count : (0 :: (g ++ g')).length = 1 + g.length + g'.length := by
    rw [List.length_cons, List.length_append]
    omega
  rw [count]
  rfl

theorem readHeader_cases (more : rx.incoming ≠ []) (fuel : Nat) :
    (∃ bytes rest msgId len, rx.incoming = bytes ++ rest ∧ IsHeader bytes msgId len) ∨
      ∃ e rx', e ≠ 0 ∧ (esphomeReadHeader (fuel + 1)).run rx = .ok (.error e) rx' := by
  obtain ⟨b, bs, next⟩ := List.exists_cons_of_ne_nil more
  have byte := awaitByte_byte plain next fuel (rx.residue rx.calls)
  rw [esphomeReadHeader, run_bind_ok _ (run_get rx), run_bind_ok _ byte]
  dsimp only
  rw [if_neg (by decide)]
  by_cases zero : b = 0
  · rw [if_neg (not_not_intro zero)]
    rcases @readVarint_cases (took rx bs 1) plain with
      ⟨g, bs', split, varint⟩ | ⟨e, val, rx', nonzero, run⟩
    · rw [run_bind_ok _ (@readVarint_accepts (took rx bs 1) plain _ _ split varint), took_took]
      dsimp only
      rw [if_neg (not_not_intro rfl)]
      rcases @readVarint_cases (took rx bs' (1 + g.length)) plain with
        ⟨g', rest, split', varint'⟩ | ⟨e, val, rx', nonzero, run⟩
      · left
        refine ⟨0 :: (g ++ g'), rest, _, _, ?_, g, g', varint, varint', rfl, rfl, rfl⟩
        rw [next, zero, show bs = g ++ bs' from split, show bs' = g' ++ rest from split',
          List.cons_append, List.append_assoc]
      · right
        refine ⟨e, rx', nonzero, ?_⟩
        rw [run_bind_ok _ run]
        dsimp only
        rw [if_pos nonzero]
        rfl
    · right
      refine ⟨e, rx', nonzero, ?_⟩
      rw [run_bind_ok _ run]
      dsimp only
      rw [if_pos nonzero]
      rfl
  · right
    refine ⟨-eio, took rx bs 1, by decide, ?_⟩
    rw [if_pos zero]
    rfl

end Header

structure Arrives (s : Node) (msgId : UInt32) (payload rest : List UInt8) (taken : Node) :
    Prop where
  frame : ∃ bytes len, IsHeader bytes msgId len ∧ payload.length = len.toNat ∧
    s.rx.incoming = bytes ++ (payload ++ rest) ∧ (len ≠ 0 → ¬ s.heap.Refuses) ∧
    taken = { s with
      rx := took s.rx rest (bytes.length + if len = 0 then 0 else 1)
      heap := if len = 0 then s.heap else (s.heap.kMalloc len.toNat).2 }

section Message

variable {s : Node}

theorem Arrives.three_le {msgId : UInt32} {payload rest : List UInt8} {taken : Node}
    (arrives : Arrives s msgId payload rest taken) : rest.length + 3 ≤ s.rx.incoming.length := by
  obtain ⟨bytes, len, ⟨g, g', first, second, rfl, -⟩, -, next, -⟩ := arrives
  have one := List.length_pos_iff.mpr first.terminated.ne_nil
  have two := List.length_pos_iff.mpr second.terminated.ne_nil
  rw [next]
  simp only [List.length_append, List.length_cons]
  omega

theorem run_onRx_ok {α : Type} {m : Exec Receiver α} {a : α} {rx : Receiver}
    (h : m.run s.rx = .ok a rx) : (onRx m).run s = .ok a { s with rx := rx } :=
  run_zoom_ok _ h

theorem run_onRx_error {α : Type} {m : Exec Receiver α} {e : Stop} {rx : Receiver}
    (h : m.run s.rx = .error e rx) : (onRx m).run s = .error e { s with rx := rx } :=
  run_zoom_error _ h

theorem ofInt_eq_iff {count : Nat} {len : UInt32} (h : count ≤ len.toNat) :
    UInt32.ofInt (count : Int) = len ↔ count = len.toNat := by
  have small := len.toNat_lt
  rw [← UInt32.toNat_inj, UInt32.ofInt, UInt32.toNat_ofNat']
  omega

theorem receiveMessage_arrives {msgId : UInt32} {payload rest : List UInt8} {taken : Node}
    (plain : s.rx.schedule = []) (arrives : Arrives s msgId payload rest taken) (fuel : Nat) :
    (receiveMessage (fuel + 1)).run s = .ok (.ok (msgId, payload)) taken := by
  obtain ⟨bytes, len, head, full, next, granted, rfl⟩ := arrives
  have headerRun := run_onRx_ok (readHeader_accepts plain next head fuel)
  rw [receiveMessage, run_bind_ok _ headerRun]
  dsimp only
  by_cases zero : len = 0
  · subst zero
    have empty : payload = [] := List.length_eq_zero_iff.mp full
    subst empty
    rfl
  · simp only [if_neg zero]
    have block : (s.heap.kMalloc len.toNat).1 = some (s.heap.ledger.next, len.toNat) := by
      rw [Heap.kMalloc, if_neg (granted zero)]
    have heap := run_kMalloc { s with rx := took s.rx (payload ++ rest) bytes.length } len.toNat
    rw [show _ = some _ from block] at heap
    have recv := @recv_took (took s.rx (payload ++ rest) bytes.length) plain payload rest rfl
    rw [full, took_took] at recv
    rw [run_bind_ok _ heap]
    dsimp only
    rw [run_bind_ok _ (run_get _), run_bind_ok _ (run_onRx_ok recv)]
    dsimp only
    rw [if_neg (not_not_intro ((ofInt_eq_iff (Nat.le_refl _)).mpr rfl)),
      List.drop_eq_nil_of_le (by rw [length_uninitialised, full]), List.append_nil]
    rfl

theorem receiveMessage_end (plain : s.rx.schedule = []) (ended : s.rx.incoming = []) (fuel : Nat) :
    (receiveMessage fuel).run s = .error .unfinished { s with rx := took s.rx [] fuel } := by
  rw [receiveMessage, run_bind_error _ (run_onRx_error (readHeader_end plain ended fuel))]

theorem receiveMessage_cases (plain : s.rx.schedule = []) (more : s.rx.incoming ≠ [])
    (fuel : Nat) :
    (∃ msgId payload rest taken, Arrives s msgId payload rest taken) ∨
      ∃ e t, e ≠ 0 ∧ (receiveMessage (fuel + 1)).run s = .ok (.error e) t := by
  rcases readHeader_cases plain more fuel with
    ⟨bytes, later, msgId, len, next, head⟩ | ⟨e, rx', nonzero, run⟩
  · have headerRun := run_onRx_ok (readHeader_accepts plain next head fuel)
    by_cases zero : len = 0
    · left
      refine ⟨msgId, [], later, _, bytes, len, head, ?_, next, fun h => absurd zero h, rfl⟩
      rw [zero]
      rfl
    · have heap := run_kMalloc { s with rx := took s.rx later bytes.length } len.toNat
      by_cases refused : s.heap.Refuses
      · right
        have block : (s.heap.kMalloc len.toNat).1 = none := by
          rw [Heap.kMalloc, if_pos refused]
        rw [show _ = none from block] at heap
        refine ⟨-enomem, { s with
          rx := took s.rx later bytes.length
          heap := (s.heap.kMalloc len.toNat).2 }, by decide, ?_⟩
        rw [receiveMessage, run_bind_ok _ headerRun]
        simp only [if_neg zero]
        rw [run_bind_ok _ heap]
        rfl
      · by_cases enough : len.toNat ≤ later.length
        · left
          refine ⟨msgId, later.take len.toNat, later.drop len.toNat, _, bytes, len, head, ?_, ?_,
            fun _ => refused, rfl⟩
          · rw [List.length_take, Nat.min_eq_left enough]
          · rw [next, List.take_append_drop]
        · right
          have block : (s.heap.kMalloc len.toNat).1 = some (s.heap.ledger.next, len.toNat) := by
            rw [Heap.kMalloc, if_neg refused]
          rw [show _ = some _ from block] at heap
          have all : later.take len.toNat = later := List.take_of_length_le (by omega)
          have recv : (zsockRecv len.toNat).run (took s.rx later bytes.length) =
              .ok ((later.length : Int), later)
                (took s.rx (later.drop len.toNat) (bytes.length + 1)) := by
            rw [run_zsockRecv]
            simp [Receiver.zsockRecv, took, plain, all, Nat.add_assoc]
          have short : UInt32.ofInt (later.length : Int) ≠ len := by
            intro same
            have := (ofInt_eq_iff (by omega)).mp same
            omega
          refine ⟨-eio, { s with
            rx := took s.rx (later.drop len.toNat) (bytes.length + 1)
            heap := (s.heap.kMalloc len.toNat).2 }, by decide, ?_⟩
          rw [receiveMessage, run_bind_ok _ headerRun]
          simp only [if_neg zero]
          rw [run_bind_ok _ heap]
          dsimp only
          rw [run_bind_ok _ (run_get _), run_bind_ok _ (run_onRx_ok recv)]
          dsimp only
          rw [if_pos short]
          rfl
  · right
    refine ⟨e, { s with rx := rx' }, nonzero, ?_⟩
    rw [receiveMessage, run_bind_ok _ (run_onRx_ok run)]
    rfl

end Message

end ZephyrEsphome.Rpc.Reading
