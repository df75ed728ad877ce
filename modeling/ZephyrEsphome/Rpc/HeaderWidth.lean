/- Digest: A header is accepted as what was sent exactly when both of its numbers fit 32 bits. -/

import ZephyrEsphome.Rpc.Reading

set_option autoImplicit false
set_option relaxedAutoImplicit false

namespace ZephyrEsphome.Rpc.HeaderWidth

open Kernel
open Library.Base128 (value Terminated)
open Library.Exec
open Varint (IsVarint toNat_ofNat_word)
open Reading

def RejectsHeader (fuel : Nat) (s : Node) : Prop :=
  ∃ e rx', e ≠ 0 ∧ (esphomeReadHeader fuel).run s.rx = .ok (.error e) rx'

/-- What an accepted header means, as the sender counts: its numbers are those on the stream, one
that does not fit 32 bits is rejected, and the payload ends where the sender ended it. -/
structure AsSent (fuel : Nat) (s : Node) : Prop where
  exact : ∀ msgId len rx', (esphomeReadHeader fuel).run s.rx = .ok (.ok (msgId, len)) rx' →
    ∃ g g', s.rx.incoming = 0 :: (g ++ (g' ++ rx'.incoming)) ∧ Terminated g ∧ Terminated g' ∧
      value g = len.toNat ∧ value g' = msgId.toNat
  wideLength : ∀ g rest, s.rx.incoming = 0 :: (g ++ rest) → Terminated g → 2 ^ 32 ≤ value g →
    RejectsHeader fuel s
  wideId : ∀ g g' rest, s.rx.incoming = 0 :: (g ++ (g' ++ rest)) → Terminated g →
    Terminated g' → 2 ^ 32 ≤ value g' → RejectsHeader fuel s
  boundary : ∀ msgId payload t, (receiveMessage fuel).run s = .ok (.ok (msgId, payload)) t →
    ∃ g g', s.rx.incoming = 0 :: (g ++ (g' ++ (payload ++ t.rx.incoming))) ∧ Terminated g ∧
      Terminated g' ∧ value g = payload.length ∧ value g' = msgId.toNat

/-- If the stream begins with a zero byte and two numbers of 64 bits, both fit 32 bits. -/
def NumbersFit (stream : List UInt8) : Prop :=
  ∀ g g' rest, stream = 0 :: (g ++ (g' ++ rest)) → IsVarint g → IsVarint g' →
    value g < 2 ^ 32 ∧ value g' < 2 ^ 32

theorem narrowed {n : Nat} (h : n < 2 ^ 64) :
    (UInt64.ofNat n).toUInt32.toNat = n ↔ n < 2 ^ 32 := by
  rw [UInt64.toNat_toUInt32, toNat_ofNat_word h]
  omega

private theorem fit_of_cut {g g' h h' rest rest' : List UInt8} (first : Terminated g)
    (second : Terminated g') (first' : Terminated h) (second' : Terminated h')
    (same : 0 :: (g ++ (g' ++ rest)) = 0 :: (h ++ (h' ++ rest'))) : g = h ∧ g' = h' := by
  obtain ⟨rfl, tail⟩ := first.prefix_unique first' (List.cons.inj same).2
  obtain ⟨rfl, -⟩ := second.prefix_unique second' tail
  exact ⟨rfl, rfl⟩

section Header

variable {s : Node} (plain : s.rx.schedule = [])

include plain

theorem header_narrows {g g' rest : List UInt8} (first : IsVarint g) (second : IsVarint g')
    (next : s.rx.incoming = 0 :: (g ++ (g' ++ rest))) (fuel : Nat) :
    ∃ calls, (esphomeReadHeader (fuel + 1)).run s.rx =
      .ok (.ok ((UInt64.ofNat (value g')).toUInt32, (UInt64.ofNat (value g)).toUInt32))
        (took s.rx rest calls) := by
  have split : s.rx.incoming = (0 :: (g ++ g')) ++ rest := by
    rw [next, List.cons_append, List.append_assoc]
  exact ⟨_, readHeader_accepts plain split ⟨g, g', first, second, rfl, rfl, rfl⟩ fuel⟩

theorem header_or_rejects (more : s.rx.incoming ≠ []) (fuel : Nat) :
    (∃ g g' rest, IsVarint g ∧ IsVarint g' ∧ s.rx.incoming = 0 :: (g ++ (g' ++ rest))) ∨
      RejectsHeader (fuel + 1) s := by
  rcases readHeader_cases plain more fuel with
    ⟨bytes, rest, msgId, len, next, g, g', first, second, rfl, -⟩ | rejected
  · left
    refine ⟨g, g', rest, first, second, ?_⟩
    rw [next, List.cons_append, List.append_assoc]
  · right
    exact rejected

theorem asSent_of_fit (fit : NumbersFit s.rx.incoming) (fuel : Nat) : AsSent (fuel + 1) s := by
  constructor
  · intro msgId len rx' run
    by_cases ended : s.rx.incoming = []
    · rw [readHeader_end plain ended] at run
      exact absurd run nofun
    · rcases header_or_rejects plain ended fuel with
        ⟨g, g', rest, first, second, next⟩ | ⟨e, u, nonzero, rejected⟩
      · obtain ⟨calls, accepted⟩ := header_narrows plain first second next fuel
        obtain ⟨small, small'⟩ := fit g g' rest next first second
        obtain ⟨values, rfl⟩ := EStateM.Result.ok.inj (accepted.symm.trans run)
        obtain ⟨rfl, rfl⟩ := Prod.mk.inj (Except.ok.inj values)
        refine ⟨g, g', next, first.terminated, second.terminated, ?_, ?_⟩
        · exact ((narrowed first.value_lt).mpr small).symm
        · exact ((narrowed second.value_lt).mpr small').symm
      · obtain ⟨values, -⟩ := EStateM.Result.ok.inj (rejected.symm.trans run)
        exact absurd values nofun
  · intro g rest next ended wide
    rcases header_or_rejects plain (by rw [next]; exact List.cons_ne_nil _ _) fuel with
      ⟨h, h', rest', first, second, next'⟩ | rejected
    · obtain ⟨small, -⟩ := fit h h' rest' next' first second
      rw [next, List.cons.injEq] at next'
      obtain ⟨rfl, -⟩ := ended.prefix_unique first.terminated next'.2
      exact absurd small (Nat.not_lt.mpr wide)
    · exact rejected
  · intro g g' rest next ended ended' wide
    rcases header_or_rejects plain (by rw [next]; exact List.cons_ne_nil _ _) fuel with
      ⟨h, h', rest', first, second, next'⟩ | rejected
    · obtain ⟨-, small⟩ := fit h h' rest' next' first second
      obtain ⟨rfl, rfl⟩ :=
        fit_of_cut ended ended' first.terminated second.terminated (next.symm.trans next')
      exact absurd small (Nat.not_lt.mpr wide)
    · exact rejected
  · intro msgId payload t run
    by_cases ended : s.rx.incoming = []
    · rw [receiveMessage_end plain ended] at run
      exact absurd run nofun
    · rcases receiveMessage_cases plain ended fuel with
        ⟨msgId', payload', rest, taken, arrives⟩ | ⟨e, u, nonzero, rejected⟩
      · obtain ⟨values, rfl⟩ :=
          EStateM.Result.ok.inj ((receiveMessage_arrives plain arrives fuel).symm.trans run)
        obtain ⟨rfl, rfl⟩ := Prod.mk.inj (Except.ok.inj values)
        obtain ⟨bytes, len, ⟨g, g', first, second, rfl, rfl, rfl⟩, full, next, -, rfl⟩ := arrives
        rw [List.cons_append, List.append_assoc] at next
        obtain ⟨small, small'⟩ := fit g g' _ next first second
        refine ⟨g, g', next, first.terminated, second.terminated, ?_, ?_⟩
        · rw [full]
          exact ((narrowed first.value_lt).mpr small).symm
        · exact ((narrowed second.value_lt).mpr small').symm
      · obtain ⟨values, -⟩ := EStateM.Result.ok.inj (rejected.symm.trans run)
        exact absurd values nofun

/-- Headers are accepted as they were sent exactly on the streams whose numbers fit 32 bits. -/
theorem asSent_iff (fuel : Nat) : AsSent (fuel + 1) s ↔ NumbersFit s.rx.incoming := by
  constructor
  · intro holds g g' rest next first second
    obtain ⟨calls, accepted⟩ := header_narrows plain first second next fuel
    obtain ⟨h, h', next', first', second', len, msgId⟩ := holds.exact _ _ _ accepted
    obtain ⟨rfl, rfl⟩ :=
      fit_of_cut first.terminated second.terminated first' second' (next.symm.trans next')
    exact ⟨(narrowed first.value_lt).mp len.symm, (narrowed second.value_lt).mp msgId.symm⟩
  · intro fit
    exact asSent_of_fit plain fit fuel

end Header

theorem asSent_iff_ping : AsSent 1 (freshNode none [] [0x00, 0x00, 0x07]) := by
  apply (asSent_iff (show (freshNode none [] [0x00, 0x00, 0x07]).rx.schedule = [] from rfl) 0).mpr
  intro g g' rest next first second
  have ended : Terminated [0x00] := by decide
  have ended' : Terminated [0x07] := by decide
  obtain ⟨rfl, rfl⟩ := @fit_of_cut _ _ _ _ [] _ ended ended' first.terminated second.terminated next
  exact ⟨by decide, by decide⟩

/-- A length of 2 ^ 32 is taken for no payload at all. -/
theorem wide_length : ¬ ∀ (s : Node) (fuel : Nat), s.rx.schedule = [] → AsSent (fuel + 1) s := by
  intro always
  have run : AsSent 1 (freshNode none [] [0x00, 0x80, 0x80, 0x80, 0x80, 0x10, 0x07]) :=
    always _ 0 rfl
  have varint : IsVarint [0x80, 0x80, 0x80, 0x80, 0x10] := ⟨by decide, by decide, by decide⟩
  have varint' : IsVarint [0x07] := ⟨by decide, by decide, by decide⟩
  obtain ⟨calls, accepted⟩ := @header_narrows (freshNode none [] _) rfl _ _ [] varint varint' rfl 0
  have rejects := run.wideLength [0x80, 0x80, 0x80, 0x80, 0x10] [0x07] rfl varint.terminated
    (by decide)
  obtain ⟨e, rx', -, rejected⟩ := rejects
  obtain ⟨values, -⟩ := EStateM.Result.ok.inj (accepted.symm.trans rejected)
  exact absurd values nofun

end ZephyrEsphome.Rpc.HeaderWidth
