/- Digest: When the end of an update is announced truthfully and leaves no upgrade behind. -/

import ZephyrEsphome.Ota.Transfer

set_option autoImplicit false
set_option relaxedAutoImplicit false

namespace ZephyrEsphome.Ota.Commit

open Kernel
open Library.Exec
open OtaResponseTypes (code)
open Calls Session Transfer

/-- The result of the next `boot_request_upgrade`. -/
def bootResult (u : OtaNode) : Int := u.bootOutcomes.headD 0

def endResult (u : OtaNode) : Int := (u.tx.zsockSend [code .updateEndOk]).1

/-- The socket takes the announcement, and the client answers it with an OK. -/
structure Confirmed (u : OtaNode) : Prop where
  announced : endResult u = 1
  answered : (u.rx.zsockRecv 1).1.1 = 1
  byte : (u.rx.zsockRecv 1).1.2.headD 0 = code .ok

def commitEvents (u : OtaNode) : List OtaEvent :=
  .upgrade u.flash.written (bootResult u) :: .sent [code .updateEndOk] (endResult u) ::
    if endResult u = 1 then [.received 1 (u.rx.zsockRecv 1).1.1] else []

private def acknowledged (u : OtaNode) : OtaNode :=
  { u with
    rx := (u.rx.zsockRecv 1).2
    events := u.events ++ [.received 1 (u.rx.zsockRecv 1).1.1] }

theorem run_readAck (u : OtaNode) :
    ∃ ret, esphomeOtaReadAck.run u = .ok ret (acknowledged u) ∧
      (ret = 0 ↔ (u.rx.zsockRecv 1).1.1 = 1 ∧ (u.rx.zsockRecv 1).1.2.headD 0 = code .ok) := by
  rw [esphomeOtaReadAck, run_bind_ok _ (run_recv 1 u)]
  dsimp only
  by_cases full : (u.rx.zsockRecv 1).1.1 = 1
  · rw [if_neg (not_not_intro full)]
    by_cases ok : (u.rx.zsockRecv 1).1.2.headD 0 = code .ok
    · rw [if_neg (not_not_intro ok)]
      exact ⟨0, rfl, fun _ => ⟨full, ok⟩, fun _ => rfl⟩
    · rw [if_pos ok]
      refine ⟨-einval, rfl, ?_, fun both => absurd both.2 ok⟩
      intro zero
      exact absurd zero (by decide)
  · rw [if_pos full]
    refine ⟨-eio, rfl, ?_, fun both => absurd both.1 full⟩
    intro zero
    exact absurd zero (by decide)

theorem run_commit (u : OtaNode) :
    (final (commit.run u)).events = u.events ++ commitEvents u ∧
      ((∃ t, commit.run u = .error .reboot t) ∧ Confirmed u ∨
        (∃ ret t, commit.run u = .ok ret t) ∧ ¬ Confirmed u) := by
  rw [commit, run_bind_ok _ (run_boot u), run_bind_ok _ (run_send [code .updateEndOk] _)]
  by_cases taken : endResult u = 1
  · have sent : (u.tx.zsockSend [code .updateEndOk]).1 = 1 := taken
    obtain ⟨ret, ack, zero_iff⟩ := run_readAck { u with
      bootOutcomes := u.bootOutcomes.tail
      tx := (u.tx.zsockSend [code .updateEndOk]).2
      events := u.events ++ [.upgrade u.flash.written (u.bootOutcomes.headD 0)] ++
        [.sent [code .updateEndOk] (u.tx.zsockSend [code .updateEndOk]).1] }
    have events : u.events ++ commitEvents u =
        u.events ++ [.upgrade u.flash.written (u.bootOutcomes.headD 0)] ++
          [.sent [code .updateEndOk] (u.tx.zsockSend [code .updateEndOk]).1] ++
          [.received 1 (u.rx.zsockRecv 1).1.1] := by
      simp [commitEvents, taken, sent, bootResult]
    rw [events]
    dsimp only
    rw [if_neg (not_not_intro sent), run_bind_ok _ ack]
    by_cases zero : ret = 0
    · rw [if_neg (not_not_intro zero)]
      obtain ⟨full, ok⟩ := zero_iff.mp zero
      exact ⟨rfl, Or.inl ⟨⟨_, rfl⟩, taken, full, ok⟩⟩
    · rw [if_pos zero]
      refine ⟨rfl, Or.inr ⟨⟨ret, _, rfl⟩, ?_⟩⟩
      rintro ⟨-, full, ok⟩
      exact zero (zero_iff.mpr ⟨full, ok⟩)
  · have refused : (u.tx.zsockSend [code .updateEndOk]).1 ≠ 1 := taken
    dsimp only
    rw [if_pos refused]
    refine ⟨?_, Or.inr ⟨⟨_, _, rfl⟩, fun confirmed => taken confirmed.announced⟩⟩
    rw [commitEvents, if_neg taken]
    simp [endResult, bootResult, final]

def BeforeCommit (event : OtaEvent) : Prop :=
  ¬ IsUpgrade event ∧ ∀ buf ret, event = .sent buf ret → code .updateEndOk ∉ buf

theorem usual_beforeCommit : Usual BeforeCommit where
  received requested ret := ⟨nofun, nofun⟩
  answered response ret other := by
    refine ⟨nofun, ?_⟩
    rintro buf ret' same
    obtain ⟨rfl, -⟩ := OtaEvent.sent.inj same
    cases response <;> first | exact absurd rfl other | decide
  version ret := by
    refine ⟨nofun, ?_⟩
    rintro buf ret' same
    obtain ⟨rfl, -⟩ := OtaEvent.sent.inj same
    decide
  wrote buf flush ret := ⟨nofun, nofun⟩

theorem record_reached {fuel : Nat} {s u : OtaNode} (reached : (download fuel).run s = .ok none u) :
    ∃ before, (∀ event ∈ before, BeforeCommit event) ∧
      record fuel s = before ++ commitEvents u := by
  obtain ⟨before, split, calm⟩ : Guarantee.Grown OtaNode.events BeforeCommit s u := by
    have kept := (download_keeps usual_beforeCommit.keeps fuel).final s
    rwa [reached, final_ok] at kept
  refine ⟨before, calm, ?_⟩
  rw [record, esphomeOtaRun, run_bind_ok _ reached]
  dsimp only
  rw [(run_commit u).1, split, List.append_assoc, List.drop_left]

theorem record_unreached {fuel : Nat} {s : OtaNode}
    (stuck : ∀ u, (download fuel).run s ≠ .ok none u) :
    ∀ event ∈ record fuel s, BeforeCommit event := by
  obtain ⟨before, split, calm⟩ := (download_keeps usual_beforeCommit.keeps fuel).final s
  rw [record, final_stuck stuck, split, List.drop_left]
  exact calm

/-- The end of an update is announced only after an upgrade request that succeeded, and a session
that returns to its service leaves no upgrade pending. -/
structure CommitsHonestly (fuel : Nat) (s : OtaNode) : Prop where
  announced : ∀ before buf ret after, record fuel s = before ++ .sent buf ret :: after →
    code .updateEndOk ∈ buf.take ret.toNat → ∃ slot, .upgrade slot 0 ∈ before
  nonePending : ∀ ret t, (esphomeOtaRun fuel).run s = .ok ret t →
    ∀ slot, .upgrade slot 0 ∉ record fuel s

theorem upgrade_mem_commit {u : OtaNode} {slot : List UInt8} {ret : Int} :
    .upgrade slot ret ∈ commitEvents u ↔ slot = u.flash.written ∧ ret = bootResult u := by
  unfold commitEvents
  split <;> simp

theorem sent_mem_commit {u : OtaNode} {buf : List UInt8} {ret : Int} :
    .sent buf ret ∈ commitEvents u ↔ buf = [code .updateEndOk] ∧ ret = endResult u := by
  unfold commitEvents
  split <;> simp

theorem run_reached {fuel : Nat} {s u : OtaNode} (reached : (download fuel).run s = .ok none u) :
    (esphomeOtaRun fuel).run s = commit.run u := by
  rw [esphomeOtaRun, run_bind_ok _ reached]

theorem announced_after_upgrade {fuel : Nat} {s u : OtaNode}
    (reached : (download fuel).run s = .ok none u) {before after : List OtaEvent}
    {buf : List UInt8} {ret : Int} (split : record fuel s = before ++ .sent buf ret :: after)
    (announced : code .updateEndOk ∈ buf.take ret.toNat) :
    .upgrade u.flash.written (bootResult u) ∈ before ∧ ¬ endResult u < 1 := by
  obtain ⟨early, calm, whole⟩ := record_reached reached
  rw [whole] at split
  have late : .sent buf ret ∉ early := by
    intro member
    exact (calm _ member).2 buf ret rfl (List.mem_of_mem_take announced)
  rcases List.append_eq_append_iff.mp split with ⟨between, rfl, rest⟩ | ⟨between, rfl, rest⟩
  · cases between with
    | nil => exact absurd (List.cons.inj rest).1 nofun
    | cons first between =>
      obtain ⟨rfl, tail⟩ := List.cons.inj rest
      constructor
      · exact List.mem_append_right early List.mem_cons_self
      · intro refused
        have member : .sent buf ret ∈ commitEvents u := by
          rw [rest]
          exact List.mem_append_right _ List.mem_cons_self
        obtain ⟨rfl, rfl⟩ := sent_mem_commit.mp member
        rw [Int.toNat_of_nonpos (by omega)] at announced
        exact absurd announced List.not_mem_nil
  · cases between with
    | nil => exact absurd (List.cons.inj rest).1 nofun
    | cons first between =>
      obtain ⟨rfl, -⟩ := List.cons.inj rest
      exact absurd (List.mem_append_right before List.mem_cons_self) late

/-- A session commits honestly exactly when, if it gets to its upgrade request, it has that granted
and its announcement confirmed, or has it refused and its announcement not taken by the socket. -/
theorem commitsHonestly_iff (fuel : Nat) (s : OtaNode) :
    CommitsHonestly fuel s ↔ ∀ u, (download fuel).run s = .ok none u →
      (bootResult u = 0 → Confirmed u) ∧ (bootResult u ≠ 0 → endResult u < 1) := by
  constructor
  · rintro ⟨announced, nonePending⟩ u reached
    obtain ⟨early, calm, whole⟩ := record_reached reached
    constructor
    · intro granted
      rcases (run_commit u).2 with ⟨-, confirmed⟩ | ⟨⟨ret, t, returned⟩, -⟩
      · exact confirmed
      · rw [← run_reached reached] at returned
        have none := nonePending ret t returned u.flash.written
        rw [whole] at none
        have request := upgrade_mem_commit.mpr ⟨rfl, granted.symm⟩
        exact absurd (List.mem_append_right early request) none
    · intro refused
      apply Int.not_le.mp
      intro taken
      have split : record fuel s = (early ++ [.upgrade u.flash.written (bootResult u)]) ++
          .sent [code .updateEndOk] (endResult u) ::
            if endResult u = 1 then [.received 1 (u.rx.zsockRecv 1).1.1] else [] := by
        rw [whole, List.append_assoc]
        rfl
      obtain ⟨slot, member⟩ := announced _ _ _ _ split (by
        rw [List.take_of_length_le (by rw [List.length_singleton]; omega)]
        exact List.mem_singleton_self _)
      rcases List.mem_append.mp member with first | last
      · exact (calm _ first).1 ⟨slot, 0, rfl⟩
      · exact refused (OtaEvent.upgrade.inj (List.mem_singleton.mp last)).2.symm
  · intro condition
    by_cases there : ∃ u, (download fuel).run s = .ok none u
    · obtain ⟨u, reached⟩ := there
      obtain ⟨granted, refused⟩ := condition u reached
      obtain ⟨early, calm, whole⟩ := record_reached reached
      constructor
      · intro before buf ret after split announced
        obtain ⟨member, taken⟩ := announced_after_upgrade reached split announced
        by_cases zero : bootResult u = 0
        · rw [zero] at member
          exact ⟨_, member⟩
        · exact absurd (refused zero) taken
      · intro ret t returned slot member
        rw [run_reached reached] at returned
        rw [whole] at member
        rcases List.mem_append.mp member with first | last
        · exact (calm _ first).1 ⟨slot, 0, rfl⟩
        · obtain ⟨-, zero⟩ := upgrade_mem_commit.mp last
          rcases (run_commit u).2 with ⟨⟨t', reboots⟩, -⟩ | ⟨-, unconfirmed⟩
          · rw [reboots] at returned
            exact absurd returned nofun
          · exact unconfirmed (granted zero.symm)
    · have calm := record_unreached fun u reached => there ⟨u, reached⟩
      constructor
      · intro before buf ret after split announced
        have member : .sent buf ret ∈ record fuel s := by
          rw [split]
          exact List.mem_append_right before List.mem_cons_self
        exact absurd (List.mem_of_mem_take announced) ((calm _ member).2 buf ret rfl)
      · intro ret t _ slot member
        exact (calm _ member).1 ⟨slot, 0, rfl⟩

/-- A client that uploads one byte and closes: the upgrade is pending when the session returns. -/
theorem pending_without_ack : ¬ ∀ (fuel : Nat) (s : OtaNode), CommitsHonestly fuel s := by
  intro always
  have requested : .upgrade [0xAA] 0 ∈ record 3 (booted.accept (uploadByte 0xAA)) := by
    decide +kernel
  have unanswered : returned ((esphomeOtaRun 3).run (booted.accept (uploadByte 0xAA))) = true := by
    decide +kernel
  cases run : (esphomeOtaRun 3).run (booted.accept (uploadByte 0xAA)) with
  | ok ret t => exact (always 3 _).nonePending ret t run [0xAA] requested
  | error e t =>
    rw [run] at unanswered
    exact absurd unanswered Bool.false_ne_true

end ZephyrEsphome.Ota.Commit
