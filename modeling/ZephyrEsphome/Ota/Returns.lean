/- Digest: Which failed sessions return 0 to their service. -/

import ZephyrEsphome.Ota.Failures

set_option autoImplicit false
set_option relaxedAutoImplicit false

namespace ZephyrEsphome.Ota.Returns

open Kernel
open Library.Exec
open OtaResponseTypes (code)
open Session Transfer Commit Failures

/-- A session that returns to its service returns a number other than 0. -/
def ReportsFailure (fuel : Nat) (s : OtaNode) : Prop :=
  ∀ ret t, (esphomeOtaRun fuel).run s = .ok ret t → ret ≠ 0

section Acks

variable {fuel : Nat} {otaSize total : UInt32}

theorem ackRound_zero {acked : UInt32} {z : OtaNode} :
    (∃ t, (ackRound otaSize total acked).run z = .ok (.inr (.error 0)) t) ↔
      AckDue otaSize total acked ∧ (z.tx.zsockSend [code .chunkOk]).1 = 0 := by
  have sent := run_send [code .chunkOk] z
  unfold ackRound
  by_cases due : AckDue otaSize total acked
  · rw [if_neg (not_not_intro due), run_bind_ok _ sent]
    by_cases full : (z.tx.zsockSend [code .chunkOk]).1 = 1
    · rw [if_neg (not_not_intro full), full]
      constructor
      · rintro ⟨t, run⟩
        cases (run_pure_inv run).1
      · rintro ⟨-, none⟩
        exact absurd none (by decide)
    · rw [if_pos full]
      constructor
      · rintro ⟨t, run⟩
        exact ⟨due, Except.error.inj (Sum.inr.inj (run_pure_inv run).1)⟩
      · rintro ⟨-, none⟩
        rw [none]
        exact ⟨_, rfl⟩
  · rw [if_pos due]
    constructor
    · rintro ⟨t, run⟩
      cases (run_pure_inv run).1
    · rintro ⟨due', -⟩
      exact absurd due' due

def AckLost (fuel : Nat) (otaSize total acked : UInt32) (y : OtaNode) : Prop :=
  ∃ n acked' z, n < fuel ∧ Advances (ackRound otaSize total) n acked y acked' z ∧
    AckDue otaSize total acked' ∧ (z.tx.zsockSend [code .chunkOk]).1 = 0

theorem ackLoop_zero {acked : UInt32} {y : OtaNode} :
    (∃ t, (loop .unfinished (ackRound otaSize total) fuel acked).run y = .ok (.error 0) t) ↔
      AckLost fuel otaSize total acked y := by
  constructor
  · rintro ⟨t, run⟩
    obtain ⟨n, acked', z, within, advances, last⟩ := (loop_ok_iff fuel).mp run
    obtain ⟨due, none⟩ := ackRound_zero.mp ⟨t, last⟩
    exact ⟨n, acked', z, within, advances, due, none⟩
  · rintro ⟨n, acked', z, within, advances, due, none⟩
    obtain ⟨t, last⟩ := ackRound_zero.mpr ⟨due, none⟩
    exact ⟨t, (loop_ok_iff fuel).mpr ⟨n, acked', z, within, advances, last⟩⟩

end Acks

section Rounds

variable {fuel : Nat} {otaSize : UInt32} {c : Counters} {v : OtaNode}

inductive RoundLost (fuel : Nat) (otaSize : UInt32) (c : Counters) (v : OtaNode) : Prop
  | write {buf : List UInt8} {x : OtaNode} (more : c.total < otaSize)
      (read : (esphomeOtaReadData (requestSize otaSize c.total).toNat).run v = .ok (0, buf) x)
      (failed : (x.flash.flashImgBufferedWrite buf).1 ≠ 0)
  | ack {buf : List UInt8} {x y : OtaNode} (more : c.total < otaSize)
      (read : (esphomeOtaReadData (requestSize otaSize c.total).toNat).run v = .ok (0, buf) x)
      (wrote : (flashImgBufferedWrite buf (decide (otaSize - c.total ≤ bufSize))).run x = .ok 0 y)
      (lost : AckLost fuel otaSize (c.total + requestSize otaSize c.total) c.sizeAcknowledged y)

theorem dataRound_zero :
    (∃ t, (dataRound fuel otaSize c).run v = .ok (.inr (some 0)) t) ↔
      RoundLost fuel otaSize c v := by
  unfold dataRound
  constructor
  · rintro ⟨t, run⟩
    by_cases more : c.total < otaSize
    · rw [if_neg (not_not_intro more)] at run
      dsimp only at run
      obtain ⟨⟨ret, buf⟩, x, read, run⟩ := run_bind_inv run
      dsimp only at run
      by_cases full : ret = 0
      · subst full
        rw [if_neg (not_not_intro rfl)] at run
        obtain ⟨stored, y, wrote, run⟩ := run_bind_inv run
        by_cases zero : stored = 0
        · subst zero
          rw [if_neg (not_not_intro rfl)] at run
          obtain ⟨outcome, w, acks, run⟩ := run_bind_inv run
          cases outcome with
          | ok acked => cases (run_pure_inv run).1
          | error ret =>
            obtain rfl := Option.some.inj (Sum.inr.inj (run_pure_inv run).1)
            exact .ack more read wrote (ackLoop_zero.mp ⟨w, acks⟩)
        · rw [run_write] at wrote
          obtain ⟨rfl, -⟩ := EStateM.Result.ok.inj wrote
          exact .write more read zero
      · rw [if_pos full] at run
        exact absurd (Option.some.inj (Sum.inr.inj (run_pure_inv run).1)) full
    · rw [if_pos more] at run
      cases (run_pure_inv run).1
  · rintro (⟨more, read, failed⟩ | ⟨more, read, wrote, lost⟩)
    · rw [if_neg (not_not_intro more)]
      dsimp only
      rw [run_bind_ok _ read]
      dsimp only
      rw [if_neg (not_not_intro rfl), run_bind_ok _ (run_write _ _ _), if_pos failed]
      exact ⟨_, rfl⟩
    · obtain ⟨t, acks⟩ := ackLoop_zero.mpr lost
      rw [if_neg (not_not_intro more)]
      dsimp only
      rw [run_bind_ok _ read]
      dsimp only
      rw [if_neg (not_not_intro rfl), run_bind_ok _ wrote, if_neg (not_not_intro rfl),
        run_bind_ok _ acks]
      exact ⟨t, rfl⟩

end Rounds

/-- The session meets a failure that its return value does not tell. -/
inductive Unreported (fuel : Nat) (s : OtaNode) : Prop
  | round {otaSize : UInt32} {u w v : OtaNode} {rounds : Nat} {c : Counters}
      (reaches : ReachesDigest s otaSize u) (digest : (esphomeOtaReadMd5 (32 + 1)).run u = .ok 0 w)
      (within : rounds < fuel) (advances : Advances (dataRound fuel otaSize) rounds ⟨0, 0⟩ w c v)
      (lost : RoundLost fuel otaSize c v)
  | receiveOk {otaSize : UInt32} {u w v : OtaNode} (reaches : ReachesDigest s otaSize u)
      (digest : (esphomeOtaReadMd5 (32 + 1)).run u = .ok 0 w)
      (finished : (loop .unfinished (dataRound fuel otaSize) fuel ⟨0, 0⟩).run w = .ok none v)
      (lost : (v.tx.zsockSend [code .receiveOk]).1 = 0)
  | updateEndOk {u : OtaNode} (reached : (download fuel).run s = .ok none u)
      (lost : (u.tx.zsockSend [code .updateEndOk]).1 = 0)

section Session

variable {fuel : Nat} {s : OtaNode}

theorem digestOn_zero {otaSize : UInt32} {u t : OtaNode} (reaches : ReachesDigest s otaSize u)
    (run : (digestOn fuel otaSize).run u = .ok (some 0) t) : Unreported fuel s := by
  rcases digestOn_inv run with ⟨ret, same, nonzero⟩ | ⟨w, digest, ⟨ret, dataLoop, same⟩ | later⟩
  · exact absurd (Option.some.inj same).symm nonzero
  · obtain rfl := Option.some.inj same
    obtain ⟨rounds, c, v, within, advances, last⟩ := (loop_ok_iff fuel).mp dataLoop
    exact .round reaches digest within advances (dataRound_zero.mp ⟨t, last⟩)
  · obtain ⟨v, finished, same⟩ := later
    by_cases refused : (v.tx.zsockSend [code .receiveOk]).1 ≠ 1
    · rw [if_pos refused] at same
      exact .receiveOk reaches digest finished (Option.some.inj same).symm
    · rw [if_neg refused] at same
      cases same

theorem download_zero {t : OtaNode} (run : (download fuel).run s = .ok (some 0) t) :
    Unreported fuel s := by
  rcases download_cases fuel s with ⟨ret, u, failed, ended⟩ | ⟨otaSize, u, reaches⟩
  · rw [run] at ended
    exact absurd (Option.some.inj (EStateM.Result.ok.inj ended).1).symm failed
  · rw [download_reaches reaches] at run
    exact digestOn_zero reaches run

theorem commit_zero {u : OtaNode} :
    (∃ t, commit.run u = .ok 0 t) ↔ (u.tx.zsockSend [code .updateEndOk]).1 = 0 := by
  rw [commit, run_bind_ok _ (run_boot u), run_bind_ok _ (run_send [code .updateEndOk] _)]
  dsimp only
  by_cases full : (u.tx.zsockSend [code .updateEndOk]).1 = 1
  · rw [if_neg (not_not_intro full), full]
    constructor
    · rintro ⟨t, run⟩
      obtain ⟨ret, v, -, run⟩ := run_bind_inv run
      by_cases zero : ret = 0
      · rw [if_neg (not_not_intro zero)] at run
        cases run
      · rw [if_pos zero] at run
        exact absurd (run_pure_inv run).1 zero
    · intro none
      exact absurd none (by decide)
  · rw [if_pos full]
    constructor
    · rintro ⟨t, run⟩
      exact (run_pure_inv run).1
    · intro none
      rw [none]
      exact ⟨_, rfl⟩

theorem run_of_download {ret : Int} {t : OtaNode} (run : (download fuel).run s = .ok (some ret) t) :
    (esphomeOtaRun fuel).run s = .ok ret t := by
  rw [esphomeOtaRun, run_bind_ok _ run]
  rfl

theorem run_zero : (∃ t, (esphomeOtaRun fuel).run s = .ok 0 t) ↔ Unreported fuel s := by
  constructor
  · rintro ⟨t, run⟩
    rw [esphomeOtaRun] at run
    obtain ⟨left, u, downloaded, run⟩ := run_bind_inv run
    cases left with
    | some ret =>
      obtain rfl := (run_pure_inv run).1
      exact download_zero downloaded
    | none => exact .updateEndOk downloaded (commit_zero.mp ⟨t, run⟩)
  · rintro (⟨reaches, digest, within, advances, lost⟩ | ⟨reaches, digest, finished, lost⟩ |
      ⟨reached, lost⟩)
    · obtain ⟨t, last⟩ := dataRound_zero.mpr lost
      have dataLoop := (@loop_ok_iff _ _ _ _ Stop.unfinished _ _ _ fuel _ _).mpr
        ⟨_, _, _, within, advances, last⟩
      refine ⟨t, run_of_download ?_⟩
      rw [download_reaches reaches, digestOn, run_bind_ok _ digest, if_neg (by decide),
        run_bind_ok _ dataLoop]
      rfl
    · have ended : ∃ t, (download fuel).run s = .ok (some 0) t := by
        rw [download_reaches reaches, digestOn, run_bind_ok _ digest, if_neg (by decide),
          run_bind_ok _ finished]
        dsimp only
        rw [run_bind_ok _ (run_send [code .receiveOk] _), lost, if_pos (by decide)]
        exact ⟨_, rfl⟩
      obtain ⟨t, run⟩ := ended
      exact ⟨t, run_of_download run⟩
    · obtain ⟨t, committed⟩ := commit_zero.mpr lost
      exact ⟨t, (run_reached reached).trans committed⟩

/-- A session that returns reports its failure exactly when no write of the image fails after its
bytes were read, and no acknowledgement of a chunk, no announcement that everything was received
and none that the update has ended meets a socket that takes nothing without an error. -/
theorem reportsFailure_iff (fuel : Nat) (s : OtaNode) :
    ReportsFailure fuel s ↔ ¬ Unreported fuel s := by
  rw [← run_zero]
  constructor
  · rintro reports ⟨t, run⟩
    exact reports 0 t run rfl
  · rintro never ret t run rfl
    exact never ⟨t, run⟩

end Session

/-- The flash refuses the first write with `-EIO`. -/
def worn : OtaNode :=
  { booted with flash := { capacity := 65536, written := [], outcomes := [-eio] } }

def returnValue : EStateM.Result Stop OtaNode Int → Option Int
  | .ok ret _ => some ret
  | .error _ _ => none

theorem failed_write_returns_zero : ¬ ∀ (fuel : Nat) (s : OtaNode), ReportsFailure fuel s := by
  intro always
  have zero : returnValue ((esphomeOtaRun 3).run (worn.accept (uploadByte 0xAA))) = some 0 := by
    decide +kernel
  cases run : (esphomeOtaRun 3).run (worn.accept (uploadByte 0xAA)) with
  | ok ret t =>
    rw [run] at zero
    exact always 3 _ ret t run (Option.some.inj zero)
  | error e t =>
    rw [run] at zero
    cases zero

end ZephyrEsphome.Ota.Returns
