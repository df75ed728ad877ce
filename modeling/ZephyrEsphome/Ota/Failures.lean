/- Digest: After which failures of a session the client is still told of success. -/

import ZephyrEsphome.Ota.Commit
import Mathlib.Algebra.GroupWithZero.Nat

set_option autoImplicit false
set_option relaxedAutoImplicit false

namespace ZephyrEsphome.Ota.Failures

open Kernel
open Library.Exec
open OtaResponseTypes (code)
open Calls Session Transfer

inductive CallFailed : OtaEvent → Prop
  | received {requested : Nat} {ret : Int} (short : ret ≠ requested) :
      CallFailed (.received requested ret)
  | wrote {buf : List UInt8} {flush : Bool} {ret : Int} (failed : ret ≠ 0) :
      CallFailed (.wrote buf flush ret)

def Clean (events : List OtaEvent) : Prop :=
  ∀ op ∈ events, ¬ CallFailed op

def Quiet (events : List OtaEvent) : Prop :=
  ∀ before op after, events = before ++ op :: after → CallFailed op → responses after = []

theorem clean_nil : Clean [] := nofun

theorem clean_append {first second : List OtaEvent} (clean : Clean first) (clean' : Clean second) :
    Clean (first ++ second) := by
  intro op member
  rcases List.mem_append.mp member with early | late
  · exact clean op early
  · exact clean' op late

theorem clean_sent (buf : List UInt8) (ret : Int) : Clean [.sent buf ret] := by
  intro op member
  rw [List.mem_singleton.mp member]
  exact nofun

theorem clean_received {requested : Nat} {ret : Int} (full : ret = requested) :
    Clean [.received requested ret] := by
  intro op member
  rw [List.mem_singleton.mp member]
  rintro ⟨short⟩
  exact short full

theorem Clean.quiet {events : List OtaEvent} (clean : Clean events) : Quiet events := by
  rintro before op after rfl failed
  exact absurd failed (clean op (List.mem_append_right before List.mem_cons_self))

theorem quiet_append {first second : List OtaEvent} (clean : Clean first) (quiet : Quiet second) :
    Quiet (first ++ second) := by
  intro before op after split failed
  rcases List.append_eq_append_iff.mp split with ⟨between, rfl, rest⟩ | ⟨between, rfl, rest⟩
  · exact quiet between op after rest failed
  · cases between with
    | nil => exact quiet [] op after rest.symm failed
    | cons first between =>
      obtain ⟨rfl, -⟩ := List.cons.inj rest
      exact absurd failed (clean _ (List.mem_append_right before List.mem_cons_self))

theorem quiet_cons {op : OtaEvent} {after : List OtaEvent} (silent : responses after = [])
    (quiet : Quiet after) : Quiet (op :: after) := by
  intro before op' after' split failed
  cases before with
  | nil =>
    obtain ⟨rfl, rfl⟩ := List.cons.inj split
    exact silent
  | cons first before => exact quiet before op' after' (List.cons.inj split).2 failed

theorem quiet_one (op : OtaEvent) : Quiet [op] := quiet_cons rfl clean_nil.quiet

structure Tidy {α : Type} (passed : α → Prop) (s : OtaNode)
    (r : EStateM.Result Stop OtaNode α) : Prop where
  added : ∃ new, (final r).events = s.events ++ new ∧ Quiet new ∧
    ∀ a t, r = .ok a t → passed a → Clean new

section Rules

variable {α β : Type} {passed : α → Prop} {passed' : β → Prop} {s : OtaNode}

theorem tidy_none {r : EStateM.Result Stop OtaNode α} (same : final r = s) : Tidy passed s r :=
  ⟨[], by rw [same, List.append_nil], clean_nil.quiet, fun _ _ _ _ => clean_nil⟩

theorem tidy_one {a : α} {t : OtaNode} {op : OtaEvent} (one : t.events = s.events ++ [op])
    (clean : passed a → Clean [op]) : Tidy passed s (.ok a t) := by
  refine ⟨[op], one, quiet_one op, ?_⟩
  intro b u same pass
  obtain ⟨rfl, rfl⟩ := EStateM.Result.ok.inj same
  exact clean pass

theorem tidy_after {u : OtaNode} {new : List OtaEvent} {r : EStateM.Result Stop OtaNode α}
    (before : u.events = s.events ++ new) (clean : Clean new) (rest : Tidy passed u r) :
    Tidy passed s r := by
  obtain ⟨later, split, quiet, clean'⟩ := rest
  refine ⟨new ++ later, ?_, quiet_append clean quiet, ?_⟩
  · rw [split, before, List.append_assoc]
  · intro a t same pass
    exact clean_append clean (clean' a t same pass)

theorem tidy_bind {m : Exec OtaNode α} {f : α → Exec OtaNode β} (first : Tidy passed s (m.run s))
    (second : ∀ a u, m.run s = .ok a u → passed a → Tidy passed' u ((f a).run u))
    (ends : ∀ a u, ¬ passed a → ∃ b, (f a).run u = .ok b u ∧ ¬ passed' b) :
    Tidy passed' s ((m >>= f).run s) := by
  obtain ⟨new, split, quiet, clean⟩ := first
  cases run : m.run s with
  | ok a u =>
    rw [run] at split clean
    rw [run_bind_ok f run]
    by_cases pass : passed a
    · exact tidy_after split (clean a u rfl pass) (second a u run pass)
    · obtain ⟨b, ended, failed⟩ := ends a u pass
      rw [ended]
      refine ⟨new, split, quiet, ?_⟩
      intro b' t same pass'
      obtain ⟨rfl, rfl⟩ := EStateM.Result.ok.inj same
      exact absurd pass' failed
  | error e u =>
    rw [run] at split
    rw [run_bind_error f run]
    exact ⟨new, split, quiet, nofun⟩

theorem tidy_recv (len : Nat) (s : OtaNode) :
    Tidy (fun got : Int × List UInt8 => got.1 = len) s ((zsockRecv len).run s) := by
  rw [run_recv]
  apply tidy_one
  · rfl
  · exact clean_received

theorem tidy_send (buf : List UInt8) (passed : Int → Prop) (s : OtaNode) :
    Tidy passed s ((zsockSend buf).run s) := by
  rw [run_send]
  apply tidy_one
  · rfl
  · intro _
    exact clean_sent _ _

theorem tidy_write (buf : List UInt8) (flush : Bool) (s : OtaNode) :
    Tidy (· = 0) s ((flashImgBufferedWrite buf flush).run s) := by
  rw [run_write]
  apply tidy_one
  · rfl
  · intro zero op member
    rw [List.mem_singleton.mp member]
    rintro (_ | failed)
    exact failed zero

end Rules

theorem run_ite_pos {α : Type} {p : Prop} [Decidable p] {m : Exec OtaNode α} {a : α} (holds : p)
    (s : OtaNode) : (if p then pure a else m).run s = .ok a s := by
  rw [if_pos holds]
  rfl

section Stages

variable (s : OtaNode)

theorem tidy_sendAck (response : OtaResponseTypes) :
    Tidy (· = 0) s ((sendAck response).run s) := by
  apply tidy_bind (tidy_send _ (· = 1) s)
  · intro ret u _ full
    rw [if_neg (not_not_intro full)]
    exact tidy_none rfl
  · intro ret u short
    exact ⟨-eio, run_ite_pos short u, by decide⟩

theorem tidy_sendVersion : Tidy (· = 0) s (esphomeOtaSendVersion.run s) := by
  apply tidy_bind (tidy_send _ (· = 2) s)
  · intro ret u _ full
    rw [if_neg (not_not_intro full)]
    exact tidy_none rfl
  · intro ret u short
    exact ⟨-eio, run_ite_pos short u, by decide⟩

theorem tidy_readMagic : Tidy (· = 0) s (esphomeOtaReadMagic.run s) := by
  apply tidy_bind (tidy_recv _ s)
  · rintro ⟨ret, received⟩ u _ full
    dsimp only at full ⊢
    rw [if_neg (not_not_intro full)]
    by_cases same : received = magicBytes
    · rw [if_neg (not_not_intro same)]
      exact tidy_none rfl
    · rw [if_pos same]
      apply tidy_bind (tidy_send _ (fun _ => True) u)
      · intro _ v _ _
        exact tidy_none rfl
      · intro _ v never
        exact absurd trivial never
  · rintro ⟨ret, received⟩ u short
    exact ⟨-eio, run_ite_pos short u, by decide⟩

theorem tidy_readFeatures : Tidy (·.1 = 0) s (esphomeOtaReadFeatures.run s) := by
  apply tidy_bind (tidy_recv 1 s)
  · rintro ⟨ret, buf⟩ u _ full
    dsimp only at full ⊢
    rw [if_neg (show ¬ ret ≠ 1 from not_not_intro full)]
    apply tidy_bind (tidy_sendAck u .headerOk)
    · intro ret v _ _
      exact tidy_none rfl
    · intro ret v failed
      exact ⟨(ret, buf.headD 0), rfl, failed⟩
  · rintro ⟨ret, buf⟩ u short
    exact ⟨(-eio, 0), run_ite_pos short u, by decide⟩

theorem tidy_readSize : Tidy (·.1 = 0) s (esphomeOtaReadSize.run s) := by
  apply tidy_bind (tidy_recv 4 s)
  · rintro ⟨ret, buf⟩ u _ full
    dsimp only at full ⊢
    rw [if_neg (show ¬ ret ≠ 4 from not_not_intro full)]
    exact tidy_none rfl
  · rintro ⟨ret, buf⟩ u short
    exact ⟨(-eio, 0), run_ite_pos short u, by decide⟩

theorem tidy_readAck : Tidy (· = 0) s (esphomeOtaReadAck.run s) := by
  apply tidy_bind (tidy_recv 1 s)
  · rintro ⟨ret, buf⟩ u _ full
    dsimp only at full ⊢
    rw [if_neg (show ¬ ret ≠ 1 from not_not_intro full)]
    split
    · exact tidy_none rfl
    · exact tidy_none rfl
  · rintro ⟨ret, buf⟩ u short
    exact ⟨-eio, run_ite_pos short u, by decide⟩

/-- A receive call that falls short is answered with the byte 0, if the socket takes it. -/
def ToldZero (size : Nat) (v : OtaNode) : Prop :=
  (v.rx.zsockRecv size).1.1 ≠ size ∧ ¬ (v.tx.zsockSend [0]).1 < 1

def shortEvents (size : Nat) (v : OtaNode) : List OtaEvent :=
  [.received size (v.rx.zsockRecv size).1.1, .sent [0] (v.tx.zsockSend [0]).1]

theorem quiet_short {size : Nat} (unsaid : ¬ ToldZero size s)
    (short : (s.rx.zsockRecv size).1.1 ≠ size) : Quiet (shortEvents size s) := by
  have refused : (s.tx.zsockSend [0]).1 < 1 := by
    apply Int.not_le.mp
    intro taken
    exact unsaid ⟨short, Int.not_lt.mpr taken⟩
  apply quiet_cons
  · have none : (s.tx.zsockSend [0]).1.toNat = 0 := Int.toNat_of_nonpos (by omega)
    simp [responses, none]
  · exact quiet_one _

theorem run_readData_short {size : Nat} (short : (s.rx.zsockRecv size).1.1 ≠ size) :
    ∃ t, (esphomeOtaReadData size).run s = .ok (-eio, []) t ∧
      t.events = s.events ++ shortEvents size s := by
  refine ⟨{ s with
    rx := (s.rx.zsockRecv size).2
    tx := (s.tx.zsockSend [0]).2
    events := s.events ++ [.received size (s.rx.zsockRecv size).1.1] ++
      [.sent [0] (s.tx.zsockSend [0]).1] }, ?_, ?_⟩
  · rw [esphomeOtaReadData, run_bind_ok _ (run_recv size s)]
    dsimp only
    rw [if_pos short, run_bind_ok _ (run_send [0] _)]
    rfl
  · rw [List.append_assoc]
    rfl

theorem run_readMd5_short (short : (s.rx.zsockRecv 32).1.1 ≠ (32 : Nat)) :
    ∃ t, (esphomeOtaReadMd5 (32 + 1)).run s = .ok (-eio) t ∧
      t.events = s.events ++ shortEvents 32 s := by
  refine ⟨{ s with
    rx := (s.rx.zsockRecv 32).2
    tx := (s.tx.zsockSend [0]).2
    events := s.events ++ [.received 32 (s.rx.zsockRecv 32).1.1] ++
      [.sent [0] (s.tx.zsockSend [0]).1] }, ?_, ?_⟩
  · rw [esphomeOtaReadMd5, run_bind_ok _ (run_recv 32 s)]
    dsimp only
    rw [if_pos short, run_bind_ok _ (run_send [0] _)]
    rfl
  · rw [List.append_assoc]
    rfl

theorem tidy_readData {size : Nat} (unsaid : ¬ ToldZero size s) :
    Tidy (·.1 = 0) s ((esphomeOtaReadData size).run s) := by
  by_cases full : (s.rx.zsockRecv size).1.1 = size
  · rw [esphomeOtaReadData, run_bind_ok _ (run_recv size s)]
    dsimp only
    rw [if_neg (not_not_intro full)]
    apply tidy_one
    · rfl
    · intro _
      exact clean_received full
  · obtain ⟨t, run, events⟩ := run_readData_short s full
    rw [run]
    refine ⟨shortEvents size s, events, quiet_short s unsaid full, ?_⟩
    intro a u same zero
    obtain ⟨rfl, -⟩ := EStateM.Result.ok.inj same
    exact absurd zero (by decide)

theorem tidy_readMd5 (unsaid : ¬ ToldZero 32 s) :
    Tidy (· = 0) s ((esphomeOtaReadMd5 (32 + 1)).run s) := by
  by_cases full : (s.rx.zsockRecv 32).1.1 = (32 : Nat)
  · rw [esphomeOtaReadMd5, run_bind_ok _ (run_recv 32 s)]
    dsimp only
    rw [if_neg (not_not_intro full)]
    refine tidy_after ?_ (clean_received full) (tidy_sendAck _ .binMd5Ok)
    rfl
  · obtain ⟨t, run, events⟩ := run_readMd5_short s full
    rw [run]
    refine ⟨shortEvents 32 s, events, quiet_short s unsaid full, ?_⟩
    intro a u same zero
    obtain ⟨rfl, -⟩ := EStateM.Result.ok.inj same
    exact absurd zero (by decide)

end Stages

section Loop

variable {fuel : Nat} {otaSize : UInt32}

theorem tidy_ackLoop (total acked : UInt32) (s : OtaNode) :
    Tidy (fun _ => True) s
      ((loop .unfinished (ackRound otaSize total) fuel acked).run s) := by
  have sends := ackRound_keeps (keeps_send (P := (¬ CallFailed ·)) nofun) otaSize total
  obtain ⟨new, split, clean⟩ := (keeps_loop sends fuel acked).final s
  exact ⟨new, split, Clean.quiet clean, fun _ _ _ _ => clean⟩

theorem tidy_dataRound (c : Counters) (s : OtaNode)
    (unsaid : c.total < otaSize → ¬ ToldZero (requestSize otaSize c.total).toNat s) :
    Tidy (fun a => ∀ ret, a ≠ .inr (some ret)) s ((dataRound fuel otaSize c).run s) := by
  unfold dataRound
  by_cases more : c.total < otaSize
  · rw [if_neg (not_not_intro more)]
    apply tidy_bind (tidy_readData s (unsaid more))
    · rintro ⟨ret, buf⟩ u _ zero
      dsimp only at zero ⊢
      rw [if_neg (not_not_intro zero)]
      apply tidy_bind (tidy_write buf _ u)
      · intro stored v _ zero'
        rw [if_neg (not_not_intro zero')]
        apply tidy_bind (tidy_ackLoop _ _ v)
        · rintro (ret | acked) w _ _
          · exact tidy_none rfl
          · exact tidy_none rfl
        · intro _ w never
          exact absurd trivial never
      · intro stored v failed
        exact ⟨.inr (some ret), run_ite_pos failed v, fun all => all ret rfl⟩
    · rintro ⟨ret, buf⟩ u failed
      exact ⟨.inr (some ret), run_ite_pos failed u, fun all => all ret rfl⟩
  · rw [if_pos more]
    exact tidy_none rfl

theorem tidy_dataLoop (rounds : Nat) : ∀ (c : Counters) (s : OtaNode),
    (∀ n c' v, n < rounds → Advances (dataRound fuel otaSize) n c s c' v → c'.total < otaSize →
      ¬ ToldZero (requestSize otaSize c'.total).toNat v) →
    Tidy (· = none) s ((loop .unfinished (dataRound fuel otaSize) rounds c).run s) := by
  induction rounds with
  | zero =>
    intro c s _
    exact tidy_none rfl
  | succ rounds ih =>
    intro c s unsaid
    rw [loop]
    apply tidy_bind (tidy_dataRound c s fun more => unsaid 0 c s (Nat.succ_pos _) (.none c s) more)
    · rintro (next | left) u run pass
      · apply ih
        intro n c' v within advances
        exact unsaid (n + 1) c' v (Nat.succ_lt_succ within) (.next run advances)
      · exact tidy_none rfl
    · rintro (next | _ | ret) u failed
      · exact absurd (fun ret same => by cases same) failed
      · exact absurd (fun ret same => by cases same) failed
      · exact ⟨some ret, rfl, Option.some_ne_none ret⟩

end Loop

structure ReachesDigest (s : OtaNode) (otaSize : UInt32) (u : OtaNode) : Prop where
  stages : ∃ s₁ s₂ s₃ s₄ s₅ feature, esphomeOtaReadMagic.run s = .ok 0 s₁ ∧
    esphomeOtaSendVersion.run s₁ = .ok 0 s₂ ∧ esphomeOtaReadFeatures.run s₂ = .ok (0, feature) s₃ ∧
    esphomeOtaSendAuthOk.run s₃ = .ok 0 s₄ ∧ esphomeOtaReadSize.run s₄ = .ok (0, otaSize) s₅ ∧
    esphomeOtaSendPrepareOk.run s₅ = .ok 0 u

/-- The session gets to a receive call of the digest or of the data, in this state and with this
size. -/
inductive GetsTo (fuel : Nat) (s : OtaNode) : Nat → OtaNode → Prop
  | digest {otaSize : UInt32} {u : OtaNode} (reaches : ReachesDigest s otaSize u) :
      GetsTo fuel s 32 u
  | data {otaSize : UInt32} {u w v : OtaNode} {rounds : Nat} {c : Counters}
      (reaches : ReachesDigest s otaSize u) (digest : (esphomeOtaReadMd5 (32 + 1)).run u = .ok 0 w)
      (within : rounds < fuel) (advances : Advances (dataRound fuel otaSize) rounds ⟨0, 0⟩ w c v)
      (more : c.total < otaSize) : GetsTo fuel s (requestSize otaSize c.total).toNat v

section Session

variable {fuel : Nat} {s : OtaNode}

theorem ends_session {β : Type} {rest : Exec OtaNode (Option β)} {ret : β} {p : Prop} [Decidable p]
    (failed : p) (u : OtaNode) :
    ∃ b, (if p then pure (some ret) else rest : Exec OtaNode (Option β)).run u = .ok b u ∧
      ¬ b = none :=
  ⟨some ret, run_ite_pos failed u, nofun⟩

theorem tidy_download (unsaid : ∀ size v, GetsTo fuel s size v → ¬ ToldZero size v) :
    Tidy (· = none) s ((download fuel).run s) := by
  unfold download
  apply tidy_bind (tidy_readMagic s)
  · rintro _ s₁ magic rfl
    apply tidy_bind (tidy_sendVersion s₁)
    · rintro _ s₂ version rfl
      apply tidy_bind (tidy_readFeatures s₂)
      · rintro ⟨_, feature⟩ s₃ features rfl
        apply tidy_bind (tidy_sendAck s₃ .authOk)
        · rintro _ s₄ auth rfl
          apply tidy_bind (tidy_readSize s₄)
          · rintro ⟨_, otaSize⟩ s₅ readSize rfl
            apply tidy_bind (tidy_sendAck s₅ .updatePrepareOk)
            · rintro _ u prepare rfl
              have reaches : ReachesDigest s otaSize u :=
                ⟨s₁, s₂, s₃, s₄, s₅, feature, magic, version, features, auth, readSize, prepare⟩
              apply tidy_bind (tidy_readMd5 u (unsaid 32 u (.digest reaches)))
              · rintro _ w digest rfl
                apply tidy_bind (tidy_dataLoop fuel ⟨0, 0⟩ w fun n c v within advances more =>
                  unsaid _ v (.data reaches digest within advances more))
                · rintro _ v _ rfl
                  apply tidy_bind (tidy_send [code .receiveOk] (· = 1) v)
                  · rintro _ v' _ rfl
                    exact tidy_none rfl
                  · intro ret v' short
                    exact ends_session short v'
                · rintro (_ | ret) v failed
                  · exact absurd rfl failed
                  · exact ⟨some ret, rfl, nofun⟩
              · intro ret w failed
                exact ends_session failed w
            · intro ret u failed
              exact ends_session failed u
          · rintro ⟨ret, otaSize⟩ s₅ failed
            exact ends_session failed s₅
        · intro ret s₄ failed
          exact ends_session failed s₄
      · rintro ⟨ret, feature⟩ s₃ failed
        exact ends_session failed s₃
    · intro ret s₂ failed
      exact ends_session failed s₂
  · intro ret s₁ failed
    exact ends_session failed s₁

theorem tidy_commit (u : OtaNode) : Tidy (fun _ => False) u (commit.run u) := by
  have requested : Tidy (fun _ : Int => True) u (bootRequestUpgrade.run u) := by
    rw [run_boot]
    apply tidy_one
    · rfl
    · intro _ op member
      rw [List.mem_singleton.mp member]
      exact nofun
  apply tidy_bind requested
  · intro _ v _ _
    apply tidy_bind (tidy_send [code .updateEndOk] (· = 1) v)
    · rintro _ w _ rfl
      apply tidy_bind (tidy_readAck w)
      · rintro _ x _ rfl
        exact tidy_none rfl
      · intro ret x failed
        exact ⟨ret, run_ite_pos failed x, id⟩
    · intro ret w short
      exact ⟨ret, run_ite_pos short w, id⟩
  · intro _ v never
    exact absurd trivial never

theorem tidy_run (unsaid : ∀ size v, GetsTo fuel s size v → ¬ ToldZero size v) :
    Tidy (fun _ => False) s ((esphomeOtaRun fuel).run s) := by
  apply tidy_bind (tidy_download unsaid)
  · rintro _ u _ rfl
    exact tidy_commit u
  · rintro (_ | ret) u failed
    · exact absurd rfl failed
    · exact ⟨ret, rfl, id⟩

theorem quiet_record (unsaid : ∀ size v, GetsTo fuel s size v → ¬ ToldZero size v) :
    Quiet (record fuel s) := by
  obtain ⟨new, split, quiet, -⟩ := tidy_run unsaid
  rw [record, split, List.drop_left]
  exact quiet

theorem grown_of_run {α : Type} {m : Exec OtaNode α} {t : OtaNode} {a : α}
    (keeps : Keeps (adds fun _ => True) m) (run : m.run s = .ok a t) :
    Guarantee.Grown OtaNode.events (fun _ => True) s t := by
  have grown := keeps.final s
  rwa [run, final_ok] at grown

theorem ReachesDigest.grown {otaSize : UInt32} {u : OtaNode} (reaches : ReachesDigest s otaSize u) :
    Guarantee.Grown OtaNode.events (fun _ => True) s u := by
  obtain ⟨s₁, s₂, s₃, s₄, s₅, feature, magic, version, features, auth, readSize, prepare⟩ := reaches
  have toVersion := trans_of _ (grown_of_run (readMagic_keeps usual_any.keeps) magic)
    (grown_of_run (sendVersion_keeps usual_any.keeps) version)
  have toAuth := trans_of _ (trans_of _ toVersion
    (grown_of_run (readFeatures_keeps usual_any.keeps) features))
    (grown_of_run (sendAck_keeps usual_any.keeps (by decide)) auth)
  exact trans_of _ (trans_of _ toAuth (grown_of_run (readSize_keeps usual_any.keeps) readSize))
    (grown_of_run (sendAck_keeps usual_any.keeps (by decide)) prepare)

theorem grown_of_advances {otaSize : UInt32} {rounds : Nat} {c c' : Counters} {w v : OtaNode}
    (advances : Advances (dataRound fuel otaSize) rounds c w c' v) :
    Guarantee.Grown OtaNode.events (fun _ => True) w v := by
  induction advances with
  | none c w => exact refl_of _ w
  | next round _ ih =>
    exact trans_of _ (grown_of_run (dataRound_keeps usual_any.keeps _ otaSize _) round) ih

theorem GetsTo.grown {size : Nat} {v : OtaNode} (gets : GetsTo fuel s size v) :
    Guarantee.Grown OtaNode.events (fun _ => True) s v := by
  cases gets with
  | digest reaches => exact reaches.grown
  | data reaches digest _ advances _ =>
    exact trans_of _ (trans_of _ reaches.grown
      (grown_of_run (readMd5_keeps usual_any.keeps _) digest)) (grown_of_advances advances)

def digestOn (fuel : Nat) (otaSize : UInt32) : Exec OtaNode (Option Int) := do
  let ret ← esphomeOtaReadMd5 (32 + 1)
  if ret ≠ 0 then
    return some ret
  match ← loop .unfinished (dataRound fuel otaSize) fuel ⟨0, 0⟩ with
  | some ret => return some ret
  | none =>
    let ret ← zsockSend [code .receiveOk]
    if ret ≠ 1 then
      return some ret
    return none

theorem digestOn_inv {otaSize : UInt32} {u t : OtaNode} {outcome : Option Int}
    (run : (digestOn fuel otaSize).run u = .ok outcome t) :
    (∃ ret, outcome = some ret ∧ ret ≠ 0) ∨
      ∃ w, (esphomeOtaReadMd5 (32 + 1)).run u = .ok 0 w ∧
        ((∃ ret, (loop .unfinished (dataRound fuel otaSize) fuel ⟨0, 0⟩).run w = .ok (some ret) t ∧
            outcome = some ret) ∨
          ∃ v, (loop .unfinished (dataRound fuel otaSize) fuel ⟨0, 0⟩).run w = .ok none v ∧
            outcome = if (v.tx.zsockSend [code .receiveOk]).1 ≠ 1 then
              some (v.tx.zsockSend [code .receiveOk]).1 else none) := by
  unfold digestOn at run
  obtain ⟨ret, w, digest, run⟩ := run_bind_inv run
  by_cases zero : ret = 0
  · subst zero
    refine Or.inr ⟨w, digest, ?_⟩
    rw [if_neg (not_not_intro rfl)] at run
    obtain ⟨left, v, dataLoop, run⟩ := run_bind_inv run
    cases left with
    | some ret =>
      obtain ⟨same, rfl⟩ := run_pure_inv run
      exact Or.inl ⟨ret, dataLoop, same.symm⟩
    | none =>
      refine Or.inr ⟨v, dataLoop, ?_⟩
      dsimp only at run
      rw [run_bind_ok _ (run_send [code .receiveOk] v)] at run
      by_cases refused : (v.tx.zsockSend [code .receiveOk]).1 ≠ 1
      · rw [if_pos refused] at run ⊢
        exact (run_pure_inv run).1.symm
      · rw [if_neg refused] at run ⊢
        exact (run_pure_inv run).1.symm
  · rw [if_pos zero] at run
    exact Or.inl ⟨ret, (run_pure_inv run).1.symm, zero⟩

theorem download_reaches {otaSize : UInt32} {u : OtaNode}
    (reaches : ReachesDigest s otaSize u) :
    (download fuel).run s = (digestOn fuel otaSize).run u := by
  obtain ⟨s₁, s₂, s₃, s₄, s₅, feature, magic, version, features, auth, readSize, prepare⟩ := reaches
  rw [download, run_bind_ok _ magic, if_neg (by decide), run_bind_ok _ version,
    if_neg (by decide), run_bind_ok _ features]
  dsimp only
  rw [if_neg (by decide), run_bind_ok _ auth, if_neg (by decide), run_bind_ok _ readSize]
  dsimp only
  rw [if_neg (by decide), run_bind_ok _ prepare, if_neg (by decide)]
  rfl

def EndsEarly (m : Exec OtaNode (Option Int)) (s : OtaNode) : Prop :=
  ∃ ret t, ret ≠ 0 ∧ m.run s = .ok (some ret) t

private theorem stage_endsEarly {m : Exec OtaNode Int} {rest : Exec OtaNode (Option Int)} {P : Prop}
    (stage : Returns m) (later : ∀ u, m.run s = .ok 0 u → EndsEarly rest u ∨ P) :
    EndsEarly (m >>= fun ret => if ret ≠ 0 then pure (some ret) else rest) s ∨ P := by
  rcases @stage_cases m rest stage s with early | ⟨u, run, on⟩
  · exact Or.inl early
  · unfold EndsEarly
    rw [on]
    exact later u run

theorem download_cases (fuel : Nat) (s : OtaNode) :
    EndsEarly (download fuel) s ∨ ∃ otaSize u, ReachesDigest s otaSize u := by
  unfold download
  apply stage_endsEarly (returns_of_keeps (readMagic_keeps early_total))
  intro s₁ magic
  apply stage_endsEarly (returns_of_keeps (sendVersion_keeps early_total))
  intro s₂ version
  obtain ⟨⟨ret, feature⟩, s₃, features⟩ :=
    returns_of_keeps (readFeatures_keeps early_total) s₂
  by_cases zero : ret = 0
  · subst zero
    unfold EndsEarly
    rw [run_bind_ok _ features]
    apply stage_endsEarly (returns_of_keeps (sendAck_keeps early_total (by decide)))
    intro s₄ auth
    obtain ⟨⟨ret, otaSize⟩, s₅, readSize⟩ :=
      returns_of_keeps (readSize_keeps early_total) s₄
    by_cases zero : ret = 0
    · subst zero
      unfold EndsEarly
      rw [run_bind_ok _ readSize]
      apply stage_endsEarly (returns_of_keeps (sendAck_keeps early_total (by decide)))
      intro u prepare
      right
      exact ⟨otaSize, u, s₁, s₂, s₃, s₄, s₅, feature, magic, version, features, auth, readSize,
        prepare⟩
    · left
      refine ⟨ret, s₅, zero, ?_⟩
      rw [run_bind_ok _ readSize]
      dsimp only
      rw [if_pos zero]
      rfl
  · left
    refine ⟨ret, s₃, zero, ?_⟩
    rw [run_bind_ok _ features]
    dsimp only
    rw [if_pos zero]
    rfl

theorem dataRound_short {otaSize : UInt32} {c : Counters} {v : OtaNode}
    (more : c.total < otaSize)
    (short : (v.rx.zsockRecv (requestSize otaSize c.total).toNat).1.1 ≠
      (requestSize otaSize c.total).toNat) :
    ∃ t, (dataRound fuel otaSize c).run v = .ok (.inr (some (-eio))) t ∧
      t.events = v.events ++ shortEvents (requestSize otaSize c.total).toNat v := by
  obtain ⟨t, read, events⟩ := run_readData_short v short
  refine ⟨t, ?_, events⟩
  unfold dataRound
  rw [if_neg (not_not_intro more)]
  dsimp only
  rw [run_bind_ok _ read]
  rfl

theorem download_short {size : Nat} {v : OtaNode} (gets : GetsTo fuel s size v)
    (short : (v.rx.zsockRecv size).1.1 ≠ size) :
    ∃ t, (download fuel).run s = .ok (some (-eio)) t ∧
      t.events = v.events ++ shortEvents size v := by
  cases gets with
  | digest reaches =>
    obtain ⟨t, run, events⟩ := run_readMd5_short v short
    refine ⟨t, ?_, events⟩
    rw [download_reaches reaches, digestOn, run_bind_ok _ run]
    rfl
  | @data otaSize u w _ rounds c reaches digest within advances more =>
    obtain ⟨t, run, events⟩ := @dataRound_short fuel _ _ _ more short
    refine ⟨t, ?_, events⟩
    have dataLoop : (loop .unfinished (dataRound fuel otaSize) fuel ⟨0, 0⟩).run w =
        .ok (some (-eio)) t := by
      obtain ⟨rest, count⟩ : ∃ rest, fuel = rest + 1 + rounds := ⟨fuel - rounds - 1, by omega⟩
      have left := @loop_advances _ _ _ _ Stop.unfinished _ _ _ _ _ _ advances (rest + 1)
      rw [← count, loop_done run] at left
      exact left
    rw [download_reaches reaches, digestOn, run_bind_ok _ digest, if_neg (by decide),
      run_bind_ok _ dataLoop]
    rfl

theorem record_short {size : Nat} {v : OtaNode} (gets : GetsTo fuel s size v)
    (short : (v.rx.zsockRecv size).1.1 ≠ size) :
    ∃ before, record fuel s = before ++ shortEvents size v := by
  obtain ⟨before, grown, -⟩ := gets.grown
  obtain ⟨t, run, events⟩ := download_short gets short
  refine ⟨before, ?_⟩
  rw [record, esphomeOtaRun, run_bind_ok _ run]
  show t.events.drop _ = _
  rw [events, grown, List.append_assoc, List.drop_left]

def received (events : List OtaEvent) : Nat :=
  (events.map fun
    | .received _ ret => ret.toNat
    | _ => 0).sum

/-- An operation of a session with the client's bytes `stream` has failed, after `before`. -/
inductive Failed (stream : List UInt8) (before : List OtaEvent) : OtaEvent → Prop
  /-- The magic bytes are wrong. -/
  | magic {ret : Int} (first : before = []) (other : stream.take magicBytes.length ≠ magicBytes) :
      Failed stream before (.received magicBytes.length ret)
  /-- A receive call fell short, or a flash write failed. -/
  | call {op : OtaEvent} (failed : CallFailed op) : Failed stream before op
  /-- The final acknowledgement is not OK. -/
  | ack {ret : Int} (last : ∃ event ∈ before, IsUpgrade event)
      (other : (stream.drop (received before)).head? ≠ some (code .ok)) :
      Failed stream before (.received 1 ret)

def IsErrorCode (byte : UInt8) : Prop :=
  ∃ response : OtaResponseTypes, code response = byte ∧ 0x80 ≤ byte

/-- What the socket takes after an operation that failed are error codes. -/
def AnswersFailures (fuel : Nat) (s : OtaNode) : Prop :=
  ∀ before op after, record fuel s = before ++ op :: after → Failed s.rx.incoming before op →
    ∀ byte ∈ responses after, IsErrorCode byte

theorem record_of_magic {t : OtaNode} (magic : esphomeOtaReadMagic.run s = .ok (-eio) t) :
    record fuel s = t.events.drop s.events.length := by
  have ended : (download fuel).run s = .ok (some (-eio)) t := by
    rw [download, run_bind_ok _ magic]
    rfl
  rw [record, esphomeOtaRun, run_bind_ok _ ended]
  rfl

theorem record_magic (other : s.rx.incoming.take magicBytes.length ≠ magicBytes) :
    (∃ ret, record fuel s = [.received magicBytes.length ret]) ∨
      ∃ ret ret', record fuel s =
        [.received magicBytes.length ret, .sent [code .errorMagic] ret'] := by
  by_cases full : (s.rx.zsockRecv magicBytes.length).1.1 = magicBytes.length
  · right
    obtain ⟨length, split⟩ := Receiver.zsockRecv_full full
    have wrong : (s.rx.zsockRecv magicBytes.length).1.2 ≠ magicBytes := by
      intro same
      apply other
      rw [split, same, List.take_left]
    refine ⟨(s.rx.zsockRecv magicBytes.length).1.1, (s.tx.zsockSend [code .errorMagic]).1, ?_⟩
    have magic : ∃ t, esphomeOtaReadMagic.run s = .ok (-eio) t ∧
        t.events = s.events ++ [.received magicBytes.length (s.rx.zsockRecv magicBytes.length).1.1] ++
          [.sent [code .errorMagic] (s.tx.zsockSend [code .errorMagic]).1] := by
      rw [esphomeOtaReadMagic, run_bind_ok _ (run_recv _ s)]
      dsimp only
      rw [if_neg (not_not_intro full), if_pos wrong, run_bind_ok _ (run_send _ _)]
      exact ⟨_, rfl, rfl⟩
    obtain ⟨t, run, events⟩ := magic
    rw [record_of_magic run, events, List.append_assoc, List.drop_left]
    rfl
  · left
    refine ⟨(s.rx.zsockRecv magicBytes.length).1.1, ?_⟩
    have magic : ∃ t, esphomeOtaReadMagic.run s = .ok (-eio) t ∧
        t.events = s.events ++
          [.received magicBytes.length (s.rx.zsockRecv magicBytes.length).1.1] := by
      rw [esphomeOtaReadMagic, run_bind_ok _ (run_recv _ s)]
      dsimp only
      rw [if_pos full]
      exact ⟨_, rfl, rfl⟩
    obtain ⟨t, run, events⟩ := magic
    rw [record_of_magic run, events, List.drop_left]

theorem record_ack {before after : List OtaEvent} {ret : Int}
    (split : record fuel s = before ++ .received 1 ret :: after)
    (last : ∃ event ∈ before, IsUpgrade event) : after = [] := by
  obtain ⟨event, member, upgrade⟩ := last
  by_cases there : ∃ u, (download fuel).run s = .ok none u
  · obtain ⟨u, reached⟩ := there
    obtain ⟨early, calm, whole⟩ := Commit.record_reached reached
    rw [whole] at split
    rcases List.append_eq_append_iff.mp split with ⟨between, rfl, rest⟩ | ⟨between, rfl, rest⟩
    · rw [Commit.commitEvents] at rest
      cases between with
      | nil =>
        have first := (List.cons.inj rest).1
        cases first
      | cons first between =>
        have rest := (List.cons.inj rest).2
        cases between with
        | nil =>
          have second := (List.cons.inj rest).1
          cases second
        | cons second between =>
          have tail := (List.cons.inj rest).2
          split at tail
          · obtain ⟨-, ended⟩ | ⟨-, ended⟩ := List.append_eq_singleton_iff.mp tail.symm
            · exact (List.cons.inj ended).2
            · exact absurd ended (List.cons_ne_nil _ _)
          · exact absurd tail.symm (by simp)
    · exact absurd upgrade (calm event (List.mem_append_left between member)).1
  · have calm := Commit.record_unreached fun u reached => there ⟨u, reached⟩
    refine absurd upgrade (calm event ?_).1
    rw [split]
    exact List.mem_append_left _ member

/-- Failures are answered with error codes exactly when no receive call of the digest or the data
falls short with the socket taking the byte 0 for an answer. -/
theorem answersFailures_iff (fuel : Nat) (s : OtaNode) :
    AnswersFailures fuel s ↔ ∀ size v, GetsTo fuel s size v → ¬ ToldZero size v := by
  constructor
  · rintro answers size v gets ⟨short, taken⟩
    obtain ⟨before, split⟩ := record_short gets short
    obtain ⟨response, same, high⟩ := answers before _ _ split (.call (.received short)) 0 (by
      have one : 1 ≤ (v.tx.zsockSend [0]).1.toNat := by omega
      simp [responses, List.take_of_length_le, one])
    exact absurd high (by decide)
  · intro unsaid before op after split failed byte member
    have quiet := quiet_record unsaid
    cases failed with
    | magic first other =>
      subst first
      rcases @record_magic fuel s other with ⟨ret, whole⟩ | ⟨ret, ret', whole⟩
      · obtain ⟨-, rfl⟩ := List.cons.inj (whole.symm.trans split)
        exact absurd member List.not_mem_nil
      · obtain ⟨-, rfl⟩ := List.cons.inj (whole.symm.trans split)
        have same : byte = code .errorMagic := by
          simp only [responses, List.flatMap_cons, List.flatMap_nil, List.append_nil] at member
          exact List.mem_singleton.mp (List.mem_of_mem_take member)
        exact ⟨.errorMagic, same.symm, by rw [same]; decide⟩
    | call failed =>
      rw [quiet before op after split failed] at member
      exact absurd member List.not_mem_nil
    | ack last other =>
      rw [record_ack split last] at member
      exact absurd member List.not_mem_nil

end Session

def cutDigest : Connection where
  rx :=
    { incoming := magicBytes ++ [0] ++ [0, 0, 0, 1] ++ List.replicate 31 0x30
      schedule := []
      calls := 0
      residue := fun _ => 0 }
  tx := { accepted := [], schedule := [] }

theorem ok_after_cut_digest : ¬ ∀ (fuel : Nat) (s : OtaNode), AnswersFailures fuel s := by
  intro always
  have split : record 1 (booted.accept cutDigest) =
      [.received 5 5, .sent [0x00, 0x02] 2, .received 1 1, .sent [0x40] 1, .sent [0x41] 1,
        .received 4 4, .sent [0x42] 1] ++ .received 32 31 :: [.sent [0x00] 1] := by
    decide +kernel
  have short : CallFailed (.received 32 31) := .received (by decide)
  obtain ⟨response, same, high⟩ := always 1 _ _ _ _ split (.call short) 0x00 (by decide)
  exact absurd high (by decide)

end ZephyrEsphome.Ota.Failures
