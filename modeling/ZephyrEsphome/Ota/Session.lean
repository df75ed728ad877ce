/- Digest: What a session has read, answered and written, stage by stage. -/

import ZephyrEsphome.Ota.Calls

set_option autoImplicit false
set_option relaxedAutoImplicit false

namespace ZephyrEsphome.Ota.Session

open Kernel
open Library.Exec
open OtaResponseTypes (code)
open Calls

def responses (events : List OtaEvent) : List UInt8 :=
  events.flatMap fun
    | .sent buf ret => buf.take ret.toNat
    | _ => []

/-- The buffers passed to `flash_img_buffered_write`, each with its `flush` argument. -/
def writes (events : List OtaEvent) : List (List UInt8 × Bool) :=
  events.filterMap fun
    | .wrote buf flush _ => some (buf, flush)
    | _ => none

def IsUpgrade (event : OtaEvent) : Prop :=
  ∃ slot ret, event = .upgrade slot ret

@[simp] theorem responses_append (early late : List OtaEvent) :
    responses (early ++ late) = responses early ++ responses late :=
  List.flatMap_append

@[simp] theorem writes_append (early late : List OtaEvent) :
    writes (early ++ late) = writes early ++ writes late :=
  List.filterMap_append

/-- The session went on from one state to another: it took `got` from the client, the socket took
`answered` from it, it made the writes `chunks` and did not request an upgrade. -/
structure Progress (s t : OtaNode) (got answered : List UInt8)
    (chunks : List (List UInt8 × Bool)) : Prop where
  incoming : s.rx.incoming = got ++ t.rx.incoming
  written : t.flash.written = s.flash.written ++ (chunks.map Prod.fst).flatten
  capacity : t.flash.capacity = s.flash.capacity
  accepted : t.tx.accepted = s.tx.accepted ++ answered
  events : ∃ new, t.events = s.events ++ new ∧ responses new = answered ∧ writes new = chunks ∧
    ∀ event ∈ new, ¬ IsUpgrade event

namespace Progress

theorem refl (s : OtaNode) : Progress s s [] [] [] where
  incoming := rfl
  written := by simp
  capacity := rfl
  accepted := (List.append_nil _).symm
  events := ⟨[], by simp, rfl, rfl, by simp⟩

theorem trans {s t u : OtaNode} {got got' answered answered' : List UInt8}
    {chunks chunks' : List (List UInt8 × Bool)} (first : Progress s t got answered chunks)
    (second : Progress t u got' answered' chunks') :
    Progress s u (got ++ got') (answered ++ answered') (chunks ++ chunks') := by
  obtain ⟨new, hnew, hanswered, hchunks, calm⟩ := first.events
  obtain ⟨new', hnew', hanswered', hchunks', calm'⟩ := second.events
  constructor
  · rw [first.incoming, second.incoming, List.append_assoc]
  · rw [second.written, first.written, List.map_append, List.flatten_append, List.append_assoc]
  · rw [second.capacity, first.capacity]
  · rw [second.accepted, first.accepted, List.append_assoc]
  · refine ⟨new ++ new', ?_, ?_, ?_, ?_⟩
    · rw [hnew', hnew, List.append_assoc]
    · rw [responses_append, hanswered, hanswered']
    · rw [writes_append, hchunks, hchunks']
    · intro event member
      rcases List.mem_append.mp member with early | late
      · exact calm event early
      · exact calm' event late

end Progress

def heard (s : OtaNode) (len : Nat) : OtaNode :=
  { s with
    rx := (s.rx.zsockRecv len).2
    events := s.events ++ [.received len (s.rx.zsockRecv len).1.1] }

def said (s : OtaNode) (buf : List UInt8) : OtaNode :=
  { s with
    tx := (s.tx.zsockSend buf).2
    events := s.events ++ [.sent buf (s.tx.zsockSend buf).1] }

theorem run_recv (len : Nat) (s : OtaNode) :
    (zsockRecv len).run s = .ok (s.rx.zsockRecv len).1
      { s with
        rx := (s.rx.zsockRecv len).2
        events := s.events ++ [.received len (s.rx.zsockRecv len).1.1] } := rfl

theorem run_send (buf : List UInt8) (s : OtaNode) :
    (zsockSend buf).run s = .ok (s.tx.zsockSend buf).1
      { s with
        tx := (s.tx.zsockSend buf).2
        events := s.events ++ [.sent buf (s.tx.zsockSend buf).1] } := rfl

theorem run_write (buf : List UInt8) (flush : Bool) (s : OtaNode) :
    (flashImgBufferedWrite buf flush).run s = .ok (s.flash.flashImgBufferedWrite buf).1
      { s with
        flash := (s.flash.flashImgBufferedWrite buf).2
        events := s.events ++ [.wrote buf flush (s.flash.flashImgBufferedWrite buf).1] } := rfl

section Calls

variable {s t : OtaNode}

theorem recv_full {len : Nat} (full : (s.rx.zsockRecv len).1.1 = len) :
    (s.rx.zsockRecv len).1.2.length = len ∧
      Progress s (heard s len) (s.rx.zsockRecv len).1.2 [] [] := by
  obtain ⟨length, split⟩ := Receiver.zsockRecv_full full
  refine ⟨length, ?_⟩
  constructor
  · exact split
  · simp [heard]
  · rfl
  · simp [heard]
  · refine ⟨[.received len (s.rx.zsockRecv len).1.1], rfl, rfl, rfl, ?_⟩
    rintro event member ⟨slot, ret', rfl⟩
    simp at member

theorem progress_said {buf : List UInt8} (taken : (s.tx.zsockSend buf).1 = buf.length) :
    Progress s (said s buf) [] buf [] := by
  constructor
  · rfl
  · simp [said]
  · rfl
  · exact Transmitter.zsockSend_full taken
  · refine ⟨[.sent buf (s.tx.zsockSend buf).1], rfl, ?_, rfl, ?_⟩
    · simp [responses, taken]
    · rintro event member ⟨slot, ret', rfl⟩
      simp at member

theorem send_full {buf : List UInt8} (h : (zsockSend buf).run s = .ok (buf.length : Int) t) :
    Progress s t [] buf [] := by
  rw [run_send] at h
  obtain ⟨taken, rfl⟩ := EStateM.Result.ok.inj h
  exact progress_said taken

theorem write_zero {buf : List UInt8} {flush : Bool}
    (h : (flashImgBufferedWrite buf flush).run s = .ok 0 t) :
    Progress s t [] [] [(buf, flush)] ∧ t.flash.written.length ≤ s.flash.capacity := by
  rw [run_write] at h
  obtain ⟨ret, rfl⟩ := EStateM.Result.ok.inj h
  obtain ⟨appended, fits⟩ := FlashImg.flashImgBufferedWrite_zero ret
  constructor
  · constructor
    · rfl
    · simp only [appended, List.map_cons, List.map_nil, List.flatten_cons, List.flatten_nil,
        List.append_nil]
    · simp only [appended]
    · simp
    · refine ⟨[.wrote buf flush (s.flash.flashImgBufferedWrite buf).1], rfl, rfl, rfl, ?_⟩
      rintro event member ⟨slot, ret', rfl⟩
      simp at member
  · simp only [appended, List.length_append]
    exact fits

end Calls

section Stages

variable {s t : OtaNode}

theorem sendAck_iff {response : OtaResponseTypes} : (sendAck response).run s = .ok 0 t ↔
    (s.tx.zsockSend [code response]).1 = 1 ∧ said s [code response] = t := by
  rw [sendAck, run_bind_ok _ (run_send _ s), run_unless (by decide), Decidable.not_not,
    run_pure_iff]
  exact and_congr_right fun _ => ⟨And.right, fun same => ⟨rfl, same⟩⟩

theorem sendAck_zero {response : OtaResponseTypes} (h : (sendAck response).run s = .ok 0 t) :
    Progress s t [] [code response] [] := by
  obtain ⟨taken, rfl⟩ := sendAck_iff.mp h
  exact progress_said taken

theorem readMagic_iff : esphomeOtaReadMagic.run s = .ok 0 t ↔
    (s.rx.zsockRecv magicBytes.length).1.1 = magicBytes.length ∧
      (s.rx.zsockRecv magicBytes.length).1.2 = magicBytes ∧ heard s magicBytes.length = t := by
  rw [esphomeOtaReadMagic, run_bind_ok _ (run_recv _ s)]
  dsimp only
  rw [run_unless (by decide), Decidable.not_not]
  apply and_congr_right
  intro _
  by_cases same : (s.rx.zsockRecv magicBytes.length).1.2 = magicBytes
  · rw [if_neg (not_not_intro same), run_pure_iff]
    exact ⟨fun run => ⟨same, run.2⟩, fun run => ⟨rfl, run.2⟩⟩
  · rw [if_pos same, run_bind_ok _ (run_send _ _), run_pure_iff]
    exact ⟨fun run => absurd run.1 (by decide), fun run => absurd run.1 same⟩

theorem readMagic_zero (h : esphomeOtaReadMagic.run s = .ok 0 t) :
    Progress s t magicBytes [] [] := by
  obtain ⟨full, same, rfl⟩ := readMagic_iff.mp h
  have read := (recv_full full).2
  rwa [same] at read

theorem sendVersion_iff : esphomeOtaSendVersion.run s = .ok 0 t ↔
    (s.tx.zsockSend [code .ok, useOtaVersion]).1 = 2 ∧ said s [code .ok, useOtaVersion] = t := by
  rw [esphomeOtaSendVersion, run_bind_ok _ (run_send _ s), run_unless (by decide),
    Decidable.not_not, run_pure_iff]
  exact and_congr_right fun _ => ⟨And.right, fun same => ⟨rfl, same⟩⟩

theorem sendVersion_zero (h : esphomeOtaSendVersion.run s = .ok 0 t) :
    Progress s t [] [code .ok, useOtaVersion] [] := by
  obtain ⟨taken, rfl⟩ := sendVersion_iff.mp h
  exact progress_said taken

theorem readFeatures_iff {feature : UInt8} :
    esphomeOtaReadFeatures.run s = .ok (0, feature) t ↔
      (s.rx.zsockRecv 1).1.1 = 1 ∧ (s.tx.zsockSend [code .headerOk]).1 = 1 ∧
        (s.rx.zsockRecv 1).1.2.headD 0 = feature ∧ said (heard s 1) [code .headerOk] = t := by
  rw [esphomeOtaReadFeatures, run_bind_ok _ (run_recv 1 s)]
  dsimp only
  rw [run_unless (fun same => absurd (Prod.mk.inj same).1 (by decide)), Decidable.not_not]
  apply and_congr_right
  intro _
  constructor
  · intro run
    obtain ⟨ret, u, acked, run⟩ := run_bind_inv run
    obtain ⟨pair, rfl⟩ := run_pure_inv run
    obtain ⟨rfl, rfl⟩ := Prod.mk.inj pair
    obtain ⟨taken, rfl⟩ := sendAck_iff.mp acked
    exact ⟨taken, rfl, rfl⟩
  · rintro ⟨taken, rfl, rfl⟩
    exact run_bind_ok _ (sendAck_iff.mpr ⟨taken, rfl⟩)

theorem readFeatures_zero {feature : UInt8}
    (h : esphomeOtaReadFeatures.run s = .ok (0, feature) t) :
    Progress s t [feature] [code .headerOk] [] := by
  obtain ⟨full, taken, first, rfl⟩ := readFeatures_iff.mp h
  obtain ⟨length, read⟩ := @recv_full s 1 full
  obtain ⟨byte, one⟩ := List.length_eq_one_iff.mp length
  rw [one] at read first
  obtain rfl : byte = feature := first
  exact read.trans (@progress_said (heard s 1) [code .headerOk] taken)

theorem readSize_iff {otaSize : UInt32} :
    esphomeOtaReadSize.run s = .ok (0, otaSize) t ↔
      (s.rx.zsockRecv 4).1.1 = 4 ∧ decodeSize (s.rx.zsockRecv 4).1.2 = otaSize ∧
        heard s 4 = t := by
  rw [esphomeOtaReadSize, run_bind_ok _ (run_recv 4 s)]
  dsimp only
  rw [run_unless (fun same => absurd (Prod.mk.inj same).1 (by decide)), Decidable.not_not,
    run_pure_iff]
  apply and_congr_right
  intro _
  constructor
  · rintro ⟨pair, rfl⟩
    exact ⟨(Prod.mk.inj pair).2, rfl⟩
  · rintro ⟨rfl, rfl⟩
    exact ⟨rfl, rfl⟩

theorem readSize_zero {otaSize : UInt32} (h : esphomeOtaReadSize.run s = .ok (0, otaSize) t) :
    ∃ buf, buf.length = 4 ∧ decodeSize buf = otaSize ∧ Progress s t buf [] [] := by
  obtain ⟨full, decoded, rfl⟩ := readSize_iff.mp h
  obtain ⟨length, read⟩ := @recv_full s 4 full
  exact ⟨_, length, decoded, read⟩

theorem readMd5_iff : (esphomeOtaReadMd5 (32 + 1)).run s = .ok 0 t ↔
    (s.rx.zsockRecv 32).1.1 = 32 ∧ (s.tx.zsockSend [code .binMd5Ok]).1 = 1 ∧
      said (heard s 32) [code .binMd5Ok] = t := by
  rw [esphomeOtaReadMd5, run_bind_ok _ (run_recv 32 s)]
  dsimp only
  by_cases full : (s.rx.zsockRecv 32).1.1 = (32 : Nat)
  · rw [if_neg (not_not_intro full)]
    exact ⟨fun run => ⟨full, sendAck_iff.mp run⟩, fun run => sendAck_iff.mpr run.2⟩
  · rw [if_pos full, run_bind_ok _ (run_send _ _), run_pure_iff]
    exact ⟨fun run => absurd run.1 (by decide), fun run => absurd run.1 full⟩

theorem readMd5_zero (h : (esphomeOtaReadMd5 (32 + 1)).run s = .ok 0 t) :
    ∃ buf, buf.length = 32 ∧ Progress s t buf [code .binMd5Ok] [] := by
  obtain ⟨full, taken, rfl⟩ := readMd5_iff.mp h
  obtain ⟨length, read⟩ := @recv_full s 32 full
  have digested := read.trans (@progress_said (heard s 32) [code .binMd5Ok] taken)
  rw [List.append_nil] at digested
  exact ⟨_, length, digested⟩

theorem readData_iff {size : Nat} {buf : List UInt8} :
    (esphomeOtaReadData size).run s = .ok (0, buf) t ↔
      (s.rx.zsockRecv size).1.1 = size ∧ (s.rx.zsockRecv size).1.2 = buf ∧ heard s size = t := by
  rw [esphomeOtaReadData, run_bind_ok _ (run_recv size s)]
  dsimp only
  by_cases full : (s.rx.zsockRecv size).1.1 = size
  · rw [if_neg (not_not_intro full), run_pure_iff]
    exact ⟨fun run => ⟨full, (Prod.mk.inj run.1).2, run.2⟩, fun run => ⟨by rw [run.2.1], run.2.2⟩⟩
  · rw [if_pos full, run_bind_ok _ (run_send _ _), run_pure_iff]
    exact ⟨fun run => absurd (Prod.mk.inj run.1).1 (by decide), fun run => absurd run.1 full⟩

theorem readData_zero {size : Nat} {buf : List UInt8}
    (h : (esphomeOtaReadData size).run s = .ok (0, buf) t) :
    buf.length = size ∧ Progress s t buf [] [] := by
  obtain ⟨full, rfl, rfl⟩ := readData_iff.mp h
  exact recv_full full

end Stages

theorem returns_send (buf : List UInt8) : Returns (zsockSend buf) := returns_modifyGet _

def adds (P : OtaEvent → Prop) : Guarantee OtaNode :=
  .always (Guarantee.Grown OtaNode.events P)

instance stoppable_adds (P : OtaEvent → Prop) : Stoppable (adds P) :=
  Guarantee.stoppable_always _

structure Usual (P : OtaEvent → Prop) : Prop where
  received : ∀ requested ret, P (.received requested ret)
  answered : ∀ response ret, response ≠ .updateEndOk → P (.sent [code response] ret)
  version : ∀ ret, P (.sent [code .ok, useOtaVersion] ret)
  wrote : ∀ buf flush ret, P (.wrote buf flush ret)

theorem usual_quiet : Usual fun event => ¬ IsUpgrade event :=
  ⟨nofun, nofun, nofun, nofun⟩

theorem usual_any : Usual fun _ => True :=
  ⟨fun _ _ => trivial, fun _ _ _ => trivial, fun _ => trivial, fun _ _ _ => trivial⟩

section Record

variable {P : OtaEvent → Prop}

theorem keeps_recv (h : ∀ requested ret, P (.received requested ret)) (len : Nat) :
    Keeps (adds P) (zsockRecv len) := by
  apply keeps_modifyGet
  intro s
  exact Guarantee.grown_one rfl (h _ _)

theorem keeps_send {buf : List UInt8} (h : ∀ ret, P (.sent buf ret)) :
    Keeps (adds P) (zsockSend buf) := by
  apply keeps_modifyGet
  intro s
  exact Guarantee.grown_one rfl (h _)

theorem keeps_write {buf : List UInt8} {flush : Bool} (h : ∀ ret, P (.wrote buf flush ret)) :
    Keeps (adds P) (flashImgBufferedWrite buf flush) := by
  apply keeps_modifyGet
  intro s
  exact Guarantee.grown_one rfl (h _)

theorem Usual.keeps (usual : Usual P) : KeepsEarly (adds P) where
  recv := keeps_recv usual.received
  send buf early := by
    cases early with
    | answer other => exact keeps_send fun ret => usual.answered _ ret other
    | version => exact keeps_send usual.version
  write buf flush := keeps_write (usual.wrote buf flush)

theorem readData_record (size : Nat) (s : OtaNode) :
    ∃ r t ret later, (esphomeOtaReadData size).run s = .ok r t ∧
      t.events = s.events ++ .received size ret :: later := by
  unfold esphomeOtaReadData
  rw [run_bind_ok _ (run_recv size s)]
  dsimp only
  by_cases full : (s.rx.zsockRecv size).1.1 = size
  · rw [if_neg (not_not_intro full)]
    exact ⟨_, _, _, [], rfl, rfl⟩
  · rw [if_pos full, run_bind_ok _ (run_send [0] _)]
    refine ⟨_, _, (s.rx.zsockRecv size).1.1, [.sent [0] (s.tx.zsockSend [0]).1], rfl, ?_⟩
    rw [List.append_assoc, List.singleton_append]

end Record

structure Plain (s : OtaNode) : Prop where
  receives : s.rx.schedule = []
  sends : s.tx.schedule = []
  writes : s.flash.outcomes = []

section PlainCalls

variable {s : OtaNode}

theorem recv_plain (plain : Plain s) {got rest : List UInt8}
    (next : s.rx.incoming = got ++ rest) :
    ∃ t, (zsockRecv got.length).run s = .ok ((got.length : Int), got) t ∧ Plain t := by
  refine ⟨{ s with
    rx := { s.rx with incoming := rest, calls := s.rx.calls + 1 }
    events := s.events ++ [.received got.length got.length] }, ?_, ?_⟩
  · rw [run_recv, Receiver.zsockRecv_plain plain.receives next]
  · exact ⟨plain.receives, plain.sends, plain.writes⟩

theorem send_plain (plain : Plain s) (buf : List UInt8) :
    ∃ t, (zsockSend buf).run s = .ok (buf.length : Int) t ∧ Plain t := by
  refine ⟨{ s with
    tx := { s.tx with accepted := s.tx.accepted ++ buf }
    events := s.events ++ [.sent buf buf.length] }, ?_, ?_⟩
  · rw [run_send]
    simp [Transmitter.zsockSend, plain.sends]
  · exact ⟨plain.receives, plain.sends, plain.writes⟩

theorem write_plain (plain : Plain s) (buf : List UInt8)
    (fits : s.flash.written.length + buf.length ≤ s.flash.capacity) (flush : Bool) :
    ∃ t, (flashImgBufferedWrite buf flush).run s = .ok 0 t ∧ Plain t := by
  refine ⟨{ s with
    flash := { s.flash with written := s.flash.written ++ buf }
    events := s.events ++ [.wrote buf flush 0] }, ?_, ?_⟩
  · rw [run_write, FlashImg.flashImgBufferedWrite_fits plain.writes fits]
  · exact ⟨plain.receives, plain.sends, plain.writes⟩

theorem sendAck_plain (plain : Plain s) (response : OtaResponseTypes) :
    ∃ t, (sendAck response).run s = .ok 0 t ∧ Plain t := by
  obtain ⟨t, sent, plain⟩ := send_plain plain [code response]
  refine ⟨t, ?_, plain⟩
  unfold sendAck
  rw [run_bind_ok _ sent]
  rfl

theorem readMagic_plain (plain : Plain s) {rest : List UInt8}
    (next : s.rx.incoming = magicBytes ++ rest) :
    ∃ t, esphomeOtaReadMagic.run s = .ok 0 t ∧ Plain t := by
  obtain ⟨t, recv, plain⟩ := recv_plain plain next
  refine ⟨t, ?_, plain⟩
  unfold esphomeOtaReadMagic
  rw [run_bind_ok _ recv]
  rfl

theorem sendVersion_plain (plain : Plain s) :
    ∃ t, esphomeOtaSendVersion.run s = .ok 0 t ∧ Plain t := by
  obtain ⟨t, sent, plain⟩ := send_plain plain [code .ok, useOtaVersion]
  refine ⟨t, ?_, plain⟩
  unfold esphomeOtaSendVersion
  rw [run_bind_ok _ sent]
  rfl

theorem readFeatures_plain (plain : Plain s) {feature : UInt8} {rest : List UInt8}
    (next : s.rx.incoming = [feature] ++ rest) :
    ∃ t, esphomeOtaReadFeatures.run s = .ok (0, feature) t ∧ Plain t := by
  obtain ⟨u, recv, plain⟩ := recv_plain plain next
  obtain ⟨t, acked, plain⟩ := sendAck_plain plain .headerOk
  refine ⟨t, ?_, plain⟩
  have one : (zsockRecv 1).run s = .ok ((1 : Int), [feature]) u := recv
  unfold esphomeOtaReadFeatures
  rw [run_bind_ok _ one]
  simp only [ne_eq, not_true_eq_false, if_false]
  rw [run_bind_ok _ acked]
  rfl

theorem readSize_plain (plain : Plain s) {buf rest : List UInt8} (length : buf.length = 4)
    (next : s.rx.incoming = buf ++ rest) :
    ∃ t, esphomeOtaReadSize.run s = .ok (0, decodeSize buf) t ∧ Plain t := by
  obtain ⟨t, recv, plain⟩ := recv_plain plain next
  refine ⟨t, ?_, plain⟩
  rw [length] at recv
  unfold esphomeOtaReadSize
  rw [run_bind_ok _ recv]
  rfl

theorem readMd5_plain (plain : Plain s) {buf rest : List UInt8} (length : buf.length = 32)
    (next : s.rx.incoming = buf ++ rest) :
    ∃ t, (esphomeOtaReadMd5 (32 + 1)).run s = .ok 0 t ∧ Plain t := by
  obtain ⟨u, recv, plain⟩ := recv_plain plain next
  obtain ⟨t, acked, plain⟩ := sendAck_plain plain .binMd5Ok
  refine ⟨t, ?_, plain⟩
  rw [length] at recv
  unfold esphomeOtaReadMd5
  rw [run_bind_ok _ recv]
  exact acked

theorem readData_plain (plain : Plain s) {buf rest : List UInt8}
    (next : s.rx.incoming = buf ++ rest) :
    ∃ t, (esphomeOtaReadData buf.length).run s = .ok (0, buf) t ∧ Plain t := by
  obtain ⟨t, recv, plain⟩ := recv_plain plain next
  refine ⟨t, ?_, plain⟩
  unfold esphomeOtaReadData
  rw [run_bind_ok _ recv]
  simp only [ne_eq, not_true_eq_false, if_false]
  rfl

end PlainCalls

end ZephyrEsphome.Ota.Session
