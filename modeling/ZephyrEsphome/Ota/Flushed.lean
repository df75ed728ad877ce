/- Digest: Which upgrade requests come after a flash write that flushed the image. -/

import Mathlib.Tactic.ByContra
import ZephyrEsphome.Ota.Failures

set_option autoImplicit false
set_option relaxedAutoImplicit false

namespace ZephyrEsphome.Ota.Flushed

open Kernel
open Library.Exec
open OtaResponseTypes (code)
open Session Transfer DataLoop Failures

/-- Before each upgrade request of the session a flash write with `flush` set returned 0. -/
def FlushesFirst (fuel : Nat) (s : OtaNode) : Prop :=
  ∀ before slot ret after, record fuel s = before ++ .upgrade slot ret :: after →
    ∃ buf, .wrote buf true 0 ∈ before

theorem mem_writes {events : List OtaEvent} {buf : List UInt8} {flush : Bool} :
    (buf, flush) ∈ writes events ↔ ∃ ret, .wrote buf flush ret ∈ events := by
  unfold writes
  rw [List.mem_filterMap]
  constructor
  · rintro ⟨event, member, same⟩
    cases event with
    | wrote buf' flush' ret =>
      obtain ⟨rfl, rfl⟩ := Prod.mk.inj (Option.some.inj same)
      exact ⟨ret, member⟩
    | received requested ret => cases same
    | sent buf' ret => cases same
    | upgrade slot ret => cases same
  · rintro ⟨ret, member⟩
    exact ⟨_, member, rfl⟩

def sizeField (bytes : List UInt8) : List UInt8 := (bytes.drop 6).take 4

theorem sizeField_layout (feature : UInt8) {size : List UInt8} (four : size.length = 4)
    (rest : List UInt8) : sizeField (magicBytes ++ [feature] ++ (size ++ rest)) = size := by
  have six : (magicBytes ++ [feature]).length = 6 := rfl
  rw [sizeField, ← six, List.drop_left, ← four, List.take_left]

theorem bigEndian_eq_zero {size : List UInt8} (four : size.length = 4) :
    bigEndian size = 0 ↔ size = [0, 0, 0, 0] := by
  match size, four with
  | [a, b, c, d], _ =>
    simp only [bigEndian, List.foldl_cons, List.foldl_nil, List.cons.injEq, and_true,
      ← UInt8.toNat_inj]
    have zero : (0 : UInt8).toNat = 0 := rfl
    omega

theorem sizeField_upload {bytes image : List UInt8} {n : Nat} (upload : IsUpload bytes n image) :
    n = 0 ↔ sizeField bytes = [0, 0, 0, 0] := by
  obtain ⟨⟨feature, size, md5, rest, four, -, rfl, rfl⟩, -⟩ := upload
  rw [List.append_assoc, List.append_assoc, List.append_assoc, sizeField_layout feature four]
  exact bigEndian_eq_zero four

section Session

variable {fuel : Nat} {s : OtaNode}

theorem reaches_progress {otaSize : UInt32} {u : OtaNode} (reaches : ReachesDigest s otaSize u) :
    ∃ feature size answered, size.length = 4 ∧ decodeSize size = otaSize ∧
      Progress s u (magicBytes ++ [feature] ++ size) answered [] := by
  obtain ⟨s₁, s₂, s₃, s₄, s₅, feature, magic, version, features, auth, readSize, prepare⟩ := reaches
  obtain ⟨size, four, decoded, sized⟩ := readSize_zero readSize
  have header := (((((readMagic_zero magic).trans (sendVersion_zero version)).trans
    (readFeatures_zero features)).trans (sendAck_zero auth)).trans sized).trans
    (sendAck_zero prepare)
  refine ⟨feature, size, [code .ok, useOtaVersion, code .headerOk, code .authOk,
    code .updatePrepareOk], four, decoded, ?_⟩
  simpa using header

theorem reaches_declared {otaSize : UInt32} {u : OtaNode} (reaches : ReachesDigest s otaSize u) :
    otaSize = 0 ↔ sizeField s.rx.incoming = [0, 0, 0, 0] := by
  obtain ⟨feature, size, answered, four, rfl, header⟩ := reaches_progress reaches
  rw [header.incoming, List.append_assoc, sizeField_layout feature four,
    ← bigEndian_eq_zero four, ← decodeSize_toNat four, ← UInt32.toNat_inj]
  rfl

def Delivers (rx : Receiver) : List Nat → Prop
  | [] => True
  | len :: later => (rx.zsockRecv len).1.1 = len ∧ Delivers (rx.zsockRecv len).2 later

def Takes (tx : Transmitter) : List (List UInt8) → Prop
  | [] => True
  | buf :: later => (tx.zsockSend buf).1 = buf.length ∧ Takes (tx.zsockSend buf).2 later

/-- The client sends the magic bytes and declares the size 0, its bytes arrive up to the digest, and
the socket takes every answer up to the announcement that everything was received. -/
structure UploadsNothing (s : OtaNode) : Prop where
  magic : s.rx.incoming.take magicBytes.length = magicBytes
  declared : sizeField s.rx.incoming = [0, 0, 0, 0]
  delivered : Delivers s.rx [magicBytes.length, 1, 4, 32]
  taken : Takes s.tx [[code .ok, useOtaVersion], [code .headerOk], [code .authOk],
    [code .updatePrepareOk], [code .binMd5Ok], [code .receiveOk]]

theorem uploadsNothing_iff : UploadsNothing s ↔ sizeField s.rx.incoming = [0, 0, 0, 0] ∧
    ∃ otaSize u w, ReachesDigest s otaSize u ∧
      (esphomeOtaReadMd5 (32 + 1)).run u = .ok 0 w ∧ (w.tx.zsockSend [code .receiveOk]).1 = 1 := by
  constructor
  · rintro ⟨magic, declared, ⟨five, one, four, digest, -⟩, version, header, auth, prepare, md5,
      receive, -⟩
    have bytes : (s.rx.zsockRecv magicBytes.length).1.2 = magicBytes := by
      obtain ⟨length, split⟩ := Receiver.zsockRecv_full five
      rwa [split, List.take_left' length] at magic
    exact ⟨declared, _, _, _, ⟨_, _, _, _, _, _, readMagic_iff.mpr ⟨five, bytes, rfl⟩,
      sendVersion_iff.mpr ⟨version, rfl⟩, readFeatures_iff.mpr ⟨one, header, rfl, rfl⟩,
      sendAck_iff.mpr ⟨auth, rfl⟩, readSize_iff.mpr ⟨four, rfl, rfl⟩,
      sendAck_iff.mpr ⟨prepare, rfl⟩⟩, readMd5_iff.mpr ⟨digest, md5, rfl⟩, receive⟩
  · rintro ⟨declared, otaSize, u, w, ⟨s₁, s₂, s₃, s₄, s₅, feature, magic, version, features, auth,
      readSize, prepare⟩, digest, receive⟩
    obtain ⟨five, bytes, rfl⟩ := readMagic_iff.mp magic
    obtain ⟨two, rfl⟩ := sendVersion_iff.mp version
    obtain ⟨one, headerOk, -, rfl⟩ := readFeatures_iff.mp features
    obtain ⟨authOk, rfl⟩ := sendAck_iff.mp auth
    obtain ⟨four, -, rfl⟩ := readSize_iff.mp readSize
    obtain ⟨prepareOk, rfl⟩ := sendAck_iff.mp prepare
    obtain ⟨thirtyTwo, md5Ok, rfl⟩ := readMd5_iff.mp digest
    refine ⟨?_, declared, ⟨five, one, four, thirtyTwo, trivial⟩, two, headerOk, authOk, prepareOk,
      md5Ok, receive, trivial⟩
    obtain ⟨-, split⟩ := Receiver.zsockRecv_full five
    rw [split, bytes, List.take_left]

theorem dataLoop_empty (rounds : Nat) (w : OtaNode) :
    (loop .unfinished (dataRound fuel 0) (rounds + 1) ⟨0, 0⟩).run w = .ok none w := by
  apply loop_done
  rfl

theorem download_nothing (nothing : UploadsNothing s) (positive : 0 < fuel) :
    ∃ t new, (download fuel).run s = .ok none t ∧ t.events = s.events ++ new ∧
      writes new = [] := by
  obtain ⟨declared, otaSize, u, w, reaches, digest, taken⟩ := uploadsNothing_iff.mp nothing
  obtain rfl := (reaches_declared reaches).mpr declared
  obtain ⟨rounds, rfl⟩ := Nat.exists_eq_succ_of_ne_zero (Nat.ne_of_gt positive)
  have receive := run_send [code .receiveOk] w
  rw [taken] at receive
  obtain ⟨feature, size, answered, -, -, header⟩ := reaches_progress reaches
  obtain ⟨md5, -, digested⟩ := readMd5_zero digest
  obtain ⟨new, events, -, none, -⟩ := ((header.trans digested).trans (send_full receive)).events
  refine ⟨_, new, ?_, events, none⟩
  rw [download_reaches reaches, digestOn, run_bind_ok _ digest, if_neg (by decide),
    run_bind_ok _ (dataLoop_empty rounds w)]
  dsimp only
  rw [run_bind_ok _ receive]
  rfl

theorem nothing_of_download {t : OtaNode} (run : (download fuel).run s = .ok none t)
    (declared : sizeField s.rx.incoming = [0, 0, 0, 0]) : 0 < fuel ∧ UploadsNothing s := by
  rcases download_cases fuel s with ⟨ret, u, -, ended⟩ | ⟨otaSize, u, reaches⟩
  · rw [run] at ended
    cases (EStateM.Result.ok.inj ended).1
  · obtain rfl := (reaches_declared reaches).mpr declared
    rw [download_reaches reaches] at run
    rcases digestOn_inv run with ⟨ret, same, -⟩ | ⟨w, digest, ⟨ret, -, same⟩ | ⟨v, dataLoop, sent⟩⟩
    · cases same
    · cases same
    · cases fuel with
      | zero => cases dataLoop
      | succ rounds =>
        rw [dataLoop_empty] at dataLoop
        obtain ⟨-, rfl⟩ := EStateM.Result.ok.inj dataLoop
        refine ⟨Nat.succ_pos rounds,
          uploadsNothing_iff.mpr ⟨declared, 0, u, w, reaches, digest, ?_⟩⟩
        by_contra refused
        rw [if_pos refused] at sent
        cases sent

theorem download_clean {t : OtaNode} (run : (download fuel).run s = .ok none t) :
    ∃ new, t.events = s.events ++ new ∧ Clean new := by
  have unsaid : ∀ size v, GetsTo fuel s size v → ¬ ToldZero size v := by
    rintro size v gets ⟨short, -⟩
    obtain ⟨u, ended, -⟩ := download_short gets short
    rw [run] at ended
    cases (EStateM.Result.ok.inj ended).1
  obtain ⟨new, events, -, clean⟩ := tidy_download unsaid
  rw [run] at events clean
  exact ⟨new, events, clean none t rfl rfl⟩

theorem download_flushed {t : OtaNode} (run : (download fuel).run s = .ok none t)
    (declared : sizeField s.rx.incoming ≠ [0, 0, 0, 0]) {new : List OtaEvent}
    (events : t.events = s.events ++ new) : ∃ buf, .wrote buf true 0 ∈ new := by
  obtain ⟨n, acks, chunks, rest, upload, -, progress, -, chunking, -⟩ := download_none run
  obtain ⟨new', events', -, written, -⟩ := progress.events
  obtain ⟨new'', events'', clean⟩ := download_clean run
  obtain rfl := List.append_cancel_left (events.symm.trans events')
  obtain rfl := List.append_cancel_left (events.symm.trans events'')
  have some : chunks ≠ [] := by
    rintro rfl
    exact declared ((sizeField_upload upload).mp upload.length.symm)
  have last := List.getLast_mem some
  have flush := chunking.flushed _ (List.getLast?_eq_some_getLast some)
  generalize chunks.getLast some = chunk at last flush
  obtain ⟨buf, flag⟩ := chunk
  obtain rfl : flag = true := flush
  rw [← written] at last
  obtain ⟨ret, member⟩ := mem_writes.mp last
  obtain rfl : ret = 0 := by
    by_contra failed
    exact clean _ member (.wrote failed)
  exact ⟨buf, member⟩

theorem upgrade_place {before before' after after' : List OtaEvent} {event upgrade : OtaEvent}
    (split : before ++ event :: after = before' ++ upgrade :: after') (is : IsUpgrade event)
    (calm : ∀ event ∈ before', ¬ IsUpgrade event) (calm' : ∀ event ∈ after', ¬ IsUpgrade event) :
    before = before' := by
  rcases List.append_eq_append_iff.mp split with ⟨between, rfl, rest⟩ | ⟨between, rfl, rest⟩
  · cases between with
    | nil => exact (List.append_nil _).symm
    | cons first between =>
      obtain ⟨rfl, -⟩ := List.cons.inj rest
      exact absurd is (calm _ (List.mem_append_right before List.mem_cons_self))
  · cases between with
    | nil => exact List.append_nil _
    | cons first between =>
      obtain ⟨rfl, rfl⟩ := List.cons.inj rest
      exact absurd is (calm' _ (List.mem_append_right between List.mem_cons_self))

/-- Every upgrade request comes after a flushing write exactly in the sessions whose client does
not declare the size 0 and get through with it. -/
theorem flushesFirst_iff (fuel : Nat) (s : OtaNode) :
    FlushesFirst fuel s ↔ ¬ (0 < fuel ∧ UploadsNothing s) := by
  constructor
  · rintro flushes ⟨positive, nothing⟩
    obtain ⟨t, new, run, events, none⟩ := download_nothing nothing positive
    obtain ⟨before, ret, after, events', whole, -⟩ := record_upgrade run
    obtain rfl := List.append_cancel_left (events.symm.trans events')
    obtain ⟨buf, member⟩ := flushes _ _ _ _ whole
    have written := mem_writes.mpr ⟨0, member⟩
    rw [none] at written
    exact absurd written List.not_mem_nil
  · intro safe before slot ret after split
    by_cases there : ∃ t, (download fuel).run s = .ok none t
    · obtain ⟨t, run⟩ := there
      obtain ⟨before', ret', after', events, whole, calm, calm', -⟩ := record_upgrade run
      rw [split] at whole
      obtain rfl := upgrade_place whole ⟨slot, ret, rfl⟩ calm calm'
      apply download_flushed run _ events
      intro declared
      exact safe (nothing_of_download run declared)
    · have quiet := record_quiet (fun t run => there ⟨t, run⟩)
      have member : .upgrade slot ret ∈ record fuel s := by
        rw [split]
        exact List.mem_append_right before List.mem_cons_self
      exact absurd ⟨slot, ret, rfl⟩ (quiet _ member)

end Session

def declareNothing : Connection where
  rx :=
    { incoming := magicBytes ++ [0] ++ [0, 0, 0, 0] ++ List.replicate 32 0x30
      schedule := []
      calls := 0
      residue := fun _ => 0 }
  tx := { accepted := [], schedule := [] }

theorem upgrade_of_nothing : ¬ ∀ (fuel : Nat) (s : OtaNode), FlushesFirst fuel s := by
  intro always
  have split : record 1 (booted.accept declareNothing) =
      [.received 5 5, .sent [0x00, 0x02] 2, .received 1 1, .sent [0x40] 1, .sent [0x41] 1,
        .received 4 4, .sent [0x42] 1, .received 32 32, .sent [0x43] 1, .sent [0x44] 1] ++
        .upgrade [] 0 :: [.sent [0x45] 1, .received 1 0] := by
    decide +kernel
  obtain ⟨buf, member⟩ := always 1 _ _ _ _ _ split
  simp at member

end ZephyrEsphome.Ota.Flushed
