/- Digest: Which client bytes lead to an upgrade request, and what was written and answered by then. -/

import ZephyrEsphome.Ota.DataLoop

set_option autoImplicit false
set_option relaxedAutoImplicit false

namespace ZephyrEsphome.Ota.Transfer

open Kernel
open Library.Exec
open OtaResponseTypes (code)
open Calls Session DataLoop

def bigEndian (bytes : List UInt8) : Nat :=
  bytes.foldl (fun n byte => 256 * n + byte.toNat) 0

private theorem decode_step {acc : UInt32} (h : acc.toNat < 2 ^ 24) (byte : UInt8) :
    (acc <<< 8 ||| (byte.toUInt32 &&& 0xFF)).toNat = 256 * acc.toNat + byte.toNat := by
  have low : (byte.toUInt32 &&& 0xFF).toNat = byte.toNat := by
    rw [UInt32.toNat_and, UInt8.toNat_toUInt32]
    have mask : (0xFF : UInt32).toNat = 2 ^ 8 - 1 := rfl
    rw [mask, Nat.and_two_pow_sub_one_eq_mod]
    exact Nat.mod_eq_of_lt byte.toNat_lt
  have high : (acc <<< 8).toNat = 2 ^ 8 * acc.toNat := by
    simp only [UInt32.toNat_shiftLeft, UInt32.reduceToNat, Nat.reduceMod, Nat.shiftLeft_eq]
    omega
  rw [UInt32.toNat_or, low, high, ← Nat.two_pow_add_eq_or_of_lt byte.toNat_lt]

theorem decodeSize_toNat {size : List UInt8} (length : size.length = 4) :
    (decodeSize size).toNat = bigEndian size := by
  match size, length with
  | [a, b, c, d], _ =>
    have ha := a.toNat_lt
    have hb := b.toNat_lt
    have hc := c.toNat_lt
    have first := decode_step (show (0 : UInt32).toNat < 2 ^ 24 by decide) a
    have second := decode_step (by rw [first]; simp; omega) b
    have third := decode_step (by rw [second, first]; simp; omega) c
    have fourth := decode_step (by rw [third, second, first]; simp; omega) d
    simp only [decodeSize, bigEndian, List.foldl_cons, List.foldl_nil]
    rw [fourth, third, second, first]
    rfl

/-- The magic bytes, the features, the size and the digest, and then the image and anything. -/
structure IsUpload (bytes : List UInt8) (n : Nat) (image : List UInt8) : Prop where
  layout : ∃ feature size md5 rest, size.length = 4 ∧ md5.length = 32 ∧ bigEndian size = n ∧
    bytes = magicBytes ++ [feature] ++ size ++ md5 ++ image ++ rest
  length : image.length = n

theorem IsUpload.unique {bytes : List UInt8} {n n' : Nat} {image image' : List UInt8}
    (upload : IsUpload bytes n image) (upload' : IsUpload bytes n' image') :
    n = n' ∧ image = image' := by
  obtain ⟨⟨feature, size, md5, rest, four, length, number, layout⟩, full⟩ := upload
  obtain ⟨⟨feature', size', md5', rest', four', length', number', layout'⟩, full'⟩ := upload'
  rw [layout] at layout'
  simp only [List.append_assoc] at layout'
  have afterMagic := List.append_cancel_left layout'
  have afterFeature := (List.append_inj afterMagic rfl).2
  obtain ⟨rfl, afterSize⟩ := List.append_inj afterFeature (four.trans four'.symm)
  have afterDigest := (List.append_inj afterSize (length.trans length'.symm)).2
  have same : n = n' := number.symm.trans number'
  subst same
  exact ⟨rfl, (List.append_inj afterDigest (full.trans full'.symm)).1⟩

def answers (n : Nat) : List UInt8 :=
  [0x00, 0x02, 0x40, 0x41, 0x42, 0x43] ++ List.replicate ((n + 8191) / 8192) 0x47 ++ [0x44]

section Download

variable {fuel : Nat} {s t : OtaNode}

private theorem stage_passed {ret : Int} {rest : Exec OtaNode (Option Int)}
    (h : (if ret ≠ 0 then pure (some ret) else rest).run s = .ok none t) :
    ret = 0 ∧ rest.run s = .ok none t := by
  by_cases zero : ret = 0
  · rw [if_neg (not_not_intro zero)] at h
    exact ⟨zero, h⟩
  · rw [if_pos zero] at h
    obtain ⟨bad, -⟩ := run_pure_inv h
    exact absurd bad nofun

theorem download_none (run : (download fuel).run s = .ok none t) :
    ∃ n acks chunks rest, IsUpload s.rx.incoming n (chunks.map Prod.fst).flatten ∧
      s.rx.incoming = rest ++ t.rx.incoming ∧
      Progress s t rest ([0x00, 0x02, 0x40, 0x41, 0x42, 0x43] ++ List.replicate acks 0x47 ++ [0x44])
        chunks ∧
      (n < 2 ^ 31 → acks = (n + 8191) / 8192) ∧ IsChunking chunks ∧
      (0 < n → t.flash.written.length ≤ s.flash.capacity) := by
  unfold download at run
  obtain ⟨ret, s₁, magic, run⟩ := run_bind_inv run
  obtain ⟨rfl, run⟩ := stage_passed run
  obtain ⟨ret, s₂, version, run⟩ := run_bind_inv run
  obtain ⟨rfl, run⟩ := stage_passed run
  obtain ⟨⟨ret, feature⟩, s₃, features, run⟩ := run_bind_inv run
  obtain ⟨rfl, run⟩ := stage_passed run
  obtain ⟨ret, s₄, auth, run⟩ := run_bind_inv run
  obtain ⟨rfl, run⟩ := stage_passed run
  obtain ⟨⟨ret, otaSize⟩, s₅, readSize, run⟩ := run_bind_inv run
  obtain ⟨rfl, run⟩ := stage_passed run
  obtain ⟨ret, s₆, prepare, run⟩ := run_bind_inv run
  obtain ⟨rfl, run⟩ := stage_passed run
  obtain ⟨ret, s₇, digest, run⟩ := run_bind_inv run
  obtain ⟨rfl, run⟩ := stage_passed run
  obtain ⟨left, s₈, dataLoop, run⟩ := run_bind_inv run
  cases left with
  | some ret =>
    obtain ⟨bad, -⟩ := run_pure_inv run
    exact absurd bad nofun
  | none =>
    obtain ⟨ret, s₉, receive, run⟩ := run_bind_inv run
    by_cases full : ret = 1
    · subst full
      obtain ⟨-, rfl⟩ := run_pure_inv run
      obtain ⟨size, four, rfl, sized⟩ := readSize_zero readSize
      obtain ⟨md5, length, digested⟩ := readMd5_zero digest
      obtain ⟨c, downloading, finished⟩ := dataLoop_none dataLoop
      obtain ⟨acks, chunks, moved, total, counted, -, chunking⟩ := downloading.moved
      have header := ((((((readMagic_zero magic).trans (sendVersion_zero version)).trans
        (readFeatures_zero features)).trans (sendAck_zero auth)).trans sized).trans
        (sendAck_zero prepare)).trans digested
      have last : Progress s₈ s₉ [] [code .receiveOk] [] := send_full receive
      have whole := (header.trans moved).trans last
      rw [finished, decodeSize_toNat four] at total counted
      refine ⟨bigEndian size, acks, chunks, _, ⟨⟨feature, size, md5, s₉.rx.incoming, four, length,
        rfl, ?_⟩, total⟩, whole.incoming, ?_, ?_, ?_, ?_⟩
      · simpa [List.append_assoc] using whole.incoming
      · simpa [code, useOtaVersion] using whole
      · intro small
        rw [counted small]
        exact if_pos rfl
      · exact chunking finished
      · intro positive
        have room := downloading.room (by
          rw [finished, decodeSize_toNat four]
          exact positive)
        rw [last.written, ← header.capacity]
        simpa using room
    · rw [if_pos full] at run
      obtain ⟨bad, -⟩ := run_pure_inv run
      exact absurd bad nofun

theorem download_plain (ample : 2 ^ 32 ≤ fuel) (plain : Plain s)
    (capacity : s.flash.capacity < 2 ^ 31) {n : Nat} {image : List UInt8}
    (upload : IsUpload s.rx.incoming n image)
    (fits : s.flash.written.length + n ≤ s.flash.capacity) :
    ∃ t, (download fuel).run s = .ok none t := by
  obtain ⟨⟨feature, size, md5, rest, four, length, number, layout⟩, full⟩ := upload
  have start : s.rx.incoming = magicBytes ++ ([feature] ++ (size ++ (md5 ++ (image ++ rest)))) := by
    simpa [List.append_assoc] using layout
  obtain ⟨s₁, magic, plain₁⟩ := readMagic_plain plain start
  have header₁ := readMagic_zero magic
  have next₁ := List.append_cancel_left (header₁.incoming.symm.trans start)
  obtain ⟨s₂, version, plain₂⟩ := sendVersion_plain plain₁
  have header₂ := sendVersion_zero version
  have next₂ := header₂.incoming.symm.trans next₁
  obtain ⟨s₃, features, plain₃⟩ := readFeatures_plain plain₂ next₂
  have header₃ := readFeatures_zero features
  have next₃ := List.append_cancel_left (header₃.incoming.symm.trans next₂)
  obtain ⟨s₄, auth, plain₄⟩ := sendAck_plain plain₃ .authOk
  have header₄ := sendAck_zero auth
  have next₄ := header₄.incoming.symm.trans next₃
  obtain ⟨s₅, readSize, plain₅⟩ := readSize_plain plain₄ four next₄
  obtain ⟨size', four', same, header₅⟩ := readSize_zero readSize
  have sized := List.append_inj (header₅.incoming.symm.trans next₄) (four'.trans four.symm)
  have next₅ := sized.2
  obtain ⟨s₆, prepare, plain₆⟩ := sendAck_plain plain₅ .updatePrepareOk
  have header₆ := sendAck_zero prepare
  have next₆ := header₆.incoming.symm.trans next₅
  obtain ⟨s₇, digest, plain₇⟩ := readMd5_plain plain₆ length next₆
  obtain ⟨md5', length', header₇⟩ := readMd5_zero digest
  have next₇ := (List.append_inj (header₇.incoming.symm.trans next₆)
    (length'.trans length.symm)).2
  have header := (((((header₁.trans header₂).trans header₃).trans header₄).trans header₅).trans
    header₆).trans header₇
  have written : s₇.flash.written.length = s.flash.written.length := by
    rw [header.written]
    simp
  have supplied : Supplied (decodeSize size) ⟨0, 0⟩ s₇ := by
    refine ⟨plain₇, image, rest, next₇, ?_⟩
    rw [decodeSize_toNat four, number, full]
    exact Nat.zero_add n
  obtain ⟨left, s₈, dataLoop, fine⟩ := @dataLoop_ends fuel (decodeSize size) s₇ (by omega)
    (by rw [header.capacity]; exact capacity) fuel (by
      have := (decodeSize size).toNat_lt
      omega)
  obtain ⟨rfl, plain₈⟩ := fine supplied (by
    rw [decodeSize_toNat four, number, written, header.capacity]
    exact fits)
  obtain ⟨s₉, receive, -⟩ := send_plain plain₈ [code .receiveOk]
  refine ⟨s₉, ?_⟩
  unfold download
  rw [run_bind_ok _ magic, if_neg (by decide), run_bind_ok _ version, if_neg (by decide),
    run_bind_ok _ features]
  dsimp only
  rw [if_neg (by decide), esphomeOtaSendAuthOk, run_bind_ok _ auth, if_neg (by decide),
    run_bind_ok _ readSize]
  dsimp only
  rw [if_neg (by decide), esphomeOtaSendPrepareOk, run_bind_ok _ prepare, if_neg (by decide),
    run_bind_ok _ digest, if_neg (by decide), run_bind_ok _ dataLoop]
  dsimp only
  rw [run_bind_ok _ receive]
  rfl

theorem stage_cases {m : Exec OtaNode Int} {rest : Exec OtaNode (Option Int)}
    (stage : Returns m) (s : OtaNode) :
    (∃ ret u, ret ≠ 0 ∧
        (m >>= fun ret => if ret ≠ 0 then pure (some ret) else rest).run s = .ok (some ret) u) ∨
      ∃ u, m.run s = .ok 0 u ∧
        (m >>= fun ret => if ret ≠ 0 then pure (some ret) else rest).run s = rest.run u := by
  obtain ⟨ret, u, run⟩ := stage s
  rw [run_bind_ok _ run]
  by_cases zero : ret = 0
  · rw [if_neg (not_not_intro zero)]
    subst zero
    exact Or.inr ⟨u, run, rfl⟩
  · rw [if_pos zero]
    exact Or.inl ⟨ret, u, zero, rfl⟩

private theorem stage_ends {m : Exec OtaNode Int} {rest : Exec OtaNode (Option Int)}
    (stage : Returns m) (later : ∀ u, m.run s = .ok 0 u → ∃ r t, rest.run u = .ok r t) :
    ∃ r t, (m >>= fun ret => if ret ≠ 0 then pure (some ret) else rest).run s = .ok r t := by
  rcases @stage_cases m rest stage s with ⟨ret, u, -, ended⟩ | ⟨u, run, on⟩
  · exact ⟨some ret, u, ended⟩
  · rw [on]
    exact later u run

theorem download_ends (ample : 2 ^ 32 ≤ fuel) (capacity : s.flash.capacity < 2 ^ 31) :
    ∃ r t, (download fuel).run s = .ok r t := by
  unfold download
  apply stage_ends (returns_of_keeps (readMagic_keeps early_total))
  intro s₁ magic
  apply stage_ends (returns_of_keeps (sendVersion_keeps early_total))
  intro s₂ version
  obtain ⟨⟨ret, feature⟩, s₃, features⟩ :=
    returns_of_keeps (readFeatures_keeps early_total) s₂
  rw [run_bind_ok _ features]
  by_cases zero : ret = 0
  · subst zero
    apply stage_ends (returns_of_keeps (sendAck_keeps early_total (by decide)))
    intro s₄ auth
    obtain ⟨⟨ret, otaSize⟩, s₅, readSize⟩ :=
      returns_of_keeps (readSize_keeps early_total) s₄
    rw [run_bind_ok _ readSize]
    by_cases zero : ret = 0
    · subst zero
      apply stage_ends (returns_of_keeps (sendAck_keeps early_total (by decide)))
      intro s₆ prepare
      apply stage_ends (returns_of_keeps (readMd5_keeps early_total _))
      intro s₇ digest
      obtain ⟨size, -, -, sized⟩ := readSize_zero readSize
      obtain ⟨md5, -, digested⟩ := readMd5_zero digest
      have header := ((((((readMagic_zero magic).trans (sendVersion_zero version)).trans
        (readFeatures_zero features)).trans (sendAck_zero auth)).trans sized).trans
        (sendAck_zero prepare)).trans digested
      obtain ⟨left, s₈, dataLoop, -⟩ := @dataLoop_ends fuel otaSize s₇ (by omega)
        (by rw [header.capacity]; exact capacity) fuel (by
          have := otaSize.toNat_lt
          omega)
      rw [run_bind_ok _ dataLoop]
      cases left with
      | some ret => exact ⟨some ret, s₈, rfl⟩
      | none =>
        obtain ⟨ret, s₉, receive⟩ := returns_send [code .receiveOk] s₈
        dsimp only
        rw [run_bind_ok _ receive]
        by_cases full : ret = 1
        · rw [if_neg (not_not_intro full)]
          exact ⟨none, s₉, rfl⟩
        · rw [if_pos full]
          exact ⟨some ret, s₉, rfl⟩
    · dsimp only
      rw [if_pos zero]
      exact ⟨some ret, s₅, rfl⟩
  · dsimp only
    rw [if_pos zero]
    exact ⟨some ret, s₃, rfl⟩

end Download

section Session

variable {fuel : Nat} {s : OtaNode}

theorem run_boot (s : OtaNode) :
    bootRequestUpgrade.run s = .ok (s.bootOutcomes.headD 0)
      { s with
        bootOutcomes := s.bootOutcomes.tail
        events := s.events ++ [.upgrade s.flash.written (s.bootOutcomes.headD 0)] } := rfl

def IsTalk (event : OtaEvent) : Prop :=
  (∃ requested ret, event = .received requested ret) ∨ ∃ buf ret, event = .sent buf ret

theorem received_talk (requested : Nat) (ret : Int) : IsTalk (.received requested ret) :=
  Or.inl ⟨requested, ret, rfl⟩

theorem sent_talk (buf : List UInt8) (ret : Int) : IsTalk (.sent buf ret) :=
  Or.inr ⟨buf, ret, rfl⟩

theorem not_upgrade_of_talk {event : OtaEvent} (talk : IsTalk event) : ¬ IsUpgrade event := by
  rcases talk with ⟨requested, ret, rfl⟩ | ⟨buf, ret, rfl⟩
  · exact usual_quiet.received requested ret
  · exact nofun

theorem writes_of_talk {events : List OtaEvent} (talk : ∀ event ∈ events, IsTalk event) :
    writes events = [] := by
  apply List.filterMap_eq_nil_iff.mpr
  intro event member
  rcases talk event member with ⟨requested, ret, rfl⟩ | ⟨buf, ret, rfl⟩
  · rfl
  · rfl

private theorem closing_ends (s : OtaNode) :
    (∃ ret t, closing.run s = .ok ret t) ∨ ∃ t, closing.run s = .error .reboot t := by
  unfold closing
  obtain ⟨ret, t, sent⟩ := returns_send [code .updateEndOk] s
  rw [run_bind_ok _ sent]
  by_cases full : ret = 1
  · rw [if_neg (not_not_intro full)]
    obtain ⟨ack, u, read⟩ := returns_of_keeps (readAck_keeps early_total.recv) t
    rw [run_bind_ok _ read]
    by_cases zero : ack = 0
    · rw [if_neg (not_not_intro zero)]
      exact Or.inr ⟨u, rfl⟩
    · rw [if_pos zero]
      exact Or.inl ⟨ack, u, rfl⟩
  · rw [if_pos full]
    exact Or.inl ⟨ret, t, rfl⟩

theorem commit_record (s : OtaNode) :
    (∃ after, (final (commit.run s)).events =
        s.events ++ .upgrade s.flash.written (s.bootOutcomes.headD 0) :: after ∧
      (∀ event ∈ after, ¬ IsUpgrade event) ∧ writes after = []) ∧
    ((∃ ret t, commit.run s = .ok ret t) ∨ ∃ t, commit.run s = .error .reboot t) := by
  rw [commit_eq, run_bind_ok _ (run_boot s)]
  constructor
  · have talks : Keeps (adds IsTalk) closing :=
      closing_keeps (keeps_recv received_talk) fun buf => keeps_send (sent_talk buf)
    obtain ⟨after, grown, talk⟩ := talks.final
      { s with
        bootOutcomes := s.bootOutcomes.tail
        events := s.events ++ [.upgrade s.flash.written (s.bootOutcomes.headD 0)] }
    refine ⟨after, ?_, ?_, writes_of_talk talk⟩
    · rw [grown, List.append_assoc, List.singleton_append]
    · intro event member
      exact not_upgrade_of_talk (talk event member)
  · exact closing_ends _

def record (fuel : Nat) (s : OtaNode) : List OtaEvent :=
  (final ((esphomeOtaRun fuel).run s)).events.drop s.events.length

private theorem any_calls : KeepsCalls (adds fun _ => True) where
  recv := usual_any.keeps.recv
  send _ := keeps_send fun _ => trivial
  write := usual_any.keeps.write
  boot := keeps_modifyGet fun _ => ⟨[_], rfl, fun _ _ => trivial⟩

theorem record_events (fuel : Nat) (s : OtaNode) :
    (final ((esphomeOtaRun fuel).run s)).events = s.events ++ record fuel s := by
  obtain ⟨added, split, -⟩ := (esphomeOtaRun_keeps any_calls fuel).final s
  unfold record
  rw [split, List.drop_left]

theorem record_upgrade {t : OtaNode} (run : (download fuel).run s = .ok none t) :
    ∃ before ret after, t.events = s.events ++ before ∧
      record fuel s = before ++ .upgrade t.flash.written ret :: after ∧
      (∀ event ∈ before, ¬ IsUpgrade event) ∧ (∀ event ∈ after, ¬ IsUpgrade event) ∧
      writes after = [] := by
  have quiet := (download_keeps usual_quiet.keeps fuel).final s
  rw [run] at quiet
  obtain ⟨before, split, calm⟩ := quiet
  obtain ⟨⟨after, rest, calm', none⟩, -⟩ := commit_record t
  refine ⟨before, t.bootOutcomes.headD 0, after, split, ?_, calm, calm', none⟩
  have whole : (esphomeOtaRun fuel).run s = commit.run t := by
    unfold esphomeOtaRun
    rw [run_bind_ok _ run]
  have events : t.events = s.events ++ before := split
  unfold record
  rw [whole, rest, events, List.append_assoc, List.drop_left]

theorem final_stuck (stuck : ∀ t, (download fuel).run s ≠ .ok none t) :
    final ((esphomeOtaRun fuel).run s) = final ((download fuel).run s) := by
  unfold esphomeOtaRun
  cases run : (download fuel).run s with
  | ok left t =>
    rw [run_bind_ok _ run]
    cases left with
    | none => exact absurd run (stuck t)
    | some ret => rfl
  | error e t =>
    rw [run_bind_error _ run]
    rfl

theorem record_quiet (stuck : ∀ t, (download fuel).run s ≠ .ok none t) :
    ∀ event ∈ record fuel s, ¬ IsUpgrade event := by
  obtain ⟨before, split, calm⟩ := (download_keeps usual_quiet.keeps fuel).final s
  unfold record
  rw [final_stuck stuck, split, List.drop_left]
  exact calm

/-- A session on a fresh slot of less than 2 GiB in which no call of the kernel fails. -/
structure Fresh (capacity : Nat) (s : OtaNode) : Prop where
  plain : Plain s
  empty : s.flash.written = []
  slot : s.flash.capacity = capacity
  small : capacity < 2 ^ 31

/-- A session ends, requests an upgrade exactly after a whole upload that fits, and has written
and answered just what belongs to it by then. -/
theorem esphomeOtaRun_exact {capacity : Nat} {s : OtaNode} (fresh : Fresh capacity s) :
    ∃ bound, ∀ fuel ≥ bound,
      ((∃ ret t, (esphomeOtaRun fuel).run s = .ok ret t) ∨
        ∃ t, (esphomeOtaRun fuel).run s = .error .reboot t) ∧
      ((∃ event ∈ record fuel s, IsUpgrade event) ↔
        ∃ n image, IsUpload s.rx.incoming n image ∧ n ≤ capacity) ∧
      ∀ n image, IsUpload s.rx.incoming n image → n ≤ capacity →
        ((writes (record fuel s)).map Prod.fst).flatten = image ∧
        IsChunking (writes (record fuel s)) ∧
        ∃ before slot ret after, record fuel s = before ++ .upgrade slot ret :: after ∧
          (∀ event ∈ before, ¬ IsUpgrade event) ∧ responses before = answers n := by
  refine ⟨2 ^ 32, ?_⟩
  intro fuel ample
  have capacity_small : s.flash.capacity < 2 ^ 31 := by
    rw [fresh.slot]
    exact fresh.small
  have reached : ∀ n image, IsUpload s.rx.incoming n image → n ≤ capacity →
      ∃ t, (download fuel).run s = .ok none t := by
    intro n image upload fits
    apply download_plain ample fresh.plain capacity_small upload
    rw [fresh.empty, fresh.slot]
    simpa using fits
  constructor
  · obtain ⟨left, t, run⟩ := download_ends ample capacity_small
    unfold esphomeOtaRun
    rw [run_bind_ok _ run]
    cases left with
    | some ret => exact Or.inl ⟨ret, t, rfl⟩
    | none => exact (commit_record t).2
  constructor
  · constructor
    · rintro ⟨event, member, upgrade⟩
      by_cases there : ∃ t, (download fuel).run s = .ok none t
      · obtain ⟨t, run⟩ := there
        obtain ⟨n, acks, chunks, got, upload, -, progress, -, -, room⟩ := download_none run
        refine ⟨n, _, upload, ?_⟩
        by_cases zero : n = 0
        · omega
        · have length := room (by omega)
          rw [progress.written, fresh.empty, fresh.slot, List.nil_append, upload.length] at length
          exact length
      · have stuck := record_quiet (fun t run => there ⟨t, run⟩)
        exact absurd upgrade (stuck event member)
    · rintro ⟨n, image, upload, fits⟩
      obtain ⟨t, run⟩ := reached n image upload fits
      obtain ⟨before, ret, after, -, whole, -, -, -⟩ := record_upgrade run
      refine ⟨.upgrade t.flash.written ret, ?_, t.flash.written, ret, rfl⟩
      rw [whole]
      exact List.mem_append_right before List.mem_cons_self
  · intro n image upload fits
    obtain ⟨t, run⟩ := reached n image upload fits
    obtain ⟨n', acks, chunks, got, upload', -, progress, counted, chunking, -⟩ := download_none run
    obtain ⟨rfl, rfl⟩ := upload.unique upload'
    obtain ⟨before, ret, after, split, whole, calm, -, none⟩ := record_upgrade run
    obtain ⟨new, split', answered, written, -⟩ := progress.events
    obtain rfl := List.append_cancel_left (split.symm.trans split')
    have all : writes (record fuel s) = chunks := by
      have single : writes (.upgrade t.flash.written ret :: after) = writes after := rfl
      rw [whole, writes_append, written, single, none, List.append_nil]
    rw [all]
    refine ⟨rfl, chunking, before, t.flash.written, ret, after, whole, calm, ?_⟩
    rw [answered, counted (Nat.lt_of_le_of_lt fits fresh.small)]
    rfl

end Session

def uploadByte (byte : UInt8) : Connection where
  rx :=
    { incoming := magicBytes ++ [0] ++ [0, 0, 0, 1] ++ List.replicate 32 0x30 ++ [byte] ++ []
      schedule := []
      calls := 0
      residue := fun _ => 0 }
  tx := { accepted := [], schedule := [] }

/-- The service's thread after `flash_img_init`. -/
def booted : OtaNode where
  rx := ⟨[], [], 0, fun _ => 0⟩
  tx := ⟨[], []⟩
  flash := { capacity := 65536, written := [], outcomes := [] }
  bootOutcomes := []
  events := []

theorem uploadByte_upload (byte : UInt8) :
    IsUpload (uploadByte byte).rx.incoming 1 [byte] := by
  refine ⟨⟨0, [0, 0, 0, 1], List.replicate 32 0x30, [], rfl, rfl, rfl, rfl⟩, rfl⟩

def uploadLong : Connection where
  rx :=
    { incoming := magicBytes ++ [0] ++ [0, 0, 4, 1] ++ List.replicate 32 0x30 ++
        List.replicate 1025 0xAA ++ []
      schedule := []
      calls := 0
      residue := fun _ => 0 }
  tx := { accepted := [], schedule := [] }

theorem esphomeOtaRun_exact_long :
    Fresh 65536 (booted.accept uploadLong) ∧
      ∃ bound, ∀ fuel ≥ bound,
        (∃ event ∈ record fuel (booted.accept uploadLong), IsUpgrade event) ∧
          ((writes (record fuel (booted.accept uploadLong))).map Prod.fst).flatten =
            List.replicate 1025 0xAA := by
  have fresh : Fresh 65536 (booted.accept uploadLong) := ⟨⟨rfl, rfl, rfl⟩, rfl, rfl, by decide⟩
  have upload : IsUpload (booted.accept uploadLong).rx.incoming 1025 (List.replicate 1025 0xAA) :=
    ⟨⟨0, [0, 0, 4, 1], List.replicate 32 0x30, [], rfl, rfl, rfl, rfl⟩, List.length_replicate⟩
  refine ⟨fresh, ?_⟩
  obtain ⟨bound, exact⟩ := esphomeOtaRun_exact fresh
  refine ⟨bound, ?_⟩
  intro fuel ample
  obtain ⟨-, requests, uploads⟩ := exact fuel ample
  refine ⟨requests.mpr ⟨1025, _, upload, by decide⟩, ?_⟩
  exact (uploads 1025 _ upload (by decide)).1

end ZephyrEsphome.Ota.Transfer
