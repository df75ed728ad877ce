/- Digest: The data loop of a session: what its rounds read, write and acknowledge. -/

import ZephyrEsphome.Ota.Session

set_option autoImplicit false
set_option relaxedAutoImplicit false

namespace ZephyrEsphome.Ota.DataLoop

open Kernel
open Library.Exec
open OtaResponseTypes (code)
open Calls Session

/-- How many blocks are to be acknowledged once `total` of `otaSize` bytes are written: every whole
block, and at the end also the last one when it is shorter. -/
def acksDue (otaSize total : Nat) : Nat :=
  if total = otaSize then (otaSize + 8191) / 8192 else total / 8192

theorem acksDue_mono {otaSize total total' : Nat} (h : total ≤ total') (h' : total' ≤ otaSize) :
    acksDue otaSize total ≤ acksDue otaSize total' := by
  unfold acksDue
  split <;> split <;> omega

theorem acksDue_le {otaSize total : Nat} : 8192 * acksDue otaSize total ≤ total + 8191 := by
  unfold acksDue
  split <;> omega

theorem acked_next {otaSize total acked : UInt32} {count : Nat} (small : total.toNat < 2 ^ 31)
    (counted : acked.toNat = 8192 * count)
    (bound : count ≤ acksDue otaSize.toNat total.toNat) :
    (acked + otaBlockSize).toNat = 8192 * (count + 1) := by
  have limit := @acksDue_le otaSize.toNat total.toNat
  rw [UInt32.toNat_add, counted, Nat.mod_eq_of_lt]
  · simp only [otaBlockSize, UInt32.reduceToNat]
    omega
  · simp only [otaBlockSize, UInt32.reduceToNat]
    omega

theorem ackDue_iff {otaSize total acked : UInt32} {count : Nat} (small : total.toNat < 2 ^ 31)
    (counted : acked.toNat = 8192 * count)
    (bound : count ≤ acksDue otaSize.toNat total.toNat) :
    AckDue otaSize total acked ↔ count < acksDue otaSize.toNat total.toNat := by
  have sum := acked_next small counted bound
  unfold AckDue
  rw [UInt32.le_iff_toNat_le, UInt32.lt_iff_toNat_lt, ← UInt32.toNat_inj, sum, counted]
  unfold acksDue at bound ⊢
  by_cases finished : total.toNat = otaSize.toNat
  · simp only [finished, if_true, true_and] at bound ⊢
    omega
  · simp only [finished, if_false, false_and, or_false] at bound ⊢
    omega

section Acks

variable {otaSize total : UInt32}

theorem ackRound_cases (otaSize total acked : UInt32) (s : OtaNode) :
    (¬ AckDue otaSize total acked ∧
      (ackRound otaSize total acked).run s = .ok (.inr (.ok acked)) s) ∨
    (AckDue otaSize total acked ∧ ∃ t,
      (ackRound otaSize total acked).run s = .ok (.inl (acked + otaBlockSize)) t ∧
      Progress s t [] [code .chunkOk] [] ∧ (Plain s → Plain t)) ∨
    (AckDue otaSize total acked ∧ ∃ ret t,
      (ackRound otaSize total acked).run s = .ok (.inr (.error ret)) t ∧ ¬ Plain s) := by
  unfold ackRound
  by_cases due : AckDue otaSize total acked
  · right
    simp only [due, not_true_eq_false, if_false]
    by_cases full : (s.tx.zsockSend [code .chunkOk]).1 = 1
    · have sent := run_send [code .chunkOk] s
      rw [full] at sent
      left
      refine ⟨trivial, _, ?_, send_full sent, ?_⟩
      · rw [run_bind_ok _ sent]
        rfl
      · intro plain
        obtain ⟨t, sent', plain'⟩ := send_plain plain [code .chunkOk]
        obtain ⟨-, rfl⟩ := EStateM.Result.ok.inj (sent.symm.trans sent')
        exact plain'
    · have sent := run_send [code .chunkOk] s
      right
      refine ⟨trivial, (s.tx.zsockSend [code .chunkOk]).1, { s with
        tx := (s.tx.zsockSend [code .chunkOk]).2
        events := s.events ++ [.sent [code .chunkOk] (s.tx.zsockSend [code .chunkOk]).1] },
        ?_, ?_⟩
      · rw [run_bind_ok _ sent, if_pos full]
        rfl
      · intro plain
        obtain ⟨t, sent', -⟩ := send_plain plain [code .chunkOk]
        obtain ⟨ret, -⟩ := EStateM.Result.ok.inj (sent.symm.trans sent')
        exact full ret
  · left
    simp only [due, not_false_eq_true, if_true]
    exact ⟨trivial, rfl⟩

theorem ackLoop_ok (fuel : Nat) : ∀ {acked acked' : UInt32} {s t : OtaNode},
    (loop .unfinished (ackRound otaSize total) fuel acked).run s = .ok (.ok acked') t →
    ∃ k, Progress s t [] (List.replicate k (code .chunkOk)) [] ∧
      ∀ count, total.toNat < 2 ^ 31 →
        acked.toNat = 8192 * count → count ≤ acksDue otaSize.toNat total.toNat →
        acked'.toNat = 8192 * acksDue otaSize.toNat total.toNat ∧
          count + k = acksDue otaSize.toNat total.toNat := by
  induction fuel with
  | zero =>
    intro acked acked' s t run
    exact absurd run nofun
  | succ fuel ih =>
    intro acked acked' s t run
    rcases ackRound_cases otaSize total acked s with
      ⟨due, round⟩ | ⟨due, u, round, sent, -⟩ | ⟨due, ret, u, round, -⟩
    · rw [loop_done round] at run
      obtain ⟨same, rfl⟩ := EStateM.Result.ok.inj run
      obtain rfl := Except.ok.inj same
      refine ⟨0, Progress.refl s, ?_⟩
      intro count small counted bound
      rw [ackDue_iff small counted bound] at due
      omega
    · rw [loop_next round] at run
      obtain ⟨k, rest, exact'⟩ := ih run
      refine ⟨k + 1, ?_, ?_⟩
      · have whole := sent.trans rest
        rwa [List.singleton_append, ← List.replicate_succ] at whole
      · intro count small counted bound
        have more := (ackDue_iff small counted bound).mp due
        have step := acked_next small counted bound
        obtain ⟨final, sum⟩ := exact' (count + 1) small step more
        exact ⟨final, by omega⟩
    · rw [loop_done round] at run
      obtain ⟨bad, -⟩ := EStateM.Result.ok.inj run
      exact absurd bad nofun

theorem ackLoop_ends (small : total.toNat < 2 ^ 31) (fuel : Nat) {acked : UInt32} {count : Nat}
    {s : OtaNode} (counted : acked.toNat = 8192 * count)
    (bound : count ≤ acksDue otaSize.toNat total.toNat)
    (few : acksDue otaSize.toNat total.toNat - count < fuel) :
    ∃ r t, (loop .unfinished (ackRound otaSize total) fuel acked).run s = .ok r t ∧
      (Plain s → Plain t ∧ ∃ acked', r = .ok acked') := by
  apply loop_variant (I := fun acked t => (∃ count, acked.toNat = 8192 * count ∧
      count ≤ acksDue otaSize.toNat total.toNat) ∧ (Plain s → Plain t))
    (fun acked _ => acksDue otaSize.toNat total.toNat - acked.toNat / 8192) _ fuel acked s
    ⟨⟨count, counted, bound⟩, id⟩ (by omega)
  rintro acked t ⟨⟨count, counted, bound⟩, fine⟩
  rcases ackRound_cases otaSize total acked t with
    ⟨due, round⟩ | ⟨due, u, round, -, plain⟩ | ⟨due, ret, u, round, failed⟩
  · refine ⟨_, _, round, ?_⟩
    intro before
    exact ⟨fine before, acked, rfl⟩
  · have more := (ackDue_iff small counted bound).mp due
    have step := acked_next small counted bound
    refine ⟨_, _, round, ⟨⟨count + 1, step, more⟩, fun before => plain (fine before)⟩, ?_⟩
    omega
  · refine ⟨_, _, round, ?_⟩
    intro before
    exact absurd (fine before) failed

end Acks

theorem requestSize_toNat {otaSize total : UInt32} (inside : total.toNat ≤ otaSize.toNat) :
    (requestSize otaSize total).toNat = min 1024 (otaSize.toNat - total.toNat) := by
  have rest : (otaSize - total).toNat = otaSize.toNat - total.toNat :=
    UInt32.toNat_sub_of_le _ _ (UInt32.le_iff_toNat_le.mpr inside)
  unfold requestSize
  by_cases long : bufSize < otaSize - total
  · have := UInt32.lt_iff_toNat_lt.mp long
    simp only [bufSize, UInt32.reduceToNat] at this
    rw [if_pos long]
    simp only [bufSize, UInt32.reduceToNat]
    omega
  · have := mt UInt32.lt_iff_toNat_lt.mpr long
    simp only [bufSize, UInt32.reduceToNat] at this
    rw [if_neg long]
    omega

theorem toNat_total {otaSize total : UInt32} (inside : total.toNat ≤ otaSize.toNat) :
    (total + requestSize otaSize total).toNat =
      total.toNat + min 1024 (otaSize.toNat - total.toNat) := by
  rw [UInt32.toNat_add, requestSize_toNat inside, Nat.mod_eq_of_lt]
  have := otaSize.toNat_lt
  omega

theorem last_iff {otaSize total : UInt32} (inside : total.toNat ≤ otaSize.toNat) :
    otaSize - total ≤ bufSize ↔ otaSize.toNat ≤ total.toNat + 1024 := by
  have rest : (otaSize - total).toNat = otaSize.toNat - total.toNat :=
    UInt32.toNat_sub_of_le _ _ (UInt32.le_iff_toNat_le.mpr inside)
  rw [UInt32.le_iff_toNat_le, rest]
  simp only [bufSize, UInt32.reduceToNat]
  omega

theorem dataRound_asks {fuel : Nat} {otaSize : UInt32} {c : Counters}
    (more : c.total < otaSize) (s : OtaNode) :
    ∃ ret later, (final ((dataRound fuel otaSize c).run s)).events =
      s.events ++ .received (requestSize otaSize c.total).toNat ret :: later := by
  rw [dataRound_eq, if_neg (not_not_intro more)]
  obtain ⟨got, t, ret, early, run, asked⟩ :=
    readData_record (requestSize otaSize c.total).toNat s
  rw [run_bind_ok _ run]
  obtain ⟨late, grown, -⟩ := (finishRound_keeps usual_any.keeps fuel otaSize c got).final t
  refine ⟨ret, early ++ late, ?_⟩
  rw [grown, asked, List.append_assoc, List.cons_append]

section Rounds

variable {fuel : Nat} {otaSize : UInt32}

theorem dataRound_done {c : Counters} {s t : OtaNode}
    (h : (dataRound fuel otaSize c).run s = .ok (.inr none) t) :
    ¬ c.total < otaSize ∧ t = s := by
  unfold dataRound at h
  by_cases more : c.total < otaSize
  · simp only [more, not_true_eq_false, if_false] at h
    obtain ⟨⟨ret, buf⟩, u, _, h⟩ := run_bind_inv h
    by_cases full : ret = 0
    · simp only [full, ne_eq, not_true_eq_false, if_false] at h
      obtain ⟨ret, v, _, h⟩ := run_bind_inv h
      by_cases stored : ret = 0
      · simp only [stored, not_true_eq_false, if_false] at h
        obtain ⟨outcome, w, _, h⟩ := run_bind_inv h
        cases outcome with
        | error ret =>
          obtain ⟨bad, -⟩ := run_pure_inv h
          exact absurd bad nofun
        | ok acked =>
          obtain ⟨bad, -⟩ := run_pure_inv h
          exact absurd bad nofun
      · simp only [stored, not_false_eq_true, if_true] at h
        obtain ⟨bad, -⟩ := run_pure_inv h
        exact absurd bad nofun
    · simp only [full, ne_eq, not_false_eq_true, if_true] at h
      obtain ⟨bad, -⟩ := run_pure_inv h
      exact absurd bad nofun
  · simp only [more, not_false_eq_true, if_true] at h
    obtain ⟨-, rfl⟩ := run_pure_inv h
    exact ⟨more, rfl⟩

theorem dataRound_next {c c' : Counters} {s t : OtaNode}
    (h : (dataRound fuel otaSize c).run s = .ok (.inl c') t) :
    c.total < otaSize ∧ c'.total = c.total + requestSize otaSize c.total ∧
      t.flash.written.length ≤ s.flash.capacity ∧
      ∃ buf k, buf.length = (requestSize otaSize c.total).toNat ∧
        Progress s t buf (List.replicate k (code .chunkOk))
          [(buf, decide (otaSize - c.total ≤ bufSize))] ∧
        ∀ count, c'.total.toNat < 2 ^ 31 → c.sizeAcknowledged.toNat = 8192 * count →
          count ≤ acksDue otaSize.toNat c'.total.toNat →
          c'.sizeAcknowledged.toNat = 8192 * acksDue otaSize.toNat c'.total.toNat ∧
            count + k = acksDue otaSize.toNat c'.total.toNat := by
  unfold dataRound at h
  by_cases more : c.total < otaSize
  · simp only [more, not_true_eq_false, if_false] at h
    obtain ⟨⟨ret, buf⟩, u, read, h⟩ := run_bind_inv h
    by_cases full : ret = 0
    · subst full
      simp only [ne_eq, not_true_eq_false, if_false] at h
      obtain ⟨ret, v, wrote, h⟩ := run_bind_inv h
      by_cases stored : ret = 0
      · subst stored
        simp only [not_true_eq_false, if_false] at h
        obtain ⟨outcome, w, acks, h⟩ := run_bind_inv h
        cases outcome with
        | error ret =>
          obtain ⟨bad, -⟩ := run_pure_inv h
          exact absurd bad nofun
        | ok acked =>
          obtain ⟨same, rfl⟩ := run_pure_inv h
          obtain rfl := Sum.inl.inj same
          obtain ⟨length, received⟩ := readData_zero read
          obtain ⟨appended, room⟩ := write_zero wrote
          obtain ⟨k, acknowledged, counted⟩ := ackLoop_ok fuel acks
          refine ⟨more, rfl, ?_, buf, k, length, ?_, counted⟩
          · rw [acknowledged.written, received.capacity] at *
            simpa using room
          · simpa using (received.trans appended).trans acknowledged
      · simp only [stored, not_false_eq_true, if_true] at h
        obtain ⟨bad, -⟩ := run_pure_inv h
        exact absurd bad nofun
    · simp only [full, ne_eq, not_false_eq_true, if_true] at h
      obtain ⟨bad, -⟩ := run_pure_inv h
      exact absurd bad nofun
  · simp only [more, not_false_eq_true, if_true] at h
    obtain ⟨bad, -⟩ := run_pure_inv h
    exact absurd bad nofun

theorem store_plain {s u w : OtaNode} {size : Nat} {ret stored : Int} {buf : List UInt8}
    {flush : Bool} (read : (esphomeOtaReadData size).run s = .ok (ret, buf) u)
    (wrote : (flashImgBufferedWrite buf flush).run u = .ok stored w) (plain : Plain s)
    {buf' rest : List UInt8} (next : s.rx.incoming = buf' ++ rest) (length : buf'.length = size)
    (fits : s.flash.written.length + buf'.length ≤ s.flash.capacity) :
    ret = 0 ∧ stored = 0 ∧ Plain w := by
  obtain ⟨u', read', plain'⟩ := readData_plain plain next
  rw [length] at read'
  obtain ⟨pair, rfl⟩ := EStateM.Result.ok.inj (read.symm.trans read')
  obtain ⟨rfl, rfl⟩ := Prod.mk.inj pair
  obtain ⟨-, received⟩ := readData_zero read
  have room : u.flash.written.length + buf.length ≤ u.flash.capacity := by
    rw [received.written, received.capacity]
    simpa using fits
  obtain ⟨w', wrote', plain''⟩ := write_plain plain' buf room flush
  obtain ⟨rfl, rfl⟩ := EStateM.Result.ok.inj (wrote.symm.trans wrote')
  exact ⟨rfl, rfl, plain''⟩

theorem total_small {total : UInt32} {s w : OtaNode} {buf : List UInt8} {flush : Bool}
    (inside : total.toNat ≤ otaSize.toNat) (held : total.toNat ≤ s.flash.written.length)
    (small : otaSize.toNat < 2 ^ 31 ∨ s.flash.capacity < 2 ^ 31)
    (length : buf.length = (requestSize otaSize total).toNat)
    (progress : Progress s w buf [] [(buf, flush)])
    (room : w.flash.written.length ≤ s.flash.capacity) :
    (total + requestSize otaSize total).toNat < 2 ^ 31 := by
  have sum := toNat_total inside
  have size := requestSize_toNat inside
  have grown := congrArg List.length progress.written
  simp only [List.length_append, List.map_cons, List.map_nil, List.flatten_cons,
    List.flatten_nil, List.append_nil] at grown
  omega

theorem acks_end (ample : 2 ^ 19 ≤ fuel) {c : Counters} {w : OtaNode}
    (inside : c.total.toNat ≤ otaSize.toNat)
    (counted : c.sizeAcknowledged.toNat = 8192 * acksDue otaSize.toNat c.total.toNat)
    (bound : (c.total + requestSize otaSize c.total).toNat < 2 ^ 31) :
    ∃ outcome t, (loop .unfinished (ackRound otaSize (c.total + requestSize otaSize c.total)) fuel
        c.sizeAcknowledged).run w = .ok outcome t ∧
      (Plain w → Plain t ∧ ∃ acked, outcome = .ok acked) := by
  have sum := toNat_total inside
  have later : acksDue otaSize.toNat c.total.toNat ≤
      acksDue otaSize.toNat (c.total + requestSize otaSize c.total).toNat := by
    apply acksDue_mono
    · omega
    · omega
  have few : acksDue otaSize.toNat (c.total + requestSize otaSize c.total).toNat -
      acksDue otaSize.toNat c.total.toNat < fuel := by
    have limit := @acksDue_le otaSize.toNat (c.total + requestSize otaSize c.total).toNat
    omega
  exact ackLoop_ends bound fuel counted later few

theorem dataRound_ends (ample : 2 ^ 19 ≤ fuel) {c : Counters} {s : OtaNode}
    (inside : c.total.toNat ≤ otaSize.toNat)
    (counted : c.sizeAcknowledged.toNat = 8192 * acksDue otaSize.toNat c.total.toNat)
    (held : c.total.toNat ≤ s.flash.written.length)
    (small : otaSize.toNat < 2 ^ 31 ∨ s.flash.capacity < 2 ^ 31) :
    ∃ o t, (dataRound fuel otaSize c).run s = .ok o t ∧
      (Plain s → c.total < otaSize → ∀ buf rest, s.rx.incoming = buf ++ rest →
        buf.length = (requestSize otaSize c.total).toNat →
        s.flash.written.length + buf.length ≤ s.flash.capacity → Plain t ∧ ∃ c', o = .inl c') := by
  unfold dataRound
  by_cases more : c.total < otaSize
  · simp only [more, not_true_eq_false, if_false]
    obtain ⟨⟨ret, buf⟩, u, read⟩ :=
      returns_of_keeps (readData_keeps early_total (requestSize otaSize c.total).toNat) s
    obtain ⟨stored, w, wrote⟩ : ∃ stored w,
        (flashImgBufferedWrite buf (decide (otaSize - c.total ≤ bufSize))).run u = .ok stored w :=
      ⟨_, _, run_write buf _ u⟩
    rw [run_bind_ok _ read]
    by_cases full : ret = 0
    · subst full
      simp only [ne_eq, not_true_eq_false, if_false]
      rw [run_bind_ok _ wrote]
      by_cases zero : stored = 0
      · subst zero
        simp only [not_true_eq_false, if_false]
        obtain ⟨length, received⟩ := readData_zero read
        obtain ⟨appended, room⟩ := write_zero wrote
        have progress := received.trans appended
        rw [List.append_nil, List.append_nil, List.nil_append] at progress
        rw [received.capacity] at room
        have bound := total_small inside held small length progress room
        obtain ⟨outcome, t, acks, fine⟩ := acks_end ample inside counted bound
        rw [run_bind_ok _ acks]
        cases outcome with
        | error ret =>
          refine ⟨_, _, rfl, ?_⟩
          intro plain _ buf' rest next length' fits
          obtain ⟨-, -, plain'⟩ := store_plain read wrote plain next length' fits
          obtain ⟨-, acked, bad⟩ := fine plain'
          exact absurd bad nofun
        | ok acked =>
          refine ⟨_, _, rfl, ?_⟩
          intro plain _ buf' rest next length' fits
          obtain ⟨-, -, plain'⟩ := store_plain read wrote plain next length' fits
          exact ⟨(fine plain').1, _, rfl⟩
      · simp only [zero, not_false_eq_true, if_true]
        refine ⟨_, _, rfl, ?_⟩
        intro plain _ buf' rest next length' fits
        exact absurd (store_plain read wrote plain next length' fits).2.1 zero
    · simp only [full, ne_eq, not_false_eq_true, if_true]
      refine ⟨_, _, rfl, ?_⟩
      intro plain _ buf' rest next length' fits
      exact absurd (store_plain read wrote plain next length' fits).1 full
  · simp only [more, not_false_eq_true, if_true]
    refine ⟨_, _, rfl, ?_⟩
    intro _ below
    exact absurd below id

end Rounds

/-- Full buffers without `flush`, and then one last buffer with it. -/
structure IsChunking (chunks : List (List UInt8 × Bool)) : Prop where
  full : ∀ chunk ∈ chunks.dropLast, chunk.1.length = 1024 ∧ chunk.2 = false
  flushed : ∀ chunk ∈ chunks.getLast?, chunk.2 = true

structure Downloading (otaSize : UInt32) (s : OtaNode) (c : Counters) (t : OtaNode) : Prop where
  inside : c.total.toNat ≤ otaSize.toNat
  room : 0 < c.total.toNat → t.flash.written.length ≤ s.flash.capacity
  counted : c.total.toNat < 2 ^ 31 →
    c.sizeAcknowledged.toNat = 8192 * acksDue otaSize.toNat c.total.toNat
  moved : ∃ acks chunks,
    Progress s t (chunks.map Prod.fst).flatten (List.replicate acks (code .chunkOk)) chunks ∧
    (chunks.map Prod.fst).flatten.length = c.total.toNat ∧
    (c.total.toNat < 2 ^ 31 → acks = acksDue otaSize.toNat c.total.toNat) ∧
    (c.total.toNat < otaSize.toNat → ∀ chunk ∈ chunks, chunk.1.length = 1024 ∧ chunk.2 = false) ∧
    (c.total.toNat = otaSize.toNat → IsChunking chunks)

private theorem length_full {chunks : List (List UInt8 × Bool)}
    (full : ∀ chunk ∈ chunks, chunk.1.length = 1024 ∧ chunk.2 = false) :
    (chunks.map Prod.fst).flatten.length = 1024 * chunks.length := by
  induction chunks with
  | nil => rfl
  | cons chunk chunks ih =>
    have head := (full chunk List.mem_cons_self).1
    have tail := ih fun other member => full other (List.mem_cons_of_mem chunk member)
    simp only [List.map_cons, List.flatten_cons, List.length_append, List.length_cons, head, tail]
    omega

theorem Downloading.aligned {otaSize : UInt32} {s t : OtaNode} {c : Counters}
    (downloading : Downloading otaSize s c t) (more : c.total.toNat < otaSize.toNat) :
    c.total.toNat % 1024 = 0 := by
  obtain ⟨acks, chunks, -, size, -, full, -⟩ := downloading.moved
  rw [← size, length_full (full more)]
  omega

section Loop

variable {fuel : Nat} {otaSize : UInt32} {s : OtaNode}

theorem downloading_start : Downloading otaSize s ⟨0, 0⟩ s where
  inside := Nat.zero_le _
  room positive := absurd positive (Nat.lt_irrefl 0)
  counted _ := by
    have zero : acksDue otaSize.toNat 0 = 0 := by
      unfold acksDue
      split <;> omega
    exact zero.symm ▸ rfl
  moved := by
    refine ⟨0, [], Progress.refl s, rfl, ?_, ?_, ?_⟩
    · intro _
      have zero : acksDue otaSize.toNat 0 = 0 := by
        unfold acksDue
        split <;> omega
      exact zero.symm
    · intro _ chunk member
      exact absurd member List.not_mem_nil
    · intro _
      exact ⟨by simp, by simp⟩

theorem downloading_next {c c' : Counters} {t u : OtaNode} (before : Downloading otaSize s c t)
    (round : (dataRound fuel otaSize c).run t = .ok (.inl c') u) :
    Downloading otaSize s c' u := by
  obtain ⟨more, total, room, buf, k, length, progress, counted⟩ := dataRound_next round
  obtain ⟨acks, chunks, moved, size, same, full, -⟩ := before.moved
  have below : c.total.toNat < otaSize.toNat := UInt32.lt_iff_toNat_lt.mp more
  have sum : c'.total.toNat = c.total.toNat + min 1024 (otaSize.toNat - c.total.toNat) := by
    rw [total]
    exact toNat_total before.inside
  rw [requestSize_toNat before.inside] at length
  have last : otaSize - c.total ≤ bufSize ↔ c'.total.toNat = otaSize.toNat := by
    rw [last_iff before.inside]
    omega
  have inside : c'.total.toNat ≤ otaSize.toNat := by omega
  have later : acksDue otaSize.toNat c.total.toNat ≤ acksDue otaSize.toNat c'.total.toNat :=
    acksDue_mono (by omega) inside
  constructor
  · exact inside
  · intro _
    rw [← moved.capacity]
    exact room
  · intro small
    exact (counted _ small (before.counted (by omega)) later).1
  · refine ⟨acks + k, chunks ++ [(buf, decide (otaSize - c.total ≤ bufSize))], ?_, ?_, ?_, ?_, ?_⟩
    · have whole := moved.trans progress
      rw [List.replicate_append_replicate] at whole
      simpa using whole
    · simp [size, length, sum]
    · intro small
      rw [same (by omega)]
      exact (counted _ small (before.counted (by omega)) later).2
    · intro unfinished chunk member
      rcases List.mem_append.mp member with early | late
      · exact full below chunk early
      · obtain rfl := List.mem_singleton.mp late
        constructor
        · rw [length]
          omega
        · simp only [decide_eq_false_iff_not, last]
          omega
    · intro finished
      constructor
      · rw [List.dropLast_concat]
        exact full below
      · intro chunk member
        rw [List.getLast?_concat, Option.mem_some_iff] at member
        rw [← member]
        simp only [decide_eq_true_eq, last]
        exact finished

theorem rounds_downloading {c : Counters} {t : OtaNode}
    (rounds : Rounds (dataRound fuel otaSize) ⟨0, 0⟩ s c t) : Downloading otaSize s c t := by
  induction rounds with
  | start => exact downloading_start
  | next _ round ih => exact downloading_next ih round

theorem dataLoop_none {rounds : Nat} {t : OtaNode}
    (run : (loop .unfinished (dataRound fuel otaSize) rounds ⟨0, 0⟩).run s = .ok none t) :
    ∃ c, Downloading otaSize s c t ∧ c.total.toNat = otaSize.toNat := by
  obtain ⟨c, u, before, done⟩ := loop_ok_rounds .start run
  obtain ⟨finished, rfl⟩ := dataRound_done done
  have downloading := rounds_downloading before
  refine ⟨c, downloading, ?_⟩
  have := mt UInt32.lt_iff_toNat_lt.mpr finished
  have := downloading.inside
  omega

/-- The client still brings `body` for the rest of the image. -/
def Supplied (otaSize : UInt32) (c : Counters) (t : OtaNode) : Prop :=
  Plain t ∧ ∃ body rest, t.rx.incoming = body ++ rest ∧ c.total.toNat + body.length = otaSize.toNat

theorem supplied_next {c c' : Counters} {t u : OtaNode} (downloading : Downloading otaSize s c t)
    (supplied : Supplied otaSize c t) (plain : Plain u)
    (round : (dataRound fuel otaSize c).run t = .ok (.inl c') u) : Supplied otaSize c' u := by
  obtain ⟨-, body, rest, next, whole⟩ := supplied
  obtain ⟨-, total, -, buf, k, length, progress, -⟩ := dataRound_next round
  have sum : c'.total.toNat = c.total.toNat + min 1024 (otaSize.toNat - c.total.toNat) := by
    rw [total]
    exact toNat_total downloading.inside
  have ask := requestSize_toNat downloading.inside
  have split : body = buf ++ body.drop buf.length := by
    have heads := congrArg (List.take buf.length) (next.symm.trans progress.incoming)
    rw [List.take_left, List.take_append_of_le_length (by omega)] at heads
    conv => lhs; rw [← List.take_append_drop buf.length body, heads]
  have rest' : u.rx.incoming = body.drop buf.length ++ rest := by
    have tails := next.symm.trans progress.incoming
    rw [split, List.append_assoc] at tails
    exact (List.append_cancel_left tails).symm
  refine ⟨plain, body.drop buf.length, rest, rest', ?_⟩
  rw [List.length_drop]
  omega

theorem dataRound_supplied (ample : 2 ^ 19 ≤ fuel) (capacity : s.flash.capacity < 2 ^ 31)
    {c : Counters} {t : OtaNode} (downloading : Downloading otaSize s c t) :
    ∃ o u, (dataRound fuel otaSize c).run t = .ok o u ∧
      (Supplied otaSize c t → s.flash.written.length + otaSize.toNat ≤ s.flash.capacity →
        Plain u ∧ ∀ ret, o ≠ .inr (some ret)) := by
  obtain ⟨acks, chunks, moved, size, -, -, -⟩ := downloading.moved
  have held : t.flash.written.length = s.flash.written.length + c.total.toNat := by
    rw [moved.written, List.length_append, size]
  have small : c.total.toNat < 2 ^ 31 := by
    by_cases zero : c.total.toNat = 0
    · omega
    · have := downloading.room (by omega)
      omega
  obtain ⟨o, u, round, fine⟩ := dataRound_ends ample downloading.inside
    (downloading.counted small) (s := t) (by omega)
    (Or.inr (by rw [moved.capacity]; exact capacity))
  refine ⟨o, u, round, ?_⟩
  rintro ⟨plain, body, rest, next, whole⟩ fits
  by_cases more : c.total < otaSize
  · have below := UInt32.lt_iff_toNat_lt.mp more
    have ask := requestSize_toNat downloading.inside
    have part : body.take (requestSize otaSize c.total).toNat ++
        (body.drop (requestSize otaSize c.total).toNat ++ rest) = t.rx.incoming := by
      rw [← List.append_assoc, List.take_append_drop, next]
    have taken : (body.take (requestSize otaSize c.total).toNat).length =
        (requestSize otaSize c.total).toNat := by
      rw [List.length_take]
      omega
    obtain ⟨plain', c', rfl⟩ := fine plain more _ _ part.symm taken (by
      rw [taken, moved.capacity]
      omega)
    exact ⟨plain', nofun⟩
  · unfold dataRound at round
    simp only [more, not_false_eq_true, if_true] at round
    obtain ⟨rfl, rfl⟩ := run_pure_inv round
    exact ⟨plain, nofun⟩

theorem dataLoop_ends (ample : 2 ^ 19 ≤ fuel) (capacity : s.flash.capacity < 2 ^ 31)
    (rounds : Nat) (few : otaSize.toNat < rounds) :
    ∃ r u, (loop .unfinished (dataRound fuel otaSize) rounds ⟨0, 0⟩).run s = .ok r u ∧
      (Supplied otaSize ⟨0, 0⟩ s → s.flash.written.length + otaSize.toNat ≤ s.flash.capacity →
        r = none ∧ Plain u) := by
  apply loop_variant (I := fun c t => Downloading otaSize s c t ∧ (Supplied otaSize ⟨0, 0⟩ s →
      s.flash.written.length + otaSize.toNat ≤ s.flash.capacity → Supplied otaSize c t))
    (fun c _ => otaSize.toNat - c.total.toNat) _ rounds ⟨0, 0⟩ s
    ⟨downloading_start, fun supplied _ => supplied⟩ (by simpa using few)
  rintro c t ⟨downloading, supplied⟩
  obtain ⟨o, u, round, fine⟩ := dataRound_supplied ample capacity downloading
  refine ⟨o, u, round, ?_⟩
  cases o with
  | inr r =>
    intro start fits
    obtain ⟨plain, normal⟩ := fine (supplied start fits) fits
    cases r with
    | none => exact ⟨rfl, plain⟩
    | some ret => exact absurd rfl (normal ret)
  | inl c' =>
    obtain ⟨more, total, -⟩ := dataRound_next round
    have below := UInt32.lt_iff_toNat_lt.mp more
    have sum : c'.total.toNat = c.total.toNat + min 1024 (otaSize.toNat - c.total.toNat) := by
      rw [total]
      exact toNat_total downloading.inside
    refine ⟨⟨downloading_next downloading round, ?_⟩, by omega⟩
    intro start fits
    obtain ⟨plain, -⟩ := fine (supplied start fits) fits
    exact supplied_next downloading (supplied start fits) plain round

end Loop

end ZephyrEsphome.Ota.DataLoop
