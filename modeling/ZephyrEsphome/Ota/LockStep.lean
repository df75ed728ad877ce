/- Digest: The data loop against a client that waits for an acknowledgement after each block. -/

import ZephyrEsphome.Ota.DataLoop
import Mathlib.Logic.Relation
import Mathlib.Tactic.Common

set_option autoImplicit false
set_option relaxedAutoImplicit false

namespace ZephyrEsphome.Ota.LockStep

open Kernel
open Library.Exec
open OtaResponseTypes (code)
open Session DataLoop

section Asks

variable {fuel : Nat} {otaSize : UInt32} {s t : OtaNode} {c : Counters}

theorem ask_bounds (more : c.total < otaSize)
    (downloading : Downloading otaSize s c t) :
    c.total.toNat + (requestSize otaSize c.total).toNat ≤
        8192 * acksDue otaSize.toNat c.total.toNat + 8192 ∧
      c.total.toNat + (requestSize otaSize c.total).toNat ≤ otaSize.toNat := by
  have below := UInt32.lt_iff_toNat_lt.mp more
  have aligned := downloading.aligned below
  rw [requestSize_toNat downloading.inside]
  unfold acksDue
  split <;> omega

end Asks

structure Joint where
  node : OtaNode
  counters : Counters
  /-- The blocks the client has not sent yet. -/
  holding : List (List UInt8)
  /-- The client waits for the acknowledgement of the last block it sent. -/
  awaiting : Bool
  /-- How many of the bytes from the server the client has read. -/
  heard : Nat

def feed (node : OtaNode) (bytes : List UInt8) : OtaNode :=
  { node with rx := { node.rx with incoming := node.rx.incoming ++ bytes } }

inductive Step (fuel : Nat) (otaSize : UInt32) : Joint → Joint → Prop
  /-- The client sends its next block. -/
  | block (node : OtaNode) (counters : Counters) (block : List UInt8)
      (holding : List (List UInt8)) (heard : Nat) :
      Step fuel otaSize ⟨node, counters, block :: holding, false, heard⟩
        ⟨feed node block, counters, holding, true, heard⟩
  /-- The client reads the acknowledgement it waits for. -/
  | acknowledge (node : OtaNode) (counters : Counters) (holding : List (List UInt8))
      (heard : Nat) (there : node.tx.accepted[heard]? = some (code .chunkOk)) :
      Step fuel otaSize ⟨node, counters, holding, true, heard⟩
        ⟨node, counters, holding, false, heard + 1⟩
  /-- The server makes a round; its receive call waits until all bytes it asks for are there. -/
  | round (node node' : OtaNode) (counters counters' : Counters) (holding : List (List UInt8))
      (awaiting : Bool) (heard : Nat)
      (there : (requestSize otaSize counters.total).toNat ≤ node.rx.incoming.length)
      (run : (dataRound fuel otaSize counters).run node = .ok (.inl counters') node') :
      Step fuel otaSize ⟨node, counters, holding, awaiting, heard⟩
        ⟨node', counters', holding, awaiting, heard⟩

/-- The data loop is over, and the client has sent everything and waits for nothing. -/
structure Finished (otaSize : UInt32) (j : Joint) : Prop where
  received : j.counters.total = otaSize
  sent : j.holding = []
  idle : j.awaiting = false

/-- The client's blocks make up the image, all of 8192 bytes but the last, which may be shorter. -/
structure IsBlocks (otaSize : UInt32) (blocks : List (List UInt8)) : Prop where
  whole : ∀ block ∈ blocks.dropLast, block.length = 8192
  last : ∀ block ∈ blocks.getLast?, 0 < block.length ∧ block.length ≤ 8192
  total : blocks.flatten.length = otaSize.toNat

/-- The server at the start of its data loop with nothing of the image arrived yet. -/
structure Ready (otaSize : UInt32) (node : OtaNode) : Prop where
  plain : Plain node
  quiet : node.rx.incoming = []
  room : node.flash.written.length + otaSize.toNat ≤ node.flash.capacity

def begin (node : OtaNode) (blocks : List (List UInt8)) : Joint :=
  ⟨node, ⟨0, 0⟩, blocks, false, node.tx.accepted.length⟩

section Blocks

variable {otaSize : UInt32} {blocks sent holding : List (List UInt8)}

private theorem length_whole {sent : List (List UInt8)}
    (whole : ∀ block ∈ sent, block.length = 8192) :
    sent.flatten.length = 8192 * sent.length := by
  induction sent with
  | nil => rfl
  | cons block sent ih =>
    have head := whole block List.mem_cons_self
    have tail := ih fun other member => whole other (List.mem_cons_of_mem block member)
    simp only [List.flatten_cons, List.length_append, List.length_cons, head, tail]
    omega

theorem IsBlocks.count (h : IsBlocks otaSize blocks) :
    blocks.length = (otaSize.toNat + 8191) / 8192 := by
  rw [← h.total]
  rcases List.eq_nil_or_concat blocks with rfl | ⟨front, last, rfl⟩
  · rfl
  · rw [List.concat_eq_append] at h ⊢
    have whole := h.whole
    rw [List.dropLast_concat] at whole
    obtain ⟨positive, bound⟩ := h.last last (by simp)
    have length := length_whole whole
    simp only [List.flatten_append, List.flatten_cons, List.flatten_nil, List.append_nil,
      List.length_append, List.length_singleton, length]
    omega

theorem IsBlocks.sent_whole (h : IsBlocks otaSize (sent ++ holding)) (more : holding ≠ []) :
    sent.flatten.length = 8192 * sent.length := by
  apply length_whole
  intro block member
  apply h.whole
  rw [List.dropLast_append_of_ne_nil more]
  exact List.mem_append_left _ member

end Blocks

theorem feed_feed (node : OtaNode) (early late : List UInt8) :
    feed (feed node early) late = feed node (early ++ late) := by
  simp [feed, List.append_assoc]

theorem downloading_feed {otaSize : UInt32} {s t : OtaNode} {c : Counters}
    (h : Downloading otaSize s c t) (bytes : List UInt8) :
    Downloading otaSize (feed s bytes) c (feed t bytes) := by
  obtain ⟨acks, chunks, moved, rest⟩ := h.moved
  refine ⟨h.inside, h.room, h.counted, acks, chunks, ?_, rest⟩
  refine ⟨?_, moved.written, moved.capacity, moved.accepted, moved.events⟩
  simp only [feed]
  rw [moved.incoming, List.append_assoc]

structure Synchronous (otaSize : UInt32) (start : OtaNode) (blocks : List (List UInt8))
    (j : Joint) : Prop where
  plain : Plain j.node
  placed : ∃ sent answered, blocks = sent ++ j.holding ∧
    Downloading otaSize (feed start sent.flatten) j.counters j.node ∧
    sent.length = answered + (if j.awaiting then 1 else 0) ∧
    j.heard = start.tx.accepted.length + answered ∧
    answered ≤ acksDue otaSize.toNat j.counters.total.toNat

section System

variable {fuel : Nat} {otaSize : UInt32} {start : OtaNode} {blocks : List (List UInt8)}

theorem synchronous_begin (ready : Ready otaSize start) :
    Synchronous otaSize start blocks (begin start blocks) := by
  refine ⟨ready.plain, [], 0, rfl, ?_, rfl, rfl, Nat.zero_le _⟩
  have same : feed start ([] : List (List UInt8)).flatten = start := by
    simp [feed]
  rw [same]
  exact downloading_start

theorem round_ready (ample : 2 ^ 19 ≤ fuel) (small : otaSize.toNat < 2 ^ 31)
    (room : start.flash.written.length + otaSize.toNat ≤ start.flash.capacity)
    {node : OtaNode} {c : Counters} {arrived : List UInt8} (plain : Plain node)
    (downloading : Downloading otaSize (feed start arrived) c node)
    (more : c.total < otaSize)
    (there : (requestSize otaSize c.total).toNat ≤ node.rx.incoming.length) :
    ∃ c' node', (dataRound fuel otaSize c).run node = .ok (.inl c') node' ∧ Plain node' := by
  obtain ⟨acks, chunks, moved, size, -, -, -⟩ := downloading.moved
  have below := UInt32.lt_iff_toNat_lt.mp more
  have ask := requestSize_toNat downloading.inside
  have held : node.flash.written.length = start.flash.written.length + c.total.toNat := by
    rw [moved.written, List.length_append, size]
    rfl
  have capacity : node.flash.capacity = start.flash.capacity := moved.capacity
  obtain ⟨o, node', run, fine⟩ := dataRound_ends ample (s := node) downloading.inside
    (downloading.counted (by omega)) (by omega) (Or.inl small)
  have taken : (node.rx.incoming.take (requestSize otaSize c.total).toNat).length =
      (requestSize otaSize c.total).toNat := by
    rw [List.length_take]
    omega
  obtain ⟨plain', c', rfl⟩ := fine plain more _ _ (List.take_append_drop _ _).symm taken (by
    rw [taken]
    omega)
  exact ⟨c', node', run, plain'⟩

theorem synchronous_step (ample : 2 ^ 19 ≤ fuel) (small : otaSize.toNat < 2 ^ 31)
    (ready : Ready otaSize start) {j j' : Joint} (inv : Synchronous otaSize start blocks j)
    (step : Step fuel otaSize j j') : Synchronous otaSize start blocks j' := by
  obtain ⟨plain, sent, answered, split, downloading, count, heard, bound⟩ := inv
  cases step with
  | block node counters block holding heard' =>
    refine ⟨⟨plain.receives, plain.sends, plain.writes⟩, sent ++ [block], answered, ?_, ?_, ?_,
      heard, bound⟩
    · rw [split, List.append_assoc, List.singleton_append]
    · have fed := downloading_feed downloading block
      rw [feed_feed] at fed
      simpa using fed
    · simp only [Bool.false_eq_true, if_false] at count
      simp [count]
  | acknowledge node counters holding heard' there =>
    dsimp only at downloading count heard bound
    have acks : answered + 1 ≤ acksDue otaSize.toNat counters.total.toNat := by
      obtain ⟨acks, chunks, moved, -, exact', -, -⟩ := downloading.moved
      have inside := downloading.inside
      have total : acks = acksDue otaSize.toNat counters.total.toNat := exact' (by omega)
      have position : heard' < node.tx.accepted.length := (List.getElem?_eq_some_iff.mp there).1
      have length := congrArg List.length moved.accepted
      rw [List.length_append, List.length_replicate] at length
      have same : (feed start sent.flatten).tx.accepted = start.tx.accepted := rfl
      rw [same] at length
      omega
    refine ⟨plain, sent, answered + 1, split, downloading, ?_, ?_, acks⟩
    · simpa using count
    · simp only at heard ⊢
      omega
  | round node node' counters counters' holding awaiting heard' there run =>
    dsimp only at plain split downloading count heard bound
    obtain ⟨more, -, -, -⟩ := dataRound_next run
    obtain ⟨c', after, run', plain'⟩ :=
      round_ready ample small ready.room plain downloading more there
    obtain ⟨same, rfl⟩ := EStateM.Result.ok.inj (run.symm.trans run')
    have next := downloading_next downloading run
    refine ⟨plain', sent, answered, split, next, count, heard, ?_⟩
    have later : counters.total.toNat ≤ counters'.total.toNat := by
      obtain ⟨-, total, -, -⟩ := dataRound_next run
      rw [total, toNat_total downloading.inside]
      omega
    exact Nat.le_trans bound (acksDue_mono later next.inside)

theorem synchronous_run (ample : 2 ^ 19 ≤ fuel) (small : otaSize.toNat < 2 ^ 31)
    (ready : Ready otaSize start) {j : Joint}
    (run : Relation.ReflTransGen (Step fuel otaSize) (begin start blocks) j) :
    Synchronous otaSize start blocks j := by
  induction run with
  | refl => exact synchronous_begin ready
  | tail _ step ih => exact synchronous_step ample small ready ih step

private theorem arrived_length {node : OtaNode} {c : Counters} {sent : List UInt8}
    (ready : Ready otaSize start) (downloading : Downloading otaSize (feed start sent) c node) :
    sent.length = c.total.toNat + node.rx.incoming.length := by
  obtain ⟨acks, chunks, moved, size, -⟩ := downloading.moved
  have split := congrArg List.length moved.incoming
  simp only [feed, ready.quiet, List.nil_append, List.length_append, size] at split
  exact split

theorem client_free (small : otaSize.toNat < 2 ^ 31) (ready : Ready otaSize start)
    (isBlocks : IsBlocks otaSize blocks) {j : Joint} (inv : Synchronous otaSize start blocks j)
    (short : j.counters.total = otaSize ∨
      j.node.rx.incoming.length < (requestSize otaSize j.counters.total).toNat)
    (awaiting : j.awaiting = true) :
    j.node.tx.accepted[j.heard]? = some (code .chunkOk) := by
  obtain ⟨-, sent, answered, rfl, downloading, count, heard, bound⟩ := inv
  rw [awaiting, if_pos rfl] at count
  have inside := downloading.inside
  have arrived := arrived_length ready downloading
  have more : answered < acksDue otaSize.toNat j.counters.total.toNat := by
    have blocks := isBlocks.count
    rw [List.length_append] at blocks
    rcases short with finished | short
    · rw [finished]
      unfold acksDue
      rw [if_pos rfl]
      omega
    · by_contra none
      -- All acknowledgements are taken, so the block on its way holds what is asked for.
      have ask := requestSize_toNat inside
      have below : j.counters.total.toNat < otaSize.toNat := by omega
      have aligned := downloading.aligned below
      have same : answered = j.counters.total.toNat / 8192 := by
        have due : acksDue otaSize.toNat j.counters.total.toNat =
            j.counters.total.toNat / 8192 := if_neg (by omega)
        omega
      by_cases last : j.holding = []
      · have total := isBlocks.total
        rw [last, List.append_nil] at total
        omega
      · have whole := isBlocks.sent_whole last
        omega
  obtain ⟨acks, chunks, moved, -, exact', -, -⟩ := downloading.moved
  have total : acks = acksDue otaSize.toNat j.counters.total.toNat := exact' (by omega)
  have answers : j.node.tx.accepted =
      start.tx.accepted ++ List.replicate acks (code .chunkOk) := moved.accepted
  rw [answers, heard, List.getElem?_append_right (Nat.le_add_right _ _), Nat.add_sub_cancel_left,
    List.getElem?_replicate, if_pos (by omega)]

theorem never_stuck (ample : 2 ^ 19 ≤ fuel) (small : otaSize.toNat < 2 ^ 31)
    (ready : Ready otaSize start) (isBlocks : IsBlocks otaSize blocks) {j : Joint}
    (inv : Synchronous otaSize start blocks j) :
    Finished otaSize j ∨ ∃ j', Step fuel otaSize j j' := by
  by_cases there : j.counters.total < otaSize ∧
      (requestSize otaSize j.counters.total).toNat ≤ j.node.rx.incoming.length
  · right
    obtain ⟨plain, sent, answered, -, downloading, -, -, -⟩ := inv
    obtain ⟨c', node', run, -⟩ :=
      round_ready ample small ready.room plain downloading there.1 there.2
    exact ⟨_, Step.round j.node node' j.counters c' j.holding j.awaiting j.heard there.2 run⟩
  · have short : j.counters.total = otaSize ∨
        j.node.rx.incoming.length < (requestSize otaSize j.counters.total).toNat := by
      obtain ⟨-, sent, answered, -, downloading, -, -, -⟩ := inv
      have inside := downloading.inside
      by_cases more : j.counters.total < otaSize
      · right
        have := mt (And.intro more) there
        omega
      · left
        have := mt UInt32.lt_iff_toNat_lt.mpr more
        apply UInt32.toNat_inj.mp
        omega
    have free := client_free small ready isBlocks inv short
    obtain ⟨node, counters, holding, awaiting, heard⟩ := j
    cases awaiting with
    | true =>
      right
      exact ⟨_, Step.acknowledge node counters holding heard (free rfl)⟩
    | false =>
      cases holding with
      | cons block holding =>
        right
        exact ⟨_, Step.block node counters block holding heard⟩
      | nil =>
        left
        rcases short with finished | short
        · exact ⟨finished, rfl, rfl⟩
        · -- Everything was sent, so nothing that is asked for can be missing.
          obtain ⟨-, sent, answered, rfl, downloading, -, -, -⟩ := inv
          have arrived := arrived_length ready downloading
          have total := isBlocks.total
          have ask := requestSize_toNat downloading.inside
          rw [List.append_nil] at total
          dsimp only at short arrived ask
          omega

def pending (otaSize : UInt32) (j : Joint) : Nat :=
  2 * j.holding.length + (if j.awaiting then 1 else 0) +
    (otaSize.toNat - j.counters.total.toNat)

theorem pending_step {j j' : Joint} (inv : Synchronous otaSize start blocks j)
    (step : Step fuel otaSize j j') : pending otaSize j' < pending otaSize j := by
  cases step with
  | block node counters block holding heard =>
    simp only [pending, List.length_cons, if_true, Bool.false_eq_true, if_false]
    omega
  | acknowledge node counters holding heard there =>
    simp only [pending, Bool.false_eq_true, if_false, if_true]
    omega
  | round node node' counters counters' holding awaiting heard there run =>
    obtain ⟨more, total, -, -⟩ := dataRound_next run
    obtain ⟨-, sent, answered, -, downloading, -, -, -⟩ := inv
    have inside : counters.total.toNat ≤ otaSize.toNat := downloading.inside
    have below := UInt32.lt_iff_toNat_lt.mp more
    simp only [pending]
    rw [total, toNat_total inside]
    omega

theorem finished_acks (small : otaSize.toNat < 2 ^ 31) (isBlocks : IsBlocks otaSize blocks)
    {j : Joint} (inv : Synchronous otaSize start blocks j) (finished : Finished otaSize j) :
    j.node.tx.accepted =
        start.tx.accepted ++ List.replicate blocks.length (code .chunkOk) ∧
      j.heard = j.node.tx.accepted.length := by
  obtain ⟨-, sent, answered, rfl, downloading, count, heard, bound⟩ := inv
  obtain ⟨acks, chunks, moved, -, exact', -, -⟩ := downloading.moved
  have total : acks = acksDue otaSize.toNat j.counters.total.toNat :=
    exact' (by rw [finished.received]; exact small)
  have blocks := isBlocks.count
  rw [finished.sent, List.append_nil] at blocks ⊢
  rw [finished.idle] at count
  simp only [Bool.false_eq_true, if_false] at count
  have due : acksDue otaSize.toNat j.counters.total.toNat = (otaSize.toNat + 8191) / 8192 := by
    rw [finished.received]
    exact if_pos rfl
  have same : acks = sent.length := by omega
  have answers : j.node.tx.accepted =
      start.tx.accepted ++ List.replicate acks (code .chunkOk) := moved.accepted
  rw [same] at answers
  refine ⟨answers, ?_⟩
  rw [answers, List.length_append, List.length_replicate]
  omega

end System

/-- Every ask of the data loop stays within the block after the acknowledged ones, the number of
acknowledgements is exact after every round, and a client whose blocks are whole but for the last
is never left waiting and gets one acknowledgement for each block. -/
theorem lock_step {fuel : Nat} {otaSize : UInt32} (ample : 2 ^ 19 ≤ fuel)
    (small : otaSize.toNat < 2 ^ 31) :
    (∀ start c node, Rounds (dataRound fuel otaSize) ⟨0, 0⟩ start c node →
      node.tx.accepted = start.tx.accepted ++ List.replicate
        (if c.total = otaSize then (otaSize.toNat + 8191) / 8192 else c.total.toNat / 8192)
        (code .chunkOk) ∧
      (c.total < otaSize → ∃ asked,
        (∃ ret later, (final ((dataRound fuel otaSize c).run node)).events =
          node.events ++ .received asked ret :: later) ∧
        c.total.toNat + asked ≤ 8192 * (c.total.toNat / 8192) + 8192 ∧
        c.total.toNat + asked ≤ otaSize.toNat)) ∧
    ∀ start blocks, Ready otaSize start → IsBlocks otaSize blocks → ∀ j,
      Relation.ReflTransGen (Step fuel otaSize) (begin start blocks) j →
      (Finished otaSize j ∨ ∃ j', Step fuel otaSize j j') ∧
      (∀ j', Step fuel otaSize j j' → pending otaSize j' < pending otaSize j) ∧
      (j.node.rx.incoming.length < (requestSize otaSize j.counters.total).toNat →
        j.awaiting = true → j.node.tx.accepted[j.heard]? = some (code .chunkOk)) ∧
      (Finished otaSize j →
        j.node.tx.accepted =
            start.tx.accepted ++ List.replicate blocks.length (code .chunkOk) ∧
          j.heard = j.node.tx.accepted.length) := by
  constructor
  · intro start c node rounds
    have downloading := rounds_downloading rounds
    obtain ⟨acks, chunks, moved, -, exact', -, -⟩ := downloading.moved
    have inside := downloading.inside
    have total : acks = acksDue otaSize.toNat c.total.toNat := exact' (by omega)
    constructor
    · rw [moved.accepted, total]
      unfold acksDue
      simp only [UInt32.toNat_inj]
    · intro more
      obtain ⟨block, image⟩ := ask_bounds more downloading
      have below := UInt32.lt_iff_toNat_lt.mp more
      have due : acksDue otaSize.toNat c.total.toNat = c.total.toNat / 8192 :=
        if_neg (by omega)
      rw [due] at block
      exact ⟨_, dataRound_asks more node, block, image⟩
  · intro start blocks ready isBlocks j run
    have inv := synchronous_run ample small ready run
    refine ⟨never_stuck ample small ready isBlocks inv, ?_, ?_, ?_⟩
    · intro j' step
      exact pending_step inv step
    · intro short awaiting
      exact client_free small ready isBlocks inv (Or.inr short) awaiting
    · intro finished
      exact finished_acks small isBlocks inv finished

def atLoop : OtaNode where
  rx := ⟨[], [], 3, fun _ => 0⟩
  tx := ⟨[0x00, 0x02, 0x40, 0x41, 0x42, 0x43], []⟩
  flash := ⟨65536, [], []⟩
  bootOutcomes := []
  events := []

theorem ready_atLoop {otaSize : UInt32} (h : otaSize.toNat ≤ 65536) : Ready otaSize atLoop where
  plain := ⟨rfl, rfl, rfl⟩
  quiet := rfl
  room := by simpa [atLoop] using h

theorem lock_step_two :
    Ready 8193 atLoop ∧ IsBlocks 8193 [List.replicate 8192 7, [8]] ∧
      ∀ j, Relation.ReflTransGen (Step (2 ^ 19) 8193)
          (begin atLoop [List.replicate 8192 7, [8]]) j →
        Finished 8193 j ∨ ∃ j', Step (2 ^ 19) 8193 j j' := by
  have ready : Ready 8193 atLoop := ready_atLoop (by decide)
  have blocks : IsBlocks 8193 [List.replicate 8192 7, [8]] := by
    refine ⟨?_, ?_, ?_⟩
    · intro block member
      obtain rfl := List.mem_singleton.mp member
      exact List.length_replicate
    · intro block member
      obtain rfl := Option.mem_some_iff.mp member
      decide
    · rw [List.flatten_cons, List.length_append, List.length_replicate]
      rfl
  refine ⟨ready, blocks, ?_⟩
  intro j run
  exact ((lock_step (Nat.le_refl (2 ^ 19)) (by decide)).2 atLoop _ ready blocks j run).1

/-- Two blocks of one byte: the server waits for both bytes, the client for an acknowledgement. -/
theorem short_blocks_deadlock :
    ¬ ∀ (fuel : Nat) (otaSize : UInt32) (start : OtaNode) (blocks : List (List UInt8)),
      2 ^ 19 ≤ fuel → otaSize.toNat < 2 ^ 31 → Ready otaSize start →
      (∀ block ∈ blocks, 0 < block.length ∧ block.length ≤ 8192) →
      blocks.flatten.length = otaSize.toNat →
      ∀ j, Relation.ReflTransGen (Step fuel otaSize) (begin start blocks) j →
        Finished otaSize j ∨ ∃ j', Step fuel otaSize j j' := by
  intro never
  have sent : Step (2 ^ 19) 2 (begin atLoop [[7], [8]]) _ :=
    Step.block atLoop ⟨0, 0⟩ [7] [[8]] 6
  have stuck := never (2 ^ 19) 2 atLoop [[7], [8]] (Nat.le_refl _) (by decide)
    (ready_atLoop (by decide)) (by decide) rfl _ (Relation.ReflTransGen.single sent)
  rcases stuck with finished | ⟨j', step⟩
  · exact absurd finished.sent (by simp)
  · cases step with
    | acknowledge _ _ _ _ there => exact absurd there (by decide)
    | round _ _ _ _ _ _ _ there _ => exact absurd there (by decide)

end ZephyrEsphome.Ota.LockStep
