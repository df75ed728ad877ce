/- Digest: Several threads that send messages on one connection at the same time. -/

import ZephyrEsphome.Library.Transition
import ZephyrEsphome.Rpc.Wire

set_option autoImplicit false
set_option relaxedAutoImplicit false

namespace ZephyrEsphome.Rpc.Writers

open Kernel
open Library.Exec
open Library.Resources (Owned acquire next_not_mem owned_start)
open Library.Stream
open Library.Transition
open Conversation RoundTrip Wire Writing
open Varint (storesAt)

inductive Position
  | start (call : WriteCall)
  /-- The frame is in its block. -/
  | transmit (message : Outgoing) (out : List UInt8) (len : Nat) (block : Block)
  | release (block : Block) (ret : Int)

def Position.block : Position → Option Block
  | .start _ => none
  | .transmit _ _ _ block => some block
  | .release block _ => some block

def writeStep : Position → Exec Node (Position ⊕ Int)
  | .start (.packed message payload) => do
    let len := UInt32.ofNat payload.bytes.length
    let hdrLen := UInt32.ofNat (esphomeHeaderSize message.rpcId len.toUInt64)
    match ← kMalloc (len + hdrLen).toNat with
    | none => return .inr (-enomem)
    | some block =>
      let out := uninitialised (← get).heap (len + hdrLen).toNat
      let header := (esphomeEncodeHeader message.rpcId len.toUInt64 0).2
      match storeAll out (header ++ storesAt (some hdrLen.toNat) 0 payload.bytes) with
      | none => throw .undefined
      | some out => return .inl (.transmit message out (len + hdrLen).toNat block)
  | .start (.empty message) => do
    let ret ← emptyWrite message
    return .inr ret
  | .transmit message out len block => do
    let ret ← esphomeRpcSend message out len
    return .inl (.release block ret)
  | .release block ret => do
    kFree block
    return .inr ret

theorem write_steps (call : WriteCall) :
    loop .unfinished writeStep 3 (.start call) = call.run := by
  cases call with
  | empty message =>
    rw [loop, writeStep, bind_assoc]
    exact bind_pure _
  | packed message payload =>
    rw [loop, writeStep, bind_assoc, WriteCall.run, packedWrite]
    apply bind_congr
    rintro (_ | block)
    · rfl
    · dsimp only
      rw [bind_assoc]
      apply bind_congr
      intro node
      generalize storeAll _ _ = stored
      cases stored with
      | none => rfl
      | some out => rfl

inductive Moves (s : Node) : Position → Position ⊕ Int → Node → Prop
  | refused {message : Outgoing} {payload : Payload} {heap : Heap}
      (same : heap.outstanding = s.heap.outstanding) :
      Moves s (.start (.packed message payload)) (.inr (-enomem)) { s with heap := heap }
  | allocated {message : Outgoing} {payload : Payload} {size : Nat} {out : List UInt8} {heap : Heap}
      (filled : out.take size = frameOf message payload)
      (grown : heap.outstanding = insert (s.heap.ledger.next, size) s.heap.outstanding) :
      Moves s (.start (.packed message payload))
        (.inl (.transmit message out size (s.heap.ledger.next, size))) { s with heap := heap }
  | bare {message : Outgoing} :
      Moves s (.start (.empty message)) (.inr 0) (sending message s (frame message.rpcId []))
  | sent {message : Outgoing} {out : List UInt8} {len : Nat} {block : Block} :
      Moves s (.transmit message out len block) (.inl (.release block 0))
        (sending message s (out.take len))
  | freed {block : Block} {ret : Int} :
      Moves s (.release block ret) (.inr ret) { s with heap := s.heap.kFree block }

theorem start_eq (message : Outgoing) (payload : Payload) :
    writeStep (.start (.packed message payload)) =
      filling message payload (pure (.inr (-enomem))) fun out len block =>
        pure (.inl (.transmit message out len block)) := rfl

theorem moves_of_run {s t : Node} {position : Position} {outcome : Position ⊕ Int}
    (run : (writeStep position).run s = .ok outcome t) : Moves s position outcome t := by
  cases position with
  | start call =>
    cases call with
    | packed message payload =>
      rw [start_eq] at run
      by_cases refuses : s.heap.Refuses
      · rw [filling_refused message payload s _ _ refuses] at run
        obtain ⟨rfl, rfl⟩ := run_pure_inv run
        exact .refused rfl
      · by_cases fits : (frameOf message payload).length < 2 ^ 32
        · rw [filling_fits message payload s _ _ refuses fits] at run
          obtain ⟨rfl, rfl⟩ := run_pure_inv run
          apply Moves.allocated
          · exact List.take_length
          · rw [Heap.kMalloc, if_neg refuses]
            rfl
        · rw [filling_wraps message payload s _ _ refuses (Nat.le_of_not_lt fits)] at run
          cases run
    | empty message =>
      rw [writeStep, run_bind_ok _ (emptyWrite_sends message s)] at run
      obtain ⟨rfl, rfl⟩ := EStateM.Result.ok.inj run
      exact .bare
  | transmit message out len block =>
    obtain ⟨rfl, rfl⟩ := EStateM.Result.ok.inj run
    exact .sent
  | release block ret =>
    obtain ⟨rfl, rfl⟩ := EStateM.Result.ok.inj run
    exact .freed

structure System (Tid : Type) where
  node : Node
  threads : Tid → Option Position

inductive Move (Tid : Type)
  /-- The thread calls a Write function. -/
  | call (tid : Tid) (call : WriteCall)
  /-- The thread takes the next step of its call. -/
  | advance (tid : Tid)

section Threads

variable {Tid : Type} [DecidableEq Tid]

def step (s : System Tid) : Move Tid → Option (System Tid)
  | .call tid call =>
    match s.threads tid with
    | none => some { s with threads := Function.update s.threads tid (some (.start call)) }
    | some _ => none
  | .advance tid =>
    match s.threads tid with
    | none => none
    | some position =>
      match (writeStep position).run s.node with
      | .ok outcome node =>
        some { node := node, threads := Function.update s.threads tid outcome.getLeft? }
      | .error _ _ => none

def System.holds (s : System Tid) (tid : Tid) : Option Block := (s.threads tid).bind Position.block

inductive Happens (s : System Tid) : System Tid → Prop
  | called {tid : Tid} {call : WriteCall} (outside : s.threads tid = none) :
      Happens s { s with threads := Function.update s.threads tid (some (.start call)) }
  | advanced {tid : Tid} {position : Position} {outcome : Position ⊕ Int} {node : Node}
      (here : s.threads tid = some position) (moves : Moves s.node position outcome node) :
      Happens s { node := node, threads := Function.update s.threads tid outcome.getLeft? }

theorem happens_of_step {s t : System Tid} {move : Move Tid} (taken : step s move = some t) :
    Happens s t := by
  cases move with
  | call tid call =>
    cases here : s.threads tid with
    | none =>
      rw [step, here] at taken
      obtain rfl := Option.some.inj taken
      exact .called here
    | some position =>
      rw [step, here] at taken
      cases taken
  | advance tid =>
    cases here : s.threads tid with
    | none =>
      rw [step, here] at taken
      cases taken
    | some position =>
      rw [step, here] at taken
      dsimp only at taken
      cases run : (writeStep position).run s.node with
      | ok outcome node =>
        rw [run] at taken
        obtain rfl := Option.some.inj taken
        exact .advanced here (moves_of_run run)
      | error e node =>
        rw [run] at taken
        cases taken

def Prepared (s : System Tid) : Prop :=
  ∀ tid message out len block, s.threads tid = some (.transmit message out len block) →
    ∃ payload : Payload, out.take len = frameOf message payload

theorem update_inv {threads : Tid → Option Position} {tid other : Tid} {next : Option Position}
    {position : Position} (here : Function.update threads tid next other = some position) :
    next = some position ∨ threads other = some position := by
  by_cases same : other = tid
  · rw [same, Function.update_self] at here
    exact Or.inl here
  · rw [Function.update_of_ne same] at here
    exact Or.inr here

theorem prepared_step {start : Node} (s : System Tid) (move : Move Tid) (t : System Tid)
    (inv : Carries start s.node ∧ Prepared s) (taken : step s move = some t) :
    Carries start t.node ∧ Prepared t := by
  obtain ⟨carries, prepared⟩ := inv
  cases happens_of_step taken with
  | called outside =>
    refine ⟨carries, ?_⟩
    intro tid message out len block here
    rcases update_inv here with new | old
    · cases new
    · exact prepared tid message out len block old
  | @advanced tid position outcome node here moves =>
    constructor
    · apply trans_of Carries carries
      cases moves with
      | refused => exact carries_same rfl rfl
      | allocated => exact carries_same rfl rfl
      | @bare message => exact @carries_sending _ _ message [] (Nat.two_pow_pos 32) rfl rfl
      | @sent message out len block =>
        obtain ⟨payload, whole⟩ := prepared tid message out len block here
        rw [whole]
        exact carries_sending payload.length_lt rfl rfl
      | freed => exact carries_same rfl rfl
    · intro other message out len block there
      rcases update_inv there with new | old
      · cases moves with
        | refused => cases new
        | @allocated _ payload _ _ _ filled =>
          cases new
          exact ⟨payload, filled⟩
        | bare => cases new
        | sent => cases new
        | freed => cases new
      · exact prepared other message out len block old

/-- However many threads call Write functions, and wherever one interrupts another: what the peer
reads are just the messages that were sent, each of them whole, in the order of the sends. -/
theorem frames_stay_whole {start : System Tid} (outside : ∀ tid, start.threads tid = none)
    (plain : start.node.tx.schedule = []) (untouched : start.node.tx.accepted = [])
    (moves : List (Move Tid)) :
    Throughout step moves start fun s => PeerReads start.node s.node := by
  have prepared : Prepared start := by
    intro tid message out len block here
    rw [outside tid] at here
    cases here
  have inv := @throughout_of_step _ _ step _ prepared_step start
    ⟨refl_of Carries start.node, prepared⟩ moves
  exact inv.imp step fun _ both => peerReads_of_carries plain untouched both.1

def quiet : System Bool where
  node := freshNode none [] []
  threads := fun _ => none

def interrupted : List (Move Bool) :=
  [.call false (.packed (.other 25) ⟨[1, 2], by decide⟩), .advance false,
    .call true (.empty .pingResponse), .advance true, .advance false, .advance false]

theorem frames_stay_whole_interrupted :
    Throughout step interrupted quiet fun s => PeerReads quiet.node s.node :=
  frames_stay_whole (fun _ => rfl) rfl rfl interrupted

abbrev blocks (s : System Tid) : Finset Block := s.node.heap.outstanding

theorem holds_update (s : System Tid) (node : Node) (tid : Tid) (next : Option Position) :
    System.holds { node := node, threads := Function.update s.threads tid next } =
      Function.update s.holds tid (next.bind Position.block) := by
  funext other
  show (Function.update s.threads tid next other).bind Position.block = _
  by_cases same : other = tid
  · rw [same, Function.update_self, Function.update_self]
  · rw [Function.update_of_ne same, Function.update_of_ne same]
    rfl

theorem owned_step {base : Finset Block} (s : System Tid) (move : Move Tid) (t : System Tid)
    (owned : Owned base (blocks s) s.holds) (taken : step s move = some t) :
    Owned base (blocks t) t.holds := by
  have unchanged : ∀ {tid held}, s.holds tid = held →
      Owned base (blocks s) (Function.update s.holds tid held) := by
    intro tid held here
    rw [← here, Function.update_eq_self]
    exact owned
  cases happens_of_step taken with
  | @called tid call outside =>
    rw [holds_update]
    exact unchanged (by rw [System.holds, outside]; rfl)
  | @advanced tid position outcome node here moves =>
    have holds : s.holds tid = position.block := by rw [System.holds, here]; rfl
    rw [holds_update]
    cases moves with
    | refused same =>
      show Owned base (Heap.outstanding _) _
      rw [same]
      exact unchanged holds
    | allocated filled grown =>
      show Owned base (Heap.outstanding _) _
      rw [grown]
      exact owned.take holds (next_not_mem s.node.heap.ledger _)
    | bare => exact unchanged holds
    | sent => exact unchanged holds
    | freed => exact owned.give holds

/-- What the ledger says of the blocks in any state: each thread in a call has its own block, which is
still allocated, and when no thread is in a call just the blocks of the start are allocated. -/
structure Accounted (start s : System Tid) : Prop where
  own : ∀ tid block, s.holds tid = some block →
    block ∈ blocks s ∧ block ∉ blocks start ∧ ∀ other, s.holds other = some block → other = tid
  balanced : (∀ tid, s.threads tid = none) → blocks s = blocks start

/-- However the calls of the threads interrupt each other, no block is freed twice or used after it
was freed, and none is left behind. -/
theorem blocks_come_back {start : System Tid} (outside : ∀ tid, start.threads tid = none)
    (moves : List (Move Tid)) : Throughout step moves start (Accounted start) := by
  have empty : ∀ s : System Tid, (∀ tid, s.threads tid = none) → ∀ tid, s.holds tid = none := by
    intro s outside tid
    rw [System.holds, outside tid]
    rfl
  have owned := throughout_of_step step (@owned_step _ _ (blocks start))
    (owned_start (empty start outside)) moves
  refine owned.imp step fun s owned => ?_
  constructor
  · intro tid block here
    obtain ⟨member, new⟩ := owned.held tid block here
    exact ⟨member, new, fun other there => owned.apart other tid block there here⟩
  · intro returned
    exact owned.rest (empty s returned)

theorem blocks_come_back_interrupted : Throughout step interrupted quiet (Accounted quiet) :=
  blocks_come_back (fun _ => rfl) interrupted

end Threads

end ZephyrEsphome.Rpc.Writers
