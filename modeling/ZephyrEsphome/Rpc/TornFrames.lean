/- Digest: What the socket has accepted after Write calls that all returned 0. -/

import ZephyrEsphome.Library.Stream
import ZephyrEsphome.Rpc.Writing

set_option autoImplicit false
set_option relaxedAutoImplicit false

namespace ZephyrEsphome.Rpc.TornFrames

open Kernel
open Library.Exec
open Library.Stream
open Writing

def TakesWhole (buf : List UInt8) : Option Acceptance → Prop
  | none => True
  | some (.upTo count) => buf.length ≤ count
  | some (.failure _) => False

def SendsWhole : List Acceptance → List (List UInt8) → Prop
  | _, [] => True
  | schedule, frame :: frames => TakesWhole frame schedule.head? ∧ SendsWhole schedule.tail frames

def sendAll (tx : Transmitter) (frames : List (List UInt8)) : Transmitter :=
  frames.foldl (fun tx frame => (tx.zsockSend frame).2) tx

theorem schedule_zsockSend (tx : Transmitter) (buf : List UInt8) :
    (tx.zsockSend buf).2.schedule = tx.schedule.tail := by
  rcases tx with ⟨accepted, _ | ⟨count | reason, later⟩⟩
  · rfl
  · rfl
  · rfl

theorem accepted_zsockSend (tx : Transmitter) {buf : List UInt8} (nonempty : buf ≠ []) :
    ∃ taken, (tx.zsockSend buf).2.accepted = tx.accepted ++ taken ∧
      (TakesWhole buf tx.schedule.head? → taken = buf) ∧
      (¬ TakesWhole buf tx.schedule.head? → taken.length < buf.length) := by
  have positive := List.length_pos_iff.mpr nonempty
  rcases tx with ⟨accepted, _ | ⟨count | reason, later⟩⟩
  · exact ⟨buf, rfl, fun _ => rfl, fun not => absurd trivial not⟩
  · refine ⟨buf.take count, rfl, ?_, ?_⟩
    · intro whole
      exact List.take_of_length_le whole
    · intro cut
      have short : count < buf.length := Nat.lt_of_not_le cut
      rw [List.length_take]
      omega
  · exact ⟨[], (List.append_nil _).symm, False.elim, fun _ => positive⟩

theorem accepted_sendAll (frames : List (List UInt8)) : ∀ tx : Transmitter,
    (∀ frame ∈ frames, frame ≠ []) →
    ∃ taken, (sendAll tx frames).accepted = tx.accepted ++ taken ∧
      (SendsWhole tx.schedule frames → taken = frames.flatten) ∧
      (¬ SendsWhole tx.schedule frames → taken.length < frames.flatten.length) := by
  induction frames with
  | nil =>
    intro tx _
    exact ⟨[], (List.append_nil _).symm, fun _ => rfl, fun not => absurd trivial not⟩
  | cons frame frames ih =>
    intro tx nonempty
    obtain ⟨first, grown, whole, cut⟩ :=
      accepted_zsockSend tx (nonempty frame List.mem_cons_self)
    obtain ⟨rest, grown', whole', cut'⟩ := ih (tx.zsockSend frame).2
      (fun later member => nonempty later (List.mem_cons_of_mem frame member))
    rw [schedule_zsockSend] at whole' cut'
    refine ⟨first ++ rest, ?_, ?_, ?_⟩
    · rw [← List.append_assoc, ← grown]
      exact grown'
    · rintro ⟨here, later⟩
      rw [whole here, whole' later, List.flatten_cons]
    · intro torn
      rw [List.flatten_cons, List.length_append, List.length_append]
      by_cases here : TakesWhole frame tx.schedule.head?
      · have later : ¬ SendsWhole tx.schedule.tail frames := fun later => torn ⟨here, later⟩
        have := cut' later
        rw [whole here]
        omega
      · have := cut here
        by_cases later : SendsWhole tx.schedule.tail frames
        · rw [whole' later]
          omega
        · have := cut' later
          omega

theorem accepted_frames_iff (tx : Transmitter) {frames : List (List UInt8)}
    (nonempty : ∀ frame ∈ frames, frame ≠ []) :
    (sendAll tx frames).accepted = tx.accepted ++ frames.flatten ↔
      SendsWhole tx.schedule frames := by
  obtain ⟨taken, grown, whole, cut⟩ := accepted_sendAll frames tx nonempty
  rw [grown]
  constructor
  · intro same
    by_contra torn
    have short := cut torn
    rw [List.append_cancel_left same] at short
    exact Nat.lt_irrefl _ short
  · intro sends
    rw [whole sends]

/-- The frame is longer than the address space. -/
def Oversized (call : WriteCall) : Prop := 2 ^ 32 ≤ call.frame.length

def allocates : WriteCall → Bool
  | .packed _ _ => true
  | .empty _ => false

theorem frame_ne_nil (call : WriteCall) : call.frame ≠ [] :=
  List.cons_ne_nil _ _

theorem empty_not_oversized (message : Outgoing) : ¬ Oversized (.empty message) := by
  have short := @length_header_le message.rpcId 0 (by decide)
  show ¬ 2 ^ 32 ≤ (header message.rpcId 0 ++ []).length
  rw [List.append_nil]
  omega

def refusalsAfter (call : WriteCall) (refusals : List Bool) : List Bool :=
  if allocates call then refusals.tail else refusals

theorem call_sends {call : WriteCall} {s : Node} (fits : ¬ Oversized call)
    (granted : allocates call = true → ¬ s.heap.Refuses) :
    ∃ t, call.run.run s = .ok 0 t ∧ t.tx = (s.tx.zsockSend call.frame).2 ∧
      t.heap.refusals = refusalsAfter call s.heap.refusals := by
  cases call with
  | packed message payload =>
    have free := granted rfl
    refine ⟨_, packedWrite_sends message payload s free (Nat.lt_of_not_le fits), rfl, ?_⟩
    show Heap.refusals (s.heap.kMalloc _).2 = _
    rw [Heap.kMalloc, if_neg free]
    rfl
  | empty message => exact ⟨_, emptyWrite_sends message s, rfl, rfl⟩

theorem call_zero {call : WriteCall} {s t : Node} (run : call.run.run s = .ok 0 t) :
    ¬ Oversized call ∧ (allocates call = true → ¬ s.heap.Refuses) := by
  cases call with
  | packed message payload =>
    have run : (packedWrite message payload).run s = .ok 0 t := run
    by_cases refused : s.heap.Refuses
    · rw [packedWrite_refused message payload s refused] at run
      obtain ⟨bad, -⟩ := EStateM.Result.ok.inj run
      exact absurd bad (by decide)
    · refine ⟨?_, fun _ => refused⟩
      intro wraps
      rw [packedWrite_wraps message payload s refused wraps] at run
      exact absurd run nofun
  | empty message => exact ⟨empty_not_oversized message, nofun⟩

/-- None of the calls is refused its block. -/
def Granted (refusals : List Bool) (calls : List WriteCall) : Prop :=
  true ∉ refusals.take (calls.countP allocates)

theorem granted_cons (refusals : List Bool) (call : WriteCall) (calls : List WriteCall) :
    Granted refusals (call :: calls) ↔
      (allocates call = true → refusals.head? ≠ some true) ∧
        Granted (refusalsAfter call refusals) calls := by
  unfold Granted refusalsAfter
  cases asks : allocates call with
  | false =>
    rw [List.countP_cons_of_neg (by rw [asks]; exact Bool.false_ne_true)]
    simp
  | true =>
    rw [List.countP_cons_of_pos asks]
    cases refusals with
    | nil => simp
    | cons first later =>
      rw [List.take_succ_cons]
      cases first with
      | false => simp
      | true => simp

theorem calls_send (calls : List WriteCall) : ∀ s : Node,
    (∀ call ∈ calls, ¬ Oversized call) → Granted s.heap.refusals calls →
    ∃ t, (inOrder (calls.map WriteCall.run)).run s = .ok (calls.map fun _ => 0) t ∧
      t.tx = sendAll s.tx (calls.map WriteCall.frame) := by
  induction calls with
  | nil =>
    intro s _ _
    exact ⟨s, rfl, rfl⟩
  | cons call calls ih =>
    intro s fits granted
    obtain ⟨here, later⟩ := (granted_cons _ call calls).mp granted
    obtain ⟨t, first, tx, refusals⟩ := call_sends (fits call List.mem_cons_self) here
    rw [← refusals] at later
    obtain ⟨u, others, tx'⟩ := ih t
      (fun other member => fits other (List.mem_cons_of_mem call member)) later
    refine ⟨u, ?_, ?_⟩
    · rw [List.map_cons, run_inOrder_cons first, run_bind_ok _ others]
      rfl
    · rw [tx', tx]
      rfl

theorem calls_zero (calls : List WriteCall) : ∀ {s t : Node} {rets : List Int},
    (inOrder (calls.map WriteCall.run)).run s = .ok rets t → (∀ ret ∈ rets, ret = 0) →
    (∀ call ∈ calls, ¬ Oversized call) ∧ Granted s.heap.refusals calls := by
  induction calls with
  | nil =>
    intro s t rets _ _
    exact ⟨nofun, by simp [Granted]⟩
  | cons call calls ih =>
    intro s u rets run zero
    obtain ⟨ret, t, rest, first, others, rfl⟩ := run_inOrder_inv run
    obtain rfl := zero ret List.mem_cons_self
    obtain ⟨fits, granted⟩ := call_zero first
    obtain ⟨t', again, -, refusals⟩ := call_sends fits granted
    obtain ⟨-, rfl⟩ := EStateM.Result.ok.inj (first.symm.trans again)
    obtain ⟨fits', granted'⟩ :=
      ih others (fun other member => zero other (List.mem_cons_of_mem 0 member))
    rw [refusals] at granted'
    refine ⟨?_, (granted_cons _ call calls).mpr ⟨granted, granted'⟩⟩
    intro other member
    rcases List.mem_cons.mp member with rfl | later
    · exact fits
    · exact fits' other later

/-- If all calls returned 0, the socket has accepted just their frames. -/
def NoTornFrames (calls : List WriteCall) (s : Node) : Prop :=
  ∀ rets t, (inOrder (calls.map WriteCall.run)).run s = .ok rets t → (∀ ret ∈ rets, ret = 0) →
    t.tx.accepted = s.tx.accepted ++ (calls.map WriteCall.frame).flatten

/-- No frame is torn exactly when one of the calls cannot return 0, or each frame is taken whole. -/
theorem no_torn_frames_iff (calls : List WriteCall) (s : Node) :
    NoTornFrames calls s ↔
      (∃ call ∈ calls, Oversized call) ∨ ¬ Granted s.heap.refusals calls ∨
        SendsWhole s.tx.schedule (calls.map WriteCall.frame) := by
  have nonempty : ∀ frame ∈ calls.map WriteCall.frame, frame ≠ [] := by
    intro frame member
    obtain ⟨call, -, rfl⟩ := List.mem_map.mp member
    exact frame_ne_nil call
  have accepted := accepted_frames_iff s.tx nonempty
  constructor
  · intro holds
    by_cases oversized : ∃ call ∈ calls, Oversized call
    · exact Or.inl oversized
    · by_cases granted : Granted s.heap.refusals calls
      · right
        right
        obtain ⟨t, run, tx⟩ := calls_send calls s
          (fun call member wraps => oversized ⟨call, member, wraps⟩) granted
        have whole := holds _ t run (by simp)
        rw [tx] at whole
        exact accepted.mp whole
      · exact Or.inr (Or.inl granted)
  · intro condition rets t run zero
    obtain ⟨fits, granted⟩ := calls_zero calls run zero
    obtain ⟨t', again, tx⟩ := calls_send calls s fits granted
    obtain ⟨-, rfl⟩ := EStateM.Result.ok.inj (run.symm.trans again)
    rcases condition with ⟨call, member, wraps⟩ | refused | whole
    · exact absurd wraps (fits call member)
    · exact absurd granted refused
    · rw [tx]
      exact accepted.mpr whole

def shortSend : Node :=
  { freshNode none [] [] with tx := { accepted := [], schedule := [.upTo 1] } }

/-- Two pings are answered, and the answer to the first one is cut after its first byte. -/
theorem torn_ping : ¬ ∀ (calls : List WriteCall) (s : Node), NoTornFrames calls s := by
  intro never
  have fits : ∀ call ∈ [WriteCall.empty .pingResponse, .empty .pingResponse], ¬ Oversized call := by
    intro call member
    rcases List.mem_cons.mp member with rfl | later
    · exact empty_not_oversized .pingResponse
    · obtain rfl := List.mem_singleton.mp later
      exact empty_not_oversized .pingResponse
  obtain ⟨t, run, tx⟩ := calls_send _ shortSend fits (by simp [Granted, shortSend, freshNode])
  have accepted := never _ shortSend _ t run (by simp)
  rw [tx] at accepted
  have whole := (accepted_frames_iff shortSend.tx (by
    intro frame member
    obtain ⟨call, -, rfl⟩ := List.mem_map.mp member
    exact frame_ne_nil call)).mp accepted
  have short : (frame 8 []).length ≤ 1 := whole.1
  have length := Library.Base128.length_encode_pos 0
  simp only [frame, header, List.length_append, List.length_cons, List.length_nil] at short
  omega

end ZephyrEsphome.Rpc.TornFrames
