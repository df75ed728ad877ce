/- Digest: Which clients that close their connection are released by the service. -/

import ZephyrEsphome.Rpc.Handling
import ZephyrEsphome.Rpc.Reading

set_option autoImplicit false
set_option relaxedAutoImplicit false

namespace ZephyrEsphome.Rpc.Release

open Api
open Kernel
open Library.Exec
open Handling Reading Writing

def Apart (s t : Node) : Prop :=
  t.rx = s.rx ∧ t.entities = s.entities ∧ t.socket = s.socket

instance isPreorder_apart : IsPreorder Node Apart where
  refl _ := ⟨rfl, rfl, rfl⟩
  trans _ _ _ := by
    rintro ⟨rx, entities, socket⟩ ⟨rx', entities', socket'⟩
    exact ⟨rx'.trans rx, entities'.trans entities, socket'.trans socket⟩

theorem apart_dispatch (pb : Protobuf) (msgId : UInt32) (data : List UInt8) :
    Keeps (.always Apart) (dispatch pb msgId data) := by
  apply keeps_dispatch
  intro type msg _
  apply keeps_callback
  · intro message
    exact keeps_packedWrite (fun _ _ => ⟨rfl, rfl, rfl⟩) (fun _ _ _ => ⟨rfl, rfl, rfl⟩)
      (fun _ _ _ => ⟨rfl, rfl, rfl⟩)
  · intro message
    exact keeps_emptyWrite fun _ _ => ⟨rfl, rfl, rfl⟩
  · intro dev
    exact keeps_device (fun _ _ _ => ⟨rfl, rfl, rfl⟩) (fun _ _ => ⟨rfl, rfl, rfl⟩)
      (fun _ _ => ⟨rfl, rfl, rfl⟩) (fun _ _ => ⟨rfl, rfl, rfl⟩) (fun _ _ => ⟨rfl, rfl, rfl⟩)
      (fun _ _ => ⟨rfl, rfl, rfl⟩)

theorem apart_of_run {pb : Protobuf} {msgId : UInt32} {data : List UInt8} {s t : Node} {ret : Int}
    (run : (dispatch pb msgId data).run s = .ok ret t) : Apart s t := by
  have kept := (apart_dispatch pb msgId data).final s
  rw [run] at kept
  exact kept

inductive Reached (pb : Protobuf) (s : Node) : Node → Prop
  | start : Reached pb s s
  | next {t taken u : Node} {msgId : UInt32} {payload rest : List UInt8}
      (before : Reached pb s t) (arrives : Arrives t msgId payload rest taken)
      (answered : (dispatch pb msgId payload).run taken = .ok 0 u) : Reached pb s u

/-- The handler of every message that arrives returns. -/
def HandlersReturn (pb : Protobuf) (s : Node) : Prop :=
  ∀ t msgId payload rest taken, Reached pb s t → Arrives t msgId payload rest taken →
    ∃ ret u, (dispatch pb msgId payload).run taken = .ok ret u

/-- The client closes after a whole frame, and every message it sent was answered with 0. -/
def Drained (pb : Protobuf) (s : Node) : Prop :=
  ∃ t, Reached pb s t ∧ t.rx.incoming = []

/-- With enough rounds the loop over the connection ends, and the last thing it did was to close the
socket. -/
def Released (pb : Protobuf) (s : Node) : Prop :=
  ∃ bound, ∀ fuel ≥ bound, ∃ t, (serveConnection pb fuel).run s = .ok () t ∧
    t.events.getLast? = some (.closed s.socket)

section Requests

variable {pb : Protobuf} {s t : Node}

theorem Arrives.taken_eq {msgId : UInt32} {payload rest : List UInt8} {taken : Node}
    (arrives : Arrives t msgId payload rest taken) :
    taken.rx.schedule = t.rx.schedule ∧ taken.rx.incoming = rest ∧
      taken.entities = t.entities ∧ taken.socket = t.socket := by
  obtain ⟨bytes, len, -, -, -, -, rfl⟩ := arrives
  exact ⟨rfl, rfl, rfl, rfl⟩

theorem Reached.same (reached : Reached pb s t) :
    t.rx.schedule = s.rx.schedule ∧ t.entities = s.entities ∧ t.socket = s.socket := by
  induction reached with
  | start => exact ⟨rfl, rfl, rfl⟩
  | next before arrives answered ih =>
    obtain ⟨schedule, -, entities, socket⟩ := Arrives.taken_eq arrives
    obtain ⟨rx', entities', socket'⟩ := apart_of_run answered
    obtain ⟨schedule₀, entities₀, socket₀⟩ := ih
    rw [rx', entities', socket', schedule, entities, socket]
    exact ⟨schedule₀, entities₀, socket₀⟩

theorem round_answered {taken : Node} {msgId : UInt32} {payload rest : List UInt8} {ret : Int}
    (plain : s.rx.schedule = []) (arrives : Arrives s msgId payload rest taken)
    (answered : (dispatch pb msgId payload).run taken = .ok ret t) (fuel : Nat) :
    (requestRound pb (fuel + 1) ()).run s = .ok (if ret = 0 then .inl () else .inr ret) t := by
  have request : (esphomeReadRequest pb (fuel + 1)).run s = .ok ret t := by
    rw [esphomeReadRequest, run_bind_ok _ (receiveMessage_arrives plain arrives fuel)]
    exact answered
  rw [requestRound, run_bind_ok _ request]
  by_cases zero : ret = 0
  · rw [if_pos zero, if_pos zero]
    rfl
  · rw [if_neg zero, if_neg zero]
    rfl

theorem round_ended (plain : s.rx.schedule = []) (ended : s.rx.incoming = []) (fuel : Nat) :
    ∃ t, (requestRound pb fuel ()).run s = .error .unfinished t := by
  refine ⟨{ s with rx := took s.rx [] fuel }, ?_⟩
  exact run_bind_error _ (run_bind_error _ (receiveMessage_end plain ended fuel))

theorem socket_receive (fuel : Nat) :
    Keeps (.always (Guarantee.Same Node.socket)) (receiveMessage fuel) :=
  keeps_receiveMessage (fun _ _ => rfl) (fun _ _ => rfl) (fun _ _ => rfl) fuel

theorem round_zero (s : Node) : ∃ t, (requestRound pb 0 ()).run s = .error .unfinished t :=
  ⟨s, rfl⟩

theorem spins_of_reached (plain : s.rx.schedule = []) (reached : Reached pb s t) (fuel : Nat)
    (spins : ∀ rounds, ∃ u,
      (loop .unfinished (requestRound pb fuel) rounds ()).run t = .error .unfinished u) :
    ∀ rounds, ∃ u,
      (loop .unfinished (requestRound pb fuel) rounds ()).run s = .error .unfinished u := by
  induction reached with
  | start => exact spins
  | next before arrives answered ih =>
    apply ih
    intro rounds
    cases rounds with
    | zero => exact ⟨_, rfl⟩
    | succ rounds =>
      cases fuel with
      | zero =>
        obtain ⟨u, stop⟩ := @round_zero pb _
        exact ⟨u, loop_stop stop rounds⟩
      | succ fuel =>
        have round := round_answered (before.same.1.trans plain) arrives answered fuel
        rw [if_pos rfl] at round
        rw [loop_next round]
        exact spins rounds

theorem drained_spins (plain : s.rx.schedule = []) (drained : Drained pb s) (fuel : Nat) :
    ∃ t, (serveConnection pb fuel).run s = .error .unfinished t := by
  obtain ⟨t, reached, ended⟩ := drained
  have spins : ∀ rounds, ∃ u,
      (loop .unfinished (requestRound pb fuel) rounds ()).run t = .error .unfinished u := by
    intro rounds
    cases rounds with
    | zero => exact ⟨t, rfl⟩
    | succ rounds =>
      obtain ⟨u, stop⟩ := @round_ended pb _ (reached.same.1.trans plain) ended fuel
      exact ⟨u, loop_stop stop rounds⟩
  obtain ⟨u, stop⟩ := spins_of_reached plain reached fuel spins fuel
  exact ⟨u, run_bind_error _ stop⟩

theorem loop_leaves (plain : s.rx.schedule = []) (handlers : HandlersReturn pb s)
    (open_ : ¬ Drained pb s) (fuel rounds : Nat) (enough : s.rx.incoming.length < rounds) :
    ∃ ret u, (loop .unfinished (requestRound pb (fuel + 1)) rounds ()).run s = .ok ret u ∧
      u.socket = s.socket := by
  apply loop_variant (I := fun _ t => Reached pb s t) (fun _ t => t.rx.incoming.length) _ rounds ()
    s .start enough
  intro _ t reached
  have plain' := reached.same.1.trans plain
  have more : t.rx.incoming ≠ [] := fun ended => open_ ⟨t, reached, ended⟩
  rcases receiveMessage_cases plain' more fuel with
    ⟨msgId, payload, rest, taken, arrives⟩ | ⟨e, u, nonzero, run⟩
  · obtain ⟨ret, u, answered⟩ := handlers t msgId payload rest taken reached arrives
    refine ⟨_, u, round_answered plain' arrives answered fuel, ?_⟩
    obtain ⟨-, left, -, socket⟩ := Arrives.taken_eq arrives
    obtain ⟨rx, -, socket'⟩ := apart_of_run answered
    by_cases zero : ret = 0
    · subst zero
      have shorter := arrives.three_le
      rw [if_pos rfl]
      refine ⟨reached.next arrives answered, ?_⟩
      rw [rx, left]
      omega
    · rw [if_neg zero]
      exact (socket'.trans socket).trans reached.same.2.2
  · have request : (esphomeReadRequest pb (fuel + 1)).run t = .ok e u := run_bind_ok _ run
    refine ⟨.inr e, u, ?_, ?_⟩
    · rw [requestRound, run_bind_ok _ request, if_neg nonzero]
      rfl
    · have kept := (socket_receive (fuel + 1)).final t
      rw [run] at kept
      exact Eq.trans kept reached.same.2.2

/-- A closed connection is released exactly when the client did not drain it. -/
theorem released_iff (closes : s.rx.schedule = []) (handlers : HandlersReturn pb s) :
    Released pb s ↔ ¬ Drained pb s := by
  constructor
  · rintro ⟨bound, released⟩ drained
    obtain ⟨t, run, -⟩ := released bound (Nat.le_refl bound)
    obtain ⟨u, spins⟩ := drained_spins closes drained bound
    rw [run] at spins
    exact absurd spins nofun
  · intro undrained
    refine ⟨s.rx.incoming.length + 1, ?_⟩
    intro fuel enough
    obtain ⟨rounds, rfl⟩ := Nat.exists_eq_add_of_lt (Nat.lt_of_lt_of_le (Nat.succ_pos _) enough)
    rw [Nat.zero_add] at enough ⊢
    obtain ⟨ret, u, run, socket⟩ :=
      loop_leaves closes handlers undrained rounds (rounds + 1) enough
    refine ⟨{ u with events := u.events ++ [.closed u.socket] }, run_bind_ok _ run, ?_⟩
    rw [← socket]
    exact List.getLast?_concat

end Requests

theorem total_pack {pb : Protobuf} {message : Outgoing}
    (small : (frameOf message (pb.pack message)).length < 2 ^ 32) :
    Keeps (Guarantee.total Node) (pack pb message) := by
  constructor
  intro s
  by_cases refuses : s.heap.Refuses
  · rw [pack, packedWrite_refused _ _ _ refuses]
    trivial
  · rw [pack, packedWrite_sends _ _ _ refuses small]
    trivial

theorem total_emptyWrite (message : Outgoing) :
    Keeps (Guarantee.total Node) (emptyWrite message) :=
  keeps_emptyWrite fun _ _ => trivial

theorem handlers_return_bare {pb : Protobuf} {s : Node} (bare : s.entities = [])
    (small : ∀ message, (frameOf message (pb.pack message)).length < 2 ^ 32) :
    HandlersReturn pb s := by
  intro t msgId payload rest taken reached arrives
  have none : taken.entities = [] := by
    rw [(Arrives.taken_eq arrives).2.2.1, reached.same.2.1, bare]
  have callbacks : ∀ type msg, ∃ ret u, (callback pb type msg).run taken = .ok ret u := by
    intro type msg
    by_cases uses : UsesRegistry type
    · cases uses with
      | list =>
        have listed : (callback pb .listEntitiesRequest msg).run taken =
            listEntitiesDoneResponseWrite.run taken := by
          show (listEntitiesRequestCb pb).run taken = _
          rw [listEntitiesRequestCb, run_bind_ok _ (run_get taken), none]
          rfl
        rw [listed]
        exact ⟨0, _, emptyWrite_sends _ _⟩
      | switch =>
        exact ⟨-enodev, taken, switchCommand_absent pb taken msg (by rw [none]; rfl)⟩
      | button =>
        exact ⟨-enodev, taken, buttonCommand_absent taken msg (by rw [none]; rfl)⟩
    · exact returns_of_keeps (keeps_answering (fun message _ => total_pack (small message))
        (fun message _ => total_emptyWrite message) type msg uses) taken
  rcases dispatch_cases pb msgId payload with same | ⟨type, -, same | ⟨msg, -, same⟩⟩
  · exact ⟨_, taken, by rw [same]; rfl⟩
  · rw [same, readMessage, run_bind_ok _ (run_get taken)]
    cases pb.unpack type payload taken.heap with
    | none => exact ⟨-eio, taken, rfl⟩
    | some msg => exact callbacks type msg
  · rw [same]
    exact callbacks type msg

def silent : Protobuf where
  unpack := fun _ _ _ => none
  pack := fun _ => ⟨[], Nat.two_pow_pos 32⟩

theorem silent_small (message : Outgoing) :
    (frameOf message (silent.pack message)).length < 2 ^ 32 := by
  have short := @length_header_le message.rpcId 0 (by decide)
  show (header message.rpcId 0 ++ []).length < 2 ^ 32
  rw [List.append_nil]
  omega

def pingedAndCut : Node := freshNode none [] (frame 7 [] ++ [0])

theorem released_iff_cut :
    HandlersReturn silent pingedAndCut ∧ Released silent pingedAndCut := by
  have handlers : HandlersReturn silent pingedAndCut := handlers_return_bare rfl silent_small
  refine ⟨handlers, (released_iff rfl handlers).mpr ?_⟩
  intro drained
  obtain ⟨u, spins⟩ := drained_spins rfl drained 3
  have leaves : returned ((serveConnection silent 3).run pingedAndCut) = true := by decide +kernel
  rw [spins] at leaves
  exact absurd leaves Bool.false_ne_true

/-- A client that connects and closes without sending anything is never released. -/
theorem silent_client_spins :
    ¬ ∀ (pb : Protobuf) (s : Node), s.rx.schedule = [] → HandlersReturn pb s → Released pb s := by
  intro always
  have drained : Drained silent (freshNode none [] []) := ⟨_, .start, rfl⟩
  obtain ⟨bound, released⟩ := always silent (freshNode none [] []) rfl
    (handlers_return_bare rfl silent_small)
  obtain ⟨t, run, -⟩ := released bound (Nat.le_refl bound)
  obtain ⟨u, spins⟩ := drained_spins rfl drained bound
  rw [run] at spins
  exact absurd spins nofun

end ZephyrEsphome.Rpc.Release
