/- Digest: What is left of a conversation when allocations are refused.

   A refused allocation costs the message whose payload it was for, or one reply. What a client is
   told is then a part of what it would have been told otherwise, in the same order, and the devices
   are where the messages that were handled have put them. -/

import ZephyrEsphome.Api.Server

set_option autoImplicit false
set_option relaxedAutoImplicit false

namespace ZephyrEsphome.Api.Pressure

open Kernel
open Library.Exec
open Library.Framing
open Rpc
open Rpc.Conversation
open Server

structure Told (pb : Protobuf) (s t : Node) (sent : List Outgoing) : Prop where
  config : t.config = s.config
  entities : t.entities = s.entities
  socket : t.socket = s.socket
  accepted : t.tx.accepted = s.tx.accepted ++ sent.flatMap (wire pb)
  sound : Sound t

theorem told_of_replied {pb : Protobuf} {s t : Node} {sent : List Outgoing}
    (replied : Replied pb s t sent) : Told pb s t sent :=
  { replied with }

/-- The unpackers look at the payload alone, or fail for want of memory. -/
def UnpacksOrFails (pb : Protobuf) (unpack : Unpacker) : Prop :=
  ∀ type data heap, pb.unpack type data heap = unpack type data ∨ pb.unpack type data heap = none

def Skips (pb : Protobuf) (s : Node) (r : EStateM.Result Stop Node Int) : Prop :=
  ∃ ret t, r = .ok ret t ∧ ret ≠ 0 ∧ Replied pb s t [] ∧ panelOf t = panelOf s

/-- After so many messages these replies were sent, some of those to these messages, and the devices
are where these messages have put them. -/
structure After (pb : Protobuf) (unpack : Unpacker) (s : Node) (messages : List Message) (t : Node)
    (sent : List Outgoing) : Prop where
  told : Told pb s t sent
  spoken : ∃ e, converse unpack s.config s.entities (panelOf s) messages = some e ∧
    sent.Sublist e.replies ∧ panelOf t = e.panel

section Messages

variable {pb : Protobuf} {unpack : Unpacker}

theorem skips_of_degrades {s : Node} {ret : Int} {r : EStateM.Result Stop Node Int}
    (nonzero : ret ≠ 0) (degrades : Degrades pb s ⟨[], ret, panelOf s⟩ r) : Skips pb s r := by
  obtain ⟨ret', t, sent, run, remains⟩ := degrades
  obtain rfl := List.sublist_nil.mp remains.part
  refine ⟨ret', t, run, ?_, remains.replied, remains.panel⟩
  rcases remains.ends with rfl | rfl
  · exact nonzero
  · decide

variable (unpacks : UnpacksOrFails pb unpack)

include unpacks

theorem respond_or (heap : Heap) {config : EsphomeConfig} {entities : List Entity} {panel : Panel}
    {message : Message} {a : Answer}
    (answered : respond unpack config entities panel message = some a) :
    respond (unpackerAt pb heap) config entities panel message = some a ∨
      respond (unpackerAt pb heap) config entities panel message = some ⟨[], -eio, panel⟩ := by
  unfold respond at answered ⊢
  cases known : MessageType.ofId message.1 with
  | none =>
    rw [known] at answered
    exact Or.inl answered
  | some type =>
    rw [known] at answered
    dsimp only at answered ⊢
    have same : content (unpackerAt pb heap) type message.2 = content unpack type message.2 ∨
        content (unpackerAt pb heap) type message.2 = none := by
      unfold content
      cases type.bareFields with
      | some fields => exact Or.inl rfl
      | none => exact unpacks type message.2 heap
    rcases same with same | failed
    · rw [same]
      exact Or.inl answered
    · rw [failed]
      exact Or.inr rfl

variable (small : Small pb)

include small

theorem handle_degrades {s : Node} (sound : Sound s) {message : Message} {a : Answer}
    (answered : respond unpack s.config s.entities (panelOf s) message = some a) :
    Skips pb s ((handle pb message).run s) ∨ Degrades pb s a ((handle pb message).run s) := by
  rcases handle_cases pb message s with ⟨refused, heap, run⟩ | ⟨heap, granting, run⟩
  · left
    refine ⟨-enomem, _, run, by decide, ?_, rfl⟩
    exact ⟨rfl, rfl, rfl, (List.append_nil _).symm, (List.append_nil _).symm, { sound with },
      fun allocates => absurd refused (RoundTrip.not_refuses allocates)⟩
  · rw [run]
    rcases respond_or unpacks heap answered with same | failed
    · obtain ⟨ret, t, sent, dispatched, remains⟩ :=
        dispatch_degrades small (s := { s with heap := heap }) { sound with } same
      exact Or.inr ⟨ret, t, sent, dispatched,
        { remains with
          replied := remains.replied.from_heap granting
          whole := remains.whole ∘ granting }⟩
    · obtain ⟨ret, t, dispatched, nonzero, replied, panel⟩ := skips_of_degrades (by decide)
        (dispatch_degrades small (s := { s with heap := heap }) { sound with } failed)
      exact Or.inl ⟨ret, t, dispatched, nonzero, replied.from_heap granting, panel⟩

theorem handleAll_degrades (messages : List Message) : ∀ {s : Node} {e : Exchange}, Sound s →
    converse unpack s.config s.entities (panelOf s) messages = some e →
    ∃ ended t k sent, (handleAll pb messages).run s = .ok ended t ∧ Replied pb s t sent ∧
      ∃ e', converse unpack s.config s.entities (panelOf s) (messages.take k) = some e' ∧
        sent.Sublist e'.replies ∧ panelOf t = e'.panel := by
  induction messages with
  | nil =>
    intro s e sound talk
    exact ⟨none, s, 0, [], rfl, replied_refl sound, e, talk, List.nil_sublist _,
      by rw [← Option.some.inj talk]⟩
  | cons message later ih =>
    intro s e sound talk
    unfold converse at talk
    obtain ⟨first, answered, talk⟩ := Option.bind_eq_some_iff.mp talk
    rcases handle_degrades unpacks small sound answered with
      ⟨ret, t, run, nonzero, replied, panel⟩ | ⟨ret, t, sent, run, remains⟩
    · refine ⟨some ret, t, 0, [], ?_, replied, ⟨[], none, panelOf s⟩, rfl, List.nil_sublist _,
        panel⟩
      rw [handleAll, run_bind_ok _ run, if_neg nonzero]
      rfl
    · by_cases zero : ret = 0
      · have going : first.ret = 0 := by
          rcases remains.ends with same | memory
          · rw [← same, zero]
          · exact absurd (zero.symm.trans memory) (by decide)
        rw [if_pos going] at talk
        obtain ⟨rest, talking, -⟩ := Option.bind_eq_some_iff.mp talk
        rw [← remains.panel, ← remains.replied.config, ← remains.replied.entities] at talking
        obtain ⟨ended, u, k, sent', others, replied', e', spoken, part', panel'⟩ :=
          ih remains.replied.sound talking
        refine ⟨ended, u, k + 1, sent ++ sent', ?_, remains.replied.trans replied',
          { e' with replies := first.replies ++ e'.replies }, ?_, remains.part.append part',
          panel'⟩
        · rw [handleAll, run_bind_ok _ run, if_pos zero]
          exact others
        · rw [remains.panel, remains.replied.config, remains.replied.entities] at spoken
          rw [List.take_succ_cons, converse, answered]
          simp [going, spoken]
      · refine ⟨some ret, t, 1, sent, ?_, remains.replied,
          ⟨first.replies, if first.ret = 0 then none else some first.ret, first.panel⟩, ?_,
          remains.part, remains.panel⟩
        · rw [handleAll, run_bind_ok _ run, if_neg zero]
          rfl
        · rw [List.take_succ_cons, List.take_zero, converse, answered]
          by_cases going : first.ret = 0
          · simp [going, converse]
          · simp [going]

end Messages

theorem converse_take {unpack : Unpacker} {config : EsphomeConfig} {entities : List Entity}
    (messages : List Message) : ∀ {panel : Panel} {k : Nat} {e e' : Exchange},
    converse unpack config entities panel messages = some e →
    converse unpack config entities panel (messages.take k) = some e' →
    e'.replies <+: e.replies := by
  induction messages with
  | nil =>
    intro panel k e e' talk early
    rw [List.take_nil] at early
    rw [Option.some.inj (early.symm.trans talk)]
  | cons message later ih =>
    intro panel k e e' talk early
    cases k with
    | zero =>
      rw [← Option.some.inj early]
      exact List.nil_prefix
    | succ k =>
      rw [List.take_succ_cons] at early
      unfold converse at talk early
      obtain ⟨first, answered, talk⟩ := Option.bind_eq_some_iff.mp talk
      obtain ⟨first', answered', early⟩ := Option.bind_eq_some_iff.mp early
      obtain rfl := Option.some.inj (answered.symm.trans answered')
      by_cases going : first.ret = 0
      · rw [if_pos going] at talk early
        obtain ⟨rest, talking, finish⟩ := Option.bind_eq_some_iff.mp talk
        obtain ⟨rest', talking', finish'⟩ := Option.bind_eq_some_iff.mp early
        rw [← Option.some.inj finish, ← Option.some.inj finish']
        exact (List.prefix_append_right_inj _).mpr (ih talking talking')
      · rw [if_neg going] at talk early
        rw [← Option.some.inj talk, ← Option.some.inj early]

/-- Whatever allocations are refused, a client gets some of the replies that it would get otherwise,
in their order and each as a whole, and the devices are where its first messages have put them. -/
theorem memory_pressure {pb : Protobuf} {unpack : Unpacker} (unpacks : UnpacksOrFails pb unpack)
    (small : Small pb) {s : Node} (sound : Sound s) {messages : List Message}
    (plain : s.rx.schedule = []) (sizes : ∀ message ∈ messages, message.2.length < 2 ^ 32)
    (incoming : s.rx.incoming = frames messages) {e : Exchange}
    (talk : converse unpack s.config s.entities (panelOf s) messages = some e) {fuel : Nat}
    (enough : messages.length < fuel) :
    ∃ t k sent, After pb unpack s (messages.take k) t sent ∧ sent.Sublist e.replies ∧
      ((serveConnection pb fuel).run s = .ok () t ∧
          t.events.getLast? = some (.closed s.socket) ∨
        (serveConnection pb fuel).run s = .error .unfinished t) ∧
      ∀ (rounds : Nat) (reader : Node), RoundTrip.Delivering reader →
        reader.rx.incoming = sent.flatMap (wire pb) →
        ∃ left, (Library.Stream.readMany (receiveMessage (rounds + 1)) sent.length).run reader =
          .ok (.ok (sent.map fun message => (writeCall pb message).content)) left ∧
          left.rx.incoming = [] := by
  obtain ⟨ended, t, k, sent, run, replied, e', spoken, part, panel⟩ :=
    handleAll_degrades unpacks small messages sound talk
  have among : sent.Sublist e.replies := part.trans (converse_take messages talk spoken).sublist
  obtain ⟨rx, served⟩ := @serveConnection_attends pb messages s plain sizes incoming fuel enough
  have read := fun rounds reader => @reads_replies pb sent rounds reader
  rw [attend, run_bind_ok _ run] at served
  have after : ∀ events, After pb unpack s (messages.take k)
      (putRx rx { t with events := events }) sent := by
    intro events
    have told := told_of_replied replied
    exact ⟨{ told with sound := { told.sound with } }, e', spoken, part, panel⟩
  cases ended with
  | none => exact ⟨_, k, sent, after t.events, among, Or.inr served, read⟩
  | some ret =>
    have closes : (serveConnection pb fuel).run s =
        .ok () (putRx rx { t with events := t.events ++ [.closed t.socket] }) := served
    refine ⟨_, k, sent, after _, among, Or.inl ⟨closes, ?_⟩, read⟩
    rw [← replied.socket]
    exact List.getLast?_concat

def shortOfMemory : Node :=
  let node := freshNode none [lamp] (frames lampMessages)
  { node with heap := { node.heap with refusals := [false, true] } }

theorem memory_pressure_lamp :
    ∃ t k sent, After lampProtobuf unpackLamp shortOfMemory (lampMessages.take k) t sent ∧
      sent.Sublist [.switchStateResponse ⟨0x04030201, 1⟩, .disconnectResponse] := by
  obtain ⟨t, k, sent, after, among, -⟩ := @memory_pressure lampProtobuf unpackLamp
    (fun _ _ _ => Or.inl rfl) lamp_small shortOfMemory ⟨rfl, fun _ => rfl, fun _ => rfl⟩
    lampMessages rfl (by decide) rfl _ rfl 3 (by decide)
  exact ⟨t, k, sent, after, among⟩

end ZephyrEsphome.Api.Pressure
