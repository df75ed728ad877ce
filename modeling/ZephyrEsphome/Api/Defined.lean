/- Digest: Which requests and which sensor readings have no defined behaviour. -/

import ZephyrEsphome.Api.Replies
import ZephyrEsphome.Api.SensorSocket
import ZephyrEsphome.Rpc.Release
import ZephyrEsphome.Rpc.RoundTrip
import ZephyrEsphome.Rpc.Turns

set_option autoImplicit false
set_option relaxedAutoImplicit false

namespace ZephyrEsphome.Api.Defined

open Kernel
open Library.Exec
open Replies (run_switchCommand stops_switchCommand)
open Rpc
open Rpc.Handling
open Rpc.Release (apart_dispatch silent silent_small total_emptyWrite total_pack)
open Rpc.Writing

/-- The run has no defined behaviour if `P` holds, and returns otherwise. -/
structure Ends {α : Type} (P : Prop) (r : EStateM.Result Stop Node α) : Prop where
  undefined : P → ∃ t, r = .error .undefined t
  returns : ¬ P → ∃ a t, r = .ok a t

theorem Ends.stops_iff {α : Type} {P : Prop} {r : EStateM.Result Stop Node α}
    (ends : Ends P r) : (∃ t, r = .error .undefined t) ↔ P := by
  constructor
  · rintro ⟨t, stopped⟩
    by_contra defined
    obtain ⟨a, u, run⟩ := ends.returns defined
    rw [run] at stopped
    exact absurd stopped nofun
  · exact ends.undefined

theorem ends_returned {α : Type} {P : Prop} {r : EStateM.Result Stop Node α} (never : ¬ P)
    (run : ∃ a t, r = .ok a t) : Ends P r :=
  ⟨fun holds => absurd holds never, fun _ => run⟩

inductive Misdirected (entities : List Entity) : (type : MessageType) → type.Fields → Prop
  | switch {request : SwitchCommandRequest} {dev : Device}
    (found : findDeviceEntityByKey entities request.key = some dev) (other : dev.kind ≠ .switch) :
    Misdirected entities .switchCommandRequest request
  | button {request : ButtonCommandRequest} {dev : Device}
    (found : findDeviceEntityByKey entities request.key = some dev) (other : dev.kind ≠ .button) :
    Misdirected entities .buttonCommandRequest request

section Callbacks

variable {pb : Protobuf} {s : Node}

theorem ends_buttonOnPress (dev : Device) (s : Node) :
    Ends (dev.kind ≠ .button) ((buttonOnPress dev).run s) := by
  rcases dev with ⟨binding, inst⟩
  cases binding with
  | buttonTemplate => exact ends_returned (not_not_intro rfl) ⟨_, _, rfl⟩
  | switchGpio => exact ⟨fun _ => ⟨_, rfl⟩, fun button => absurd nofun button⟩
  | switchHbridge => exact ⟨fun _ => ⟨_, rfl⟩, fun button => absurd nofun button⟩
  | sensorTemperature => exact ⟨fun _ => ⟨_, rfl⟩, fun button => absurd nofun button⟩
  | sensorTimestamp => exact ⟨fun _ => ⟨_, rfl⟩, fun button => absurd nofun button⟩

variable (small : ∀ message, (frameOf message (pb.pack message)).length < 2 ^ 32)

include small

theorem returns_pack (message : Outgoing) : Returns (pack pb message) :=
  returns_of_keeps (total_pack (small message))

theorem ends_switchCommand (request : SwitchCommandRequest) :
    Ends (Misdirected s.entities .switchCommandRequest request)
      ((switchCommandRequestCb pb request).run s) := by
  cases found : findDeviceEntityByKey s.entities request.key with
  | none =>
    refine ends_returned ?_ ⟨_, _, switchCommand_absent pb s request found⟩
    rintro ⟨found', -⟩
    exact absurd (found.symm.trans found') nofun
  | some dev =>
    by_cases switch : dev.kind = .switch
    · obtain ⟨u, run, -⟩ := run_switchCommand pb found switch
      refine ends_returned ?_ ?_
      · rintro ⟨found', other⟩
        rw [← Option.some.inj (found.symm.trans found')] at other
        exact other switch
      · rw [run]
        exact returns_pack small _ u
    · exact ⟨fun _ => stops_switchCommand pb found switch,
        fun defined => absurd (.switch found switch) defined⟩

omit small in
theorem ends_buttonCommand (request : ButtonCommandRequest) :
    Ends (Misdirected s.entities .buttonCommandRequest request)
      ((buttonCommandRequestCb request).run s) := by
  cases found : findDeviceEntityByKey s.entities request.key with
  | none =>
    refine ends_returned ?_ ⟨_, _, buttonCommand_absent s request found⟩
    rintro (_ | ⟨found', -⟩)
    exact absurd (found.symm.trans found') nofun
  | some dev =>
    have pressed : (buttonCommandRequestCb request).run s = (buttonOnPress dev).run s := by
      rw [buttonCommandRequestCb, run_bind_ok _ (run_get s), found]
    have ends := ends_buttonOnPress dev s
    rw [pressed]
    refine ⟨?_, ?_⟩
    · rintro (_ | ⟨found', other⟩)
      rw [← Option.some.inj (found.symm.trans found')] at other
      exact ends.undefined other
    · intro defined
      exact ends.returns fun other => defined (.button found other)

theorem ends_callback (type : MessageType) (msg : type.Fields) :
    Ends (Misdirected s.entities type msg) ((callback pb type msg).run s) := by
  by_cases uses : UsesRegistry type
  · cases uses with
    | list =>
      refine ends_returned nofun ?_
      have total := keeps_listEntitiesRequestCb (fun message => total_pack (small message))
        fun message => total_emptyWrite message
      exact returns_of_keeps total s
    | switch => exact ends_switchCommand small msg
    | button => exact ends_buttonCommand msg
  · refine ends_returned ?_ ?_
    · intro misdirected
      cases misdirected with
      | switch => exact uses .switch
      | button => exact uses .button
    · exact returns_of_keeps (keeps_answering (fun message _ => total_pack (small message))
        (fun message _ => total_emptyWrite message) type msg uses) s

end Callbacks

section Runs

variable (pb : Protobuf)

def Commands (entities : List Entity) (heap : Heap) (msgId : UInt32) (data : List UInt8) : Prop :=
  ∃ type msg, MessageType.ofId msgId = some type ∧ pb.unpack type data heap = some msg ∧
    Misdirected entities type msg

/-- The step receives a misdirected command, or reads a device that is no sensor. -/
def Misused (fuel : Nat) (entities : List Entity) (step : Step) : Prop :=
  match step.turn with
  | .request => ∃ msgId data taken,
      (receiveMessage fuel).run step.before = .ok (.ok (msgId, data)) taken ∧
        Commands pb entities taken.heap msgId data
  | .sample entity => entity.dev.kind ≠ .sensor
  | .accept _ => False

end Runs

section Steps

variable {pb : Protobuf} {fuel : Nat}

theorem not_misdirected_bare {entities : List Entity} {type : MessageType} {msg : type.Fields}
    (bare : type.bareFields = some msg) : ¬ Misdirected entities type msg := by
  intro misdirected
  cases misdirected with
  | switch => exact absurd bare.symm (Option.some_ne_none _)
  | button => exact absurd bare.symm (Option.some_ne_none _)

theorem receive_stopsFor (fuel : Nat) : StopsFor (· = Stop.unfinished) (receiveMessage fuel) := by
  have recv : ∀ len, Returns (zsockRecv len) := fun _ => returns_modifyGet _
  have varint : Returns readVarint := returns_modifyGet _
  have header : StopsFor (· = Stop.unfinished) (esphomeReadHeader fuel) := by
    unfold esphomeReadHeader
    apply stopsFor_bind (stopsFor_of_returns returns_get)
    intro rx
    apply stopsFor_bind
    · refine stopsFor_loop (E := (· = Stop.unfinished)) rfl ?_ fuel _
      intro byte
      apply stopsFor_of_returns
      apply returns_bind (recv 1)
      intro got
      exact returns_ite (returns_pure _) (returns_pure _)
    · intro first
      apply stopsFor_of_returns
      apply returns_ite (returns_pure _)
      apply returns_ite (returns_pure _)
      apply returns_bind varint
      intro len
      apply returns_ite (returns_pure _)
      apply returns_bind varint
      intro msgId
      exact returns_ite (returns_pure _) (returns_pure _)
  unfold receiveMessage
  apply stopsFor_bind (stopsFor_zoom header)
  rintro (ret | ⟨msgId, len⟩)
  · exact stopsFor_of_returns (returns_pure _)
  · apply stopsFor_ite (stopsFor_of_returns (returns_pure _))
    apply stopsFor_bind (stopsFor_of_returns (returns_modifyGet _))
    rintro (_ | block)
    · exact stopsFor_of_returns (returns_pure _)
    · apply stopsFor_bind (stopsFor_of_returns returns_get)
      intro node
      apply stopsFor_bind (stopsFor_zoom (stopsFor_of_returns (recv len.toNat)))
      rintro ⟨ret, got⟩
      exact stopsFor_of_returns (returns_ite (returns_pure _) (returns_pure _))

variable (small : ∀ message, (frameOf message (pb.pack message)).length < 2 ^ 32)

include small

theorem ends_dispatch (taken : Node) (msgId : UInt32) (data : List UInt8) :
    Ends (Commands pb taken.entities taken.heap msgId data)
      ((dispatch pb msgId data).run taken) := by
  constructor
  · rintro ⟨type, msg, known, unpacked, misdirected⟩
    have routed : dispatch pb msgId data = readMessage pb type data := by
      rw [dispatch_known pb known]
      cases misdirected with
      | switch => rfl
      | button => rfl
    rw [routed, readMessage_unpacked unpacked]
    exact (ends_callback small type msg).undefined misdirected
  · intro defined
    rcases dispatch_cases pb msgId data with same | ⟨type, known, same | ⟨msg, bare, same⟩⟩
    · exact ⟨_, taken, by rw [same]; rfl⟩
    · rw [same, readMessage, run_bind_ok _ (run_get taken)]
      cases unpacked : pb.unpack type data taken.heap with
      | none => exact ⟨_, taken, rfl⟩
      | some msg =>
        apply (ends_callback (s := taken) small type msg).returns
        intro misdirected
        exact defined ⟨type, msg, known, unpacked, misdirected⟩
    · rw [same]
      exact (ends_callback (s := taken) small type msg).returns (not_misdirected_bare bare)

theorem request_stops (s : Node) :
    ((∃ t, ((Turn.run pb fuel .request).run s) = .error .undefined t) ↔
      ∃ msgId data taken, (receiveMessage fuel).run s = .ok (.ok (msgId, data)) taken ∧
        Commands pb taken.entities taken.heap msgId data) ∧
      ∀ e t, (Turn.run pb fuel .request).run s = .error e t → e = .undefined ∨ e = .unfinished := by
  have start : Turn.run pb fuel .request = (do
      let _ ← esphomeReadRequest pb fuel : Exec Node Unit) := rfl
  rw [start]
  cases received : (receiveMessage fuel).run s with
  | error e t =>
    obtain rfl := (receive_stopsFor fuel).reason s e t received
    have request : (esphomeReadRequest pb fuel).run s = .error .unfinished t :=
      run_bind_error _ received
    rw [run_bind_error _ request]
    refine ⟨⟨?_, ?_⟩, ?_⟩
    · rintro ⟨u, stopped⟩
      cases stopped
    · rintro ⟨msgId, data, taken, got, -⟩
      cases got
    · intro e u stopped
      obtain ⟨rfl, -⟩ := EStateM.Result.error.inj stopped
      exact Or.inr rfl
  | ok outcome taken =>
    cases outcome with
    | error ret =>
      have request : (esphomeReadRequest pb fuel).run s = .ok ret taken := run_bind_ok _ received
      rw [run_bind_ok _ request]
      refine ⟨⟨?_, ?_⟩, ?_⟩
      · rintro ⟨u, stopped⟩
        cases stopped
      · rintro ⟨msgId, data, taken, got, -⟩
        cases got
      · intro e u stopped
        cases stopped
    | ok message =>
      obtain ⟨msgId, data⟩ := message
      have request : (esphomeReadRequest pb fuel).run s = (dispatch pb msgId data).run taken :=
        run_bind_ok _ received
      have ends := ends_dispatch small taken msgId data
      have same : (∃ msgId' data' taken',
          (.ok (.ok (msgId, data)) taken : EStateM.Result Stop Node (Except Int (UInt32 × List UInt8)))
            = .ok (.ok (msgId', data')) taken' ∧
          Commands pb taken'.entities taken'.heap msgId' data') ↔
          Commands pb taken.entities taken.heap msgId data := by
        constructor
        · rintro ⟨msgId', data', taken', got, commands⟩
          cases got
          exact commands
        · intro commands
          exact ⟨msgId, data, taken, rfl, commands⟩
      rw [same]
      by_cases commands : Commands pb taken.entities taken.heap msgId data
      · obtain ⟨t, stopped⟩ := ends.undefined commands
        rw [run_bind_error _ (request.trans stopped)]
        refine ⟨⟨fun _ => commands, fun _ => ⟨t, rfl⟩⟩, ?_⟩
        intro e u stopped
        obtain ⟨rfl, -⟩ := EStateM.Result.error.inj stopped
        exact Or.inl rfl
      · obtain ⟨ret, t, run⟩ := ends.returns commands
        rw [run_bind_ok _ (request.trans run)]
        refine ⟨⟨?_, fun holds => absurd holds commands⟩, ?_⟩
        · rintro ⟨u, stopped⟩
          cases stopped
        · intro e u stopped
          cases stopped

theorem ends_sample (entity : Entity) (s : Node) :
    Ends (entity.dev.kind ≠ .sensor) ((Turn.run pb fuel (.sample entity)).run s) := by
  constructor
  · intro other
    rcases entity with ⟨⟨binding, inst⟩, config, key⟩
    cases binding with
    | switchGpio => exact ⟨s, rfl⟩
    | switchHbridge => exact ⟨s, rfl⟩
    | buttonTemplate => exact ⟨s, rfl⟩
    | sensorTemperature => exact absurd rfl other
    | sensorTimestamp => exact absurd rfl other
  · intro sensor
    obtain ⟨t, run, -⟩ := SensorSocket.run_sendState pb (Decidable.of_not_not sensor) s
      fun response => small (.sensorStateResponse response)
    exact ⟨(), t, run⟩

end Steps

section Registry

variable {pb : Protobuf} {fuel : Nat}

theorem registry_receive : Keeps (.always (Guarantee.Same Node.entities)) (receiveMessage fuel) :=
  keeps_receiveMessage (fun _ _ => rfl) (fun _ _ => rfl) (fun _ _ => rfl) fuel

theorem registry_dispatch (msgId : UInt32) (data : List UInt8) :
    Keeps (.always (Guarantee.Same Node.entities)) (dispatch pb msgId data) where
  run s := ((apart_dispatch pb msgId data).run s).imp (fun _ _ apart => apart.2.1)
    fun _ _ apart => apart.2.1

theorem registry_turn (turn : Turn) :
    Keeps (.always (Guarantee.Same Node.entities)) (turn.run pb fuel) := by
  cases turn with
  | request =>
    apply keeps_bind
    · apply keeps_bind registry_receive
      rintro (ret | ⟨msgId, data⟩)
      · exact keeps_pure _
      · exact registry_dispatch msgId data
    · intro _
      exact keeps_pure _
  | sample entity =>
    apply keeps_bind
    · exact keeps_sensorRead (fun _ _ => rfl) (fun _ _ => rfl) (fun _ _ => rfl) (fun _ _ => rfl) _
    · intro read
      apply keeps_bind
      · exact keeps_packedWrite (fun _ _ => rfl) (fun _ _ _ => rfl) fun _ _ _ => rfl
      · intro _
        exact keeps_pure _
  | accept connection => exact keeps_modify fun _ => rfl

end Registry

/-- In any run a step has no defined behaviour exactly when it receives a command for a key that the
registry leads to a device of another kind, or reads a device that is no sensor. Every other step
returns, or is a request whose header never comes. -/
theorem undefined_iff {pb : Protobuf}
    (small : ∀ message, (frameOf message (pb.pack message)).length < 2 ^ 32) (fuel : Nat)
    (turns : List Turn) (s : Node) : ∀ step ∈ steps pb fuel turns s,
      ((∃ t, step.result = .error .undefined t) ↔ Misused pb fuel s.entities step) ∧
        ∀ e t, step.result = .error e t →
          e = .undefined ∨ e = .unfinished ∧ step.turn = .request := by
  intro step member
  have registry : step.before.entities = s.entities := by
    refine steps_invariant pb fuel (I := fun t => t.entities = s.entities) turns s rfl ?_ step member
    intro other among same t returned
    have kept := (@registry_turn pb fuel other.turn).final other.before
    rw [← (steps_made pb fuel turns s other among).2, returned] at kept
    exact Eq.trans kept same
  have made := (steps_made pb fuel turns s step member).2
  rcases step with ⟨turn, before, result⟩
  obtain rfl : result = (turn.run pb fuel).run before := made
  cases turn with
  | request =>
    obtain ⟨undefined, reasons⟩ := @request_stops pb fuel small before
    have same : ∀ msgId data taken, (receiveMessage fuel).run before = .ok (.ok (msgId, data)) taken →
        taken.entities = s.entities := by
      intro msgId data taken received
      have kept := (@registry_receive fuel).final before
      rw [received] at kept
      exact Eq.trans kept registry
    refine ⟨undefined.trans ?_, ?_⟩
    · constructor
      · rintro ⟨msgId, data, taken, received, commands⟩
        exact ⟨msgId, data, taken, received, same msgId data taken received ▸ commands⟩
      · rintro ⟨msgId, data, taken, received, commands⟩
        exact ⟨msgId, data, taken, received, (same msgId data taken received).symm ▸ commands⟩
    · intro e t stopped
      rcases reasons e t stopped with rfl | rfl
      · exact Or.inl rfl
      · exact Or.inr ⟨rfl, rfl⟩
  | sample entity =>
    have ends := @ends_sample pb fuel small entity before
    refine ⟨ends.stops_iff, ?_⟩
    intro e t stopped
    by_cases sensor : entity.dev.kind = .sensor
    · obtain ⟨a, u, run⟩ := ends.returns (not_not_intro sensor)
      cases run.symm.trans stopped
    · obtain ⟨u, run⟩ := ends.undefined sensor
      obtain ⟨rfl, -⟩ := EStateM.Result.error.inj (stopped.symm.trans run)
      exact Or.inl rfl
  | accept connection =>
    refine ⟨⟨?_, False.elim⟩, ?_⟩
    · rintro ⟨t, stopped⟩
      cases stopped
    · intro e t stopped
      cases stopped

def pressing : Protobuf where
  unpack
    | .buttonCommandRequest, [], _ => some ⟨0⟩
    | _, _, _ => none
  pack := silent.pack

def mispressed : Node := freshNode none [Kinds.namesake .switchGpio] (frame 62 [])

theorem undefined_iff_pressing :
    ∃ step ∈ steps pressing 1 [.request] mispressed, ∃ t, step.result = .error .undefined t := by
  obtain ⟨taken, received, -⟩ := (RoundTrip.reads_messages 0).one (62, []) [] mispressed (by decide)
    ⟨rfl, rfl⟩ (List.append_nil _).symm
  have ends := @undefined_iff pressing silent_small 1 [.request] mispressed _
    List.mem_cons_self
  refine ⟨_, List.mem_cons_self, ends.1.mpr ?_⟩
  refine ⟨62, [], taken, received, .buttonCommandRequest, ⟨0⟩, rfl, rfl, ?_⟩
  exact @Misdirected.button _ ⟨0⟩ ⟨.switchGpio, 0⟩ rfl (by decide)

end ZephyrEsphome.Api.Defined
