/- Digest: What a client reaches before it has given the password. -/

import ZephyrEsphome.Api.Kinds
import ZephyrEsphome.Rpc.Reading
import ZephyrEsphome.Rpc.Release
import ZephyrEsphome.Rpc.Turns

set_option autoImplicit false
set_option relaxedAutoImplicit false

namespace ZephyrEsphome.Api.Gate

open Kernel
open Kinds (switchCommand_present buttonCommand_present)
open Library.Exec
open Rpc
open Rpc.Handling
open Rpc.Reading
open Rpc.Writing

inductive Guarded : Event → Prop
  | setState (dev : Device) (state : Int) : Guarded (.setState dev state)
  | onPress (dev : Device) : Guarded (.onPress dev)
  | listedSensor (socket : Int) (response : ListEntitiesResponse) (frame : List UInt8) (ret : Int) :
    Guarded (.sent socket (.listEntitiesSensorResponse response) frame ret)
  | listedSwitch (socket : Int) (response : ListEntitiesResponse) (frame : List UInt8) (ret : Int) :
    Guarded (.sent socket (.listEntitiesSwitchResponse response) frame ret)
  | listedButton (socket : Int) (response : ListEntitiesResponse) (frame : List UInt8) (ret : Int) :
    Guarded (.sent socket (.listEntitiesButtonResponse response) frame ret)
  | listed (socket : Int) (frame : List UInt8) (ret : Int) :
    Guarded (.sent socket .listEntitiesDoneResponse frame ret)
  | sensorState (socket : Int) (response : SensorStateResponse) (frame : List UInt8) (ret : Int) :
    Guarded (.sent socket (.sensorStateResponse response) frame ret)
  | switchState (socket : Int) (response : SwitchStateResponse) (frame : List UInt8) (ret : Int) :
    Guarded (.sent socket (.switchStateResponse response) frame ret)

def recorded (step : Step) : List Event :=
  added Node.events step.before step.result

section Runs

variable (pb : Protobuf) (fuel : Nat)

/-- The step answers a ConnectRequest that has the configured password with `invalid_password` 0. -/
def Authenticates (step : Step) : Prop :=
  step.turn = .request ∧ ∃ data taken request frame,
    (receiveMessage fuel).run step.before = .ok (.ok (3, data)) taken ∧
    pb.unpack .connectRequest data taken.heap = some request ∧
    step.before.config.password = some request.password ∧
    .sent step.before.socket (.connectResponse ⟨0⟩) frame frame.length ∈ recorded step

def Authenticated (earlier : List Step) : Prop :=
  ∃ before step after, earlier = before ++ step :: after ∧ Authenticates pb fuel step ∧
    ∀ other ∈ after, ∀ connection, other.turn ≠ .accept connection

/-- `P` holds of all steps of the run that are made on a connection before it is authenticated. -/
def BeforeAuthentication (turns : List Turn) (s : Node) (P : Step → Prop) : Prop :=
  ∀ earlier step later, steps pb fuel turns s = earlier ++ step :: later →
    ¬ Authenticated pb fuel earlier → P step

/-- Nothing guarded happens before the client has authenticated. -/
def Gated (turns : List Turn) (s : Node) : Prop :=
  BeforeAuthentication pb fuel turns s fun step => ∀ event ∈ recorded step, ¬ Guarded event

inductive Touches (s : Node) : (type : MessageType) → type.Fields → Prop
  | list (msg : MessageType.Fields .listEntitiesRequest) : Touches s .listEntitiesRequest msg
  | switch (request : SwitchCommandRequest) (dev : Device)
    (found : findDeviceEntityByKey s.entities request.key = some dev) :
    Touches s .switchCommandRequest request
  | button (request : ButtonCommandRequest) (dev : Device)
    (found : findDeviceEntityByKey s.entities request.key = some dev) :
    Touches s .buttonCommandRequest request

def Asks (s : Node) (data : List UInt8) (type : MessageType) : Prop :=
  type = .listEntitiesRequest ∨
    ∃ msg, pb.unpack type data s.heap = some msg ∧ Touches s type msg

/-- The step receives no request for the list and no command for a key of an entity, and no sensor
reading is sent in it because its block is refused. -/
def Harmless (step : Step) : Prop :=
  match step.turn with
  | .request => ∀ msgId data taken type,
      (receiveMessage fuel).run step.before = .ok (.ok (msgId, data)) taken →
      MessageType.ofId msgId = some type → ¬ Asks pb taken data type
  | .sample _ => step.before.heap.Refuses
  | .accept _ => True

end Runs

section Harmless

variable {pb : Protobuf} {fuel : Nat}

abbrev Unguarded (s t : Node) : Prop :=
  Guarantee.Grown Node.events (fun event => ¬ Guarded event) s t

theorem unguarded_answer {message : Outgoing} (answer : IsAnswer message) (socket : Int)
    (frame : List UInt8) (ret : Int) : ¬ Guarded (.sent socket message frame ret) := by
  intro guarded
  cases answer with
  | hello response => exact absurd guarded nofun
  | connect response => exact absurd guarded nofun
  | disconnect => exact absurd guarded nofun
  | ping => exact absurd guarded nofun
  | deviceInfo response => exact absurd guarded nofun

theorem unguarded_callback {s : Node} {type : MessageType} {msg : type.Fields}
    (apart : ¬ Touches s type msg) : Unguarded s (final ((callback pb type msg).run s)) := by
  by_cases uses : UsesRegistry type
  · cases uses with
    | list => exact absurd (.list msg) apart
    | switch =>
      cases found : findDeviceEntityByKey s.entities msg.key with
      | none =>
        have run : (callback pb .switchCommandRequest msg).run s = .ok (-enodev) s :=
          switchCommand_absent pb s msg found
        rw [run]
        exact Guarantee.grown_none rfl
      | some dev => exact absurd (.switch msg dev found) apart
    | button =>
      cases found : findDeviceEntityByKey s.entities msg.key with
      | none =>
        have run : (callback pb .buttonCommandRequest msg).run s = .ok (-enodev) s :=
          buttonCommand_absent s msg found
        rw [run]
        exact Guarantee.grown_none rfl
      | some dev => exact absurd (.button msg dev found) apart
  · have keeps : Keeps (recording fun event => ¬ Guarded event) (callback pb type msg) :=
      keeps_answering (fun _ answer => recording_packedWrite (unguarded_answer answer))
        (fun _ answer => recording_emptyWrite (unguarded_answer answer)) type msg uses
    exact keeps.final s

theorem unguarded_dispatch {taken : Node} {msgId : UInt32} {data : List UInt8}
    (harmless : ∀ type, MessageType.ofId msgId = some type → ¬ Asks pb taken data type) :
    Unguarded taken (final ((dispatch pb msgId data).run taken)) := by
  rcases dispatch_cases pb msgId data with same | ⟨type, known, same | ⟨msg, bare, same⟩⟩
  · rw [same]
    exact Guarantee.grown_none rfl
  · rw [same, readMessage, run_bind_ok _ (run_get taken)]
    cases unpacked : pb.unpack type data taken.heap with
    | none => exact Guarantee.grown_none rfl
    | some msg =>
      apply unguarded_callback
      intro touches
      exact harmless type known (Or.inr ⟨msg, unpacked, touches⟩)
  · rw [same]
    apply unguarded_callback
    intro touches
    cases touches with
    | list => exact harmless _ known (Or.inl rfl)
    | switch request dev found => exact absurd bare.symm (Option.some_ne_none _)
    | button request dev found => exact absurd bare.symm (Option.some_ne_none _)

theorem unguarded_request {s : Node}
    (harmless : ∀ msgId data taken type,
      (receiveMessage fuel).run s = .ok (.ok (msgId, data)) taken →
      MessageType.ofId msgId = some type → ¬ Asks pb taken data type) :
    Unguarded s (final ((Turn.run pb fuel .request).run s)) := by
  rw [Turn.run, final_ignored]
  have received : Unguarded s (final ((receiveMessage fuel).run s)) :=
    (recording_receiveMessage fuel).final s
  cases run : (receiveMessage fuel).run s with
  | ok outcome taken =>
    rw [run] at received
    rw [esphomeReadRequest, run_bind_ok _ run]
    cases outcome with
    | error ret => exact received
    | ok message =>
      apply trans_of _ received
      apply unguarded_dispatch
      intro type known
      exact harmless message.1 message.2 taken type run known
  | error e taken =>
    rw [run] at received
    rw [esphomeReadRequest, run_bind_error _ run]
    exact received

theorem apart_sensorRead (dev : Device) :
    Keeps (.always (Guarantee.Same fun s : Node => (s.events, s.heap))) (sensorRead dev) :=
  keeps_sensorRead (fun _ _ => rfl) (fun _ _ => rfl) (fun _ _ => rfl) (fun _ _ => rfl) dev

theorem unguarded_sample {s : Node} (refuses : s.heap.Refuses) (entity : Entity) :
    Unguarded s (final ((Turn.run pb fuel (.sample entity)).run s)) := by
  have apart := (apart_sensorRead entity.dev).final s
  rw [Turn.run, esphomeSensorSendState]
  cases run : (sensorRead entity.dev).run s with
  | ok read t =>
    rw [run] at apart
    obtain ⟨events, heap⟩ := Prod.mk.inj apart
    rw [run_bind_ok _ run]
    rw [final_ignored, sensorStateResponseWrite, pack, packedWrite_refused _ _ _ (heap ▸ refuses)]
    exact Guarantee.grown_none events
  | error e t =>
    rw [run] at apart
    obtain ⟨events, -⟩ := Prod.mk.inj apart
    rw [run_bind_error _ run]
    exact Guarantee.grown_none events

theorem unguarded_step {step : Step}
    (result : step.result = (step.turn.run pb fuel).run step.before)
    (harmless : Harmless pb fuel step) : ∀ event ∈ recorded step, ¬ Guarded event := by
  have unguarded : Unguarded step.before (final step.result) := by
    rw [result]
    unfold Harmless at harmless
    cases turn : step.turn with
    | request =>
      rw [turn] at harmless
      exact unguarded_request harmless
    | sample entity =>
      rw [turn] at harmless
      exact unguarded_sample harmless entity
    | accept connection => exact Guarantee.grown_none rfl
  intro event member
  exact mem_added (P := fun event => ¬ Guarded event) unguarded member

end Harmless

section Harmful

variable {pb : Protobuf} {fuel : Nat}

theorem guarded_list {s t : Node} {ret : Int} (run : (listEntitiesRequestCb pb).run s = .ok ret t) :
    ∃ event ∈ added Node.events s ((listEntitiesRequestCb pb).run s), Guarded event := by
  have keeps : Keeps (recording fun _ => True) (forM s.entities fun entity => do
      let _ ← listEntity pb entity : Exec Node Unit) := by
    apply keeps_forM
    intro entity _
    apply keeps_bind
    · exact keeps_listEntity (fun _ => recording_packedWrite fun _ _ _ => trivial) entity
    · intro _
      exact keeps_pure _
  rw [listEntitiesRequestCb, run_bind_ok _ (run_get s)] at run ⊢
  obtain ⟨_, u, entities, -⟩ := run_bind_inv run
  have sent := emptyWrite_added .listEntitiesDoneResponse u
  exact ⟨_, added_bind_right keeps entities sent, .listed u.socket _ _⟩

theorem guarded_dispatch {taken t : Node} {msgId : UInt32} {data : List UInt8} {type : MessageType}
    {ret : Int} (known : MessageType.ofId msgId = some type) (asks : Asks pb taken data type)
    (run : (dispatch pb msgId data).run taken = .ok ret t) :
    ∃ event ∈ added Node.events taken ((dispatch pb msgId data).run taken), Guarded event := by
  have list : type = .listEntitiesRequest →
      ∃ event ∈ added Node.events taken ((dispatch pb msgId data).run taken), Guarded event := by
    rintro rfl
    have same : dispatch pb msgId data = listEntitiesRequestCb pb := dispatch_known pb known data
    rw [same] at run ⊢
    exact guarded_list run
  rcases asks with listed | ⟨msg, unpacked, touches⟩
  · exact list listed
  · cases touches with
    | list msg => exact list rfl
    | switch request dev found =>
      have same : (dispatch pb msgId data).run taken =
          (switchCommandRequestCb pb request).run taken := by
        rw [dispatch_known pb known]
        exact readMessage_unpacked unpacked
      rw [same]
      exact ⟨_, (switchCommand_present pb taken found).1, .setState dev request.state⟩
    | button request dev found =>
      have same : (dispatch pb msgId data).run taken =
          (buttonCommandRequestCb request).run taken := by
        rw [dispatch_known pb known]
        exact readMessage_unpacked unpacked
      rw [same]
      exact ⟨_, (buttonCommand_present taken found).1, .onPress dev⟩

theorem guarded_request {s t : Node} {msgId : UInt32} {data : List UInt8} {taken : Node}
    {type : MessageType} (received : (receiveMessage fuel).run s = .ok (.ok (msgId, data)) taken)
    (known : MessageType.ofId msgId = some type) (asks : Asks pb taken data type)
    (returned : (Turn.run pb fuel .request).run s = .ok () t) :
    ∃ event ∈ added Node.events s ((Turn.run pb fuel .request).run s), Guarded event := by
  obtain ⟨ret, u, run, -⟩ := run_bind_inv returned
  rw [esphomeReadRequest, run_bind_ok _ received] at run
  obtain ⟨event, member, guarded⟩ := guarded_dispatch known asks run
  refine ⟨event, ?_, guarded⟩
  rw [Turn.run, added_ignored, esphomeReadRequest]
  exact added_bind_right (P := fun _ => True) (recording_receiveMessage fuel) received member

theorem guarded_sample {s t : Node} {entity : Entity} (granted : ¬ s.heap.Refuses)
    (returned : (Turn.run pb fuel (.sample entity)).run s = .ok () t) :
    ∃ event ∈ added Node.events s ((Turn.run pb fuel (.sample entity)).run s), Guarded event := by
  obtain ⟨read, u, run, rest⟩ := run_bind_inv returned
  obtain ⟨ret, v, write, -⟩ := run_bind_inv rest
  have apart := (apart_sensorRead entity.dev).final s
  rw [run] at apart
  obtain ⟨-, heap⟩ := Prod.mk.inj apart
  have granted' : ¬ u.heap.Refuses := by
    rw [show u.heap = s.heap from heap]
    exact granted
  have sent := packedWrite_added granted' write
  rw [← added_ignored _ (packedWrite _ _)] at sent
  have reads : Keeps (recording fun _ => True) (sensorRead entity.dev) := recording_sensorRead _
  exact ⟨_, added_bind_right reads run sent, .sensorState _ _ _ _⟩

theorem harmless_step {step : Step} {t : Node}
    (result : step.result = (step.turn.run pb fuel).run step.before)
    (returned : step.result = .ok () t) (unguarded : ∀ event ∈ recorded step, ¬ Guarded event) :
    Harmless pb fuel step := by
  unfold recorded at unguarded
  rw [result] at returned unguarded
  unfold Harmless
  cases turn : step.turn with
  | request =>
    rw [turn] at returned unguarded
    intro msgId data taken type received known asks
    obtain ⟨event, member, guarded⟩ := guarded_request received known asks returned
    exact unguarded event member guarded
  | sample entity =>
    rw [turn] at returned unguarded
    by_cases refuses : step.before.heap.Refuses
    · exact refuses
    · obtain ⟨event, member, guarded⟩ := guarded_sample refuses returned
      exact absurd guarded (unguarded event member)
  | accept connection => trivial

end Harmful

/-- A run is gated when all steps before authentication are harmless, and a run whose steps all
return only then. -/
theorem gated_of_harmless (pb : Protobuf) (fuel : Nat) (turns : List Turn) (s : Node) :
    (BeforeAuthentication pb fuel turns s (Harmless pb fuel) → Gated pb fuel turns s) ∧
    ((∀ step ∈ steps pb fuel turns s, ∃ t, step.result = .ok () t) →
      Gated pb fuel turns s → BeforeAuthentication pb fuel turns s (Harmless pb fuel)) := by
  have among : ∀ earlier step later, steps pb fuel turns s = earlier ++ step :: later →
      step ∈ steps pb fuel turns s := by
    intro earlier step later split
    rw [split]
    exact List.mem_append_right _ List.mem_cons_self
  constructor
  · intro harmless earlier step later split unauthenticated
    obtain ⟨-, result⟩ := steps_made pb fuel turns s step (among earlier step later split)
    exact unguarded_step result (harmless earlier step later split unauthenticated)
  · intro returns gated earlier step later split unauthenticated
    obtain ⟨-, result⟩ := steps_made pb fuel turns s step (among earlier step later split)
    obtain ⟨t, returned⟩ := returns step (among earlier step later split)
    exact harmless_step result returned (gated earlier step later split unauthenticated)

theorem connect_accepts {pb : Protobuf} {s : Node} {request : ConnectRequest}
    (configured : s.config.password = some request.password) :
    (connectRequestCb pb request).run s = (connectResponseWrite pb ⟨0⟩).run s := by
  rw [connectRequestCb, run_bind_ok _ (run_get s), configured]
  dsimp only
  rw [(strcmp_eq_zero _ _).mpr rfl]

theorem apart_receive (fuel : Nat) :
    Keeps (.always (Guarantee.Same fun s : Node => (s.config, s.tx, s.socket)))
      (receiveMessage fuel) :=
  keeps_receiveMessage (fun _ _ => rfl) (fun _ _ => rfl) (fun _ _ => rfl) fuel

theorem authenticates_of_password {pb : Protobuf} {fuel : Nat} {s taken : Node}
    {data : List UInt8} {request : ConnectRequest}
    (received : (receiveMessage fuel).run s = .ok (.ok (3, data)) taken)
    (unpacked : pb.unpack .connectRequest data taken.heap = some request)
    (configured : s.config.password = some request.password)
    (granted : ¬ taken.heap.Refuses) (plain : s.tx.schedule = [])
    (fits : (frameOf (.connectResponse ⟨0⟩) (pb.pack (.connectResponse ⟨0⟩))).length < 2 ^ 32) :
    Authenticates pb fuel ⟨.request, s, (Turn.run pb fuel .request).run s⟩ := by
  have apart := (apart_receive fuel).final s
  rw [received] at apart
  obtain ⟨config, rest⟩ := Prod.mk.inj apart
  obtain ⟨tx, socket⟩ := Prod.mk.inj rest
  have write := packedWrite_sends (.connectResponse ⟨0⟩) (pb.pack (.connectResponse ⟨0⟩)) taken
    granted fits
  have sent := packedWrite_added granted write
  have whole : (taken.tx.zsockSend
      (frameOf (.connectResponse ⟨0⟩) (pb.pack (.connectResponse ⟨0⟩)))).1 =
        (frameOf (.connectResponse ⟨0⟩) (pb.pack (.connectResponse ⟨0⟩))).length := by
    rw [show taken.tx = s.tx from tx]
    simp [Transmitter.zsockSend, plain]
  rw [whole, show taken.socket = s.socket from socket] at sent
  have same : taken.config.password = some request.password := by
    rw [show taken.config = s.config from config]
    exact configured
  have handled : (dispatch pb 3 data).run taken = (connectResponseWrite pb ⟨0⟩).run taken := by
    rw [← connect_accepts same]
    exact readMessage_unpacked unpacked
  refine ⟨rfl, data, taken, request,
    frameOf (.connectResponse ⟨0⟩) (pb.pack (.connectResponse ⟨0⟩)), received, unpacked,
    configured, ?_⟩
  rw [recorded, Turn.run, added_ignored, esphomeReadRequest]
  apply added_bind_right (P := fun _ => True) (recording_receiveMessage fuel) received
  rw [handled]
  exact sent

def onePassword : Protobuf where
  unpack
    | .connectRequest, [0x0A, 0x01, char], _ => some ⟨CString.ofBytes [char]⟩
    | _, _, _ => none
  pack := Release.silent.pack

/-- A device with one switch and the password `p`. -/
def guardedNode (incoming : List UInt8) : Node :=
  freshNode (some (CString.ofBytes [0x70])) [Kinds.namesake .switchGpio] incoming

def loginNode : Node :=
  guardedNode (header 3 3 ++ ([0x0A, 0x01, 0x70] ++ frame 11 []))

theorem gated_login : Gated onePassword 1 [.request, .request] loginNode := by
  have arrives : Arrives loginNode 3 [0x0A, 0x01, 0x70] (frame 11 []) _ :=
    ⟨header 3 3, 3, isHeader_header 3 (by decide), rfl, rfl, fun _ => by decide, rfl⟩
  have received := receiveMessage_arrives rfl arrives 0
  have authenticates : Authenticates onePassword 1
      ⟨.request, loginNode, (Turn.run onePassword 1 .request).run loginNode⟩ :=
    authenticates_of_password received rfl rfl (by decide) rfl (Release.silent_small _)
  apply (gated_of_harmless onePassword 1 [.request, .request] loginNode).1
  intro earlier step later split unauthenticated
  cases earlier with
  | nil =>
    obtain ⟨rfl, -⟩ := List.cons.inj split
    intro msgId data taken type run known asks
    obtain ⟨same, -⟩ := EStateM.Result.ok.inj (received.symm.trans run)
    obtain ⟨rfl, -⟩ := Prod.mk.inj (Except.ok.inj same)
    have connect := Option.some.inj (known.symm.trans (rfl : _ = some MessageType.connectRequest))
    subst connect
    rcases asks with list | ⟨msg, -, touches⟩
    · exact absurd list nofun
    · exact absurd touches nofun
  | cons first rest =>
    have requests : ∀ other ∈ rest, ∀ connection, other.turn ≠ .accept connection := by
      intro other among connection accepts
      have member : other ∈ steps onePassword 1 [.request, .request] loginNode := by
        rw [split]
        exact List.mem_append_left _ (List.mem_cons_of_mem first among)
      obtain ⟨turn, -⟩ := steps_made onePassword 1 _ loginNode other member
      rw [accepts] at turn
      simp at turn
    obtain ⟨rfl, -⟩ := List.cons.inj split
    exact absurd ⟨[], _, rest, rfl, authenticates, requests⟩ unauthenticated

/-- The list of entities is sent to a client that has given no password. -/
theorem entities_before_password :
    ¬ ∀ (pb : Protobuf) (fuel : Nat) (turns : List Turn) (s : Node) (password : CString),
      s.config.password = some password → password.bytes ≠ [] → Gated pb fuel turns s := by
  intro gated
  have arrives : Arrives (guardedNode (header 11 0)) 11 [] [] _ :=
    ⟨header 11 0, 0, isHeader_header 11 (by decide), rfl, (List.append_nil _).symm,
      fun nonzero => absurd rfl nonzero, rfl⟩
  have received := receiveMessage_arrives rfl arrives 0
  have returns : Returns (listEntitiesRequestCb onePassword) :=
    returns_of_keeps (keeps_listEntitiesRequestCb
      (fun message => Release.total_pack (Release.silent_small message)) Release.total_emptyWrite)
  obtain ⟨ret, t, listed⟩ := returns _
  have returned : (Turn.run onePassword 1 .request).run (guardedNode (header 11 0)) = .ok () t :=
    run_bind_ok _ ((run_bind_ok _ received).trans listed)
  obtain ⟨event, member, guarded⟩ := guarded_request received rfl (Or.inl rfl) returned
  have unauthenticated : ¬ Authenticated onePassword 1 [] := by
    rintro ⟨before, step, after, none, -⟩
    exact absurd none.symm (by simp)
  exact gated onePassword 1 [.request] (guardedNode (header 11 0)) _ rfl (by decide) [] _ _ rfl
    unauthenticated event member guarded

end ZephyrEsphome.Api.Gate
