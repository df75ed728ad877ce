/- Digest: The service as its clients know it: requests in, replies out, and what the devices do.

   `answer` and `converse` say what the service is for: they know the configuration, the registry
   and what the devices hold, and nothing of streams, blocks or drivers. While no call of the kernel
   fails the service does just what they say. -/

import ZephyrEsphome.Api.Listing
import ZephyrEsphome.Api.Replies
import ZephyrEsphome.Rpc.Conversation
import ZephyrEsphome.Rpc.RoundTrip
import ZephyrEsphome.Switch.Boot

set_option autoImplicit false
set_option relaxedAutoImplicit false

namespace ZephyrEsphome.Api.Server

open Kernel
open Library.Exec
open Library.Framing
open Listing (listingMessage)
open Replies (held)
open Rpc
open Rpc.Conversation
open Rpc.Handling (deliver dispatch_known dispatch_unknown)
open Rpc.Writing (WriteCall frameOf packedWrite_refused packedWrite_sends emptyWrite_sends)

structure Panel where
  /-- The state that each switch reports. -/
  shown : Device → Int
  /-- The output of each switch is active, or one of its coils is. -/
  powered : Device → Bool
  /-- What the `on_press` function of each button returns next. -/
  presses : Nat → List Int

def Panel.set (panel : Panel) (dev : Device) (state : Int) : Panel :=
  { panel with
    shown := Function.update panel.shown dev state
    powered := Function.update panel.powered dev (dev.compatible = .switchGpio && state != 0) }

def Panel.press (panel : Panel) (inst : Nat) : Panel :=
  { panel with presses := Function.update panel.presses inst (panel.presses inst).tail }

structure Answer where
  replies : List Outgoing
  ret : Int
  panel : Panel

def answer (config : EsphomeConfig) (entities : List Entity) (panel : Panel) :
    (type : MessageType) → type.Fields → Option Answer
  | .helloRequest, _ => some
    { replies := [.helloResponse
        { name := config.name
          serverInfo := config.serverInfo
          apiVersionMajor := config.apiVersionMajor
          apiVersionMinor := config.apiVersionMinor }]
      ret := 0
      panel := panel }
  | .connectRequest, request => some
    { replies := [.connectResponse
        ⟨(config.password.map fun password => strcmp password request.password).getD 0⟩]
      ret := 0
      panel := panel }
  | .deviceInfoRequest, _ => some
    { replies := [.deviceInfoResponse
        { usesPassword := config.password.any (·.bytes.length ≠ 0)
          name := config.name
          esphomeVersion := esphomeGetVersion config 32
          compilationTime := config.compilationTime
          projectName := config.projectName
          projectVersion := config.projectVersion
          model := config.model
          manufacturer := config.manufacturer }]
      ret := 0
      panel := panel }
  | .listEntitiesRequest, _ => some
    { replies := entities.map listingMessage ++ [.listEntitiesDoneResponse]
      ret := 0
      panel := panel }
  | .switchCommandRequest, request =>
    match findDeviceEntityByKey entities request.key with
    | none => some ⟨[], -enodev, panel⟩
    | some dev =>
      if dev.kind = .switch then some
        { replies := [.switchStateResponse ⟨request.key, request.state⟩]
          ret := 0
          panel := panel.set dev request.state }
      else none
  | .buttonCommandRequest, request =>
    match findDeviceEntityByKey entities request.key with
    | none => some ⟨[], -enodev, panel⟩
    | some dev =>
      if dev.kind = .button then some
        { replies := []
          ret := (panel.presses dev.inst).headD 0
          panel := panel.press dev.inst }
      else none
  | .lightCommandRequest, _ => some ⟨[], -enotsup, panel⟩
  | .subscribeStatesRequest, _ => some ⟨[], 0, panel⟩
  | .subscribeHomeassistantServicesRequest, _ => some ⟨[], 0, panel⟩
  | .subscribeHomeAssistantStatesRequest, _ => some ⟨[], 0, panel⟩
  | .pingRequest, _ => some ⟨[.pingResponse], 0, panel⟩
  | .disconnectRequest, _ => some ⟨[.disconnectResponse], -enotconn, panel⟩
  | _, _ => some ⟨[], -1, panel⟩

abbrev Unpacker := (type : MessageType) → List UInt8 → Option type.Fields

def content (unpack : Unpacker) : Unpacker := fun type data =>
  match type.bareFields with
  | some fields => some fields
  | none => unpack type data

section Specification

variable (unpack : Unpacker) (config : EsphomeConfig) (entities : List Entity)

def respond (panel : Panel) (message : Message) : Option Answer :=
  match MessageType.ofId message.1 with
  | none => some ⟨[], -enotsup, panel⟩
  | some type =>
    match content unpack type message.2 with
    | none => some ⟨[], -eio, panel⟩
    | some fields => answer config entities panel type fields

/-- What became of the messages of a connection; `ended` is the result that ended it. -/
structure Exchange where
  replies : List Outgoing
  ended : Option Int
  panel : Panel

def converse (panel : Panel) : List Message → Option Exchange
  | [] => some ⟨[], none, panel⟩
  | message :: later => do
    let first ← respond unpack config entities panel message
    if first.ret = 0 then
      let rest ← converse first.panel later
      return { rest with replies := first.replies ++ rest.replies }
    else
      return ⟨first.replies, some first.ret, first.panel⟩

end Specification

/-- No call of the kernel will fail. -/
structure Faultless (s : Node) : Prop where
  allocates : s.heap.refusals = []
  accepts : s.tx.schedule = []
  gpio : ∀ inst, (s.switchGpio inst).gpio.outcomes = []
  hbridge : ∀ inst, (s.switchHbridge inst).gpio.outcomes = []

/-- No call of the kernel will fail, unless it is an allocation. -/
structure Sound (s : Node) : Prop where
  accepts : s.tx.schedule = []
  gpio : ∀ inst, (s.switchGpio inst).gpio.outcomes = []
  hbridge : ∀ inst, (s.switchHbridge inst).gpio.outcomes = []

theorem Faultless.sound {s : Node} (faultless : Faultless s) : Sound s :=
  { faultless with }

def output (dev : Device) (s : Node) : Bool :=
  match dev.compatible with
  | .switchGpio => (s.switchGpio dev.inst).gpio.active ()
  | .switchHbridge =>
    (s.switchHbridge dev.inst).gpio.active .onPin || (s.switchHbridge dev.inst).gpio.active .offPin
  | _ => false

def panelOf (s : Node) : Panel := ⟨(held · s), (output · s), s.buttonTemplate⟩

/-- What a client notices of the record. -/
inductive Notice
  | reply (socket : Int) (bytes : List UInt8)
  | close (socket : Int)
  deriving DecidableEq

def notice : Event → Option Notice
  | .sent socket _ frame _ => some (.reply socket frame)
  | .closed socket => some (.close socket)
  | _ => none

def notices (s : Node) : List Notice := s.events.filterMap notice

variable (pb : Protobuf)

def writeCall (message : Outgoing) : WriteCall :=
  match message with
  | .disconnectResponse => .empty message
  | .pingResponse => .empty message
  | .listEntitiesDoneResponse => .empty message
  | _ => .packed message (pb.pack message)

def wire (message : Outgoing) : List UInt8 := (writeCall pb message).frame

structure Replied (s t : Node) (replies : List Outgoing) : Prop where
  config : t.config = s.config
  entities : t.entities = s.entities
  socket : t.socket = s.socket
  accepted : t.tx.accepted = s.tx.accepted ++ replies.flatMap (wire pb)
  noticed : notices t = notices s ++ replies.map fun message => .reply s.socket (wire pb message)
  sound : Sound t
  granting : s.heap.refusals = [] → t.heap.refusals = []

def Answers (s : Node) (a : Answer) (r : EStateM.Result Stop Node Int) : Prop :=
  ∃ t, r = .ok a.ret t ∧ Replied pb s t a.replies ∧ panelOf t = a.panel

/-- What is left of an answer: while no allocation is refused, all of it. -/
structure Remains (s : Node) (a : Answer) (ret : Int) (t : Node) (sent : List Outgoing) :
    Prop where
  replied : Replied pb s t sent
  part : sent.Sublist a.replies
  panel : panelOf t = a.panel
  ends : ret = a.ret ∨ ret = -enomem
  whole : s.heap.refusals = [] → ret = a.ret ∧ sent = a.replies

def Degrades (s : Node) (a : Answer) (r : EStateM.Result Stop Node Int) : Prop :=
  ∃ ret t sent, r = .ok ret t ∧ Remains pb s a ret t sent

variable {pb}

section Replying

variable {s t u : Node}

theorem replied_refl (sound : Sound s) : Replied pb s s [] where
  config := rfl
  entities := rfl
  socket := rfl
  accepted := (List.append_nil _).symm
  noticed := (List.append_nil _).symm
  sound := sound
  granting := id

theorem Replied.trans {first second : List Outgoing} (early : Replied pb s t first)
    (late : Replied pb t u second) : Replied pb s u (first ++ second) where
  config := late.config.trans early.config
  entities := late.entities.trans early.entities
  socket := late.socket.trans early.socket
  accepted := by
    rw [late.accepted, early.accepted, List.flatMap_append, List.append_assoc]
  noticed := by
    rw [late.noticed, early.noticed, early.socket, List.map_append, List.append_assoc]
  sound := late.sound
  granting := late.granting ∘ early.granting

theorem Replied.faultless {replies : List Outgoing} (replied : Replied pb s t replies)
    (faultless : Faultless s) : Faultless t :=
  { replied.sound with allocates := replied.granting faultless.allocates }

theorem Replied.from_heap {heap : Heap} {replies : List Outgoing}
    (granting : s.heap.refusals = [] → heap.refusals = [])
    (replied : Replied pb { s with heap := heap } t replies) : Replied pb s t replies :=
  { replied with granting := replied.granting ∘ granting }

theorem replied_sending {message : Outgoing} {bytes : List UInt8} {heap : Heap}
    (sound : Sound s) (same : bytes = wire pb message)
    (granting : s.heap.refusals = [] → heap.refusals = []) :
    Replied pb s { Writing.sending message s bytes with heap := heap } [message] ∧
      panelOf { Writing.sending message s bytes with heap := heap } = panelOf s := by
  have tx := RoundTrip.zsockSend_accepts sound.accepts bytes
  refine ⟨⟨rfl, rfl, rfl, ?_, ?_, ⟨?_, sound.gpio, sound.hbridge⟩, granting⟩, rfl⟩
  · show (s.tx.zsockSend bytes).2.accepted = _
    rw [tx, List.flatMap_singleton, same]
  · show (s.events ++ [Event.sent s.socket message bytes (s.tx.zsockSend bytes).1]).filterMap
      notice = _
    rw [List.filterMap_append, same]
    rfl
  · show (s.tx.zsockSend bytes).2.schedule = _
    rw [tx]
    exact sound.accepts

theorem Answers.degrades {a : Answer} {r : EStateM.Result Stop Node Int}
    (answers : Answers pb s a r) : Degrades pb s a r := by
  obtain ⟨t, run, replied, panel⟩ := answers
  exact ⟨a.ret, t, a.replies, run, replied, List.Sublist.refl _, panel, Or.inl rfl,
    fun _ => ⟨rfl, rfl⟩⟩

theorem Degrades.answers {a : Answer} {r : EStateM.Result Stop Node Int}
    (degrades : Degrades pb s a r) (allocates : s.heap.refusals = []) : Answers pb s a r := by
  obtain ⟨ret, t, sent, run, remains⟩ := degrades
  obtain ⟨rfl, rfl⟩ := remains.whole allocates
  exact ⟨t, run, remains.replied, remains.panel⟩

theorem degrades_pack {message : Outgoing} (sound : Sound s)
    (packed : writeCall pb message = .packed message (pb.pack message))
    (small : (frameOf message (pb.pack message)).length < 2 ^ 32) :
    Degrades pb s ⟨[message], 0, panelOf s⟩ ((pack pb message).run s) := by
  by_cases refused : s.heap.Refuses
  · have never : s.heap.refusals ≠ [] := fun allocates => RoundTrip.not_refuses allocates refused
    refine ⟨-enomem, _, [], packedWrite_refused message (pb.pack message) s refused, ?_,
      List.nil_sublist _, rfl, Or.inr rfl, fun allocates => absurd allocates never⟩
    exact ⟨rfl, rfl, rfl, (List.append_nil _).symm, (List.append_nil _).symm, { sound with },
      fun allocates => absurd allocates never⟩
  · have bytes : frameOf message (pb.pack message) = wire pb message := by
      rw [wire, packed]
      rfl
    have granting : s.heap.refusals = [] →
        ((s.heap.kMalloc (frameOf message (pb.pack message)).length).2.kFree
          (s.heap.ledger.next, (frameOf message (pb.pack message)).length)).refusals = [] :=
      fun allocates => RoundTrip.refusals_kMalloc allocates _
    obtain ⟨replied, panel⟩ := replied_sending sound bytes granting
    exact Answers.degrades ⟨_, packedWrite_sends message (pb.pack message) s refused small,
      replied, panel⟩

theorem run_emptyWrite {message : Outgoing} (sound : Sound s)
    (empty : writeCall pb message = .empty message) :
    Answers pb s ⟨[message], 0, panelOf s⟩ ((emptyWrite message).run s) := by
  have bytes : Writing.frame message.rpcId [] = wire pb message := by
    rw [wire, empty]
    rfl
  have granting : s.heap.refusals = [] → s.heap.refusals = [] := id
  obtain ⟨replied, panel⟩ := replied_sending sound bytes granting
  exact ⟨_, emptyWrite_sends message s, replied, panel⟩

theorem answers_pure (sound : Sound s) (ret : Int) :
    Answers pb s ⟨[], ret, panelOf s⟩ ((pure ret : Exec Node Int).run s) :=
  ⟨s, rfl, replied_refl sound, rfl⟩

end Replying

theorem gpioSetState_faultless {dev : Switch.GpioSwitch} (clear : dev.gpio.outcomes = [])
    (state : Int) :
    ∃ next, (Switch.GpioSwitch.esphomeGpioSwitchSetState state).run dev = .ok 0 next ∧
      next.state = state ∧ next.gpio.outcomes = [] ∧ next.gpio.active () = (state != 0) := by
  have free : dev.gpio.obstacle = none := by rw [Gpio.obstacle, clear]; rfl
  have written := run_zoom_ok (fun gpio (dev : Switch.GpioSwitch) => { dev with gpio := gpio })
    (gpioPinSetDt_drives free () state)
  refine ⟨_, run_bind_ok _ written, rfl, ?_, ?_⟩
  · show dev.gpio.outcomes.tail = []
    rw [clear]
    rfl
  · simp

theorem hbridgeSetState_faultless {dev : Switch.Hbridge} (clear : dev.gpio.outcomes = [])
    (state : Int) :
    ∃ next, (Switch.Hbridge.esphomeSwitchHbridgeSetState state).run dev = .ok 0 next ∧
      next.state = state ∧ next.gpio.outcomes = [] ∧ next.gpio.active .onPin = false ∧
      next.gpio.active .offPin = false := by
  have never : Switch.Holding.Clear dev.gpio.outcomes 4 := by simp [Switch.Holding.Clear, clear]
  obtain ⟨next, run, shown, dark, left⟩ := Switch.Boot.setState_clear never state
  refine ⟨next, run, shown, ?_, dark .onPin, dark .offPin⟩
  rw [left, clear]
  rfl

theorem panel_set {dev : Device} {s t : Node} {state : Int} (shown : held dev t = state)
    (powered : output dev t = (dev.compatible = .switchGpio && state != 0))
    (others : ∀ other, other ≠ dev → held other t = held other s ∧ output other t = output other s)
    (presses : t.buttonTemplate = s.buttonTemplate) :
    panelOf t = (panelOf s).set dev state := by
  have shown' : (held · t) = Function.update (held · s) dev state :=
    Function.eq_update_iff.mpr ⟨shown, fun other apart => (others other apart).1⟩
  have powered' : (output · t) =
      Function.update (output · s) dev (dev.compatible = .switchGpio && state != 0) :=
    Function.eq_update_iff.mpr ⟨powered, fun other apart => (others other apart).2⟩
  rw [panelOf, shown', powered', presses]
  rfl

theorem run_setState {dev : Device} {s : Node} (switch : dev.kind = .switch)
    (sound : Sound s) (state : Int) :
    ∃ t, (switchSetState dev state).run s = .ok 0 t ∧ Replied pb s t [] ∧
      panelOf t = (panelOf s).set dev state := by
  have recorded : (record (.setState dev state)).run s =
      .ok () { s with events := s.events ++ [.setState dev state] } := rfl
  have noticed : (s.events ++ [Event.setState dev state]).filterMap notice = notices s ++ [] := by
    rw [List.filterMap_append]
    rfl
  rcases dev with ⟨binding, inst⟩
  rcases Replies.switch_cases switch with rfl | rfl
  · obtain ⟨next, run, shown, clear, level⟩ := gpioSetState_faultless (sound.gpio inst) state
    refine ⟨{ s with
      events := s.events ++ [.setState ⟨.switchGpio, inst⟩ state]
      switchGpio := Function.update s.switchGpio inst next }, ?_, ?_, ?_⟩
    · rw [switchSetState, run_bind_ok _ recorded]
      exact run_zoom_ok _ run
    · refine ⟨rfl, rfl, rfl, (List.append_nil _).symm, noticed,
        ⟨sound.accepts, ?_, sound.hbridge⟩, id⟩
      exact (Function.forall_update_iff _ fun _ (device : Switch.GpioSwitch) =>
        device.gpio.outcomes = []).mpr ⟨clear, fun other _ => sound.gpio other⟩
    · apply panel_set
      · simpa only [held, Function.update_self] using shown
      · simp [output, level]
      · rintro ⟨binding', inst'⟩ apart
        cases binding' with
        | switchGpio =>
          have other : inst' ≠ inst := by
            rintro rfl
            exact apart rfl
          simp [held, output, Function.update_of_ne other]
        | _ => exact ⟨rfl, rfl⟩
      · rfl
  · obtain ⟨next, run, shown, clear, on, off⟩ :=
      hbridgeSetState_faultless (sound.hbridge inst) state
    refine ⟨{ s with
      events := s.events ++ [.setState ⟨.switchHbridge, inst⟩ state]
      switchHbridge := Function.update s.switchHbridge inst next }, ?_, ?_, ?_⟩
    · rw [switchSetState, run_bind_ok _ recorded]
      exact run_zoom_ok _ run
    · refine ⟨rfl, rfl, rfl, (List.append_nil _).symm, noticed,
        ⟨sound.accepts, sound.gpio, ?_⟩, id⟩
      exact (Function.forall_update_iff _ fun _ (device : Switch.Hbridge) =>
        device.gpio.outcomes = []).mpr ⟨clear, fun other _ => sound.hbridge other⟩
    · apply panel_set
      · simpa only [held, Function.update_self] using shown
      · simp [output, on, off]
      · rintro ⟨binding', inst'⟩ apart
        cases binding' with
        | switchHbridge =>
          have other : inst' ≠ inst := by
            rintro rfl
            exact apart rfl
          simp [held, output, Function.update_of_ne other]
        | _ => exact ⟨rfl, rfl⟩
      · rfl

/-- All replies fit into the address space. -/
def Small (pb : Protobuf) : Prop :=
  ∀ message, (frameOf message (pb.pack message)).length < 2 ^ 32

theorem writeCall_listing (entity : Entity) : writeCall pb (listingMessage entity) =
    .packed (listingMessage entity) (pb.pack (listingMessage entity)) := by
  unfold listingMessage
  cases entity.dev.kind with
  | switch => rfl
  | button => rfl
  | sensor => rfl

section Callbacks

variable {s : Node}

theorem run_buttonCommand (sound : Sound s) {request : ButtonCommandRequest} {dev : Device}
    (found : findDeviceEntityByKey s.entities request.key = some dev)
    (button : dev.kind = .button) :
    Answers pb s ⟨[], ((panelOf s).presses dev.inst).headD 0, (panelOf s).press dev.inst⟩
      ((buttonCommandRequestCb request).run s) := by
  rcases dev with ⟨binding, inst⟩
  have kind : binding.kind = .button := button
  obtain rfl : binding = .buttonTemplate := by
    cases binding <;> first | rfl | exact absurd kind (by decide)
  refine ⟨{ s with
    events := s.events ++ [.onPress ⟨.buttonTemplate, inst⟩]
    buttonTemplate := Function.update s.buttonTemplate inst (s.buttonTemplate inst).tail }, ?_,
    ⟨rfl, rfl, rfl, (List.append_nil _).symm, ?_, { sound with }, id⟩, rfl⟩
  · rw [buttonCommandRequestCb, run_bind_ok _ (run_get s), found]
    rfl
  · show (s.events ++ [Event.onPress ⟨.buttonTemplate, inst⟩]).filterMap notice = _
    rw [List.filterMap_append]
    rfl

variable (small : Small pb) (sound : Sound s)

include small sound

theorem degrades_switchCommand {request : SwitchCommandRequest} {dev : Device}
    (found : findDeviceEntityByKey s.entities request.key = some dev)
    (switch : dev.kind = .switch) :
    Degrades pb s ⟨[.switchStateResponse ⟨request.key, request.state⟩], 0,
      (panelOf s).set dev request.state⟩ ((switchCommandRequestCb pb request).run s) := by
  obtain ⟨t, setting, replied, panel⟩ := @run_setState pb dev s switch sound request.state
  have shown : held dev t = request.state := by
    have same : held dev t = Function.update (panelOf s).shown dev request.state dev :=
      congrFun (congrArg Panel.shown panel) dev
    rwa [Function.update_self] at same
  have reading := Replies.run_switchGetState switch t
  have noted : Replied pb t { t with events := t.events ++ [.getState dev] } [] := by
    refine ⟨rfl, rfl, rfl, (List.append_nil _).symm, ?_, { replied.sound with }, id⟩
    show (t.events ++ [Event.getState dev]).filterMap notice = _
    rw [List.filterMap_append]
    rfl
  obtain ⟨ret, u, sent, sending, remains⟩ :=
    @degrades_pack pb _ (.switchStateResponse ⟨request.key, held dev t⟩) noted.sound rfl (small _)
  rw [shown] at remains
  refine ⟨ret, u, sent, ?_, (replied.trans noted).trans remains.replied, remains.part, ?_,
    remains.ends, fun allocates => remains.whole (replied.granting allocates)⟩
  · rw [switchCommandRequestCb, run_bind_ok _ (run_get s), found]
    dsimp only
    rw [run_bind_ok _ setting, run_bind_ok _ reading]
    exact sending
  · rw [remains.panel, ← panel]
    rfl

theorem degrades_listEntities : Degrades pb s
    ⟨s.entities.map listingMessage ++ [.listEntitiesDoneResponse], 0, panelOf s⟩
    ((listEntitiesRequestCb pb).run s) := by
  have each : ∀ (entities : List Entity) (t : Node), Sound t → ∃ u sent,
      (forM entities fun entity => do let _ ← listEntity pb entity : Exec Node PUnit).run t =
        .ok () u ∧ Replied pb t u sent ∧ sent.Sublist (entities.map listingMessage) ∧
        panelOf u = panelOf t ∧ (t.heap.refusals = [] → sent = entities.map listingMessage) := by
    intro entities
    induction entities with
    | nil =>
      intro t sound
      exact ⟨t, [], rfl, replied_refl sound, List.Sublist.refl _, rfl, fun _ => rfl⟩
    | cons entity entities ih =>
      intro t sound
      obtain ⟨ret, u, sent, first, remains⟩ :=
        degrades_pack sound (writeCall_listing entity) (small (listingMessage entity))
      have listed : (listEntity pb entity).run t = .ok 0 u := by
        rw [Listing.listEntity_eq, run_bind_ok _ first]
        rfl
      obtain ⟨v, sent', others, replied', part', panel', whole'⟩ := ih u remains.replied.sound
      refine ⟨v, sent ++ sent', ?_, remains.replied.trans replied', remains.part.append part',
        panel'.trans remains.panel, ?_⟩
      · rw [List.forM_cons, bind_assoc, run_bind_ok _ listed]
        exact others
      · intro allocates
        rw [(remains.whole allocates).2, whole' (remains.replied.granting allocates)]
        rfl
  obtain ⟨t, sent, listing, replied, part, panel, whole⟩ := each s.entities s sound
  obtain ⟨u, done, replied', panel'⟩ :=
    @run_emptyWrite pb t .listEntitiesDoneResponse replied.sound rfl
  refine ⟨0, u, sent ++ [.listEntitiesDoneResponse], ?_, replied.trans replied',
    part.append_right _, panel'.trans panel, Or.inl rfl, ?_⟩
  · rw [listEntitiesRequestCb, run_bind_ok _ (run_get s), run_bind_ok _ listing]
    exact done
  · intro allocates
    rw [whole allocates]
    exact ⟨rfl, rfl⟩

theorem degrades_callback {type : MessageType} {fields : type.Fields} {a : Answer}
    (answered : answer s.config s.entities (panelOf s) type fields = some a) :
    Degrades pb s a ((callback pb type fields).run s) := by
  cases type with
  | helloRequest =>
    obtain rfl := Option.some.inj answered
    exact degrades_pack sound rfl (small _)
  | connectRequest =>
    obtain rfl := Option.some.inj answered
    show Degrades pb s _ ((connectRequestCb pb fields).run s)
    rw [connectRequestCb, run_bind_ok _ (run_get s)]
    cases s.config.password with
    | none => exact degrades_pack sound rfl (small _)
    | some password => exact degrades_pack sound rfl (small _)
  | deviceInfoRequest =>
    obtain rfl := Option.some.inj answered
    exact degrades_pack sound rfl (small _)
  | listEntitiesRequest =>
    obtain rfl := Option.some.inj answered
    exact degrades_listEntities small sound
  | switchCommandRequest =>
    dsimp only [answer] at answered
    cases found : findDeviceEntityByKey s.entities fields.key with
    | none =>
      rw [found] at answered
      obtain rfl := Option.some.inj answered
      exact Answers.degrades
        ⟨s, Handling.switchCommand_absent pb s fields found, replied_refl sound, rfl⟩
    | some dev =>
      rw [found] at answered
      dsimp only at answered
      split at answered
      · rename_i switch
        obtain rfl := Option.some.inj answered
        exact degrades_switchCommand small sound found switch
      · exact absurd answered nofun
  | buttonCommandRequest =>
    dsimp only [answer] at answered
    cases found : findDeviceEntityByKey s.entities fields.key with
    | none =>
      rw [found] at answered
      obtain rfl := Option.some.inj answered
      exact Answers.degrades
        ⟨s, Handling.buttonCommand_absent s fields found, replied_refl sound, rfl⟩
    | some dev =>
      rw [found] at answered
      dsimp only at answered
      split at answered
      · rename_i button
        obtain rfl := Option.some.inj answered
        exact (run_buttonCommand sound found button).degrades
      · exact absurd answered nofun
  | pingRequest =>
    obtain rfl := Option.some.inj answered
    exact (run_emptyWrite sound rfl).degrades
  | disconnectRequest =>
    obtain rfl := Option.some.inj answered
    obtain ⟨t, run, replied, panel⟩ := @run_emptyWrite pb s .disconnectResponse sound rfl
    exact Answers.degrades ⟨t, run_bind_ok _ run, replied, panel⟩
  | _ =>
    obtain rfl := Option.some.inj answered
    exact (answers_pure sound _).degrades

end Callbacks

def unpackerAt (pb : Protobuf) (heap : Heap) : Unpacker := fun type data => pb.unpack type data heap

theorem run_dispatch (s : Node) {msgId : UInt32} {type : MessageType}
    (known : MessageType.ofId msgId = some type) (data : List UInt8) :
    (dispatch pb msgId data).run s = match content (unpackerAt pb s.heap) type data with
      | none => .ok (-eio) s
      | some fields => (callback pb type fields).run s := by
  rw [dispatch_known pb known, deliver, content]
  cases type.bareFields with
  | some fields => rfl
  | none =>
    dsimp only [unpackerAt]
    rw [readMessage, run_bind_ok _ (run_get s)]
    cases pb.unpack type data s.heap with
    | none => rfl
    | some fields => rfl

theorem dispatch_degrades (small : Small pb) {s : Node} (sound : Sound s) {message : Message}
    {a : Answer} (answered :
      respond (unpackerAt pb s.heap) s.config s.entities (panelOf s) message = some a) :
    Degrades pb s a ((dispatch pb message.1 message.2).run s) := by
  unfold respond at answered
  cases known : MessageType.ofId message.1 with
  | none =>
    rw [known] at answered
    obtain rfl := Option.some.inj answered
    rw [dispatch_unknown pb known]
    exact (answers_pure sound _).degrades
  | some type =>
    rw [known] at answered
    rw [run_dispatch s known]
    dsimp only at answered
    cases read : content (unpackerAt pb s.heap) type message.2 with
    | none =>
      rw [read] at answered
      obtain rfl := Option.some.inj answered
      exact (answers_pure sound _).degrades
    | some fields =>
      rw [read] at answered
      exact degrades_callback small sound answered

/-- While no allocation is refused the unpackers look at the payload alone. -/
def Unpacks (pb : Protobuf) (unpack : Unpacker) : Prop :=
  ∀ type data heap, heap.refusals = [] → pb.unpack type data heap = unpack type data

theorem unpackerAt_eq {unpack : Unpacker} (unpacks : Unpacks pb unpack) {heap : Heap}
    (allocates : heap.refusals = []) : unpackerAt pb heap = unpack := by
  funext type data
  exact unpacks type data heap allocates

theorem handle_cases (pb : Protobuf) (message : Message) (s : Node) :
    (s.heap.Refuses ∧ ∃ heap, (handle pb message).run s = .ok (-enomem) { s with heap := heap }) ∨
      ∃ heap, (s.heap.refusals = [] → heap.refusals = []) ∧
        (handle pb message).run s =
          (dispatch pb message.1 message.2).run { s with heap := heap } := by
  by_cases bare : message.2 = []
  · obtain ⟨msgId, payload⟩ := message
    obtain rfl : payload = [] := bare
    exact Or.inr ⟨s.heap, id, by rw [handle_bare]⟩
  · by_cases refused : s.heap.Refuses
    · exact Or.inl ⟨refused, _, handle_refused bare refused⟩
    · exact Or.inr ⟨_, fun allocates => RoundTrip.refusals_kMalloc allocates message.2.length,
        handle_granted bare refused⟩

theorem handle_faultless {s : Node} (faultless : Faultless s) (message : Message) :
    ∃ heap, heap.refusals = [] ∧ (handle pb message).run s =
      (dispatch pb message.1 message.2).run { s with heap := heap } := by
  rcases handle_cases pb message s with ⟨refused, -⟩ | ⟨heap, granting, run⟩
  · exact absurd refused (RoundTrip.not_refuses faultless.allocates)
  · exact ⟨heap, granting faultless.allocates, run⟩

section Messages

variable {unpack : Unpacker} (unpacks : Unpacks pb unpack) (small : Small pb)

include unpacks small

theorem handle_answers {s : Node} (faultless : Faultless s) {message : Message} {a : Answer}
    (answered : respond unpack s.config s.entities (panelOf s) message = some a) :
    Answers pb s a ((handle pb message).run s) := by
  obtain ⟨heap, allocates, run⟩ := @handle_faultless pb s faultless message
  rw [run]
  rw [← unpackerAt_eq unpacks allocates] at answered
  obtain ⟨t, dispatched, replied, panel⟩ := (dispatch_degrades small
    (s := { s with heap := heap }) { faultless with } answered).answers allocates
  exact ⟨t, dispatched, replied.from_heap fun _ => allocates, panel⟩

theorem handleAll_converses (messages : List Message) : ∀ {s : Node} {e : Exchange}, Faultless s →
    converse unpack s.config s.entities (panelOf s) messages = some e →
    ∃ t, (handleAll pb messages).run s = .ok e.ended t ∧ Replied pb s t e.replies ∧
      panelOf t = e.panel := by
  induction messages with
  | nil =>
    intro s e faultless talk
    obtain rfl := Option.some.inj talk
    exact ⟨s, rfl, replied_refl faultless.sound, rfl⟩
  | cons message later ih =>
    intro s e faultless talk
    unfold converse at talk
    obtain ⟨first, answered, talk⟩ := Option.bind_eq_some_iff.mp talk
    obtain ⟨t, run, replied, panel⟩ := handle_answers unpacks small faultless answered
    by_cases zero : first.ret = 0
    · rw [if_pos zero] at talk
      obtain ⟨rest, talking, last⟩ := Option.bind_eq_some_iff.mp talk
      obtain rfl := Option.some.inj last
      rw [← panel, ← replied.config, ← replied.entities] at talking
      obtain ⟨u, others, replied', panel'⟩ := ih (replied.faultless faultless) talking
      refine ⟨u, ?_, replied.trans replied', panel'⟩
      rw [handleAll, run_bind_ok _ run, if_pos zero]
      exact others
    · rw [if_neg zero] at talk
      obtain rfl := Option.some.inj talk
      refine ⟨t, ?_, replied, panel⟩
      rw [handleAll, run_bind_ok _ run, if_neg zero]
      rfl

theorem attend_converses {messages : List Message} {s : Node} {e : Exchange}
    (faultless : Faultless s)
    (talk : converse unpack s.config s.entities (panelOf s) messages = some e) :
    ∃ t, Replied pb s t e.replies ∧ panelOf t = e.panel ∧
      (attend pb messages).run s = if e.ended.isSome then
        .ok () { t with events := t.events ++ [.closed s.socket] } else .error .unfinished t := by
  obtain ⟨t, run, replied, panel⟩ := handleAll_converses unpacks small messages faultless talk
  refine ⟨t, replied, panel, ?_⟩
  rw [attend, run_bind_ok _ run]
  cases e.ended with
  | none => rfl
  | some ret =>
    rw [← replied.socket]
    rfl

end Messages

/-- The connection was served: these bytes were sent, and a reader of them gets the replies. -/
structure Served (pb : Protobuf) (s : Node) (e : Exchange) (t : Node) : Prop where
  panel : panelOf t = e.panel
  sent : t.tx.accepted = s.tx.accepted ++ e.replies.flatMap (wire pb)
  read : ∀ (fuel : Nat) (reader : Node), RoundTrip.Delivering reader →
    reader.rx.incoming = e.replies.flatMap (wire pb) →
    ∃ left, (Library.Stream.readMany (receiveMessage (fuel + 1)) e.replies.length).run reader =
      .ok (.ok (e.replies.map fun message => (writeCall pb message).content)) left ∧
      left.rx.incoming = []

theorem reads_replies (replies : List Outgoing) (fuel : Nat) {reader : Node}
    (delivering : RoundTrip.Delivering reader)
    (arrived : reader.rx.incoming = replies.flatMap (wire pb)) :
    ∃ left, (Library.Stream.readMany (receiveMessage (fuel + 1)) replies.length).run reader =
      .ok (.ok (replies.map fun message => (writeCall pb message).content)) left ∧
      left.rx.incoming = [] := by
  have good : ∀ content ∈ replies.map fun message => (writeCall pb message).content,
      content.2.length < 2 ^ 32 := by
    intro content member
    obtain ⟨message, -, rfl⟩ := List.mem_map.mp member
    exact (writeCall pb message).length_content_lt
  have bytes : reader.rx.incoming =
      (replies.map fun message => (writeCall pb message).content).flatMap
        (fun message => Writing.frame message.1 message.2) ++ [] := by
    rw [arrived, List.append_nil, List.flatMap_map]
    rfl
  obtain ⟨left, run, rest, -⟩ :=
    (RoundTrip.reads_messages fuel).many _ [] reader good delivering bytes
  rw [List.length_map] at run
  exact ⟨left, run, rest⟩

/-- A connection that brings the frames of some messages is answered as the specification says, and
is closed when the specification ends it. -/
theorem connection_served {unpack : Unpacker} (unpacks : Unpacks pb unpack) (small : Small pb)
    {s : Node} (faultless : Faultless s) {messages : List Message} (plain : s.rx.schedule = [])
    (sizes : ∀ message ∈ messages, message.2.length < 2 ^ 32)
    (incoming : s.rx.incoming = frames messages) {e : Exchange}
    (talk : converse unpack s.config s.entities (panelOf s) messages = some e) {fuel : Nat}
    (enough : messages.length < fuel) :
    ∃ t, Served pb s e t ∧
      if e.ended.isSome then
        (serveConnection pb fuel).run s = .ok () t ∧ t.events.getLast? = some (.closed s.socket)
      else (serveConnection pb fuel).run s = .error .unfinished t := by
  obtain ⟨rx, run⟩ := @serveConnection_attends pb messages s plain sizes incoming fuel enough
  obtain ⟨t, replied, panel, attended⟩ := attend_converses unpacks small faultless talk
  have read := fun fuel reader => @reads_replies pb e.replies fuel reader
  rw [attended] at run
  split
  · rename_i ended
    rw [if_pos ended, replaced_ok] at run
    exact ⟨putRx rx { t with events := t.events ++ [.closed s.socket] },
      ⟨panel, replied.accepted, read⟩, run, List.getLast?_concat⟩
  · rename_i waits
    rw [if_neg waits, replaced_error] at run
    exact ⟨putRx rx t, ⟨panel, replied.accepted, read⟩, run⟩

def lamp : Entity := { Kinds.namesake .switchGpio with key := 0x04030201 }

def unpackLamp : Unpacker
  | .switchCommandRequest, [0x0D, a, b, c, d, 0x10, state] => some
    { key := a.toUInt32 ||| b.toUInt32 <<< 8 ||| c.toUInt32 <<< 16 ||| d.toUInt32 <<< 24
      state := state.toNat }
  | _, _ => none

def lampProtobuf : Protobuf where
  unpack type data _ := unpackLamp type data
  pack
    | .switchStateResponse response =>
      if response.state = 0 then ⟨[0x0D, 1, 2, 3, 4], by decide⟩
      else ⟨[0x0D, 1, 2, 3, 4, 0x10, 1], by decide⟩
    | _ => ⟨[], by decide⟩

theorem lamp_small : Small lampProtobuf := by
  intro message
  have payload : (lampProtobuf.pack message).bytes.length ≤ 7 := by
    cases message with
    | switchStateResponse response =>
      unfold lampProtobuf
      dsimp only
      split <;> decide
    | _ => exact Nat.zero_le 7
  have short := @Writing.length_header_le message.rpcId _ (lampProtobuf.pack message).length_lt
  rw [frameOf, Writing.frame, List.length_append]
  omega

def lampMessages : List Message := [(33, [0x0D, 1, 2, 3, 4, 0x10, 1]), (5, [])]

theorem connection_served_lamp :
    ∃ t, Served lampProtobuf (freshNode none [lamp] (frames lampMessages))
        ⟨[.switchStateResponse ⟨0x04030201, 1⟩, .disconnectResponse], some (-enotconn),
          (panelOf (freshNode none [lamp] (frames lampMessages))).set lamp.dev 1⟩ t ∧
      (serveConnection lampProtobuf 3).run (freshNode none [lamp] (frames lampMessages)) =
        .ok () t ∧
      t.events.getLast? = some (.closed 3) :=
  @connection_served lampProtobuf unpackLamp (fun _ _ _ _ => rfl) lamp_small
    (freshNode none [lamp] (frames lampMessages)) ⟨rfl, rfl, fun _ => rfl, fun _ => rfl⟩ lampMessages
    rfl (by decide) rfl _ rfl 3 (by decide)

section Specification

variable (pb : Protobuf) (unpack : Unpacker) (config : EsphomeConfig) (entities : List Entity)

def serveClients (panel : Panel) : List (Option Client) → Option (List Notice × Panel)
  | [] => some ([], panel)
  | none :: later => serveClients panel later
  | some client :: later => do
    let e ← converse unpack config entities panel client.messages
    if e.ended.isSome then
      let (rest, last) ← serveClients e.panel later
      return (e.replies.map (fun message => .reply client.connection.socket (wire pb message)) ++
        .close client.connection.socket :: rest, last)
    else none

end Specification

theorem service_client {unpack : Unpacker} (unpacks : Unpacks pb unpack) (small : Small pb)
    {fuel : Nat} {client : Client} (enough : client.messages.length < fuel)
    (whole : client.connection.tx.schedule = []) {s : Node} (faultless : Faultless s) {e : Exchange}
    (talk : converse unpack s.config s.entities (panelOf s) client.messages = some e)
    (ended : e.ended.isSome = true) (later : List (Option Connection)) :
    ∃ t, (esphomeRpcService pb fuel (some client.connection :: later)).run s =
        (esphomeRpcService pb fuel later).run t ∧
      Faultless t ∧ t.config = s.config ∧ t.entities = s.entities ∧
      notices t = notices s ++ (e.replies.map fun message =>
        .reply client.connection.socket (wire pb message)) ++ [.close client.connection.socket] ∧
      panelOf t = e.panel := by
  have accepted : Faultless (s.accept client.connection) :=
    { faultless with accepts := whole }
  obtain ⟨rx, run⟩ := @serveConnection_attends pb client.messages (s.accept client.connection)
    client.plain client.small client.incoming fuel enough
  obtain ⟨t, replied, held, attended⟩ := attend_converses unpacks small accepted talk
  rw [attended, if_pos ended] at run
  refine ⟨putRx rx { t with events := t.events ++ [.closed client.connection.socket] }, ?_,
    { replied.faultless accepted with }, replied.config, replied.entities, ?_, held⟩
  · have start : (esphomeRpcService pb fuel (some client.connection :: later)).run s =
        (serveConnection pb fuel >>= fun _ => esphomeRpcService pb fuel later).run
          (s.accept client.connection) := rfl
    rw [start, run_bind_ok _ run]
    rfl
  · show (t.events ++ [Event.closed client.connection.socket]).filterMap notice = _
    rw [List.filterMap_append]
    show notices t ++ [.close client.connection.socket] = _
    rw [replied.noticed]
    rfl

theorem clients_served {unpack : Unpacker} (unpacks : Unpacks pb unpack) (small : Small pb)
    {fuel : Nat} {clients : List (Option Client)}
    (enough : ∀ client ∈ clients, ∀ c ∈ client, c.messages.length < fuel)
    (whole : ∀ client ∈ clients, ∀ c ∈ client, c.connection.tx.schedule = []) :
    ∀ {s : Node} {told : List Notice × Panel}, Faultless s →
      serveClients pb unpack s.config s.entities (panelOf s) clients = some told →
      ∃ t, (esphomeRpcService pb fuel (clients.map (·.map Client.connection))).run s = .ok () t ∧
        Faultless t ∧ notices t = notices s ++ told.1 ∧ panelOf t = told.2 := by
  induction clients with
  | nil =>
    intro s told faultless talk
    obtain rfl := Option.some.inj talk
    exact ⟨s, rfl, faultless, (List.append_nil _).symm, rfl⟩
  | cons client later ih =>
    intro s told faultless talk
    have served := @ih (fun other member => enough other (List.mem_cons_of_mem _ member))
      (fun other member => whole other (List.mem_cons_of_mem _ member))
    cases client with
    | none =>
      exact @served { s with socket := -1 } told { faultless with } talk
    | some client =>
      unfold serveClients at talk
      obtain ⟨e, talking, talk⟩ := Option.bind_eq_some_iff.mp talk
      by_cases ended : e.ended.isSome = true
      · rw [if_pos ended] at talk
        obtain ⟨rest, others, finish⟩ := Option.bind_eq_some_iff.mp talk
        obtain rfl := Option.some.inj finish
        obtain ⟨t, first, still, config, entities, heard, held⟩ := service_client unpacks small
          (enough _ List.mem_cons_self client rfl) (whole _ List.mem_cons_self client rfl) faultless
          talking ended (later.map (·.map Client.connection))
        rw [← held, ← config, ← entities] at others
        obtain ⟨u, serving, still', heard', panel⟩ := served still others
        refine ⟨u, ?_, still', ?_, panel⟩
        · rw [List.map_cons, Option.map_some, first]
          exact serving
        · rw [heard', heard, List.append_assoc, List.append_assoc]
          rfl
      · rw [if_neg ended] at talk
        cases talk

/-- The service answers every client in its turn as the specification says, closes each connection
once, and leaves the devices as the specification says. -/
theorem service_serves {unpack : Unpacker} (unpacks : Unpacks pb unpack) (small : Small pb)
    {fuel : Nat} {clients : List (Option Client)}
    (enough : ∀ client ∈ clients, ∀ c ∈ client, c.messages.length < fuel)
    (whole : ∀ client ∈ clients, ∀ c ∈ client, c.connection.tx.schedule = [])
    {s : Node} (faultless : Faultless s) {noticed : List Notice} {panel : Panel}
    (talk : serveClients pb unpack s.config s.entities (panelOf s) clients =
      some (noticed, panel)) :
    ∃ t, (esphomeRpcService pb fuel (clients.map (·.map Client.connection))).run s = .ok () t ∧
      notices t = notices s ++ noticed ∧ panelOf t = panel := by
  obtain ⟨t, run, -, told, held⟩ := clients_served unpacks small enough whole faultless talk
  exact ⟨t, run, told, held⟩

def lampClient (socket : Int) : Client where
  connection :=
    { socket := socket
      rx := ⟨frames lampMessages, [], 0, fun _ => 0⟩
      tx := ⟨[], []⟩ }
  messages := lampMessages
  plain := rfl
  small := by decide
  incoming := rfl

def lampTold (socket : Int) : List Notice :=
  [.reply socket (wire lampProtobuf (.switchStateResponse ⟨0x04030201, 1⟩)),
    .reply socket (wire lampProtobuf .disconnectResponse), .close socket]

theorem service_serves_lamp :
    ∃ t, (esphomeRpcService lampProtobuf 3
        ([some (lampClient 4), none, some (lampClient 6)].map (·.map Client.connection))).run
          (freshNode none [lamp] []) = .ok () t ∧
      notices t = lampTold 4 ++ lampTold 6 ∧
      panelOf t = ((panelOf (freshNode none [lamp] [])).set lamp.dev 1).set lamp.dev 1 := by
  refine @service_serves lampProtobuf unpackLamp (fun _ _ _ _ => rfl) lamp_small 3
    [some (lampClient 4), none, some (lampClient 6)] ?_ ?_ (freshNode none [lamp] [])
    ⟨rfl, rfl, fun _ => rfl, fun _ => rfl⟩ _ _ ?_
  · simp [lampClient, lampMessages]
  · simp [lampClient]
  · rfl

end ZephyrEsphome.Api.Server
