/- Digest: What the devices hold after the service has served its clients: the last command for each. -/

import ZephyrEsphome.Api.Server
import ZephyrEsphome.Library.Folding

set_option autoImplicit false
set_option relaxedAutoImplicit false

namespace ZephyrEsphome.Api.LastCommand

open Kernel
open Library.Folding
open Replies (held)
open Rpc
open Rpc.Conversation (Client Message)
open Server

inductive Order
  | set (dev : Device) (state : Int)
  | press (inst : Nat)
  deriving DecidableEq

def Panel.obey (panel : Panel) : Order → Panel
  | .set dev state => panel.set dev state
  | .press inst => panel.press inst

section Orders

variable (unpack : Unpacker) (entities : List Entity)

def orderOf (message : Message) : Option Order :=
  match MessageType.ofId message.1 with
  | some .switchCommandRequest =>
    (unpack .switchCommandRequest message.2).bind fun request =>
      (findDeviceEntityByKey entities request.key).map fun dev => .set dev request.state
  | some .buttonCommandRequest =>
    (unpack .buttonCommandRequest message.2).bind fun request =>
      (findDeviceEntityByKey entities request.key).map fun dev => .press dev.inst
  | _ => none

variable (config : EsphomeConfig)

def connectionOrders (panel : Panel) : List Message → List Order
  | [] => []
  | message :: later =>
    match respond unpack config entities panel message with
    | none => []
    | some a => (orderOf unpack entities message).toList ++
      if a.ret = 0 then connectionOrders a.panel later else []

def serviceOrders (panel : Panel) : List (Option Client) → List Order
  | [] => []
  | none :: later => serviceOrders panel later
  | some client :: later =>
    let orders := connectionOrders unpack entities config panel client.messages
    orders ++ serviceOrders (orders.foldl Panel.obey panel) later

end Orders

section Obeying

variable {unpack : Unpacker} {entities : List Entity} {config : EsphomeConfig}

theorem respond_obeys {panel : Panel} {message : Message} {a : Answer}
    (answered : respond unpack config entities panel message = some a) :
    a.panel = (orderOf unpack entities message).toList.foldl Panel.obey panel := by
  unfold respond at answered
  unfold orderOf
  cases known : MessageType.ofId message.1 with
  | none =>
    rw [known] at answered
    obtain rfl := Option.some.inj answered
    rfl
  | some type =>
    rw [known] at answered
    dsimp only at answered ⊢
    cases read : content unpack type message.2 with
    | none =>
      rw [read] at answered
      obtain rfl := Option.some.inj answered
      cases type with
      | switchCommandRequest =>
        have missing : unpack .switchCommandRequest message.2 = none := read
        rw [missing]
        rfl
      | buttonCommandRequest =>
        have missing : unpack .buttonCommandRequest message.2 = none := read
        rw [missing]
        rfl
      | _ => rfl
    | some fields =>
      rw [read] at answered
      dsimp only at answered
      cases type with
      | switchCommandRequest =>
        have there : unpack .switchCommandRequest message.2 = some fields := read
        rw [there, Option.bind_some]
        dsimp only [answer] at answered
        cases found : findDeviceEntityByKey entities fields.key with
        | none =>
          rw [found] at answered
          obtain rfl := Option.some.inj answered
          rfl
        | some dev =>
          rw [found] at answered
          dsimp only at answered
          split at answered
          · obtain rfl := Option.some.inj answered
            rfl
          · cases answered
      | buttonCommandRequest =>
        have there : unpack .buttonCommandRequest message.2 = some fields := read
        rw [there, Option.bind_some]
        dsimp only [answer] at answered
        cases found : findDeviceEntityByKey entities fields.key with
        | none =>
          rw [found] at answered
          obtain rfl := Option.some.inj answered
          rfl
        | some dev =>
          rw [found] at answered
          dsimp only at answered
          split at answered
          · obtain rfl := Option.some.inj answered
            rfl
          · cases answered
      | _ =>
        obtain rfl := Option.some.inj answered
        rfl

theorem converse_obeys (messages : List Message) : ∀ {panel : Panel} {e : Exchange},
    converse unpack config entities panel messages = some e →
    e.panel = (connectionOrders unpack entities config panel messages).foldl Panel.obey panel := by
  induction messages with
  | nil =>
    intro panel e talk
    rw [← Option.some.inj talk]
    rfl
  | cons message later ih =>
    intro panel e talk
    unfold converse at talk
    obtain ⟨a, answered, talk⟩ := Option.bind_eq_some_iff.mp talk
    have first := respond_obeys answered
    rw [connectionOrders, answered]
    dsimp only
    rw [List.foldl_append, ← first]
    by_cases going : a.ret = 0
    · rw [if_pos going] at talk ⊢
      obtain ⟨rest, talking, last⟩ := Option.bind_eq_some_iff.mp talk
      rw [← Option.some.inj last]
      show rest.panel = _
      exact ih talking
    · rw [if_neg going] at talk ⊢
      rw [← Option.some.inj talk]
      rfl

theorem serveClients_obeys {pb : Protobuf} (clients : List (Option Client)) :
    ∀ {panel : Panel} {told : List Notice × Panel},
    serveClients pb unpack config entities panel clients = some told →
    told.2 = (serviceOrders unpack entities config panel clients).foldl Panel.obey panel := by
  induction clients with
  | nil =>
    intro panel told talk
    rw [← Option.some.inj talk]
    rfl
  | cons client later ih =>
    intro panel told talk
    cases client with
    | none => exact ih talk
    | some client =>
      unfold serveClients at talk
      obtain ⟨e, talking, talk⟩ := Option.bind_eq_some_iff.mp talk
      by_cases ended : e.ended.isSome = true
      · rw [if_pos ended] at talk
        obtain ⟨rest, others, finish⟩ := Option.bind_eq_some_iff.mp talk
        obtain rfl := Option.some.inj finish
        have first := converse_obeys client.messages talking
        have rest := ih others
        rw [serviceOrders, List.foldl_append, ← first]
        exact rest
      · rw [if_neg ended] at talk
        cases talk

end Obeying

def Order.write : Order → Option (Device × Int)
  | .set dev state => some (dev, state)
  | .press _ => none

def lastSet (dev : Device) (orders : List Order) : Option Int :=
  lastWrite dev (orders.filterMap Order.write)

def presses (inst : Nat) (orders : List Order) : Nat := orders.count (.press inst)

theorem shown_obey (orders : List Order) : ∀ panel : Panel,
    (orders.foldl Panel.obey panel).shown =
      (orders.filterMap Order.write).foldl
        (fun store write => Function.update store write.1 write.2) panel.shown := by
  induction orders with
  | nil => exact fun _ => rfl
  | cons order orders ih =>
    intro panel
    rw [List.foldl_cons, ih]
    cases order with
    | set dev state => rfl
    | press inst => rfl

theorem powered_obey (orders : List Order) (dev : Device) : ∀ panel : Panel,
    (orders.foldl Panel.obey panel).powered dev =
      ((lastSet dev orders).map fun state =>
        dev.compatible = .switchGpio && state != 0).getD (panel.powered dev) := by
  induction orders using List.reverseRecOn with
  | nil => exact fun _ => rfl
  | append_singleton orders order ih =>
    intro panel
    rw [List.foldl_append, List.foldl_cons, List.foldl_nil, lastSet, List.filterMap_append]
    cases order with
    | set dev' state =>
      show Function.update _ dev' _ dev = _
      rw [show List.filterMap Order.write [.set dev' state] = [(dev', state)] from rfl,
        lastWrite_concat]
      by_cases same : dev' = dev
      · rw [same, if_pos rfl, Function.update_self]
        rfl
      · rw [if_neg same, Function.update_of_ne (Ne.symm same)]
        exact ih panel
    | press inst =>
      rw [show List.filterMap Order.write [.press inst] = [] from rfl, List.append_nil]
      exact ih panel

theorem presses_obey (orders : List Order) (inst : Nat) : ∀ panel : Panel,
    (orders.foldl Panel.obey panel).presses inst =
      (panel.presses inst).drop (presses inst orders) := by
  induction orders with
  | nil => exact fun _ => rfl
  | cons order orders ih =>
    intro panel
    rw [List.foldl_cons, ih, presses, presses, List.count_cons]
    cases order with
    | set dev state => rfl
    | press inst' =>
      show List.drop _ (Function.update panel.presses inst' _ inst) = _
      by_cases same : inst' = inst
      · subst same
        rw [Function.update_self, if_pos (beq_self_eq_true _), List.drop_tail]
      · have other : ¬ (Order.press inst' == Order.press inst) = true := by
          intro equal
          exact same (Order.press.inj (beq_iff_eq.mp equal))
        rw [Function.update_of_ne (Ne.symm same), if_neg other, Nat.add_zero]

/-- Each switch holds the last state it was ordered to take, its output is active accordingly, and each
button was pressed as often as it was ordered to be; what has no orders is as before. -/
structure Obeyed (orders : List Order) (s t : Node) : Prop where
  shown : ∀ dev, held dev t = (lastSet dev orders).getD (held dev s)
  powered : ∀ dev, output dev t = ((lastSet dev orders).map fun state =>
    dev.compatible = .switchGpio && state != 0).getD (output dev s)
  presses : ∀ inst, t.buttonTemplate inst = (s.buttonTemplate inst).drop (presses inst orders)

theorem obeyed_of_panel {orders : List Order} {s t : Node}
    (panel : panelOf t = orders.foldl Panel.obey (panelOf s)) : Obeyed orders s t where
  shown dev := by
    have shown := congrFun (congrArg Panel.shown panel) dev
    rw [shown_obey, foldl_update] at shown
    exact shown
  powered dev := by
    have powered := congrFun (congrArg Panel.powered panel) dev
    rw [powered_obey] at powered
    exact powered
  presses inst := by
    have presses := congrFun (congrArg Panel.presses panel) inst
    rw [presses_obey] at presses
    exact presses

section Service

variable {pb : Protobuf} {unpack : Unpacker}

/-- However many clients the service has had: every switch is in the state that the last command for it
asked for, and no other device has changed. -/
theorem last_command_stands (unpacks : Unpacks pb unpack) (small : Small pb) {fuel : Nat}
    {clients : List (Option Client)}
    (enough : ∀ client ∈ clients, ∀ c ∈ client, c.messages.length < fuel)
    (whole : ∀ client ∈ clients, ∀ c ∈ client, c.connection.tx.schedule = []) {s : Node}
    (faultless : Faultless s)
    (talk : (serveClients pb unpack s.config s.entities (panelOf s) clients).isSome = true) :
    ∃ t, (esphomeRpcService pb fuel (clients.map (·.map Client.connection))).run s = .ok () t ∧
      Obeyed (serviceOrders unpack s.entities s.config (panelOf s) clients) s t := by
  obtain ⟨told, talk⟩ := Option.isSome_iff_exists.mp talk
  obtain ⟨t, run, -, -, panel⟩ := clients_served unpacks small enough whole faultless talk
  exact ⟨t, run, obeyed_of_panel (panel.trans (serveClients_obeys clients talk))⟩

end Service

def darkClient (socket : Int) : Client where
  connection :=
    { socket := socket
      rx := ⟨Conversation.frames [(33, [0x0D, 1, 2, 3, 4, 0x10, 0]), (5, [])], [], 0, fun _ => 0⟩
      tx := ⟨[], []⟩ }
  messages := [(33, [0x0D, 1, 2, 3, 4, 0x10, 0]), (5, [])]
  plain := rfl
  small := by decide
  incoming := rfl

theorem last_command_stands_dark :
    ∃ t, (esphomeRpcService lampProtobuf 3
        ([some (lampClient 4), none, some (darkClient 4)].map (·.map Client.connection))).run
          (freshNode none [lamp] []) = .ok () t ∧
      Obeyed [.set lamp.dev 1, .set lamp.dev 0] (freshNode none [lamp] []) t := by
  refine @last_command_stands lampProtobuf unpackLamp (fun _ _ _ _ => rfl) lamp_small 3
    [some (lampClient 4), none, some (darkClient 4)] ?_ ?_ (freshNode none [lamp] [])
    ⟨rfl, rfl, fun _ => rfl, fun _ => rfl⟩ ?_
  · simp [lampClient, lampMessages, darkClient]
  · simp [lampClient, darkClient]
  · rfl

end ZephyrEsphome.Api.LastCommand
