/- Digest: A service from its first line on: what it does to its device, and to the descriptors. -/

import ZephyrEsphome.Api.SensorSocket
import ZephyrEsphome.Ota.Slot
import ZephyrEsphome.Services.Threads

set_option autoImplicit false
set_option relaxedAutoImplicit false

namespace ZephyrEsphome.Services.Lifetime

open Kernel
open Library.Exec
open Library.Transition
open Setup Threads
open Rpc (Node serveConnection)

structure Host (σ : Type) where
  caller : Caller
  device : σ

section Code

variable {σ Peer α : Type}

def onCaller (m : Exec Caller α) : Exec (Host σ) α :=
  zoom Host.caller (fun caller host => { host with caller := caller }) m

def onDevice (m : Exec σ α) : Exec (Host σ) α :=
  zoom Host.device (fun device host => { host with device := device }) m

/-- What a service does with the results of `zsock_accept`. -/
structure Service (σ Peer : Type) where
  server : Server
  /-- After a call that failed. -/
  missed : Int → Exec σ Unit
  /-- From the accept of a connection up to its close, with the descriptor that is closed. -/
  session : Peer → Int → Exec σ Int

variable (service : Service σ Peer)

/-- The accept loop, for as many calls of `zsock_accept` as there are peers. -/
def acceptLoop (serverFd : Int) : List Peer → Exec (Host σ) Unit
  | [] => return ()
  | peer :: later => do
    let socket ← onCaller (zsockAccept serverFd)
    if service.server.failed socket then
      onDevice (service.missed socket)
      acceptLoop serverFd later
    else
      let fd ← onDevice (service.session peer socket)
      let _ ← onCaller (zsockClose fd)
      acceptLoop serverFd later

/-- The service up to its next call of `zsock_accept`, or what it returns. -/
def serve (peers : List Peer) : Exec (Host σ) (Option Int) := do
  match ← onCaller (listenOn service.server) with
  | .error errno => return some errno
  | .ok serverFd =>
    acceptLoop service serverFd peers
    return none

/-- The device while its thread goes through the results of `zsock_accept`. -/
def attend : List (Int × Peer) → Exec σ Unit
  | [] => return ()
  | (socket, peer) :: later => do
    if service.server.failed socket then
      service.missed socket
      attend later
    else
      let _ ← service.session peer socket
      attend later

end Code

/-- The accept loop of `esphome_rpc_service`, which keeps the descriptor in `rpc_data->socket`. -/
def rpcService (pb : Rpc.Protobuf) (fuel : Nat) (family : Family) (port : Int) :
    Service Node (Receiver × Transmitter) where
  server := rpcServer family port
  missed socket := modify fun node => { node with socket := socket }
  session peer socket := do
    modify (·.accept ⟨socket, peer.1, peer.2⟩)
    serveConnection pb fuel
    return (← get).socket

/-- The accept loop of `esphome_ota_service`. -/
def otaService (fuel : Nat) (family : Family) : Service Ota.OtaNode Ota.Connection where
  server := otaServer family
  missed _ := return ()
  session connection socket := do
    modify (·.accept connection)
    let _ ← Ota.esphomeOtaRun fuel
    return socket

/-- `esphome_rpc_service`. -/
def esphomeRpcService (pb : Rpc.Protobuf) (fuel : Nat) (family : Family) (port : Int)
    (peers : List (Receiver × Transmitter)) : Exec (Host Node) (Option Int) :=
  serve (rpcService pb fuel family port) peers

/-- `esphome_ota_service` after the image is confirmed. -/
def esphomeOtaService (fuel : Nat) (family : Family) (connections : List Ota.Connection) :
    Exec (Host Ota.OtaNode) (Option Int) := do
  let ret ← onDevice (modifyGet fun node =>
    (node.flash.flashImgInit.1, { node with flash := node.flash.flashImgInit.2 }))
  if ret ≠ 0 then
    return some ret
  serve (otaService fuel family) connections

section Course

variable {σ Peer : Type}

structure Closes (service : Service σ Peer) : Prop where
  missed : ∀ ret, Returns (service.missed ret)
  session : ∀ peer socket s fd t,
    (service.session peer socket).run s = .ok fd t → fd = socket

def alone (c : Caller) (position : Position) : System Unit where
  stack := c.stack
  errno _ := c.errno
  threads _ := .inl position

theorem rounds_leads {server : Server} {c c' : Caller} {position : Position}
    (rounds : Rounds (serverStep server) .start c position c') :
    ∃ turns, leads (step fun _ => server) turns (alone c .start) = some (alone c' position) := by
  induction rounds with
  | start => exact ⟨[], rfl⟩
  | @next p p' s t before round ih =>
    obtain ⟨turns, reached⟩ := ih
    refine ⟨turns ++ [()], leads_trans _ reached ?_⟩
    have taken : step (fun _ => server) (alone s p) () = some (alone t p') := by
      rw [step_run (fun _ => server) rfl round]
      congr 1
    rw [leads_cons _ taken, leads_nil]

theorem inv_rounds {server : Server} {c c' : Caller} {position : Position}
    (rounds : Rounds (serverStep server) .start c position c') :
    Inv (fun _ => server) (alone c .start) (alone c' position) := by
  obtain ⟨turns, reached⟩ := rounds_leads rounds
  exact throughout_of_step (step fun _ => server)
    (fun s tid t inv taken => inv_step tid t inv taken) (inv_start fun _ => rfl) turns turns [] _
    (List.append_nil _).symm reached

private theorem exists_role {P : Role → Prop} : (∃ role, P role) ↔ P .listener ∨ P .connection := by
  constructor
  · rintro ⟨role, holds⟩
    cases role with
    | listener => exact Or.inl holds
    | connection => exact Or.inr holds
  · rintro (holds | holds)
    · exact ⟨.listener, holds⟩
    · exact ⟨.connection, holds⟩

theorem mem_opened {server : Server} {c c' : Caller} {position : Position}
    (rounds : Rounds (serverStep server) .start c position c') (fd : Int) :
    fd ∈ c'.stack.opened ↔ fd ∈ c.stack.opened ∨ position.holds .listener = some fd ∨
      position.holds .connection = some fd := by
  have owned := (inv_rounds rounds).owned
  rw [← exists_role (P := fun role => position.holds role = some fd)]
  constructor
  · intro member
    rcases owned.owner fd member with old | ⟨⟨_, role⟩, has⟩
    · exact Or.inl old
    · exact Or.inr ⟨role, has⟩
  · rintro (old | ⟨role, has⟩)
    · exact owned.kept old
    · exact (owned.held ((), role) fd has).1

structure Holds (server : Server) (start : Caller) (serverFd : Int) (sockets : Finset Int)
    (c : Caller) : Prop where
  new : serverFd ∉ start.stack.opened
  opened : c.stack.opened = sockets ∪ insert serverFd start.stack.opened
  listening : c.stack.sockets serverFd = .listening server.family server.sinPort 1
  strays : c.stack.strays = start.stack.strays

theorem holds_accepting {server : Server} {c c' : Caller} {serverFd : Int}
    (rounds : Rounds (serverStep server) .start c (.accepting serverFd) c') :
    Holds server c serverFd ∅ c' := by
  have inv := inv_rounds rounds
  refine ⟨(inv.owned.held ((), .listener) serverFd rfl).2, ?_, inv.fits () _ rfl, inv.strays⟩
  ext fd
  rw [mem_opened rounds]
  simp [Position.holds, eq_comm, or_comm]

theorem holds_serving {server : Server} {c c' : Caller} {serverFd socket : Int}
    (rounds : Rounds (serverStep server) .start c (.serving serverFd socket) c') :
    socket ∉ insert serverFd c.stack.opened ∧ Holds server c serverFd {socket} c' := by
  have inv := inv_rounds rounds
  have new := (inv.owned.held ((), .connection) socket rfl).2
  constructor
  · intro member
    rcases Finset.mem_insert.mp member with same | old
    · have roles := inv.owned.apart ((), .connection) ((), .listener) socket rfl (by rw [same]; rfl)
      exact absurd (congrArg Prod.snd roles) (by decide)
    · exact new old
  · refine ⟨(inv.owned.held ((), .listener) serverFd rfl).2, ?_, (inv.fits () _ rfl).1, inv.strays⟩
    ext fd
    rw [mem_opened rounds]
    simp [Position.holds, eq_comm, or_assoc, or_comm]

theorem opened_returned {server : Server} {c t c' : Caller} {position : Position} {errno : Int}
    (rounds : Rounds (serverStep server) .start c position t)
    (last : (serverStep server position).run t = .ok (.inr errno) c') :
    c'.stack.opened = c.stack.opened ∧ c'.stack.strays = c.stack.strays := by
  have inv := @inv_settle _ _ _ _ _ (inv_rounds rounds) () _ rfl _ _ last
  exact ⟨inv.owned.rest fun _ => rfl, inv.strays⟩

variable {service : Service σ Peer}

/-- These are results of `zsock_accept`, one for each peer. -/
structure Results (server : Server) (start : Caller) (serverFd : Int) (peers : List Peer)
    (results : List (Int × Peer)) : Prop where
  peers : results.map Prod.snd = peers
  fresh : ∀ result ∈ results, server.failed result.1 = false →
    result.1 ∉ insert serverFd start.stack.opened

section Results

variable {server : Server} {start : Caller} {serverFd : Int}

theorem results_nil : Results server start serverFd ([] : List Peer) [] :=
  ⟨rfl, nofun⟩

theorem Results.cons {peers : List Peer} {results : List (Int × Peer)}
    (later : Results server start serverFd peers results) {socket : Int} (peer : Peer)
    (fresh : server.failed socket = false → socket ∉ insert serverFd start.stack.opened) :
    Results server start serverFd (peer :: peers) ((socket, peer) :: results) := by
  refine ⟨congrArg (peer :: ·) later.peers, ?_⟩
  intro result member succeeded
  rcases List.mem_cons.mp member with rfl | other
  · exact fresh succeeded
  · exact later.fresh result other succeeded

theorem results_unasked (peers : List Peer) :
    Results server start serverFd peers (peers.map fun peer => (-1, peer)) := by
  induction peers with
  | nil => exact results_nil
  | cons peer peers ih =>
    apply ih.cons peer
    intro succeeded
    rw [server.failed_minus] at succeeded
    cases succeeded

end Results

inductive Together (server : Server) (start : Caller) (serverFd : Int) :
    EStateM.Result Stop (Host σ) Unit → EStateM.Result Stop σ Unit → Prop
  | waits {c : Caller} {t : σ}
      (rounds : Rounds (serverStep server) .start start (.accepting serverFd) c) :
      Together server start serverFd (.ok () ⟨c, t⟩) (.ok () t)
  | stops {c : Caller} {t : σ} {e : Stop} {socket : Int}
      (rounds : Rounds (serverStep server) .start start (.serving serverFd socket) c) :
      Together server start serverFd (.error e ⟨c, t⟩) (.error e t)

theorem acceptLoop_together (closes : Closes service) {start : Caller} {serverFd : Int}
    (peers : List Peer) : ∀ {c : Caller} (s : σ),
    Rounds (serverStep service.server) .start start (.accepting serverFd) c →
    ∃ results, Results service.server start serverFd peers results ∧
      Together service.server start serverFd ((acceptLoop service serverFd peers).run ⟨c, s⟩)
        ((attend service results).run s) := by
  induction peers with
  | nil =>
    intro c s rounds
    exact ⟨[], results_nil, .waits rounds⟩
  | cons peer later ih =>
    intro c s rounds
    obtain ⟨socket, c', accepted⟩ := returns_onDescriptor serverFd (-1)
      (returns_netCall (-1) fun _ stack => (stack.next, stack.hold stack.next .connected)) c
    replace accepted : (zsockAccept serverFd).run c = .ok socket c' := accepted
    have first : (onCaller (zsockAccept serverFd)).run (⟨c, s⟩ : Host σ) = .ok socket ⟨c', s⟩ :=
      run_zoom_ok _ accepted
    by_cases failed : service.server.failed socket = true
    · obtain ⟨⟨⟩, s', missed⟩ := closes.missed socket s
      have second : (onDevice (service.missed socket)).run (⟨c', s⟩ : Host σ) =
          .ok () ⟨c', s'⟩ := run_zoom_ok _ missed
      have round : (serverStep service.server (.accepting serverFd)).run c =
          .ok (.inl (.accepting serverFd)) c' := by
        rw [serverStep, run_bind_ok _ accepted, if_pos failed]
        rfl
      obtain ⟨results, all, together⟩ := ih s' (rounds.next round)
      refine ⟨(socket, peer) :: results, all.cons peer ?_, ?_⟩
      · intro succeeded
        rw [failed] at succeeded
        cases succeeded
      · rw [acceptLoop, run_bind_ok _ first, if_pos failed, run_bind_ok _ second, attend,
          if_pos failed, run_bind_ok _ missed]
        exact together
    · have round : (serverStep service.server (.accepting serverFd)).run c =
          .ok (.inl (.serving serverFd socket)) c' := by
        rw [serverStep, run_bind_ok _ accepted, if_neg failed]
        rfl
      have serving := rounds.next round
      have fresh := (holds_serving serving).1
      cases session : (service.session peer socket).run s with
      | error e t =>
        have second : (onDevice (service.session peer socket)).run (⟨c', s⟩ : Host σ) =
            .error e ⟨c', t⟩ := run_zoom_error _ session
        refine ⟨(socket, peer) :: later.map fun peer => (-1, peer),
          (results_unasked later).cons peer fun _ => fresh, ?_⟩
        rw [acceptLoop, run_bind_ok _ first, if_neg failed, run_bind_error _ second, attend,
          if_neg failed, run_bind_error _ session]
        exact .stops serving
      | ok fd t =>
        obtain rfl := closes.session peer socket s fd t session
        have second : (onDevice (service.session peer fd)).run (⟨c', s⟩ : Host σ) =
            .ok fd ⟨c', t⟩ := run_zoom_ok _ session
        have here : fd ∈ c'.stack.opened := (mem_opened serving fd).mpr (Or.inr (Or.inr rfl))
        obtain ⟨ret, errno, closed⟩ := run_zsockClose here
        have third : (onCaller (zsockClose fd)).run (⟨c', t⟩ : Host σ) = .ok ret ⟨_, t⟩ :=
          run_zoom_ok _ closed
        have last : (serverStep service.server (.closing serverFd fd)).run c' =
            .ok (.inl (.accepting serverFd)) ⟨c'.stack.answered.release fd, errno⟩ := by
          rw [serverStep, run_bind_ok _ closed]
          rfl
        have served : (serverStep service.server (.serving serverFd fd)).run c' =
            .ok (.inl (.closing serverFd fd)) c' := rfl
        obtain ⟨results, all, together⟩ := ih t ((serving.next served).next last)
        refine ⟨(fd, peer) :: results, all.cons peer fun _ => fresh, ?_⟩
        rw [acceptLoop, run_bind_ok _ first, if_neg failed, run_bind_ok _ second,
          run_bind_ok _ third, attend, if_neg failed, run_bind_ok _ session]
        exact together

/-- How the thread of a service can go: it returns without having accepted anything, it waits at
`zsock_accept` with all connections closed again, or it is in a session that does not end. The device
does what `behaviour` says. -/
inductive Course (server : Server) (start : Host σ) (peers : List Peer)
    (behaviour : List (Int × Peer) → Exec σ Unit) : EStateM.Result Stop (Host σ) (Option Int) → Prop
  | returned {errno : Int} {c : Caller} (opened : c.stack.opened = start.caller.stack.opened)
      (strays : c.stack.strays = start.caller.stack.strays) :
      Course server start peers behaviour (.ok (some errno) ⟨c, start.device⟩)
  | waits {serverFd : Int} {results : List (Int × Peer)} {c : Caller} {t : σ}
      (all : Results server start.caller serverFd peers results)
      (attended : (behaviour results).run start.device = .ok () t)
      (holds : Holds server start.caller serverFd ∅ c) :
      Course server start peers behaviour (.ok none ⟨c, t⟩)
  | stops {serverFd socket : Int} {results : List (Int × Peer)} {e : Stop} {c : Caller} {t : σ}
      (all : Results server start.caller serverFd peers results)
      (attended : (behaviour results).run start.device = .error e t)
      (new : socket ∉ insert serverFd start.caller.stack.opened)
      (holds : Holds server start.caller serverFd {socket} c) :
      Course server start peers behaviour (.error e ⟨c, t⟩)

theorem serve_course (closes : Closes service) (peers : List Peer) (s : Host σ) :
    Course service.server s peers (attend service) ((serve service peers).run s) := by
  obtain ⟨caller, device⟩ := s
  obtain ⟨r, c, listening⟩ := returns_listenOn service.server caller
  have arrives := listenOn_arrives listening
  have first : (onCaller (listenOn service.server)).run (⟨caller, device⟩ : Host σ) =
      .ok r ⟨c, device⟩ := run_zoom_ok _ listening
  rw [serve, run_bind_ok _ first]
  cases r with
  | error errno =>
    obtain ⟨position, t, rounds, last⟩ := arrives
    obtain ⟨opened, strays⟩ := opened_returned rounds last
    exact .returned opened strays
  | ok serverFd =>
    obtain ⟨results, all, together⟩ := acceptLoop_together closes peers device arrives
    dsimp only
    generalize looped : (acceptLoop service serverFd peers).run (⟨c, device⟩ : Host σ) = host
      at together
    generalize attended : (attend service results).run device = result at together
    cases together with
    | waits rounds =>
      rw [run_bind_ok _ looped]
      exact .waits all attended (holds_accepting rounds)
    | stops rounds =>
      rw [run_bind_error _ looped]
      obtain ⟨new, holds⟩ := holds_serving rounds
      exact .stops all attended new holds

theorem Course.imp {server : Server} {start : Host σ} {peers : List Peer}
    {behaviour behaviour' : List (Int × Peer) → Exec σ Unit}
    (same : ∀ results, behaviour results = behaviour' results)
    {r : EStateM.Result Stop (Host σ) (Option Int)} (course : Course server start peers behaviour r) :
    Course server start peers behaviour' r := by
  rwa [← funext same]

end Course

section Rpc

variable (pb : Rpc.Protobuf) (fuel : Nat) (family : Family) (port : Int)

theorem socket_serveConnection {s t : Node} (run : (serveConnection pb fuel).run s = .ok () t) :
    t.socket = s.socket := by
  obtain ⟨ret, u, looped, closing⟩ := run_bind_inv run
  obtain ⟨-, rfl⟩ := EStateM.Result.ok.inj closing
  have rounds : ∀ c, Keeps (.always (Api.SensorSocket.Aimed s.socket))
      (Rpc.requestRound pb fuel c) := by
    intro c
    apply keeps_bind (Api.SensorSocket.aimed_readRequest s.socket pb fuel)
    intro ret
    exact keeps_ite (keeps_pure _) (keeps_pure _)
  have all : Keeps (.always (Api.SensorSocket.Aimed s.socket))
      (loop .unfinished (Rpc.requestRound pb fuel) fuel ()) := keeps_loop rounds fuel ()
  have kept := all.final s rfl
  rw [looped] at kept
  exact kept.1

theorem rpcService_closes : Closes (rpcService pb fuel family port) where
  missed _ := returns_modifyGet _
  session peer socket s fd t run := by
    obtain ⟨_, u, accepted, run⟩ := run_bind_inv run
    obtain ⟨-, rfl⟩ := EStateM.Result.ok.inj accepted
    obtain ⟨_, v, served, run⟩ := run_bind_inv run
    obtain ⟨rfl, -⟩ := EStateM.Result.ok.inj run
    exact socket_serveConnection pb fuel served

/-- What `zsock_accept` gave out. -/
def rpcAccepted (result : Int × Receiver × Transmitter) : Option Rpc.Connection :=
  if result.1 = -1 then none else some ⟨result.1, result.2.1, result.2.2⟩

theorem attend_rpc (results : List (Int × Receiver × Transmitter)) :
    attend (rpcService pb fuel family port) results =
      Rpc.esphomeRpcService pb fuel (results.map rpcAccepted) := by
  induction results with
  | nil => rfl
  | cons result later ih =>
    obtain ⟨socket, rx, tx⟩ := result
    rw [attend, List.map_cons, rpcAccepted, ih]
    by_cases failed : socket = -1
    · subst failed
      rfl
    · have succeeded : ¬ (rpcService pb fuel family port).server.failed socket = true := by
        intro same
        exact failed (beq_iff_eq.mp same)
      rw [if_neg succeeded, if_neg failed, Rpc.esphomeRpcService]
      show ((modify _ >>= fun _ => serveConnection pb fuel >>= fun _ => _) >>= fun _ => _) = _
      rw [bind_assoc]
      apply bind_congr
      intro _
      rw [bind_assoc]
      rfl

/-- Whatever the calls of the stack meet: `esphome_rpc_service` returns and has closed what it opened,
or it listens on its port and its device goes through the connections as its accept loop says, where
all connections but the one it is in are closed, and no call was made on a closed descriptor. -/
theorem rpc_service_course (peers : List (Receiver × Transmitter)) (s : Host Node) :
    Course (rpcServer family port) s peers
      (fun results => Rpc.esphomeRpcService pb fuel (results.map rpcAccepted))
      ((esphomeRpcService pb fuel family port peers).run s) :=
  (serve_course (rpcService_closes pb fuel family port) peers s).imp (attend_rpc pb fuel family port)

end Rpc

section Ota

variable (fuel : Nat) (family : Family)

theorem otaService_closes : Closes (otaService fuel family) where
  missed _ := returns_pure ()
  session connection socket s fd t run := by
    obtain ⟨_, u, accepted, run⟩ := run_bind_inv run
    obtain ⟨ret, v, ended, run⟩ := run_bind_inv run
    exact (EStateM.Result.ok.inj run).1.symm

/-- What `zsock_accept` gave out. -/
def otaAccepted (result : Int × Ota.Connection) : Option Ota.Connection :=
  if result.1 < 0 then none else some result.2

theorem attend_ota (results : List (Int × Ota.Connection)) :
    attend (otaService fuel family) results = Ota.serve fuel (results.filterMap otaAccepted) := by
  induction results with
  | nil => rfl
  | cons result later ih =>
    obtain ⟨socket, connection⟩ := result
    rw [attend, ih]
    by_cases failed : socket < 0
    · have same : (otaService fuel family).server.failed socket = true := decide_eq_true failed
      rw [if_pos same, List.filterMap_cons_none (by rw [otaAccepted, if_pos failed])]
      rfl
    · have succeeded : ¬ (otaService fuel family).server.failed socket = true := by
        intro same
        exact failed (of_decide_eq_true same)
      rw [if_neg succeeded, List.filterMap_cons_some (by rw [otaAccepted, if_neg failed]),
        Ota.serve]
      show ((modify _ >>= fun _ => Ota.esphomeOtaRun fuel >>= fun _ => _) >>= fun _ => _) = _
      rw [bind_assoc]
      apply bind_congr
      intro _
      rw [bind_assoc]
      rfl

/-- The same holds of `esphome_ota_service` once `flash_img_init` has succeeded; where it fails, the
service returns its number and has made no call on the stack. -/
theorem ota_service_course (connections : List Ota.Connection) (s : Host Ota.OtaNode) :
    if s.device.flash.flashImgInit.1 ≠ 0 then
      (esphomeOtaService fuel family connections).run s =
        .ok (some s.device.flash.flashImgInit.1) ⟨s.caller, Ota.Slot.started s.device⟩
    else
      Course (otaServer family) ⟨s.caller, Ota.Slot.started s.device⟩ connections
        (fun results => Ota.serve fuel (results.filterMap otaAccepted))
        ((esphomeOtaService fuel family connections).run s) := by
  have init : (esphomeOtaService fuel family connections).run s =
      (if s.device.flash.flashImgInit.1 ≠ 0 then pure (some s.device.flash.flashImgInit.1)
        else serve (otaService fuel family) connections :
          Exec (Host Ota.OtaNode) (Option Int)).run ⟨s.caller, Ota.Slot.started s.device⟩ := rfl
  rw [init]
  split
  · rfl
  · exact (serve_course (otaService_closes fuel family) connections _).imp (attend_ota fuel family)

end Ota

end ZephyrEsphome.Services.Lifetime
