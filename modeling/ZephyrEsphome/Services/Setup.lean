/- Digest: How a service gets its listening socket, and the steps its thread takes from there on. -/

import ZephyrEsphome.Kernel.Network

set_option autoImplicit false
set_option relaxedAutoImplicit false

namespace ZephyrEsphome.Services.Setup

open Kernel
open Library.Exec

structure Server where
  family : Family
  port : Int
  failed : Int → Bool
  failed_minus : failed (-1) = true
  not_failed : ∀ ret, 0 ≤ ret → failed ret = false

def Server.sinPort (server : Server) : UInt16 := UInt16.ofInt server.port

/-- `esphome_rpc_service` compares with -1. -/
def rpcServer (family : Family) (port : Int) : Server where
  family := family
  port := port
  failed ret := ret == -1
  failed_minus := rfl
  not_failed ret valid := by
    rw [beq_eq_false_iff_ne]
    omega

/-- `esphome_ota_service` asks for a negative number. -/
def otaServer (family : Family) : Server where
  family := family
  port := 8266
  failed ret := decide (ret < 0)
  failed_minus := rfl
  not_failed ret valid := by
    rw [decide_eq_false_iff_not]
    omega

section Steps

variable (server : Server)

/-- The option `IPV6_V6ONLY` is turned off where it is on. -/
def unsetV6Only (serverFd : Int) : Exec Caller Unit := do
  let (ret, opt) ← zsockGetsockopt serverFd
  if ret = 0 ∧ opt ≠ 0 then
    let _ ← zsockSetsockopt serverFd

def listenOn : Exec Caller (Except Int Int) := do
  let serverFd ← zsockSocket server.family
  if server.failed serverFd then
    return .error (← get).errno
  unsetV6Only serverFd
  let ret ← zsockBind serverFd server.family server.sinPort
  if server.failed ret then
    let _ ← zsockClose serverFd
    return .error (← get).errno
  let ret ← zsockListen serverFd 1
  if server.failed ret then
    let _ ← zsockClose serverFd
    return .error (← get).errno
  return .ok serverFd

theorem returns_abandon (fd : Int) : Returns (do
    let _ ← zsockClose fd
    return .error (← get).errno : Exec Caller (Except Int Int)) := by
  apply returns_bind (returns_onDescriptor fd (-1) (returns_modifyGet _))
  intro _
  exact returns_bind returns_get fun _ => returns_pure _

theorem returns_listenOn : Returns (listenOn server) := by
  apply returns_bind (returns_netCall (-1) _)
  intro serverFd
  apply returns_ite (returns_bind returns_get fun _ => returns_pure _)
  apply returns_bind
  · apply returns_bind (returns_onDescriptor serverFd (-1, 0) (returns_netCall (-1, 0) _))
    rintro ⟨ret, opt⟩
    apply returns_ite _ (returns_pure ())
    exact returns_bind (returns_onDescriptor serverFd (-1) (returns_netCall (-1) _)) fun _ =>
      returns_pure ()
  intro _
  apply returns_bind (returns_onDescriptor serverFd (-1) (returns_netCall (-1) _))
  intro ret
  apply returns_ite (returns_abandon serverFd)
  apply returns_bind (returns_onDescriptor serverFd (-1) (returns_netCall (-1) _))
  intro ret'
  exact returns_ite (returns_abandon serverFd) (returns_pure _)

inductive Position
  | start
  | created (serverFd : Int)
  /-- The option is on. -/
  | optioned (serverFd : Int)
  | unbound (serverFd : Int)
  | bound (serverFd : Int)
  | abandoning (serverFd : Int)
  | accepting (serverFd : Int)
  | serving (serverFd socket : Int)
  | closing (serverFd socket : Int)
  deriving DecidableEq

def serverStep : Position → Exec Caller (Position ⊕ Int)
  | .start => do
    let serverFd ← zsockSocket server.family
    if server.failed serverFd then
      return .inr (← get).errno
    return .inl (.created serverFd)
  | .created serverFd => do
    let (ret, opt) ← zsockGetsockopt serverFd
    if ret = 0 ∧ opt ≠ 0 then
      return .inl (.optioned serverFd)
    return .inl (.unbound serverFd)
  | .optioned serverFd => do
    let _ ← zsockSetsockopt serverFd
    return .inl (.unbound serverFd)
  | .unbound serverFd => do
    let ret ← zsockBind serverFd server.family server.sinPort
    if server.failed ret then
      return .inl (.abandoning serverFd)
    return .inl (.bound serverFd)
  | .bound serverFd => do
    let ret ← zsockListen serverFd 1
    if server.failed ret then
      return .inl (.abandoning serverFd)
    return .inl (.accepting serverFd)
  | .abandoning serverFd => do
    let _ ← zsockClose serverFd
    return .inr (← get).errno
  | .accepting serverFd => do
    let socket ← zsockAccept serverFd
    if server.failed socket then
      return .inl (.accepting serverFd)
    return .inl (.serving serverFd socket)
  | .serving serverFd socket => return .inl (.closing serverFd socket)
  | .closing serverFd socket => do
    let _ ← zsockClose socket
    return .inl (.accepting serverFd)

inductive Role
  | listener
  | connection
  deriving DecidableEq

def Position.holds : Position → Role → Option Int
  | .start, _ => none
  | .created serverFd, .listener => some serverFd
  | .optioned serverFd, .listener => some serverFd
  | .unbound serverFd, .listener => some serverFd
  | .bound serverFd, .listener => some serverFd
  | .abandoning serverFd, .listener => some serverFd
  | .accepting serverFd, .listener => some serverFd
  | .serving serverFd _, .listener => some serverFd
  | .serving _ socket, .connection => some socket
  | .closing serverFd _, .listener => some serverFd
  | .closing _ socket, .connection => some socket
  | _, .connection => none

def Position.Fits (sockets : Int → SocketState) : Position → Prop
  | .bound serverFd => sockets serverFd = .bound server.family server.sinPort
  | .accepting serverFd => sockets serverFd = .listening server.family server.sinPort 1
  | .serving serverFd socket =>
    sockets serverFd = .listening server.family server.sinPort 1 ∧ sockets socket = .connected
  | .closing serverFd socket =>
    sockets serverFd = .listening server.family server.sinPort 1 ∧ sockets socket = .connected
  | _ => True

inductive Follows : Position → Position → Prop
  | optioned {fd : Int} : Follows (.created fd) (.optioned fd)
  | plain {fd : Int} : Follows (.created fd) (.unbound fd)
  | unset {fd : Int} : Follows (.optioned fd) (.unbound fd)
  | notBound {fd : Int} : Follows (.unbound fd) (.abandoning fd)
  | deaf {fd : Int} : Follows (.bound fd) (.abandoning fd)
  | nobody {fd : Int} : Follows (.accepting fd) (.accepting fd)
  | served {fd socket : Int} : Follows (.serving fd socket) (.closing fd socket)

inductive Moves (s : NetStack) : Position → Position ⊕ Int → NetStack → Prop
  | refused {errno : Int} : Moves s .start (.inr errno) s.answered
  | created :
      Moves s .start (.inl (.created s.next)) (s.answered.hold s.next (.created server.family))
  | followed {position next : Position} {t : NetStack} (follows : Follows position next)
      (alike : s.Alike t) : Moves s position (.inl next) t
  | bound {fd : Int} : Moves s (.unbound fd) (.inl (.bound fd))
      (s.answered.hold fd (.bound server.family server.sinPort))
  | listens {fd : Int} : Moves s (.bound fd) (.inl (.accepting fd))
      (s.answered.hold fd (.listening server.family server.sinPort 1))
  | abandoned {fd errno : Int} : Moves s (.abandoning fd) (.inr errno) (s.answered.release fd)
  | accepted {fd : Int} :
      Moves s (.accepting fd) (.inl (.serving fd s.next)) (s.answered.hold s.next .connected)
  | closed {fd socket : Int} :
      Moves s (.closing fd socket) (.inl (.accepting fd)) (s.answered.release socket)

variable {server}

theorem moves_of_run {position : Position} {outcome : Position ⊕ Int} {c c' : Caller}
    (here : ∀ role fd, position.holds role = some fd → fd ∈ c.stack.opened)
    (fits : position.Fits server c.stack.sockets)
    (run : (serverStep server position).run c = .ok outcome c') :
    Moves server c.stack position outcome c'.stack := by
  have alike := c.stack.alike_answered
  have zero := server.not_failed 0 (Int.le_refl 0)
  cases position with
  | start =>
    rw [serverStep, zsockSocket] at run
    rcases run_netCall (-1) _ c with ⟨errno, failed⟩ | ⟨value, done⟩
    · rw [run_bind_ok _ failed, if_pos server.failed_minus] at run
      obtain ⟨rfl, rfl⟩ := EStateM.Result.ok.inj run
      exact .refused
    · have valid := server.not_failed _ c.stack.answered.next_valid
      rw [run_bind_ok _ done, if_neg (Bool.eq_false_iff.mp valid)] at run
      obtain ⟨rfl, rfl⟩ := EStateM.Result.ok.inj run
      exact .created
  | created fd =>
    rw [serverStep, zsockGetsockopt] at run
    rcases run_descriptorCall (here .listener fd rfl) ((-1, 0) : Int × Int) _ with
      ⟨errno, failed⟩ | ⟨opt, done⟩
    · rw [run_bind_ok _ failed] at run
      obtain ⟨rfl, rfl⟩ := EStateM.Result.ok.inj run
      exact .followed .plain alike
    · rw [run_bind_ok _ done] at run
      dsimp only at run
      by_cases on : opt = 0
      · rw [if_neg (by simp [on])] at run
        obtain ⟨rfl, rfl⟩ := EStateM.Result.ok.inj run
        exact .followed .plain alike
      · rw [if_pos ⟨rfl, on⟩] at run
        obtain ⟨rfl, rfl⟩ := EStateM.Result.ok.inj run
        exact .followed .optioned alike
  | optioned fd =>
    rw [serverStep, zsockSetsockopt] at run
    rcases run_descriptorCall (here .listener fd rfl) (-1) _ with ⟨errno, failed⟩ | ⟨value, done⟩
    · rw [run_bind_ok _ failed] at run
      obtain ⟨rfl, rfl⟩ := EStateM.Result.ok.inj run
      exact .followed .unset alike
    · rw [run_bind_ok _ done] at run
      obtain ⟨rfl, rfl⟩ := EStateM.Result.ok.inj run
      exact .followed .unset alike
  | unbound fd =>
    rw [serverStep, zsockBind] at run
    rcases run_descriptorCall (here .listener fd rfl) (-1) _ with ⟨errno, failed⟩ | ⟨value, done⟩
    · rw [run_bind_ok _ failed, if_pos server.failed_minus] at run
      obtain ⟨rfl, rfl⟩ := EStateM.Result.ok.inj run
      exact .followed .notBound alike
    · rw [run_bind_ok _ done, if_neg (Bool.eq_false_iff.mp zero)] at run
      obtain ⟨rfl, rfl⟩ := EStateM.Result.ok.inj run
      exact .bound
  | bound fd =>
    rw [serverStep, zsockListen] at run
    rcases run_descriptorCall (here .listener fd rfl) (-1) _ with ⟨errno, failed⟩ | ⟨value, done⟩
    · rw [run_bind_ok _ failed, if_pos server.failed_minus] at run
      obtain ⟨rfl, rfl⟩ := EStateM.Result.ok.inj run
      exact .followed .deaf alike
    · rw [run_bind_ok _ done, if_neg (Bool.eq_false_iff.mp zero)] at run
      obtain ⟨rfl, rfl⟩ := EStateM.Result.ok.inj run
      show Moves _ _ _ _ (c.stack.answered.listen fd 1)
      rw [NetStack.listen_bound (show c.stack.answered.sockets fd = _ from fits)]
      exact .listens
  | abandoning fd =>
    obtain ⟨ret, errno, closed⟩ := run_zsockClose (here .listener fd rfl)
    rw [serverStep, run_bind_ok _ closed] at run
    obtain ⟨rfl, rfl⟩ := EStateM.Result.ok.inj run
    exact .abandoned
  | accepting fd =>
    rw [serverStep, zsockAccept] at run
    rcases run_descriptorCall (here .listener fd rfl) (-1) _ with ⟨errno, failed⟩ | ⟨value, done⟩
    · rw [run_bind_ok _ failed, if_pos server.failed_minus] at run
      obtain ⟨rfl, rfl⟩ := EStateM.Result.ok.inj run
      exact .followed .nobody alike
    · have valid := server.not_failed _ c.stack.answered.next_valid
      rw [run_bind_ok _ done, if_neg (Bool.eq_false_iff.mp valid)] at run
      obtain ⟨rfl, rfl⟩ := EStateM.Result.ok.inj run
      exact .accepted
  | serving fd socket =>
    obtain ⟨rfl, rfl⟩ := EStateM.Result.ok.inj run
    exact .followed .served ⟨rfl, rfl, rfl⟩
  | closing fd socket =>
    obtain ⟨ret, errno, closed⟩ := run_zsockClose (here .connection socket rfl)
    rw [serverStep, run_bind_ok _ closed] at run
    obtain ⟨rfl, rfl⟩ := EStateM.Result.ok.inj run
    exact .closed

theorem unsetV6Only_rounds {fd : Int} {c₀ c c' : Caller}
    (before : Rounds (serverStep server) .start c₀ (.created fd) c)
    (run : (unsetV6Only fd).run c = .ok () c') :
    Rounds (serverStep server) .start c₀ (.unbound fd) c' := by
  obtain ⟨⟨ret, opt⟩, t, asked, run⟩ := run_bind_inv run
  dsimp only at run
  by_cases on : ret = 0 ∧ opt ≠ 0
  · rw [if_pos on] at run
    obtain ⟨ret', u, unset, run⟩ := run_bind_inv run
    obtain ⟨-, rfl⟩ := EStateM.Result.ok.inj run
    have first : (serverStep server (.created fd)).run c = .ok (.inl (.optioned fd)) t := by
      rw [serverStep, run_bind_ok _ asked]
      dsimp only
      rw [if_pos on]
      rfl
    have second : (serverStep server (.optioned fd)).run t = .ok (.inl (.unbound fd)) u := by
      rw [serverStep, run_bind_ok _ unset]
      rfl
    exact (before.next first).next second
  · rw [if_neg on] at run
    obtain ⟨-, rfl⟩ := EStateM.Result.ok.inj run
    have first : (serverStep server (.created fd)).run c = .ok (.inl (.unbound fd)) t := by
      rw [serverStep, run_bind_ok _ asked]
      dsimp only
      rw [if_neg on]
      rfl
    exact before.next first

/-- The thread makes some rounds, and ends at `zsock_accept` or with the returned number. -/
def Arrives (server : Server) (c : Caller) : Except Int Int → Caller → Prop
  | .ok fd, c' => Rounds (serverStep server) .start c (.accepting fd) c'
  | .error errno, c' => ∃ position t, Rounds (serverStep server) .start c position t ∧
    (serverStep server position).run t = .ok (.inr errno) c'

theorem abandon_arrives {fd : Int} {c₀ c c' : Caller} {r : Except Int Int}
    (before : Rounds (serverStep server) .start c₀ (.abandoning fd) c)
    (run : (do
      let _ ← zsockClose fd
      return .error (← get).errno : Exec Caller (Except Int Int)).run c = .ok r c') :
    Arrives server c₀ r c' := by
  obtain ⟨ret, t, closed, run⟩ := run_bind_inv run
  obtain ⟨rfl, rfl⟩ := EStateM.Result.ok.inj run
  refine ⟨.abandoning fd, c, before, ?_⟩
  rw [serverStep, run_bind_ok _ closed]
  rfl

theorem listenOn_arrives {c c' : Caller} {r : Except Int Int}
    (run : (listenOn server).run c = .ok r c') : Arrives server c r c' := by
  obtain ⟨fd, t, created, run⟩ := run_bind_inv run
  by_cases failed : server.failed fd = true
  · rw [if_pos failed] at run
    obtain ⟨rfl, rfl⟩ := EStateM.Result.ok.inj run
    refine ⟨.start, c, .start, ?_⟩
    rw [serverStep, run_bind_ok _ created, if_pos failed]
    rfl
  rw [if_neg failed] at run
  have first : (serverStep server .start).run c = .ok (.inl (.created fd)) t := by
    rw [serverStep, run_bind_ok _ created, if_neg failed]
    rfl
  obtain ⟨_, u, unset, run⟩ := run_bind_inv run
  have unbound := unsetV6Only_rounds (Rounds.start.next first) unset
  obtain ⟨ret, v, binding, run⟩ := run_bind_inv run
  by_cases failed : server.failed ret = true
  · rw [if_pos failed] at run
    apply abandon_arrives (unbound.next _) run
    rw [serverStep, run_bind_ok _ binding, if_pos failed]
    rfl
  rw [if_neg failed] at run
  have second : (serverStep server (.unbound fd)).run u = .ok (.inl (.bound fd)) v := by
    rw [serverStep, run_bind_ok _ binding, if_neg failed]
    rfl
  obtain ⟨ret', w, listening, run⟩ := run_bind_inv run
  by_cases failed : server.failed ret' = true
  · rw [if_pos failed] at run
    apply abandon_arrives ((unbound.next second).next _) run
    rw [serverStep, run_bind_ok _ listening, if_pos failed]
    rfl
  rw [if_neg failed] at run
  obtain ⟨rfl, rfl⟩ := EStateM.Result.ok.inj run
  apply (unbound.next second).next
  rw [serverStep, run_bind_ok _ listening, if_neg failed]
  rfl

end Steps

end ZephyrEsphome.Services.Setup
