/- Digest: Several services over the descriptors of one device, in any interleaving. -/

import ZephyrEsphome.Library.Resources
import ZephyrEsphome.Library.Transition
import ZephyrEsphome.Services.Setup

set_option autoImplicit false
set_option relaxedAutoImplicit false

namespace ZephyrEsphome.Services.Threads

open Kernel
open Library.Exec
open Library.Resources (Owned owned_start)
open Library.Transition
open Setup

/-- The stack that the threads share; each thread has its own `errno`, and is somewhere in its code
or has returned a number. -/
structure System (Tid : Type) where
  stack : NetStack
  errno : Tid → Int
  threads : Tid → Position ⊕ Int

def held : Position ⊕ Int → Role → Option Int
  | .inl position, role => position.holds role
  | .inr _, _ => none

variable {Tid : Type}

def System.holds (s : System Tid) (holder : Tid × Role) : Option Int :=
  held (s.threads holder.1) holder.2

variable [DecidableEq Tid]

def System.settle (s : System Tid) (tid : Tid) (outcome : Position ⊕ Int) (c : Caller) :
    System Tid where
  stack := c.stack
  errno := Function.update s.errno tid c.errno
  threads := Function.update s.threads tid outcome

variable (servers : Tid → Server)

def step (s : System Tid) (tid : Tid) : Option (System Tid) :=
  match s.threads tid with
  | .inl position =>
    match (serverStep (servers tid) position).run ⟨s.stack, s.errno tid⟩ with
    | .ok outcome c => some (s.settle tid outcome c)
    | .error _ _ => none
  | .inr _ => none

theorem step_run {s : System Tid} {tid : Tid} {position : Position}
    (here : s.threads tid = .inl position) {outcome : Position ⊕ Int} {c : Caller}
    (run : (serverStep (servers tid) position).run ⟨s.stack, s.errno tid⟩ = .ok outcome c) :
    step servers s tid = some (s.settle tid outcome c) := by
  unfold step
  rw [here]
  dsimp only
  rw [run]

structure Inv (start s : System Tid) : Prop where
  owned : Owned start.stack.opened s.stack.opened s.holds
  fits : ∀ tid position, s.threads tid = .inl position →
    position.Fits (servers tid) s.stack.sockets
  strays : s.stack.strays = start.stack.strays

inductive Handled (s : NetStack) (position : Position) (outcome : Position ⊕ Int) :
    NetStack → Prop
  | kept {t : NetStack} (opened : t.opened = s.opened)
      (others : ∀ fd, (∀ role, position.holds role ≠ some fd) → t.sockets fd = s.sockets fd)
      (same : held outcome = position.holds) : Handled s position outcome t
  | taken {t : NetStack} (role : Role) (opened : t.opened = insert s.next s.opened)
      (others : ∀ fd, fd ≠ s.next → t.sockets fd = s.sockets fd)
      (empty : position.holds role = none)
      (more : held outcome = Function.update position.holds role (some s.next)) :
      Handled s position outcome t
  | given {t : NetStack} (role : Role) {fd : Int} (opened : t.opened = s.opened.erase fd)
      (sockets : t.sockets = s.sockets) (full : position.holds role = some fd)
      (less : held outcome = Function.update position.holds role none) :
      Handled s position outcome t

private theorem held_congr {f g : Role → Option Int} (listener : f .listener = g .listener)
    (connection : f .connection = g .connection) : f = g := by
  funext role
  cases role with
  | listener => exact listener
  | connection => exact connection

theorem handled_of_moves {server : Server} {s t : NetStack} {position : Position}
    {outcome : Position ⊕ Int}
    (here : ∀ role fd, position.holds role = some fd → fd ∈ s.opened)
    (moves : Moves server s position outcome t) : Handled s position outcome t := by
  cases moves with
  | refused => exact .kept rfl (fun _ _ => rfl) (held_congr rfl rfl)
  | created =>
    exact .taken .listener rfl (fun fd other => Function.update_of_ne other _ _) rfl
      (held_congr rfl rfl)
  | followed follows alike =>
    refine .kept alike.opened (fun fd _ => congrFun alike.sockets fd) ?_
    cases follows with
    | optioned => exact held_congr rfl rfl
    | plain => exact held_congr rfl rfl
    | unset => exact held_congr rfl rfl
    | notBound => exact held_congr rfl rfl
    | deaf => exact held_congr rfl rfl
    | nobody => rfl
    | served => exact held_congr rfl rfl
  | @bound fd =>
    refine .kept (Finset.insert_eq_of_mem (here .listener fd rfl)) ?_ (held_congr rfl rfl)
    intro other apart
    exact Function.update_of_ne (fun same => apart .listener (by rw [same]; rfl)) _ _
  | @listens fd =>
    refine .kept (Finset.insert_eq_of_mem (here .listener fd rfl)) ?_ (held_congr rfl rfl)
    intro other apart
    exact Function.update_of_ne (fun same => apart .listener (by rw [same]; rfl)) _ _
  | abandoned => exact .given .listener rfl rfl rfl (held_congr rfl rfl)
  | accepted =>
    exact .taken .connection rfl (fun fd other => Function.update_of_ne other _ _) rfl
      (held_congr rfl rfl)
  | closed => exact .given .connection rfl rfl rfl (held_congr rfl rfl)

theorem fits_of_moves {server : Server} {s t : NetStack} {position next : Position}
    (here : ∀ role fd, position.holds role = some fd → fd ∈ s.opened)
    (fits : position.Fits server s.sockets) (moves : Moves server s position (.inl next) t) :
    next.Fits server t.sockets := by
  cases moves with
  | created => trivial
  | followed follows alike =>
    cases follows with
    | optioned => trivial
    | plain => trivial
    | unset => trivial
    | notBound => trivial
    | deaf => trivial
    | nobody =>
      rw [alike.sockets]
      exact fits
    | served =>
      rw [alike.sockets]
      exact fits
  | bound => exact Function.update_self _ _ _
  | listens => exact Function.update_self _ _ _
  | @accepted fd =>
    have other : fd ≠ s.next := by
      rintro rfl
      exact s.next_fresh (here .listener _ rfl)
    exact ⟨(Function.update_of_ne other _ _).trans fits, Function.update_self _ _ _⟩
  | closed => exact fits.1

theorem strays_of_moves {server : Server} {s t : NetStack} {position : Position}
    {outcome : Position ⊕ Int} (moves : Moves server s position outcome t) :
    t.strays = s.strays := by
  cases moves with
  | followed follows alike => exact alike.strays
  | _ => rfl

theorem fits_congr {server : Server} {position : Position} {sockets sockets' : Int → SocketState}
    (same : ∀ role fd, position.holds role = some fd → sockets' fd = sockets fd)
    (fits : position.Fits server sockets) : position.Fits server sockets' := by
  cases position with
  | bound fd => exact (same .listener fd rfl).trans fits
  | accepting fd => exact (same .listener fd rfl).trans fits
  | serving fd socket =>
    exact ⟨(same .listener fd rfl).trans fits.1, (same .connection socket rfl).trans fits.2⟩
  | closing fd socket =>
    exact ⟨(same .listener fd rfl).trans fits.1, (same .connection socket rfl).trans fits.2⟩
  | _ => trivial

section Invariant

variable {servers} {start s : System Tid}

theorem holds_settle (s : System Tid) (tid : Tid) (outcome : Position ⊕ Int) (c : Caller)
    (holder : Tid × Role) : (s.settle tid outcome c).holds holder =
      if holder.1 = tid then held outcome holder.2 else s.holds holder := by
  show held (Function.update s.threads tid outcome holder.1) holder.2 = _
  by_cases own : holder.1 = tid
  · rw [if_pos own, own, Function.update_self]
  · rw [if_neg own, Function.update_of_ne own]
    rfl

theorem holds_settle_update {tid : Tid} {position : Position}
    (here : s.threads tid = .inl position) {outcome : Position ⊕ Int} {role : Role}
    {now : Option Int} (changed : held outcome = Function.update position.holds role now)
    (c : Caller) :
    (s.settle tid outcome c).holds = Function.update s.holds (tid, role) now := by
  funext holder
  rw [holds_settle]
  by_cases own : holder.1 = tid
  · have before : s.holds holder = position.holds holder.2 := by
      rw [System.holds, own, here]
      rfl
    rw [if_pos own, changed]
    by_cases same : holder.2 = role
    · rw [same, Function.update_self, show holder = (tid, role) from Prod.ext own same,
        Function.update_self]
    · rw [Function.update_of_ne same, Function.update_of_ne, before]
      intro both
      exact same (congrArg Prod.snd both)
  · rw [if_neg own, Function.update_of_ne]
    intro both
    exact own (congrArg Prod.fst both)

theorem inv_settle (inv : Inv servers start s) {tid : Tid} {position : Position}
    (here : s.threads tid = .inl position) {outcome : Position ⊕ Int} {c : Caller}
    (run : (serverStep (servers tid) position).run ⟨s.stack, s.errno tid⟩ = .ok outcome c) :
    Inv servers start (s.settle tid outcome c) := by
  have own : ∀ role, s.holds (tid, role) = position.holds role := by
    intro role
    rw [System.holds, here]
    rfl
  have opened : ∀ role fd, position.holds role = some fd → fd ∈ s.stack.opened := by
    intro role fd has
    exact (inv.owned.held (tid, role) fd ((own role).trans has)).1
  have fits := inv.fits tid position here
  have moves : Moves (servers tid) s.stack position outcome c.stack := moves_of_run opened fits run
  have handled := handled_of_moves opened moves
  constructor
  · cases handled with
    | kept same _ still =>
      have holds : (s.settle tid outcome c).holds = s.holds := by
        have listener : held outcome =
            Function.update position.holds .listener (position.holds .listener) :=
          still.trans (Function.update_eq_self _ _).symm
        rw [holds_settle_update here listener, ← own, Function.update_eq_self]
      show Owned _ c.stack.opened _
      rw [same, holds]
      exact inv.owned
    | @taken role grown _ empty more =>
      show Owned _ c.stack.opened _
      rw [grown, holds_settle_update here more]
      exact inv.owned.take ((own role).trans empty) s.stack.next_fresh
    | @given role fd shrunk _ full less =>
      show Owned _ c.stack.opened _
      rw [shrunk, holds_settle_update here less]
      exact inv.owned.give ((own role).trans full)
  · intro other next there
    replace there : Function.update s.threads tid outcome other = .inl next := there
    by_cases same : other = tid
    · rw [same, Function.update_self] at there
      subst there
      rw [same]
      exact fits_of_moves opened fits moves
    · have before : s.threads other = .inl next := by rwa [Function.update_of_ne same] at there
      have holds : ∀ role, s.holds (other, role) = next.holds role := by
        intro role
        rw [System.holds, before]
        rfl
      refine fits_congr ?_ (inv.fits other next before)
      intro role fd has
      have their := (holds role).trans has
      show c.stack.sockets fd = _
      cases handled with
      | kept _ others _ =>
        refine others fd fun role' mine => same ?_
        exact congrArg Prod.fst (inv.owned.apart _ _ fd their ((own role').trans mine))
      | taken _ _ others _ _ =>
        refine others fd ?_
        rintro rfl
        exact s.stack.next_fresh (inv.owned.held _ _ their).1
      | given _ _ sockets _ _ => rw [sockets]
  · exact (strays_of_moves moves).trans inv.strays

theorem inv_step (tid : Tid) (t : System Tid) (inv : Inv servers start s)
    (taken : step servers s tid = some t) : Inv servers start t := by
  unfold step at taken
  cases here : s.threads tid with
  | inl position =>
    rw [here] at taken
    dsimp only at taken
    cases run : (serverStep (servers tid) position).run ⟨s.stack, s.errno tid⟩ with
    | ok outcome c =>
      rw [run] at taken
      obtain rfl := Option.some.inj taken
      exact inv_settle inv here run
    | error e c =>
      rw [run] at taken
      cases taken
  | inr errno =>
    rw [here] at taken
    cases taken

omit [DecidableEq Tid] in
theorem inv_start (begins : ∀ tid, start.threads tid = .inl .start) :
    Inv servers start start where
  owned := by
    apply owned_start
    rintro ⟨tid, role⟩
    show held (start.threads tid) role = none
    rw [begins tid]
    cases role with
    | listener => rfl
    | connection => rfl
  fits tid position here := by
    rw [begins tid] at here
    obtain rfl := Sum.inl.inj here
    trivial
  strays := rfl

end Invariant

/-- The thread is past its call of `zsock_listen`. -/
def Position.Listens : Position → Int → Prop
  | .accepting serverFd, fd => fd = serverFd
  | .serving serverFd _, fd => fd = serverFd
  | .closing serverFd _, fd => fd = serverFd
  | _, _ => False

/-- Each open descriptor is one of the start or belongs to one thread, and no call has missed. -/
structure Apart (start s : System Tid) : Prop where
  own : ∀ tid role fd, s.holds (tid, role) = some fd →
    fd ∈ s.stack.opened ∧ fd ∉ start.stack.opened ∧
      ∀ other role', s.holds (other, role') = some fd → other = tid ∧ role' = role
  kept : start.stack.opened ⊆ s.stack.opened
  owner : ∀ fd ∈ s.stack.opened, fd ∈ start.stack.opened ∨ ∃ holder, s.holds holder = some fd
  listens : ∀ tid position fd, s.threads tid = .inl position → Position.Listens position fd →
    s.holds (tid, .listener) = some fd ∧
      s.stack.sockets fd = .listening (servers tid).family (servers tid).sinPort 1
  strays : s.stack.strays = start.stack.strays

variable {servers}

/-- However the threads of any number of services interrupt each other and whatever calls fail, no
service closes or uses a descriptor of another or one that is closed, none is left behind, and a
service that accepts connections listens on its own port. -/
theorem descriptors_apart {start : System Tid} (begins : ∀ tid, start.threads tid = .inl .start)
    (turns : List Tid) : Throughout (step servers) turns start (Apart servers start) := by
  have inv := throughout_of_step (step servers) (I := Inv servers start)
    (fun s tid t inv taken => inv_step tid t inv taken) (inv_start begins) turns
  refine inv.imp (step servers) fun s inv => ⟨?_, inv.owned.kept, inv.owned.owner, ?_, inv.strays⟩
  · intro tid role fd has
    obtain ⟨opened, new⟩ := inv.owned.held _ fd has
    refine ⟨opened, new, ?_⟩
    intro other role' their
    have same := inv.owned.apart _ _ fd their has
    exact ⟨congrArg Prod.fst same, congrArg Prod.snd same⟩
  · intro tid position fd here listens
    have fits := inv.fits tid position here
    have own : s.holds (tid, .listener) = position.holds .listener := by
      rw [System.holds, here]
      rfl
    rw [own]
    cases position with
    | accepting serverFd =>
      obtain rfl : fd = serverFd := listens
      exact ⟨rfl, fits⟩
    | serving serverFd socket =>
      obtain rfl : fd = serverFd := listens
      exact ⟨rfl, fits.1⟩
    | closing serverFd socket =>
      obtain rfl : fd = serverFd := listens
      exact ⟨rfl, fits.1⟩
    | _ => exact listens.elim

def bothServers : Bool → Server
  | false => rpcServer .inet6 6053
  | true => otaServer .inet6

/-- Three descriptors are open when they begin; one call of `zsock_bind` will fail. -/
def device : System Bool where
  stack :=
    { opened := {0, 1, 2}
      sockets := fun _ => .connected
      numbering := lowest
      answers := [.ok 0, .ok 0, .ok 1, .ok 0, .ok 0, .error 112]
      strays := [] }
  errno := fun _ => 0
  threads := fun _ => .inl .start

def turns : List Bool := [false, true, false, true, false, true, true, false, false]

theorem descriptors_apart_both :
    Throughout (step bothServers) turns device (Apart bothServers device) :=
  descriptors_apart (fun _ => rfl) turns

end ZephyrEsphome.Services.Threads
