/- Digest: The descriptors of the network stack, and the calls that a server makes on them. -/

import Mathlib.Data.Finset.Erase
import Mathlib.Data.Finset.Insert
import Mathlib.Data.Finset.Lattice.Fold
import ZephyrEsphome.Kernel.Basic

set_option autoImplicit false
set_option relaxedAutoImplicit false

namespace ZephyrEsphome.Kernel

def ebadf : Int := 9

inductive Family
  | inet6
  | inet
  deriving DecidableEq

inductive SocketState
  | created (family : Family)
  | bound (family : Family) (port : UInt16)
  | listening (family : Family) (port : UInt16) (backlog : Int)
  | connected
  deriving DecidableEq

structure Numbering where
  pick : Finset Int → Int
  valid : ∀ opened, 0 ≤ pick opened
  fresh : ∀ opened, pick opened ∉ opened

structure NetStack where
  /-- The open descriptors of the device. -/
  opened : Finset Int
  sockets : Int → SocketState
  numbering : Numbering
  /-- What the next calls meet: an error number, or the value of the option that is asked for. Once
  the list is used up they succeed. -/
  answers : List (Except Int Int)
  /-- The calls that were made on a descriptor that was not open. -/
  strays : List Int

/-- The stack, and the `errno` of the thread that calls it. -/
structure Caller where
  stack : NetStack
  errno : Int

namespace NetStack

def answer (stack : NetStack) : Except Int Int := stack.answers.headD (.ok 0)

def answered (stack : NetStack) : NetStack := { stack with answers := stack.answers.tail }

def next (stack : NetStack) : Int := stack.numbering.pick stack.opened

def hold (stack : NetStack) (fd : Int) (socket : SocketState) : NetStack :=
  { stack with
    opened := insert fd stack.opened
    sockets := Function.update stack.sockets fd socket }

def release (stack : NetStack) (fd : Int) : NetStack :=
  { stack with opened := stack.opened.erase fd }

def listen (stack : NetStack) (fd : Int) (backlog : Int) : NetStack :=
  match stack.sockets fd with
  | .bound family port => stack.hold fd (.listening family port backlog)
  | _ => stack

def strayed (stack : NetStack) (fd : Int) : NetStack := { stack with strays := stack.strays ++ [fd] }

theorem next_fresh (stack : NetStack) : stack.next ∉ stack.opened :=
  stack.numbering.fresh stack.opened

theorem next_valid (stack : NetStack) : 0 ≤ stack.next :=
  stack.numbering.valid stack.opened

theorem listen_bound {stack : NetStack} {fd : Int} {family : Family} {port : UInt16}
    (bound : stack.sockets fd = .bound family port) (backlog : Int) :
    stack.listen fd backlog = stack.hold fd (.listening family port backlog) := by
  rw [listen, bound]

end NetStack

open NetStack

section Calls

variable {α : Type}

def netCall (failed : α) (done : Int → NetStack → α × NetStack) : Exec Caller α :=
  modifyGet fun caller =>
    match caller.stack.answer with
    | .error errno => (failed, { stack := caller.stack.answered, errno := errno })
    | .ok value =>
      let (ret, stack) := done value caller.stack.answered
      (ret, { caller with stack := stack })

def onDescriptor (fd : Int) (failed : α) (call : Exec Caller α) : Exec Caller α := do
  if fd ∈ (← get).stack.opened then
    call
  else
    modify fun caller => { stack := caller.stack.strayed fd, errno := ebadf }
    return failed

def zsockSocket (family : Family) : Exec Caller Int :=
  netCall (-1) fun _ stack => (stack.next, stack.hold stack.next (.created family))

/-- `zsock_getsockopt`: the result, and the value of the option. -/
def zsockGetsockopt (fd : Int) : Exec Caller (Int × Int) :=
  onDescriptor fd (-1, 0) (netCall (-1, 0) fun value stack => ((0, value), stack))

def zsockSetsockopt (fd : Int) : Exec Caller Int :=
  onDescriptor fd (-1) (netCall (-1) fun _ stack => (0, stack))

def zsockBind (fd : Int) (family : Family) (port : UInt16) : Exec Caller Int :=
  onDescriptor fd (-1) (netCall (-1) fun _ stack => (0, stack.hold fd (.bound family port)))

def zsockListen (fd : Int) (backlog : Int) : Exec Caller Int :=
  onDescriptor fd (-1) (netCall (-1) fun _ stack => (0, stack.listen fd backlog))

def zsockAccept (fd : Int) : Exec Caller Int :=
  onDescriptor fd (-1) (netCall (-1) fun _ stack => (stack.next, stack.hold stack.next .connected))

/-- `zsock_close`, which gives the descriptor back even when it reports an error. -/
def zsockClose (fd : Int) : Exec Caller Int :=
  onDescriptor fd (-1) (modifyGet fun caller =>
    match caller.stack.answer with
    | .error errno => (-1, { stack := caller.stack.answered.release fd, errno := errno })
    | .ok _ => (0, { caller with stack := caller.stack.answered.release fd }))

structure NetStack.Alike (s t : NetStack) : Prop where
  opened : t.opened = s.opened
  sockets : t.sockets = s.sockets
  strays : t.strays = s.strays

theorem NetStack.alike_answered (s : NetStack) : s.Alike s.answered := ⟨rfl, rfl, rfl⟩

theorem run_netCall (failed : α) (done : Int → NetStack → α × NetStack) (c : Caller) :
    (∃ errno, (netCall failed done).run c = .ok failed ⟨c.stack.answered, errno⟩) ∨
      ∃ value, (netCall failed done).run c = .ok (done value c.stack.answered).1
        ⟨(done value c.stack.answered).2, c.errno⟩ := by
  unfold netCall
  cases answer : c.stack.answer with
  | error errno =>
    refine Or.inl ⟨errno, ?_⟩
    show (EStateM.Result.ok _ _ : EStateM.Result Stop Caller α) = _
    rw [answer]
  | ok value =>
    refine Or.inr ⟨value, ?_⟩
    show (EStateM.Result.ok _ _ : EStateM.Result Stop Caller α) = _
    rw [answer]

theorem run_onDescriptor {fd : Int} {c : Caller} (here : fd ∈ c.stack.opened) (failed : α)
    (call : Exec Caller α) : (onDescriptor fd failed call).run c = call.run c := by
  rw [onDescriptor, Library.Exec.run_bind_ok _ (Library.Exec.run_get c), if_pos here]

theorem run_descriptorCall {fd : Int} {c : Caller} (here : fd ∈ c.stack.opened) (failed : α)
    (done : Int → NetStack → α × NetStack) :
    (∃ errno, (onDescriptor fd failed (netCall failed done)).run c =
      .ok failed ⟨c.stack.answered, errno⟩) ∨
      ∃ value, (onDescriptor fd failed (netCall failed done)).run c =
        .ok (done value c.stack.answered).1 ⟨(done value c.stack.answered).2, c.errno⟩ := by
  rw [run_onDescriptor here]
  exact run_netCall failed done c

theorem returns_netCall (failed : α) (done : Int → NetStack → α × NetStack) :
    Library.Exec.Returns (netCall failed done) :=
  Library.Exec.returns_modifyGet _

theorem returns_onDescriptor (fd : Int) (failed : α) {call : Exec Caller α}
    (returns : Library.Exec.Returns call) : Library.Exec.Returns (onDescriptor fd failed call) := by
  apply Library.Exec.returns_bind Library.Exec.returns_get
  intro caller
  apply Library.Exec.returns_ite returns
  exact Library.Exec.returns_bind (Library.Exec.returns_modifyGet _) fun _ =>
    Library.Exec.returns_pure failed

theorem run_zsockClose {fd : Int} {c : Caller} (here : fd ∈ c.stack.opened) :
    ∃ ret errno, (zsockClose fd).run c = .ok ret ⟨c.stack.answered.release fd, errno⟩ := by
  rw [zsockClose, run_onDescriptor here]
  cases answer : c.stack.answer with
  | error errno =>
    refine ⟨-1, errno, ?_⟩
    show (EStateM.Result.ok _ _ : EStateM.Result Stop Caller Int) = _
    rw [answer]
  | ok value =>
    refine ⟨0, c.errno, ?_⟩
    show (EStateM.Result.ok _ _ : EStateM.Result Stop Caller Int) = _
    rw [answer]

end Calls

theorem exists_unused (opened : Finset Int) : ∃ n : Nat, (n : Int) ∉ opened := by
  refine ⟨opened.sup Int.natAbs + 1, fun member => ?_⟩
  have bound : Int.natAbs _ ≤ opened.sup Int.natAbs := Finset.le_sup member
  omega

def lowest : Numbering where
  pick opened := (Nat.find (exists_unused opened) : Int)
  valid _ := Int.natCast_nonneg _
  fresh opened := Nat.find_spec (exists_unused opened)

end ZephyrEsphome.Kernel
