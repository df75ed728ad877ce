/- Digest: The two directions of a connected stream socket as the firmware's calls see them. -/

import ZephyrEsphome.Kernel.Basic

set_option autoImplicit false
set_option relaxedAutoImplicit false

namespace ZephyrEsphome.Kernel

/-- What one receive call meets: at most `count` bytes, or an error. -/
inductive Arrival
  | upTo (count : Nat)
  | failure (reason : Failure)
  deriving DecidableEq

/-- The receiving direction. `incoming` is what the peer sent before it closed and the firmware has
not read yet; `schedule` is what the next calls meet, and once it is used up every call meets all
that is left, which is nothing when the stream is at its end. -/
structure Receiver where
  incoming : List UInt8
  schedule : List Arrival
  /-- How many receive calls were made. -/
  calls : Nat
  /-- What an uninitialised byte variable holds when it comes into scope after so many calls. -/
  residue : Nat → UInt8

/-- `zsock_recv` with `ZSOCK_MSG_WAITALL`: the result and the bytes stored into the buffer. -/
def Receiver.zsockRecv (rx : Receiver) (len : Nat) : (Int × List UInt8) × Receiver :=
  match rx.schedule with
  | [] =>
    let got := rx.incoming.take len
    ((got.length, got), { rx with incoming := rx.incoming.drop len, calls := rx.calls + 1 })
  | .upTo count :: later =>
    let got := rx.incoming.take (min count len)
    ((got.length, got),
      { rx with
        incoming := rx.incoming.drop (min count len)
        schedule := later
        calls := rx.calls + 1 })
  | .failure reason :: later =>
    ((reason.code, []), { rx with schedule := later, calls := rx.calls + 1 })

theorem Receiver.zsockRecv_full {rx : Receiver} {len : Nat}
    (full : (rx.zsockRecv len).1.1 = len) :
    (rx.zsockRecv len).1.2.length = len ∧
      rx.incoming = (rx.zsockRecv len).1.2 ++ (rx.zsockRecv len).2.incoming := by
  unfold zsockRecv at full ⊢
  cases schedule : rx.schedule with
  | nil =>
    simp only [schedule] at full ⊢
    exact ⟨by exact_mod_cast full, (List.take_append_drop len rx.incoming).symm⟩
  | cons arrival later =>
    cases arrival with
    | upTo count =>
      simp only [schedule] at full ⊢
      exact ⟨by exact_mod_cast full,
        (List.take_append_drop (min count len) rx.incoming).symm⟩
    | failure reason =>
      simp only [schedule] at full
      have := reason.negative
      omega

theorem Receiver.zsockRecv_plain {rx : Receiver} (plain : rx.schedule = [])
    {got rest : List UInt8} (next : rx.incoming = got ++ rest) :
    rx.zsockRecv got.length =
      (((got.length : Int), got), { rx with incoming := rest, calls := rx.calls + 1 }) := by
  unfold zsockRecv
  simp [plain, next]

/-- What one send call meets: at most `count` bytes are accepted, or an error. -/
inductive Acceptance
  | upTo (count : Nat)
  | failure (reason : Failure)
  deriving DecidableEq

/-- The sending direction. `accepted` is what the socket took so far; once `schedule` is used up
every call takes its whole buffer. -/
structure Transmitter where
  accepted : List UInt8
  schedule : List Acceptance

/-- `zsock_send`. -/
def Transmitter.zsockSend (tx : Transmitter) (buf : List UInt8) : Int × Transmitter :=
  match tx.schedule with
  | [] => (buf.length, { tx with accepted := tx.accepted ++ buf })
  | .upTo count :: later =>
    let taken := buf.take count
    (taken.length, { accepted := tx.accepted ++ taken, schedule := later })
  | .failure reason :: later => (reason.code, { tx with schedule := later })

theorem Transmitter.zsockSend_full {tx : Transmitter} {buf : List UInt8}
    (full : (tx.zsockSend buf).1 = buf.length) :
    (tx.zsockSend buf).2.accepted = tx.accepted ++ buf := by
  unfold zsockSend at full ⊢
  cases schedule : tx.schedule with
  | nil => rfl
  | cons acceptance later =>
    cases acceptance with
    | upTo count =>
      simp only [schedule, List.length_take] at full ⊢
      rw [List.take_of_length_le (by omega)]
    | failure reason =>
      simp only [schedule] at full
      have := reason.negative
      omega

end ZephyrEsphome.Kernel
