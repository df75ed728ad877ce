/- Digest: Error numbers, failed kernel calls, and why a thread stops running its code. -/

import ZephyrEsphome.Library.Exec

set_option autoImplicit false
set_option relaxedAutoImplicit false

namespace ZephyrEsphome.Kernel

def eio : Int := 5
def enomem : Int := 12
def enodev : Int := 19
def einval : Int := 22
def enotconn : Int := 128
def enotsup : Int := 134
def eoverflow : Int := 139

/-- The end-of-file mark of `stdio.h`, which is itself negative. -/
def eof : Int := -1

structure Failure where
  code : Int
  negative : code < 0
  deriving DecidableEq

theorem neg_eio_negative : -eio < 0 := by decide

inductive Stop
  /-- The C code has no defined behaviour from here on. -/
  | undefined
  /-- `sys_reboot` was called. -/
  | reboot
  /-- The number of loop rounds given to the run is used up. -/
  | unfinished
  deriving DecidableEq

abbrev Exec (σ α : Type) := EStateM Stop σ α

end ZephyrEsphome.Kernel
