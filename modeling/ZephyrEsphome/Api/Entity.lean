/- Digest: The registry of entities: their keys, and the search for a device by its key. -/

import ZephyrEsphome.Rpc.Node

set_option autoImplicit false
set_option relaxedAutoImplicit false

namespace ZephyrEsphome.Api

open Kernel
open Rpc

/-- A `char` as an operand of an operation on 32-bit numbers. -/
def promote (charSigned : Bool) (c : UInt8) : UInt32 :=
  if charSigned ∧ 0x80 ≤ c then c.toUInt32 ||| 0xFFFFFF00 else c.toUInt32

/-- `fnv1_hash`, whose loop includes the terminator. -/
def fnv1Hash (charSigned : Bool) (str : CString) : UInt32 :=
  (str.bytes ++ [0]).foldl (fun hash c => (hash * 16777619) ^^^ promote charSigned c) 2166136261

/-- `esphome_entity_init`. -/
def esphomeEntityInit (charSigned : Bool) : Exec Node Int := do
  modify fun node =>
    { node with
      entities := node.entities.map fun entity =>
        { entity with key := fnv1Hash charSigned entity.config.objectId } }
  return 0

/-- `find_device_entity_by_key`. -/
def findDeviceEntityByKey (entities : List Entity) (key : UInt32) : Option Device :=
  (entities.find? (·.key = key)).map Entity.dev

end ZephyrEsphome.Api
