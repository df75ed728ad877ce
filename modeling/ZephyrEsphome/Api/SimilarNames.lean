/- Digest: Names that differ in one character never share a key. -/

import ZephyrEsphome.Api.Keys
import ZephyrEsphome.Library.Folding

set_option autoImplicit false
set_option relaxedAutoImplicit false

namespace ZephyrEsphome.Api.SimilarNames

open Kernel
open Library.Exec
open Library.Folding
open Rpc

/-- One round of the loop of `fnv1_hash`. -/
def absorb (charSigned : Bool) (hash : UInt32) (c : UInt8) : UInt32 :=
  (hash * 16777619) ^^^ promote charSigned c

def hashRest (charSigned : Bool) (rest : CString) (hash : UInt32) : UInt32 :=
  (rest.bytes ++ [0]).foldl (absorb charSigned) hash

section Hash

variable (charSigned : Bool)

theorem fnv1Hash_eq (str : CString) : fnv1Hash charSigned str =
    (str.bytes ++ [0]).foldl (absorb charSigned) 2166136261 := rfl

theorem fnv1Hash_continues {str rest : CString} {read : List UInt8}
    (split : str.bytes = read ++ rest.bytes) : fnv1Hash charSigned str =
      hashRest charSigned rest (read.foldl (absorb charSigned) 2166136261) := by
  rw [fnv1Hash_eq, hashRest, split, List.append_assoc, List.foldl_append]

theorem promote_injective : Function.Injective (promote charSigned) := by
  have low : ∀ (signed : Bool) (i : Fin 256),
      (promote signed (UInt8.ofFin i)).toUInt8 = UInt8.ofFin i := by decide +kernel
  have back : Function.LeftInverse UInt32.toUInt8 (promote charSigned) :=
    fun c => low charSigned c.toFin
  exact back.injective

theorem prime_inverse : (16777619 : UInt32) * 899433627 = 1 := by decide

theorem lossless_absorb : Lossless (absorb charSigned) where
  undone c := by
    apply Function.bijective_iff_has_inverse.mpr
    refine ⟨fun hash => (hash ^^^ promote charSigned c) * 899433627, ?_, ?_⟩
    · intro hash
      show ((hash * 16777619) ^^^ promote charSigned c ^^^ promote charSigned c) * 899433627 = hash
      rw [UInt32.xor_assoc, UInt32.xor_self, UInt32.xor_zero, UInt32.mul_assoc, prime_inverse,
        UInt32.mul_one]
    · intro hash
      show ((hash ^^^ promote charSigned c) * 899433627 * 16777619) ^^^ promote charSigned c = hash
      rw [UInt32.mul_assoc, UInt32.mul_comm 899433627, prime_inverse, UInt32.mul_one,
        UInt32.xor_assoc, UInt32.xor_self, UInt32.xor_zero]
  apart hash := by
    intro c c' same
    exact promote_injective charSigned ((UInt32.xor_right_inj _).mp same)

theorem fnv1Hash_ne {str other : CString} {early late : List UInt8} {a b : UInt8}
    (here : str.bytes = early ++ a :: late) (there : other.bytes = early ++ b :: late)
    (differ : a ≠ b) : fnv1Hash charSigned str ≠ fnv1Hash charSigned other := by
  rw [fnv1Hash_eq, fnv1Hash_eq, here, there, List.append_assoc, List.append_assoc]
  exact (lossless_absorb charSigned).foldl_ne differ early (late ++ [0]) 2166136261

end Hash

/-- However a string goes on, all hashes so far lead to different hashes and none is left out. A
change of one character changes the hash, and the keys of the entities with such names differ. -/
structure TellsApart (charSigned : Bool) : Prop where
  continuation : ∀ rest, Function.Bijective (hashRest charSigned rest)
  reached : ∀ (str rest : CString) read, str.bytes = read ++ rest.bytes →
    fnv1Hash charSigned str =
      hashRest charSigned rest (read.foldl (absorb charSigned) 2166136261)
  character : ∀ (str other : CString) early a b late, str.bytes = early ++ a :: late →
    other.bytes = early ++ b :: late → a ≠ b → fnv1Hash charSigned str ≠ fnv1Hash charSigned other
  keys : ∀ boot s, (esphomeEntityInit charSigned).run boot = .ok 0 s →
    ∀ entity ∈ s.entities, ∀ other ∈ s.entities,
      DifferOnce entity.config.objectId.bytes other.config.objectId.bytes → entity.key ≠ other.key

theorem similar_names_apart (charSigned : Bool) : TellsApart charSigned := by
  constructor
  · intro rest
    exact (lossless_absorb charSigned).foldl_bijective (rest.bytes ++ [0])
  · intro str rest read split
    exact fnv1Hash_continues charSigned split
  · intro str other early a b late here there differ
    exact fnv1Hash_ne charSigned here there differ
  · intro boot s init entity member other member' differ
    rw [Keys.entityInit_entities init] at member member'
    obtain ⟨entity, -, rfl⟩ := List.mem_map.mp member
    obtain ⟨other, -, rfl⟩ := List.mem_map.mp member'
    obtain ⟨early, a, b, late, here, there, letters⟩ := differ.split
    exact fnv1Hash_ne charSigned here there letters

end ZephyrEsphome.Api.SimilarNames
