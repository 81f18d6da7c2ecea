import TileProgram.Descriptor.Accessors
import TileProgram.ProgramError

/-!
# Checking residency

The hints of a sequence of records are replayed.  A surface is known by its
base address.  A source that is read from the cache has to be resident; a
result is resident afterwards if its hint says so.
-/

namespace TileProgram
namespace Residency

/-- The lane of a source. -/
def Lane.ofSource : SourceLane → Lane
  | .first => .first
  | .second => .second

/-- Whether a result with this hint is resident afterwards. -/
def Hint.keepsResult : Hint → Bool
  | .allocate => true
  | .deprioritize => true
  | .noAllocate => false
  | .drop => false

/-- Checks one source and gives the address it drops, if it does. -/
def checkSource (resident : List UInt32) (index : Nat) (descriptor : Descriptor)
    (lane : SourceLane) : Except ProgramError (Option UInt32) := do
  let surface ← (descriptor.source lane).mapError (.invalidRecord index)
  match surface with
  | none => return none
  | some surface =>
      let hint ← (descriptor.residency (.ofSource lane)).mapError (.invalidRecord index)
      if hint.assumesResident && !resident.contains surface.base then
        throw (.residencyViolation index lane hint surface.base.toNat)
      else return if hint == .drop then some surface.base else none

/-- What is resident after the destination of a record has been written. -/
def writeDestination (resident : List UInt32) (index : Nat) (descriptor : Descriptor) :
    Except ProgramError (List UInt32) := do
  let surface ← descriptor.destination.mapError (.invalidRecord index)
  match surface with
  | none => return resident
  | some surface =>
      let hint ← (descriptor.residency .result).mapError (.invalidRecord index)
      let others := resident.filter (· != surface.base)
      return if hint.keepsResult then surface.base :: others else others

/-- Replays one record. -/
def replay (resident : List UInt32) (index : Nat) (descriptor : Descriptor) :
    Except ProgramError (List UInt32) := do
  let first ← checkSource resident index descriptor .first
  let second ← checkSource resident index descriptor .second
  let kept := resident.filter fun base => some base != first && some base != second
  writeDestination kept index descriptor

/-- Replays records from a given index on. -/
def replayFrom (resident : List UInt32) (index : Nat) :
    List Descriptor → Except ProgramError Unit
  | [] => .ok ()
  | descriptor :: rest => do
      replayFrom (← replay resident index descriptor) (index + 1) rest

/-- Checks a sequence of records. -/
def verify (descriptors : List Descriptor) : Except ProgramError Unit :=
  replayFrom [] 0 descriptors

end Residency
end TileProgram
