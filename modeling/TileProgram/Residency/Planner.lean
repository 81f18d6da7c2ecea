/-!
# Residency

Which surfaces live in the scratch cache: how a record says so, and how it is
planned.
-/

/-!
## Residency hints

Each record says for its two sources and its result whether the surface lives
in the scratch cache.  A source with any hint but `noAllocate` is read from the
cache and so has to be resident already.
-/

namespace TileProgram
namespace Residency

/-- What to do with a surface in the scratch cache. -/
inductive Hint where
  | allocate
  | noAllocate
  | drop
  | deprioritize
  deriving DecidableEq, Inhabited

namespace Hint

/-- All hints, by increasing code. -/
def all : List Hint :=
  [.allocate, .noAllocate, .drop, .deprioritize]

/-- The code of a hint. -/
def code : Hint → Nat
  | .allocate => 0
  | .noAllocate => 1
  | .drop => 2
  | .deprioritize => 3

/-- The hint of a code. -/
def ofCode? (code : Nat) : Option Hint :=
  all[code]?

/-- The name of a hint. -/
def name : Hint → String
  | .allocate => "allocate"
  | .noAllocate => "no-allocate"
  | .drop => "drop"
  | .deprioritize => "deprioritize"

/-- The hint of a name. -/
def ofName? (text : String) : Option Hint :=
  all.find? fun hint => hint.name == text

/-- Whether a source with this hint is read from the cache. -/
def assumesResident (hint : Hint) : Bool :=
  hint != .noAllocate

@[simp] theorem ofCode?_code (hint : Hint) : ofCode? hint.code = some hint := by
  cases hint <;> rfl

end Hint

/-- The place in a record that a hint is for. -/
inductive Lane where
  | first
  | second
  | result
  deriving DecidableEq

end Residency
end TileProgram

/-!
## Planning residency

Stages run in order; each one reads surfaces through two lanes and writes one.
A result is made resident when the very next stage reads it.  A resident source
is dropped by its last reader, kept when the next stage reads it again, and
otherwise marked as the first to give up.
-/

namespace TileProgram
namespace Residency

/-- What a stage can read: an input of the program or the result of a stage. -/
inductive Source where
  | input (index : Nat)
  | stage (index : Nat)
  deriving DecidableEq

/-- The hints of one stage. -/
structure StageHints where
  first : Hint
  second : Hint
  result : Hint
  deriving DecidableEq, Inhabited

/-- What each stage reads, in lane order. -/
abbrev Reads := List (List Source)

namespace Reads

/-- What a stage reads through its two lanes. -/
def lanes (reads : Reads) (stage : Nat) : List Source :=
  (reads[stage]?.getD []).take 2

/-- Whether a stage reads a source through a lane. -/
def readsAt (reads : Reads) (stage : Nat) (source : Source) : Bool :=
  (lanes reads stage).contains source

/-- The last stage that reads a source through a lane. -/
def lastReader? (reads : Reads) (source : Source) : Option Nat :=
  (List.range reads.length).reverse.find? fun stage => readsAt reads stage source

/-- The hint for a source of a stage, given what is resident before it. -/
def sourceHint (reads : Reads) (resident : List Source) (stage : Nat) (source : Source) : Hint :=
  if !resident.contains source then .noAllocate
  else if lastReader? reads source == some stage then .drop
  else if readsAt reads (stage + 1) source then .allocate
  else .deprioritize

/-- The hint for a lane, which may be unused. -/
def laneHint (reads : Reads) (resident : List Source) (stage lane : Nat) : Hint :=
  match (lanes reads stage)[lane]? with
  | none => .noAllocate
  | some source => sourceHint reads resident stage source

/-- The hints of a stage. -/
def stageHints (reads : Reads) (resident : List Source) (stage : Nat) : StageHints :=
  { first := laneHint reads resident stage 0
    second := laneHint reads resident stage 1
    result := if readsAt reads (stage + 1) (.stage stage) then .allocate else .noAllocate }

/-- What is resident after a stage. -/
def residentAfter (reads : Reads) (resident : List Source) (stage : Nat) : List Source :=
  let kept := resident.filter fun source =>
    !(readsAt reads stage source && sourceHint reads resident stage source == .drop)
  if readsAt reads (stage + 1) (.stage stage) then .stage stage :: kept else kept

/-- The hints of a number of stages from a given one on. -/
def planFrom (reads : Reads) (resident : List Source) (stage : Nat) : Nat → List StageHints
  | 0 => []
  | count + 1 =>
      stageHints reads resident stage ::
        planFrom reads (residentAfter reads resident stage) (stage + 1) count

/-- The hints of all stages. -/
def plan (reads : Reads) : List StageHints :=
  planFrom reads [] 0 reads.length

end Reads
end Residency
end TileProgram
