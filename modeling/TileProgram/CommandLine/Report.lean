import TileProgram.Container.Basic
import TileProgram.Difference
import TileProgram.Execution.Error

/-!
# What a command prints

The reports of commands that end well, and the messages of those that do not.
-/

/-!
## Reports

Every report is a list of lines.  A line that shows a record asks the record for
its values and is refused when the record has no register of that name.
-/

namespace TileProgram
namespace CommandLine

open Text

/-- The line that a successful compilation prints. -/
def compiledLine (description output : String) (program : Container) : String :=
  description ++ " → " ++ output ++ ": " ++ toString program.entries.length ++ " record(s), " ++
    toString program.relocations.length ++ " relocation(s), " ++
    toString program.data.length ++ " data bytes"

/-- The line for an output that was written. -/
def outputLine (path : String) (length : Nat) : String :=
  path ++ " (" ++ toString length ++ " bytes)"

/-- The lines of a comparison. -/
def comparisonLines (first second : String) (count : Nat) (differences : List Difference) :
    List String :=
  if differences.isEmpty then
    [first ++ " and " ++ second ++ " are identical (" ++ toString count ++ " records)"]
  else
    differences.map Difference.text ++ [toString differences.length ++ " difference(s)"]

/-- The line of a relocation. -/
def relocationLine (relocation : Container.Relocation) : String :=
  "    " ++ padRight 8 relocation.kind.name ++ " " ++ padRight 12 relocation.name ++ " record=" ++
    padRight 10 (toString relocation.record) ++ " offset=" ++
    hexadecimal relocation.offset.toNat ++ " size=" ++ toString relocation.size

/-- The value of a register of a record as text: a signed register is read again by its name, any other value is in decimal up to 65535 and in base sixteen above. -/
def shownValue (descriptor : Descriptor) (field : Register.Field) (value : Nat) :
    Except Register.Error String :=
  if field.isSigned then (descriptor.getSignedText field.name.text).map toString
  else if value > 0xFFFF then .ok (hexadecimal value)
  else .ok (toString value)

/-- The line of a register with the text of its value. -/
def registerLine (field : Register.Field) (shown : String) : String :=
  "  " ++ padRight 36 field.name.text ++ " " ++ shown

/-- The lines of the registers of a record that are not zero. -/
def registerLines (descriptor : Descriptor) : List (Except Register.Error String) :=
  descriptor.fields.map fun (field, value) =>
    (shownValue descriptor field value).map (registerLine field)

/-- The line above the registers of a record: its position and its successor. -/
def recordLine (index : Nat) (entry : Container.Entry) : String :=
  let next := match entry.next with
    | some number => ProgramError.recordText number
    | none => "end"
  ProgramError.recordText index ++ " @ " ++ hexadecimal entry.offset ++ " → " ++ next

/-- The line of a lookup table. -/
def tableLine (table : LookupTable) : String :=
  "  LUT: " ++ toString table.length ++ " entries"

/-- The lines of a record with its position. -/
def recordLines (index : Nat) (entry : Container.Entry) : List (Except Register.Error String) :=
  [.ok "", .ok (recordLine index entry)] ++ registerLines entry.descriptor ++
    (entry.descriptor.lookup.map tableLine).toList.map .ok

/-- The last lines about a program. -/
def validityLines (program : Container) : List String :=
  match program.validate with
  | .ok () => ["", "valid"]
  | .error error => ["", "invalid: " ++ error.message]

/-- The first lines about a program. -/
def summaryLines (path : String) (program : Container) : List String :=
  [ path,
    "  records      : " ++ toString program.entries.length,
    "  flags        : " ++ hexadecimal program.flags.toNat,
    "  data bytes   : " ++ toString program.data.length,
    "  relocations  : " ++ toString program.relocations.length ] ++
  program.relocations.map relocationLine

/-- The lines that print a program. -/
def dumpLines (path : String) (program : Container) : List (Except Register.Error String) :=
  (summaryLines path program).map .ok ++ (program.entries.mapIdx recordLines).flatten ++
    (validityLines program).map .ok

/-- The line of a register in a table. -/
def fieldLine (field : Register.Field) : String :=
  "  " ++ padRight 32 field.name.label ++ " " ++ hexadecimalPadded 5 field.byteOffset ++ "." ++
    toString field.bitOffset ++ "  width " ++ padLeft 2 (toString field.width) ++
    (if field.isSigned then "  signed" else "") ++ (if field.isAlias then "  alias" else "")

/-- The lines of one region of a table. -/
def regionLines (table : Register.Table) (region : Register.Region) : List String :=
  (region.name ++ " [" ++ hexadecimal region.start ++ ", " ++ hexadecimal region.stop ++ ")") ::
    (table.fieldsOf region).map fieldLine

end CommandLine
end TileProgram

/-!
## Why a command fails

A command fails for one cause, and it may say what it was doing.  The message
names the activity, the cause, and what the cause itself goes back to, even
where the text of the cause repeats it.
-/

namespace TileProgram
namespace CommandLine

/-- What a command was doing. -/
inductive Activity where
  | reading (path : String)
  | writing (path : String)
  | creating (path : String)
  deriving DecidableEq

/-- The cause of a failure. -/
inductive Cause where
  | execution (error : Execution.Error)
  | program (error : ProgramError)
  | register (error : Register.Error)
  | files (failure : Files.Failure)
  deriving DecidableEq

/-- A failure of a command. -/
structure Trouble where
  activity : Option Activity
  cause : Cause
  deriving DecidableEq

/-- The wording of an activity. -/
def Activity.text : Activity → String
  | .reading path => "reading " ++ path
  | .writing path => "writing " ++ path
  | .creating path => "creating " ++ path

/-- The messages of a program error and of what it goes back to. -/
def programChain (error : ProgramError) : List String :=
  error.message :: match error with
    | .invalidRecord _ inner => [inner.message]
    | .files failure => [failure.message]
    | _ => []

/-- The messages of an error and of what it goes back to. -/
def executionChain (error : Execution.Error) : List String :=
  error.message :: match error with
    | .invalidContainer inner => programChain inner
    | .files failure => [failure.message]
    | _ => []

namespace Cause

/-- The messages of a cause and of what it goes back to. -/
def chain : Cause → List String
  | .execution error => executionChain error
  | .program error => programChain error
  | .register error => [error.message]
  | .files failure => [failure.message]

/-- The exit code of a command that fails for a cause. -/
def exitCode : Cause → Nat
  | .execution error => error.exitCode
  | .program error => error.exitCode
  | .register _ => 3
  | .files _ => 6

end Cause

namespace Trouble

/-- A failure about which nothing more is said. -/
def ofCause (cause : Cause) : Trouble :=
  ⟨none, cause⟩

/-- The message of a failure. -/
def message (trouble : Trouble) : String :=
  let activity := (trouble.activity.map Activity.text).toList
  "error: " ++ ": ".intercalate (activity ++ trouble.cause.chain)

end Trouble
end CommandLine
end TileProgram
