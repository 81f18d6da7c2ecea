import TileProgram.Script.State

/-!
# Options of tools

Tools take options, which are letters after a hyphen or words after two, and
operands, in any order.  Two hyphens alone end the options.
-/

namespace TileProgram
namespace Script

open Files (Failure)

/-- The options that a tool knows: letters alone, letters with a value, and words for letters. -/
structure KnownFlags where
  tool : String
  plain : String
  valued : String
  long : List (String × Char)
  misuse : Nat

/-- The options and operands that have been given. -/
structure Flags where
  options : List (Char × String)
  operands : List String
  deriving DecidableEq

namespace Flags

/-- Whether an option has been given. -/
def has (flags : Flags) (letter : Char) : Bool :=
  flags.options.any fun entry => entry.1 == letter

/-- The value that has been given last for an option. -/
def value? (flags : Flags) (letter : Char) : Option String :=
  (flags.options.reverse.lookup letter)

/-- Adds an option. -/
def add (letter : Char) (value : String) (flags : Flags) : Flags :=
  { flags with options := (letter, value) :: flags.options }

/-- Adds an operand. -/
def addOperand (operand : String) (flags : Flags) : Flags :=
  { flags with operands := operand :: flags.operands }

/-- The options of a cluster of letters; the value of the last one may be what follows the cluster, and is taken then. -/
def cluster (known : KnownFlags) (next : Option String) :
    List Char → Except String (List (Char × String) × Bool)
  | [] => .ok ([], false)
  | letter :: rest =>
      if known.valued.toList.contains letter then
        match rest, next with
        | [], some value => .ok ([(letter, value)], true)
        | [], none =>
            .error ("option requires an argument -- '" ++ String.ofList [letter] ++ "'")
        | _, _ => .ok ([(letter, String.ofList rest)], false)
      else if known.plain.toList.contains letter then
        (cluster known next rest).map fun (others, takesNext) => ((letter, "") :: others, takesNext)
      else .error ("invalid option -- '" ++ String.ofList [letter] ++ "'")

/-- The option that a word stands for, and whether it takes the value from what follows. -/
def long (known : KnownFlags) (next : Option String) (word : String) :
    Except String ((Char × String) × Bool) :=
  let name := (word.toList.takeWhile (· != '=')).drop 2
  let given := (word.toList.drop (name.length + 2)).drop 1
  let isGiven := name.length + 2 < word.length
  let candidates := known.long.filter fun entry => name.isPrefixOf entry.1.toList
  let exact := known.long.filter fun entry => name == entry.1.toList
  match exact ++ candidates with
  | [] => .error ("unrecognized option '--" ++ String.ofList name ++ "'")
  | (_, letter) :: _ =>
      if known.valued.toList.contains letter then
        if isGiven then .ok ((letter, String.ofList given), false)
        else match next with
          | some value => .ok ((letter, value), true)
          | none => .error ("option '--" ++ String.ofList name ++ "' requires an argument")
      else .ok ((letter, ""), false)

/-- Reads arguments; the first argument says whether the next one has been taken already. -/
def read (known : KnownFlags) (isTaken : Bool) : List String → Except String Flags
  | [] => .ok ⟨[], []⟩
  | word :: rest =>
      if isTaken then read known false rest
      else match word.toList with
        | ['-', '-'] => .ok ⟨[], rest⟩
        | '-' :: '-' :: _ => do
            let ((letter, value), takesNext) ← long known rest.head? word
            return (← read known takesNext rest).add letter value
        | '-' :: letter :: letters => do
            let (found, takesNext) ← cluster known rest.head? (letter :: letters)
            let flags ← read known takesNext rest
            return { flags with options := found ++ flags.options }
        | _ => return (← read known false rest).addOperand word

end Flags

namespace Running

/-- Complains in the name of a tool. -/
def toolLine (tool text : String) : Running Unit :=
  errorLine (tool ++ ": " ++ text)

/-- Complains that a tool has been used wrongly. -/
def misused (tool : String) (status : Nat) (text : String) : Running Nat := do
  toolLine tool text
  errorLine ("Try '" ++ tool ++ " --help' for more information.")
  return status

/-- Goes on with the options of a tool, if they can be read. -/
def withFlags (known : KnownFlags) (arguments : List String) (use : Flags → Running Nat) :
    Running Nat := do
  match Flags.read known false arguments with
  | .ok flags => use flags
  | .error text => misused known.tool known.misuse text

/-- Applies something to every operand; the status is the largest one. -/
def forOperands (operands : List String) (use : String → Running Nat) : Running Nat :=
  operands.foldlM (fun status operand => do return max status (← use operand)) 0

/-- Why the input cannot be read, if it is a directory. -/
def inputFailure? : Running (Option Failure) := do
  match ← streamNumber? 0 with
  | none => return none
  | some number =>
      match ← streamAt number with
      | .file path .. =>
          match ← ask (Files.Action.read path) with
          | .error .isDirectory => return some .isDirectory
          | _ => return none
      | _ => return none

/-- The contents of the input. -/
def readInput : Running (Except Failure Bytes) := do
  match ← inputFailure? with
  | some failure => return .error failure
  | none => return .ok (← inputBytes)

/-- The contents of a file, or of the input for a hyphen. -/
def operandBytes (operand : String) : Running (Except Failure Bytes) :=
  if operand == "-" then readInput else readFile operand

end Running

/-- A name in quotes. -/
def quoted (name : String) : String :=
  "'" ++ name ++ "'"

/-- A word in the quotes that are used in print. -/
def curled (word : String) : String :=
  octetsOfText "‘" ++ word ++ octetsOfText "’"

/-- Whether a name has letters that mean something to scripts. -/
def needsQuotes (name : String) : Bool :=
  name.isEmpty || name.toList.any fun letter =>
    letter ≤ ' ' || "!\"$&()*;<=>[^\x60|?'\\".toList.contains letter

/-- A name, in quotes if it has letters that mean something to scripts. -/
def quotedIfNeeded (name : String) : String :=
  if needsQuotes name then quoted name else name

end Script
end TileProgram
