import TileProgram.CommandLine.Matching
import TileProgram.Text.Columns

/-!
# Commands and their arguments
-/

namespace TileProgram
namespace CommandLine

/-- What can be asked for on the command line. -/
inductive Command where
  | compile (description output : String) (compiler : Option String) (target : String)
      (fusion : Bool) (baseAddress : Option UInt32)
  | run (program : String) (inputs : List String) (output : String) (timeout : Nat)
  | diff (first second : String)
  | dump (program : String)
  | registers (region table : Option String)
  deriving DecidableEq

/-! ## Numbers -/

/-- Reads digits in a base after a value that has been read. -/
def readDigits (base value : Nat) : List Char → Option Nat
  | [] => some value
  | letter :: rest =>
      match Text.hexDigit? letter with
      | none => none
      | some digit => if digit < base then readDigits base (base * value + digit) rest else none

/-- Reads a number below a bound in a base; one plus sign may precede the digits. -/
def readNumber (base bound : Nat) (letters : List Char) : Option Nat :=
  let digits := match letters with
    | '+' :: rest => rest
    | other => other
  if digits.isEmpty then none
  else (readDigits base 0 digits).bind fun value => if value < bound then some value else none

/-- Reads an address: in base sixteen after `0x`, in decimal otherwise. -/
def readAddress (text : String) : Option UInt32 :=
  let value := match text.toList with
    | '0' :: 'x' :: digits => readNumber 16 UInt32.size digits
    | '0' :: 'X' :: digits => readNumber 16 UInt32.size digits
    | digits => readNumber 10 UInt32.size digits
  value.map UInt32.ofNat

/-- Reads a time in milliseconds. -/
def readTime (text : String) : Option Nat :=
  readNumber 10 UInt64.size text.toList

/-! ## Forms -/

/-- A switch. -/
def switch (name : String) (letter : Option Char) : Option_ :=
  ⟨name, letter, false, fun _ => true⟩

/-- An option whose value is a path. -/
def pathOption (name : String) (letter : Option Char) : Option_ :=
  ⟨name, letter, true, acceptsPath⟩

/-- An option whose value is any text that fits. -/
def textOption (name : String) (accepts : String → Bool) : Option_ :=
  ⟨name, none, true, accepts⟩

/-- The switch that every command has. -/
def verbose : Option_ :=
  switch "verbose" (some 'v')

/-- The option for what a command writes. -/
def output : Option_ :=
  pathOption "output" (some 'o')

/-- The form of a command with some options of its own. -/
def form (options : List Option_) (positions : Nat) (isOpen : Bool) : Form :=
  ⟨verbose :: options, positions, isOpen, false⟩

/-- The form of the part before the name of a command. -/
def outerForm : Form :=
  ⟨[verbose], 0, false, true⟩

/-- The form for compiling. -/
def compileForm : Form :=
  form
    [ output, pathOption "compiler" none, textOption "target" fun _ => true,
      switch "no-fusion" none, textOption "base-address" fun text => (readAddress text).isSome ]
    1 false

/-- The form for running. -/
def runForm : Form :=
  form [output, textOption "timeout-ms" fun text => (readTime text).isSome] 1 true

/-- The form for comparing. -/
def diffForm : Form := form [] 2 false

/-- The form for printing a program. -/
def dumpForm : Form := form [] 1 false

/-- The form for listing registers. -/
def registersForm : Form :=
  form [textOption "section" fun _ => true, pathOption "table" none] 0 false

/-! ## Commands -/

/-- A value that must have been given. -/
def required (value : Option Value) : Except Stop Value :=
  match value with
  | some given => .ok given
  | none => .error .mistake

/-- The command that the matches of its form stand for. -/
def compileOf (found : Matches) : Except Stop Command := do
  let description ← required found.positional.head?
  let output ← required (found.value? "output")
  return .compile description output (found.value? "compiler")
    ((found.value? "target").getD "h13") (!found.has "no-fusion")
    ((found.value? "base-address").bind readAddress)

/-- The command that the matches of its form stand for. -/
def runOf (found : Matches) : Except Stop Command := do
  let program ← required found.positional.head?
  let output ← required (found.value? "output")
  return .run program found.positional.tail output
    (((found.value? "timeout-ms").bind readTime).getD 5000)

/-- The command that the matches of its form stand for. -/
def diffOf (found : Matches) : Except Stop Command :=
  match found.positional with
  | [first, second] => .ok (.diff first second)
  | _ => .error .mistake

/-- The command that the matches of its form stand for. -/
def dumpOf (found : Matches) : Except Stop Command := do
  return .dump (← required found.positional.head?)

/-- The command that the matches of its form stand for. -/
def registersOf (found : Matches) : Except Stop Command :=
  .ok (.registers (found.value? "section") (found.value? "table"))

/-- The commands by name, each with its form and its meaning. -/
def commands : List (String × Form × (Matches → Except Stop Command)) :=
  [ ("compile", compileForm, compileOf), ("run", runForm, runOf), ("diff", diffForm, diffOf),
    ("dump", dumpForm, dumpOf), ("regs", registersForm, registersOf) ]

/-- What asking for help about something gives: help about a command, or a mistake. -/
def helpAbout : List String → Stop
  | [] => .help
  | [name] => if name = "help" ∨ (commands.lookup name).isSome then .help else .mistake
  | _ => .mistake

/-- Reads the name of a command and its arguments. -/
def readCommand (name : String) (arguments : List String) : Except Stop Command :=
  match commands.lookup name with
  | some (form, meaning) => do meaning (← form.matchFrom .empty arguments)
  | none => .error (if name = "help" then helpAbout arguments else .mistake)

/-- Reads arguments after the options that precede the name of a command. -/
def readFrom (found : Matches) : List String → Except Stop Command
  | [] => .error .mistake
  | argument :: rest =>
      match outerForm.readPart argument with
      | .error stop => .error stop
      | .ok .positional => readCommand argument rest
      | .ok (.complete options) =>
          match found.addOptions options with
          | .error stop => .error stop
          | .ok more => readFrom more rest
      | .ok (.awaiting _ _) => .error .mistake
      | .ok (.stopping options stop) => found.stopAfter options stop

/-- Reads a command line. -/
def read (arguments : List String) : Except Stop Command :=
  readFrom .empty arguments

end CommandLine
end TileProgram
