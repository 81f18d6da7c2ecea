/-!
# Matching arguments

A form lists the options and the positions of a command.  Arguments are
matched against it from left to right, and the first one that does not fit
decides: a word that asks for help or for the version stops the matching, and
so does every mistake.

An option is written in full after two hyphens or by its letter after one.
Its value is the next argument, or follows the name after an equals sign, or
follows the letter at once.  After two bare hyphens everything is positional.
-/

namespace TileProgram
namespace CommandLine

/-- An option; one that takes no value is a switch. -/
structure Option_ where
  name : String
  letter : Option Char
  takesValue : Bool
  accepts : String → Bool

/-- The options and positions of a command; the last position can be repeated if the form is open. -/
structure Form where
  options : List Option_
  positions : Nat
  isOpen : Bool
  hasVersion : Bool

/-- Why matching stops. -/
inductive Stop where
  | mistake
  | help
  | version
  deriving DecidableEq

/-- What has been matched: options with their values, and positional arguments, both in order. -/
structure Matches where
  options : List (String × String)
  positional : List String
  deriving DecidableEq

/-- What one argument is: a positional one, complete options, options the last of which awaits its value, or options before a letter that stops the matching. -/
inductive Part where
  | positional
  | complete (options : List (Option_ × String))
  | awaiting (options : List (Option_ × String)) (last : Option_)
  | stopping (options : List (Option_ × String)) (stop : Stop)

/-- Paths must not be empty. -/
def acceptsPath (value : String) : Bool :=
  !value.isEmpty

namespace Matches

/-- Nothing has been matched. -/
def empty : Matches := ⟨[], []⟩

/-- The value of an option that was given. -/
def value? (found : Matches) (name : String) : Option String :=
  found.options.lookup name

/-- Whether an option was given. -/
def has (found : Matches) (name : String) : Bool :=
  (found.value? name).isSome

/-- Adds an option, which must be new and have a value that fits. -/
def addOption (found : Matches) (option : Option_) (value : String) : Except Stop Matches :=
  if found.has option.name || !option.accepts value then .error .mistake
  else .ok { found with options := found.options ++ [(option.name, value)] }

/-- Adds options in order. -/
def addOptions (found : Matches) : List (Option_ × String) → Except Stop Matches
  | [] => .ok found
  | (option, value) :: rest => do (← found.addOption option value).addOptions rest

/-- Stops after options, the first of which that does not fit is what stops the matching. -/
def stopAfter (found : Matches) (options : List (Option_ × String)) (stop : Stop) :
    Except Stop α := do
  let _ ← found.addOptions options
  throw stop

/-- Adds a positional argument, for which there must be a position; all of them are paths. -/
def addPositional (form : Form) (found : Matches) (value : String) : Except Stop Matches :=
  if (found.positional.length < form.positions || form.isOpen) && acceptsPath value then
    .ok { found with positional := found.positional ++ [value] }
  else .error .mistake

/-- Adds positional arguments in order. -/
def addPositionals (form : Form) (found : Matches) : List String → Except Stop Matches
  | [] => .ok found
  | value :: rest => do (← found.addPositional form value).addPositionals form rest

end Matches

namespace Form

/-- Reads an option that is written in full. -/
def readLong (form : Form) (letters : List Char) : Except Stop Part :=
  let (name, rest) := letters.span (· != '=')
  let text := String.ofList name
  match form.options.find? fun option => option.name == text with
  | some option =>
      match option.takesValue, rest with
      | true, [] => .ok (.awaiting [] option)
      | true, _ :: value => .ok (.complete [(option, String.ofList value)])
      | false, [] => .ok (.complete [(option, "")])
      | false, _ => .error .mistake
  | none =>
      if !rest.isEmpty then .error .mistake
      else if text = "help" then .error .help
      else if text = "version" ∧ form.hasVersion then .error .version
      else .error .mistake

/-- Reads options that are written as letters. -/
def readLetters (form : Form) (before : List (Option_ × String)) : List Char → Part
  | [] => .complete before
  | letter :: rest =>
      match form.options.find? fun option => option.letter == some letter with
      | some option =>
          if !option.takesValue then form.readLetters (before ++ [(option, "")]) rest
          else match rest with
            | [] => .awaiting before option
            | '=' :: value => .complete (before ++ [(option, String.ofList value)])
            | value => .complete (before ++ [(option, String.ofList value)])
      | none =>
          if letter = 'h' then .stopping before .help
          else if letter = 'V' ∧ form.hasVersion then .stopping before .version
          else .stopping before .mistake

/-- What an argument is; a single hyphen is positional. -/
def readPart (form : Form) (argument : String) : Except Stop Part :=
  match argument.toList with
  | '-' :: '-' :: letters => form.readLong letters
  | ['-'] => .ok .positional
  | '-' :: letters => .ok (form.readLetters [] letters)
  | _ => .ok .positional

/-- Whether an argument can be the value of an option that awaits it. -/
def isValue (argument : String) : Bool :=
  match argument.toList with
  | ['-'] => true
  | '-' :: _ => false
  | _ => true

/-- Matches arguments after those that have been matched. -/
def matchFrom (form : Form) (found : Matches) : List String → Except Stop Matches
  | [] => .ok found
  | "--" :: rest => found.addPositionals form rest
  | [argument] => do
      match ← form.readPart argument with
      | .positional => found.addPositional form argument
      | .complete options => found.addOptions options
      | .awaiting _ _ => throw .mistake
      | .stopping options stop => found.stopAfter options stop
  | argument :: next :: rest => do
      match ← form.readPart argument with
      | .positional => form.matchFrom (← found.addPositional form argument) (next :: rest)
      | .complete options => form.matchFrom (← found.addOptions options) (next :: rest)
      | .awaiting options last =>
          if !isValue next then throw .mistake
          let before ← found.addOptions options
          form.matchFrom (← before.addOption last next) rest
      | .stopping options stop => found.stopAfter options stop

end Form
end CommandLine
end TileProgram
