import TileProgram.Script.Expansion
import TileProgram.Script.Source

/-!
# Redirections

The words of all redirections of a command are filled in before the first file
is opened.  A file that cannot be opened is a failure of the command.
-/

namespace TileProgram
namespace Script

open Files (Action Failure)

/-- What a redirection leads a channel to, after its word has been filled in. -/
inductive Target where
  | file (flow : Flow) (path : String)
  | channel (number : Nat)
  | nowhere
  | document (text : String)
  deriving DecidableEq

/-- The channel that a text names, which is one digit, or a hyphen for none. -/
def copied? (text : String) : Option Target :=
  match text.toList with
  | ['-'] => some .nowhere
  | [digit] => if digit.isDigit then some (.channel (digitsValue 10 0 [digit])) else none
  | _ => none

/-- Fills in the word of a redirection. -/
def targetOf (substitute : Substitute) : Redirection → Running (Nat × Target)
  | .redirection channel flow word => do
      let text ← textOf substitute word
      match flow with
      | .document => return (channel, .document text)
      | .copy =>
          match copied? text with
          | some target => return (channel, target)
          | none => do
              let cause := Cause.message .badChannel
              Running.modifyShell fun shell => { shell with line := shell.nextLine }
              Running.fail ("Syntax error: " ++ cause)
      | _ => return (channel, .file flow text)

/-- Complains that a file cannot be opened or created. -/
def refuseFile (verb missing path : String) (failure : Failure) : Running Value := do
  let words := match failure with
    | .missing | .notDirectory => missing
    | _ => failure.words
  Running.fail ("cannot " ++ verb ++ " " ++ path ++ ": " ++ words)

/-- Opens a file to write to it; tells where the next byte goes. -/
def openOutput (flow : Flow) (path : String) : Running Stream := do
  let place ← Running.resolve path
  let before ← Running.kind path
  let refuse (failure : Failure) : Running Stream :=
    refuseFile "create" "Directory nonexistent" path failure
  match flow, before with
  | _, .ok .directory => refuse .isDirectory
  | .append, .ok _ => return .file place 0 true
  | .both, .ok _ => return .file place 0 false
  | .output, .ok kind =>
      if kind.isRegular && (← Running.hasOption 'C') then refuse .exists_ else create place refuse
  | _, _ => create place refuse
where
  /-- Creates an empty file. -/
  create (place : String) (refuse : Failure → Running Stream) : Running Stream := do
    match ← Running.ask (Action.write place []) with
    | .ok () => return .file place 0 (flow = .append)
    | .error failure => refuse failure

/-- Opens a file to read from it. -/
def openInput (path : String) : Running Stream := do
  match ← Running.kind path with
  | .ok _ => return .file (← Running.resolve path) 0 false
  | .error failure => refuseFile "open" "No such file" path failure

/-- Lets a channel lead to a target. -/
def redirect (channel : Nat) (target : Target) : Running Unit := do
  let copy (other : Nat) : Running Unit := do
    match ← Running.streamNumber? other with
    | some number => Running.connect channel number
    | none => Running.fail (toString other ++ ": Bad file descriptor")
  match target with
  | .nowhere => Running.disconnect channel
  | .channel other => copy other
  | .document text => do
      Running.connect channel (← Running.addStream (.waiting (octetBytes text)))
  | .file flow path =>
      match Running.channelOf? path with
      | some other => copy other
      | none => do
          let stream ← if flow = .input then openInput path else openOutput flow path
          Running.connect channel (← Running.addStream stream)

/-- Lets channels lead to targets, in order. -/
def redirectAll (targets : List (Nat × Target)) : Running Unit :=
  targets.forM fun (channel, target) => redirect channel target

/-- Runs something; the channels lead where they led before when it is done. -/
def restoringChannels (running : Running Value) : Running Value := do
  let before := (← Running.shell).channels
  Running.always running (Running.modifyShell fun shell => { shell with channels := before })

end Script
end TileProgram
