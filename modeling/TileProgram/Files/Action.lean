import TileProgram.Bytes.LittleEndian
import TileProgram.Text.Utf8

/-!
# Paths, actions on files and their failures

How places are named, what can be asked of a file system, and why it may not do
it.
-/

/-!
## Paths

A path is a text whose parts are separated by slashes.  A path that begins
with a slash starts at the root, any other one at the working directory.
-/

namespace TileProgram
namespace Files
namespace Path

/-- Splits letters at every slash. -/
def split : List Char → List (List Char)
  | [] => [[]]
  | letter :: rest =>
      if letter = '/' then [] :: split rest
      else match split rest with
        | [] => [[letter]]
        | part :: parts => (letter :: part) :: parts

/-- The parts of a path; some may be empty. -/
def parts (path : String) : List String :=
  (split path.toList).map String.ofList

/-- Whether a path starts at the root. -/
def isAbsolute (path : String) : Bool :=
  path.toList.head? == some '/'

/-- Whether a part leads on from where it stands. -/
def isStep (part : String) : Bool :=
  part != "" && part != "."

/-- The parts of a path that lead on, with a point that the path begins with. -/
def steps (path : String) : List String :=
  match parts path with
  | [] => []
  | first :: rest =>
      let others := rest.filter isStep
      if first = "" then others else first :: others

/-- The path of a file inside a directory; a slash that is there already is not doubled. -/
def join (directory file : String) : String :=
  if directory.isEmpty || directory.toList.getLast? == some '/' then directory ++ file
  else directory ++ "/" ++ file

/-- The path seen from a directory. -/
def under (directory path : String) : String :=
  if isAbsolute path then path else join directory path

/-- The last part that leads on. -/
def name (path : String) : String :=
  match ((parts path).filter (· != "")).getLast? with
  | some part => part
  | none => if path = "" then "" else "/"

/-- The longest name that a file can have, in bytes. -/
def greatestName : Nat := 255

/-- The longest path that can be followed, in bytes. -/
def greatestPath : Nat := 4095

end Path
end Files
end TileProgram

/-!
## Failures of the file system
-/

namespace TileProgram
namespace Files

/-- Why an operation on files fails. -/
inductive Failure where
  | missing
  | badFormat
  | denied
  | exists_
  | notDirectory
  | isDirectory
  | nameTooLong
  | notEmpty
  | tooManyLinks
  | invalid
  | notText
  | other (words : String)
  deriving DecidableEq

/-- What a failure says, and its system number if it has one. -/
def Failure.description : Failure → String × Option Nat
  | .missing => ("No such file or directory", some 2)
  | .badFormat => ("Exec format error", some 8)
  | .denied => ("Permission denied", some 13)
  | .exists_ => ("File exists", some 17)
  | .notDirectory => ("Not a directory", some 20)
  | .isDirectory => ("Is a directory", some 21)
  | .invalid => ("Invalid argument", some 22)
  | .nameTooLong => ("File name too long", some 36)
  | .notEmpty => ("Directory not empty", some 39)
  | .tooManyLinks => ("Too many levels of symbolic links", some 40)
  | .notText => ("stream did not contain valid UTF-8", none)
  | .other words => (words, none)

/-- The wording of a failure without its number. -/
def Failure.words (failure : Failure) : String :=
  failure.description.1

/-- The wording of a failure with its system number. -/
def Failure.message (failure : Failure) : String :=
  match failure.description with
  | (words, some number) => words ++ " (os error " ++ toString number ++ ")"
  | (words, none) => words

end Files
end TileProgram

/-!
## Actions on files

An action is a value or a question to the file system together with what is
done with the answer.  What an action does to files is fixed only when it is
run: on a tree held in memory, or on the files of a machine.
-/

namespace TileProgram
namespace Files

/-- What stands under a path. -/
inductive Kind where
  | directory
  | file
  | executable
  | device
  deriving DecidableEq

/-- Whether files of a kind have contents of their own. -/
def Kind.isRegular : Kind → Bool
  | .file | .executable => true
  | .directory | .device => false

/-- What can be asked of a file system. -/
inductive Query where
  | read (path : String)
  | write (path : String) (bytes : Bytes)
  | makeDirectory (path : String)
  | makeDirectories (path : String)
  | remove (path : String)
  | removeDirectory (path : String)
  | rename (source target : String)
  | link (target path : String)
  | linkTarget (path : String)
  | setExecutable (path : String) (isExecutable : Bool)
  | kind (path : String)
  | list (path : String)
  | working
  deriving DecidableEq

/-- What a successful query gives. -/
def Query.Value : Query → Type
  | .read _ => Bytes
  | .kind _ => Kind
  | .list _ => List String
  | .linkTarget _ => String
  | .working => String
  | _ => Unit

/-- The answer to a query. -/
abbrev Query.Answer (query : Query) : Type :=
  Except Failure query.Value

/-- A sequence of queries that ends with a value. -/
inductive Action (Value : Type) where
  | done (value : Value)
  | ask (query : Query) (next : query.Answer → Action Value)

namespace Action

/-- Goes on with the value of an action. -/
def andThen : Action First → (First → Action Second) → Action Second
  | .done value, next => next value
  | .ask query answer, next => .ask query fun given => (answer given).andThen next

instance : Monad Action where
  pure := done
  bind := andThen

/-- The answer to one query. -/
def answer (query : Query) : Action query.Answer :=
  .ask query .done

/-- The contents of a file. -/
def read (path : String) : Action (Except Failure Bytes) :=
  answer (.read path)

/-- The contents of a file as text. -/
def readText (path : String) : Action (Except Failure String) := do
  return (← read path).bind fun bytes => (Utf8.decode bytes).mapError fun _ => .notText

/-- Writes a file, which is created if needed. -/
def write (path : String) (bytes : Bytes) : Action (Except Failure Unit) :=
  answer (.write path bytes)

/-- Makes a directory in one that is there. -/
def makeDirectory (path : String) : Action (Except Failure Unit) :=
  answer (.makeDirectory path)

/-- Makes a directory and all directories on the way to it. -/
def makeDirectories (path : String) : Action (Except Failure Unit) :=
  answer (.makeDirectories path)

/-- Removes a file or a link. -/
def remove (path : String) : Action (Except Failure Unit) :=
  answer (.remove path)

/-- Removes an empty directory. -/
def removeDirectory (path : String) : Action (Except Failure Unit) :=
  answer (.removeDirectory path)

/-- Moves what stands under a path to another path; a file that is there is replaced. -/
def rename (source target : String) : Action (Except Failure Unit) :=
  answer (.rename source target)

/-- Makes a link that leads to a target. -/
def link (target path : String) : Action (Except Failure Unit) :=
  answer (.link target path)

/-- The target of a link. -/
def linkTarget (path : String) : Action (Except Failure String) :=
  answer (.linkTarget path)

/-- Lets a file be executed, or not. -/
def setExecutable (path : String) (isExecutable : Bool) : Action (Except Failure Unit) :=
  answer (.setExecutable path isExecutable)

/-- What stands under a path. -/
def kind (path : String) : Action (Except Failure Kind) :=
  answer (.kind path)

/-- The names in a directory. -/
def list (path : String) : Action (Except Failure (List String)) :=
  answer (.list path)

/-- The working directory. -/
def working : Action (Except Failure String) :=
  answer .working

@[simp] theorem andThen_done (value : First) (next : First → Action Second) :
    (Action.done value).andThen next = next value := rfl

@[simp] theorem andThen_ask (query : Query) (answer : query.Answer → Action First)
    (next : First → Action Second) :
    (Action.ask query answer).andThen next =
      .ask query fun given => (answer given).andThen next := rfl

end Action
end Files
end TileProgram
