import TileProgram.Files.Action

/-!
# A tree of files in memory

A tree assigns a node to every place, which is a list of names from the root
down.  Paths are followed part by part; what is passed through must be a
directory, or a link that leads to one.
-/

namespace TileProgram
namespace Files

/-- What stands at a place of a tree; a device swallows what is written to it and always reads the same. -/
inductive Node where
  | directory
  | file (bytes : Bytes) (isExecutable : Bool)
  | device (contents : Bytes)
  | link (target : String)
  deriving DecidableEq

/-- A place in a tree. -/
abbrev Place := List String

/-- The nodes of a tree by place, and its working directory. -/
structure Tree where
  working : Place
  nodes : List (Place × Node)

namespace Tree

/-- The programs that are always there. -/
def programs : List String :=
  ["sh", "true", "false", "cat", "cp", "echo", "env", "ls", "mkdir", "mv", "rm", "test"]

/-- How many zeros the device of zeros gives at a time. -/
def zeroBlock : Nat := 1048576

/-- An empty working directory, beside the files that are always there. -/
def empty : Tree :=
  let directories : List Place :=
    [[], ["work"], ["bin"], ["usr"], ["usr", "bin"], ["usr", "lib"], ["dev"], ["tmp"], ["etc"],
      ["home"], ["root"], ["var"], ["opt"]]
  let placed := programs.flatMap fun name =>
    [ (["bin", name], Node.file [] true), (["usr", "bin", name], Node.file [] true) ]
  { working := ["work"]
    nodes := directories.map (fun place => (place, Node.directory)) ++ placed ++
      [ (["dev", "null"], .device []), (["dev", "zero"], .device (Bytes.zeros zeroBlock)) ] }

/-- The node at a place. -/
def get? (tree : Tree) (place : Place) : Option Node :=
  tree.nodes.lookup place

/-- Leaves a place empty. -/
def clear (tree : Tree) (place : Place) : Tree :=
  { tree with nodes := tree.nodes.filter fun entry => entry.1 != place }

/-- Puts a node at a place. -/
def put (tree : Tree) (place : Place) (node : Node) : Tree :=
  { tree with nodes := (place, node) :: (tree.clear place).nodes }

/-- Whether a directory stands at a place. -/
def isDirectory (tree : Tree) (place : Place) : Bool :=
  tree.get? place == some .directory

/-- The names at the places below a place. -/
def names (tree : Tree) (place : Place) : List String :=
  tree.nodes.filterMap fun entry =>
    if entry.1.dropLast == place then entry.1.getLast? else none

/-- Checks that a place can be passed through. -/
def pass (tree : Tree) (place : Place) : Except Failure Unit :=
  match tree.get? place with
  | some .directory => .ok ()
  | some _ => .error .notDirectory
  | none => .error .missing

/-- Checks that a part is short enough for a name. -/
def requireName (part : String) : Except Failure Unit :=
  if Path.greatestName < part.utf8ByteSize then .error .nameTooLong else .ok ()

/-- The place that a part leads to from a directory. -/
def step (place : Place) (part : String) : Place :=
  if part = "" ∨ part = "." then place
  else if part = ".." then place.dropLast
  else place ++ [part]

/-- Follows parts from a place on, through at most a given number of links; the place that is reached may be empty. -/
def follow (tree : Tree) (links : Nat) (place : Place) (parts : List String) :
    Except Failure Place :=
  match parts with
  | [] => .ok place
  | part :: rest => do
      tree.pass place
      requireName part
      let next := step place part
      match tree.get? next with
      | some (.link target) =>
          let start := if Path.isAbsolute target then [] else place
          match links with
          | 0 => throw .tooManyLinks
          | left + 1 => tree.follow left start (Path.parts target ++ rest)
      | _ => tree.follow links next rest
termination_by (links, parts.length)

/-- The number of links that a path may lead through. -/
def linkLimit : Nat := 40

/-- Where paths of a kind start. -/
def start (tree : Tree) (path : String) : Place :=
  if Path.isAbsolute path then [] else tree.working

/-- Checks that a path can be followed at all. -/
def requirePath (path : String) : Except Failure Unit :=
  if path = "" then .error .missing
  else if Path.greatestPath < path.utf8ByteSize then .error .nameTooLong
  else .ok ()

/-- The place that a path leads to. -/
def place (tree : Tree) (path : String) : Except Failure Place := do
  requirePath path
  tree.follow linkLimit (tree.start path) (Path.parts path)

/-- Where parts lead to, the last one not followed: the directory, the last part, and whether slashes follow it. -/
structure Spot where
  directory : Place
  name : String
  isClosed : Bool

/-- Whether a spot is named by points, so that it is a directory. -/
def Spot.isPoints (spot : Spot) : Bool :=
  spot.name == "" || spot.name == "." || spot.name == ".."

/-- The place of a spot. -/
def Spot.place (spot : Spot) : Place :=
  step spot.directory spot.name

/-- Follows all parts but the last one that is not empty. -/
def spotOf (tree : Tree) (start : Place) (parts : List String) : Except Failure Spot := do
  let kept := (parts.reverse.dropWhile (· == "")).reverse
  let directory ← tree.follow linkLimit start kept.dropLast
  tree.pass directory
  let name := kept.getLast?.getD ""
  requireName name
  return ⟨directory, name, kept.length < parts.length⟩

/-- The spot that a path leads to. -/
def spot (tree : Tree) (path : String) : Except Failure Spot := do
  requirePath path
  tree.spotOf (tree.start path) (Path.parts path)

/-- Reads a file. -/
def read (tree : Tree) (path : String) : Except Failure Bytes := do
  match tree.get? (← tree.place path) with
  | some (.file bytes _) => return bytes
  | some (.device contents) => return contents
  | some _ => throw .isDirectory
  | none => throw .missing

/-- Writes a file; one that is there stays as executable as it was. -/
def write (tree : Tree) (path : String) (bytes : Bytes) : Except Failure Tree := do
  let spot ← tree.spot path
  if spot.isPoints || spot.isClosed then throw .isDirectory
  let place ← tree.follow linkLimit spot.directory [spot.name]
  match tree.get? place with
  | some (.file _ isExecutable) => return tree.put place (.file bytes isExecutable)
  | some (.device _) => return tree
  | some _ => throw .isDirectory
  | none => return tree.put place (.file bytes false)

/-- Makes the directory that parts lead to. -/
def makeDirectoryAt (tree : Tree) (start : Place) (parts : List String) : Except Failure Tree := do
  let spot ← tree.spotOf start parts
  if spot.isPoints || (tree.get? spot.place).isSome then throw .exists_
  return tree.put spot.place .directory

/-- Makes a directory in one that is there. -/
def makeDirectory (tree : Tree) (path : String) : Except Failure Tree := do
  requirePath path
  tree.makeDirectoryAt (tree.start path) (Path.parts path)

/-- Makes the directory that parts lead to, unless it is there. -/
def ensureDirectoryAt (tree : Tree) (start : Place) (parts : List String) : Except Failure Tree :=
  match tree.makeDirectoryAt start parts with
  | .ok made => .ok made
  | .error failure =>
      match tree.follow linkLimit start parts with
      | .ok place => if tree.isDirectory place then .ok tree else .error failure
      | .error _ => .error failure

/-- The answer of a change that may fail, and the tree after it. -/
def changed (tree : Tree) (result : Except Failure Tree) : Except Failure Unit × Tree :=
  match result with
  | .ok next => (.ok (), next)
  | .error failure => (.error failure, tree)

/-- Makes the directory that parts lead to; if one on the way is missing, first those that the given steps lead to, last step first. -/
def makeAll (tree : Tree) (start : Place) (parts : List String) :
    List String → Except Failure Unit × Tree
  | [] => (.ok (), tree)
  | _ :: before =>
      match tree.ensureDirectoryAt start parts with
      | .error .missing =>
          match tree.makeAll start before.reverse before with
          | (.ok (), ready) => ready.changed (ready.ensureDirectoryAt start parts)
          | failed => failed
      | result => tree.changed result

/-- Makes a directory and those on the way to it; those that could be made stay if one of them fails. -/
def makeDirectories (tree : Tree) (path : String) : Except Failure Unit × Tree :=
  match requirePath path with
  | .error failure => (.error failure, tree)
  | .ok () => tree.makeAll (tree.start path) (Path.parts path) (Path.steps path).reverse

/-- Removes a file or a link. -/
def remove (tree : Tree) (path : String) : Except Failure Tree := do
  let spot ← tree.spot path
  if spot.isPoints then throw .isDirectory
  match tree.get? spot.place with
  | some .directory => throw .isDirectory
  | some _ => if spot.isClosed then throw .notDirectory else return tree.clear spot.place
  | none => throw .missing

/-- Removes an empty directory. -/
def removeDirectory (tree : Tree) (path : String) : Except Failure Tree := do
  let spot ← tree.spot path
  if spot.isPoints then throw .invalid
  tree.pass spot.place
  if (tree.names spot.place).isEmpty then return tree.clear spot.place else throw .notEmpty

/-- Moves the nodes at a place and below it to another place. -/
def move (tree : Tree) (source target : Place) : Tree :=
  let (moved, kept) := tree.nodes.partition fun entry => source.isPrefixOf entry.1
  { tree with nodes := moved.map (fun entry => (target ++ entry.1.drop source.length, entry.2)) ++
      kept.filter fun entry => entry.1 != target }

/-- Moves what stands under a path to another path. -/
def rename (tree : Tree) (source target : String) : Except Failure Tree := do
  let old ← tree.spot source
  let new ← tree.spot target
  if old.isPoints || new.isPoints then throw .invalid
  match tree.get? old.place, tree.get? new.place with
  | none, _ => throw .missing
  | some .directory, some .directory =>
      if (tree.names new.place).isEmpty then return tree.move old.place new.place
      else throw .notEmpty
  | some .directory, some _ => throw .notDirectory
  | some .directory, none =>
      if old.place.isPrefixOf new.place then throw .invalid
      else return tree.move old.place new.place
  | some _, some .directory => throw .isDirectory
  | some _, _ => return tree.move old.place new.place

/-- Makes a link that leads to a target. -/
def link (tree : Tree) (target path : String) : Except Failure Tree := do
  let spot ← tree.spot path
  if spot.isPoints || (tree.get? spot.place).isSome then throw .exists_
  if spot.isClosed then throw .missing
  return tree.put spot.place (.link target)

/-- The target of a link. -/
def linkTarget (tree : Tree) (path : String) : Except Failure String := do
  let spot ← tree.spot path
  match tree.get? spot.place with
  | some (.link target) => return target
  | some _ => throw .invalid
  | none => throw .missing

/-- Lets a file be executed, or not. -/
def setExecutable (tree : Tree) (path : String) (isExecutable : Bool) : Except Failure Tree := do
  let place ← tree.place path
  match tree.get? place with
  | some (.file bytes _) => return tree.put place (.file bytes isExecutable)
  | some _ => return tree
  | none => throw .missing

/-- What stands under a path. -/
def kind (tree : Tree) (path : String) : Except Failure Kind := do
  match tree.get? (← tree.place path) with
  | some (.file _ true) => return .executable
  | some (.file _ false) => return .file
  | some (.device _) => return .device
  | some _ => return .directory
  | none => throw .missing

/-- The names in a directory. -/
def list (tree : Tree) (path : String) : Except Failure (List String) := do
  let place ← tree.place path
  tree.pass place
  return tree.names place

/-- Puts a file under a path, with the directories on the way to it. -/
def plant (tree : Tree) (path : String) (bytes : Bytes) (isExecutable : Bool) : Tree :=
  let steps := Path.steps path
  let place := steps.foldl step (tree.start path)
  let (made, ready) :=
    tree.makeAll (tree.start path) steps.dropLast steps.dropLast.reverse
  if made.toOption.isSome then ready.put place (.file bytes isExecutable) else tree

/-- Answers a query. -/
def answer (tree : Tree) : (query : Query) → query.Answer × Tree
  | .read path => (tree.read path, tree)
  | .write path bytes => tree.changed (tree.write path bytes)
  | .makeDirectory path => tree.changed (tree.makeDirectory path)
  | .makeDirectories path => tree.makeDirectories path
  | .remove path => tree.changed (tree.remove path)
  | .removeDirectory path => tree.changed (tree.removeDirectory path)
  | .rename source target => tree.changed (tree.rename source target)
  | .link target path => tree.changed (tree.link target path)
  | .linkTarget path => (tree.linkTarget path, tree)
  | .setExecutable path isExecutable => tree.changed (tree.setExecutable path isExecutable)
  | .kind path => (tree.kind path, tree)
  | .list path => (tree.list path, tree)
  | .working => (.ok ("/" ++ "/".intercalate tree.working), tree)

end Tree

/-- Runs an action on a tree. -/
def Action.runOn (tree : Tree) : Action Value → Value × Tree
  | .done value => (value, tree)
  | .ask query next =>
      let (given, after) := tree.answer query
      (next given).runOn after

end Files
end TileProgram
