import TileProgram.Script.Format
import TileProgram.Script.Tool.Texts

/-!
# Tools that work on letters

Letters are replaced or left out, and columns are cut out of lines.
-/

namespace TileProgram
namespace Script
namespace Tool

open Running (forOperands misused toolLine withFlags)

/-! ## Replacing letters -/

/-- All letters that stand for bytes. -/
def allLetters : List Char :=
  (List.range 256).map Char.ofNat

/-- All letters from one to another. -/
def lettersFrom (first last : Char) : List Char :=
  allLetters.filter fun letter => first ≤ letter && letter ≤ last

/-- The letters of a set in order, after a number of letters of its text that are passed over. -/
def setLetters (skip : Nat) : List Char → List Char
  | [] => []
  | letter :: rest =>
      match skip with
      | left + 1 => setLetters left rest
      | 0 =>
          let (first, length) : Char × Nat := match letter, escaped? rest with
            | '\\', some (meaning, count) => (meaning, count)
            | '\\', none => (rest.headD '\\', 1)
            | _, _ => (letter, 0)
          let name := match letter with
            | '[' => className? (rest.map fun other => (other, false))
            | _ => none
          match name, rest.drop length with
          | some name, _ =>
              allLetters.filter (isInClass name) ++ setLetters (name.length + 4 - 1) rest
          | none, '-' :: last :: _ =>
              if first ≤ last then lettersFrom first last ++ setLetters (length + 2) rest
              else first :: setLetters length rest
          | none, _ => first :: setLetters length rest

/-- Letters without repeats of those in a set. -/
def squeezed (set letters : List Char) : List Char :=
  withoutRepeats (fun first second => first == second && set.contains first) letters

/-- The letter that a letter of one set is replaced by; the last letter of the other set stands for all that it lacks. -/
def replacement (source target : List Char) (letter : Char) : Char :=
  match source.reverse.idxOf? letter with
  | none => letter
  | some place =>
      let index := source.length - 1 - place
      target.getD index (target.getLastD letter)

/-- Replaces letters, leaves them out, or leaves out their repeats. -/
def tr (arguments : List String) : Running Nat :=
  let known : KnownFlags :=
    ⟨"tr", "cCdst", "", [("complement", 'c'), ("delete", 'd'), ("squeeze-repeats", 's')], 1⟩
  withFlags known arguments fun flags => do
    let source (text : String) : List Char :=
      let letters := setLetters 0 text.toList
      if flags.has 'c' || flags.has 'C' then allLetters.filter fun letter => !letters.contains letter
      else letters
    let run (change : List Char → List Char) : Running Nat := do
      match ← Running.readInput with
      | .ok bytes => do
          Running.output (letterBytes (change (octets bytes).toList))
          return 0
      | .error failure => do
          toolLine "tr" ("read error: " ++ failure.words)
          return 1
    match flags.operands with
    | [] => misused "tr" 1 "missing operand"
    | [first] =>
        let set := source first
        if flags.has 'd' && !flags.has 's' then
          run fun letters => letters.filter fun letter => !set.contains letter
        else if flags.has 's' && !flags.has 'd' then run (squeezed set)
        else do
          let need := if flags.has 'd' then
              "Two strings must be given when both deleting and squeezing repeats."
            else "Two strings must be given when translating."
          toolLine "tr" ("missing operand after " ++ curled first)
          Running.errorLine need
          Running.errorLine "Try 'tr --help' for more information."
          return 1
    | [first, second] =>
        let set := source first
        let other := setLetters 0 second.toList
        if flags.has 'd' && flags.has 's' then
          run fun letters => squeezed other (letters.filter fun letter => !set.contains letter)
        else if flags.has 'd' then do
          toolLine "tr" ("extra operand " ++ curled second)
          Running.errorLine "Only one string may be given when deleting without squeezing repeats."
          Running.errorLine "Try 'tr --help' for more information."
          return 1
        else if other.isEmpty then do
          toolLine "tr" "when not truncating set1, string2 must be non-empty"
          return 1
        else
          run fun letters =>
            let replaced := letters.map (replacement set other)
            if flags.has 's' then squeezed other replaced else replaced
    | _ :: _ :: third :: _ => misused "tr" 1 ("extra operand " ++ curled third)

/-! ## Cutting columns -/

/-- Why a list of columns cannot be read. -/
inductive ColumnFault where
  | badPlace (text : String)
  | zero
  | decreasing
  | noEnds
  deriving DecidableEq

/-- The wording of a fault of a list of columns, which may be fields. -/
def ColumnFault.message (isFields : Bool) : ColumnFault → String
  | .badPlace text =>
      (if isFields then "invalid field value " else "invalid byte/character position ") ++
        curled text
  | .zero =>
      if isFields then "fields are numbered from 1" else "byte/character positions are numbered from 1"
  | .decreasing => "invalid decreasing range"
  | .noEnds => "invalid range with no endpoint: -"

/-- The number of a column. -/
def columnNumber (text : String) : Except ColumnFault Nat :=
  match number? text with
  | some 0 => .error .zero
  | some place => .ok place
  | none => .error (.badPlace text)

/-- The columns that a list selects: from one to another, or to the end. -/
def columnRanges (text : String) : Except ColumnFault (List (Nat × Option Nat)) :=
  (text.splitOn ",").mapM fun part =>
    match part.splitOn "-" with
    | [first, last] => do
        if first.isEmpty && last.isEmpty then throw .noEnds
        let start ← if first.isEmpty then pure 1 else columnNumber first
        if last.isEmpty then return (start, none)
        let stop ← columnNumber last
        if stop < start then throw .decreasing
        return (start, some stop)
    | _ => do
        let place ← columnNumber part
        return (place, some place)

/-- Whether ranges contain a column. -/
def isSelected (ranges : List (Nat × Option Nat)) (place : Nat) : Bool :=
  ranges.any fun (first, last) => first ≤ place && (last.map fun last => decide (place ≤ last)).getD true

/-- The selected values, counted from one. -/
def selected (ranges : List (Nat × Option Nat)) (isComplement : Bool) (values : List Value) :
    List Value :=
  (values.zipIdx.filter fun (_, place) => isSelected ranges (place + 1) != isComplement).map Prod.fst

/-- Cuts columns or fields out of lines. -/
def cut (arguments : List String) : Running Nat :=
  let known : KnownFlags :=
    ⟨"cut", "sznC", "bcfdo", [("fields", 'f'), ("characters", 'c'), ("bytes", 'b'),
      ("delimiter", 'd'), ("only-delimited", 's'), ("output-delimiter", 'o'),
      ("complement", 'C')], 1⟩
  withFlags known arguments fun flags => do
    let list := (flags.options.find? fun entry => "bcf".toList.contains entry.1)
    match list with
    | none => misused "cut" 1 "you must specify a list of bytes, characters, or fields"
    | some (letter, text) =>
        match columnRanges text with
        | .error fault => misused "cut" 1 (fault.message (letter == 'f'))
        | .ok ranges => do
            let delimiter := (flags.value? 'd').getD "\t"
            match delimiter.toList with
            | [] | [_] => pure ()
            | _ => return ← misused "cut" 1 "the delimiter must be a single character"
            let joint := (flags.value? 'o').getD delimiter
            forOperands (operandsOrInput flags) fun operand => do
              match ← Running.operandBytes operand with
              | .error failure => refuseOperand "cut" operand failure
              | .ok bytes => do
                  for line in plainLines bytes do
                    if letter == 'f' then
                      let fields := line.splitOn delimiter
                      if fields.length = 1 then
                        if !flags.has 's' then Running.outputLine line
                      else
                        let kept := selected ranges (flags.has 'C') fields
                        Running.outputLine (joint.intercalate kept)
                    else
                      Running.outputLine
                        (String.ofList (selected ranges (flags.has 'C') line.toList))
                  return 0

end Tool
end Script
end TileProgram
