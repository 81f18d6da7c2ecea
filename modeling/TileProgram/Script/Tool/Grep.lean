import TileProgram.Script.Regular
import TileProgram.Script.Tool.Texts

/-!
# Looking for lines

The lines that regular expressions fit are shown or counted.
-/

namespace TileProgram
namespace Script
namespace Tool

open Running (toolLine withFlags)

/-- Whether a letter belongs to a word. -/
def isWordLetter (letter : Char) : Bool :=
  letter.isAlphanum || letter == '_'

/-- Whether a fit has no letters of words around it. -/
def Fit.isWord (fit : Fit) : Bool :=
  let edge (letter : Option Char) : Bool := !(letter.map isWordLetter).getD false
  edge fit.before.getLast? && edge fit.after.head?

/-- The fits in letters that follow others, last one first, and that are wanted. -/
def fitsIn (isWanted : Fit → Bool) (regular : Regular) (ignoresCase : Bool) (fuel : Nat)
    (passed letters : List Char) : List Fit :=
  match fuel with
  | 0 => []
  | left + 1 =>
      match regular.fitAfter? ignoresCase passed letters with
      | none => []
      | some fit =>
          let next := if fit.inside.isEmpty || !isWanted fit then 1 else fit.inside.length
          let start := fit.before.length - passed.length
          let count := start + next
          let passed := (letters.take count).reverse ++ passed
          let others :=
            if letters.length < count then []
            else fitsIn isWanted regular ignoresCase left passed (letters.drop count)
          if isWanted fit then fit :: others else others

/-- What is looked for: expressions, and how a line must fit. -/
structure Search where
  regulars : List Regular
  ignoresCase : Bool
  isWord : Bool
  isWhole : Bool
  isInverted : Bool

namespace Search

/-- The parts of a line that fit. -/
def found (search : Search) (line : String) : List Fit :=
  let letters := line.toList
  let isWanted (fit : Fit) : Bool :=
    (!search.isWord || Fit.isWord fit) &&
      (!search.isWhole || (fit.before.isEmpty && fit.after.isEmpty))
  search.regulars.flatMap fun regular =>
    fitsIn isWanted regular search.ignoresCase (letters.length + 1) [] letters

/-- Whether a line is wanted. -/
def selects (search : Search) (line : String) : Bool :=
  let letters := line.toList
  let isFound :=
    if search.isWord || search.isWhole then !(search.found line).isEmpty
    else search.regulars.any fun regular => (regular.fit? search.ignoresCase letters).isSome
  isFound != search.isInverted

end Search

/-- The options of looking for lines. -/
def grepFlags : KnownFlags :=
  ⟨"grep", "EFGPivnclLqshHowxarRzby", "efmABC",
    [("quiet", 'q'), ("silent", 'q'), ("count", 'c'), ("ignore-case", 'i'), ("invert-match", 'v'),
      ("line-number", 'n'), ("extended-regexp", 'E'), ("fixed-strings", 'F'), ("regexp", 'e'),
      ("only-matching", 'o'), ("word-regexp", 'w'), ("line-regexp", 'x'), ("no-messages", 's'),
      ("files-with-matches", 'l'), ("files-without-match", 'L'), ("max-count", 'm'),
      ("with-filename", 'H'), ("no-filename", 'h'), ("text", 'a')], 2⟩

/-- The lines around those that are wanted, with the note whether they are wanted themselves. -/
def withContext (before after : Nat) (isWanted : List Bool) : List (Nat × Bool) :=
  let places := isWanted.zipIdx.filterMap fun (wanted, place) => if wanted then some place else none
  isWanted.zipIdx.filterMap fun (wanted, place) =>
    let isNear := places.any fun other => other ≤ place + before && place ≤ other + after
    if wanted then some (place, true) else if isNear then some (place, false) else none

/-- Keeps only the first of the notes that hold, at most a given number of them. -/
def firstHolding (limit : Nat) : List Bool → List Bool
  | [] => []
  | holds :: rest =>
      match holds, limit with
      | true, 0 => false :: firstHolding 0 rest
      | true, left + 1 => true :: firstHolding left rest
      | false, _ => false :: firstHolding limit rest

/-- Looks for lines in one text; tells whether there were any. -/
def grepText (flags : Flags) (search : Search) (name : String) (showsName : Bool)
    (bytes : Bytes) : Running Bool := do
  let all := plainLines bytes
  let count (letter : Char) : Nat :=
    (((flags.value? letter).orElse fun _ => flags.value? 'C').bind number?).getD 0
  let limit := ((flags.value? 'm').bind number?).getD all.length
  let isWanted := firstHolding limit (all.map search.selects)
  let number := isWanted.count true
  let isBinary := bytes.contains 0 && !flags.has 'a'
  let start := if showsName then name ++ ":" else ""
  if flags.has 'q' then pure ()
  else if flags.has 'l' then
    if 0 < number then Running.outputLine name
  else if flags.has 'L' then
    if number = 0 then Running.outputLine name
  else if flags.has 'c' then Running.outputLine (start ++ toString number)
  else if isBinary then
    if 0 < number then Running.outputLine ("grep: " ++ name ++ ": binary file matches")
  else
    let shown := withContext (count 'B') (count 'A') isWanted
    let hasContext := 0 < count 'A' || 0 < count 'B'
    let _ ← shown.foldlM (fun (last : Option Nat) (place, wanted) => do
      let line := all.getD place ""
      let sign := if wanted then ":" else "-"
      let head := (if showsName then name ++ sign else "") ++
        (if flags.has 'n' then toString (place + 1) ++ sign else "")
      if hasContext && (last.map fun last => decide (last + 1 < place)).getD false then
        Running.outputLine "--"
      if flags.has 'o' then
        for fit in search.found line do
          if !fit.inside.isEmpty then Running.outputLine (head ++ String.ofList fit.inside)
      else Running.outputLine (head ++ line)
      return some place) none
  return 0 < number

/-- Looks for lines. -/
def grep (arguments : List String) : Running Nat := do
  let usage : Running Nat := do
    Running.errorLine "Usage: grep [OPTION]... PATTERNS [FILE]..."
    Running.errorLine "Try 'grep --help' for more information."
    return 2
  match Flags.read grepFlags false arguments with
  | .error text => do
      toolLine "grep" text
      usage
  | .ok flags => do
      let given := (flags.options.filter fun entry => entry.1 == 'e').map Prod.snd
      let files := (flags.options.filter fun entry => entry.1 == 'f').map Prod.snd
      let fromFiles ← files.mapM fun path => do
        return plainLines (((← Running.operandBytes path).toOption).getD [])
      let hasPatterns := !given.isEmpty || !files.isEmpty
      let operands := if hasPatterns then flags.operands else flags.operands.drop 1
      if !hasPatterns && flags.operands.isEmpty then return ← usage
      let patterns := if hasPatterns then given ++ fromFiles.flatten else flags.operands.take 1
      let patterns := patterns.flatMap fun pattern => pattern.splitOn "\n"
      let isExtended := flags.has 'E' || flags.has 'P'
      let read (pattern : String) : Except RegularFault Regular :=
        if flags.has 'F' then .ok (Regular.ofLetters pattern.toList)
        else Regular.parse isExtended pattern
      match patterns.mapM read with
      | .error fault => do
          toolLine "grep" (fault.message isExtended)
          return 2
      | .ok regulars => do
          let search : Search :=
            ⟨regulars, flags.has 'i' || flags.has 'y', flags.has 'w', flags.has 'x', flags.has 'v'⟩
          let operands := if operands.isEmpty then ["-"] else operands
          let showsName := (1 < operands.length || flags.has 'H') && !flags.has 'h'
          let (isFound, hasFailed) ← operands.foldlM (fun (found, failed) operand => do
            let name := if operand == "-" then "(standard input)" else operand
            match ← Running.operandBytes operand with
            | .error failure => do
                if !flags.has 's' then
                  toolLine "grep" (name ++ ": " ++ failure.words)
                return (found, true)
            | .ok bytes => do
                let more ← grepText flags search name showsName bytes
                return (found || more, failed)) (false, false)
          if isFound && flags.has 'q' then return 0
          else if hasFailed then return 2
          else return if isFound then 0 else 1

end Tool
end Script
end TileProgram
