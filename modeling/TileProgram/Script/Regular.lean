import TileProgram.Script.Octets
import TileProgram.Script.Pattern

/-!
# Regular expressions

Regular expressions fit a part of a text: of all parts that fit the one that
begins first is taken, and of those the longest.  They are written in one of
two ways, which differ in the signs that need a backslash.
-/

namespace TileProgram
namespace Script

/-- A regular expression. -/
inductive Regular where
  | empty
  | one (element : Element)
  | lineStart
  | lineEnd
  | wordEdge (atStart atEnd : Bool)
  | insideWord
  | sequence (first second : Regular)
  | either (first second : Regular)
  | repeated (least : Nat) (greatest : Option Nat) (body : Regular)
  | group (number : Nat) (body : Regular)
  | again (number : Nat)

/-! ## Fitting -/

/-- Where fitting has come to: the letter before, the letters after, how many letters have been passed, and what groups have fitted. -/
structure Spot where
  before : Option Char
  rest : List Char
  count : Nat
  groups : List (Nat × List Char)

namespace Spot

/-- Passes over a letter. -/
def advance (spot : Spot) : Spot :=
  match spot.rest with
  | [] => spot
  | letter :: rest => { spot with before := some letter, rest := rest, count := spot.count + 1 }

/-- Passes over letters. -/
def advanceBy (spot : Spot) : Nat → Spot
  | 0 => spot
  | left + 1 => spot.advance.advanceBy left

/-- Whether a letter of a word stands before. -/
def isAfterWord (spot : Spot) : Bool :=
  (spot.before.map isNameLetter).getD false
where
  /-- Letters, digits and underscores make words. -/
  isNameLetter (letter : Char) : Bool := letter.isAlphanum || letter == '_'

/-- Whether a letter of a word stands after. -/
def isBeforeWord (spot : Spot) : Bool :=
  (spot.rest.head?.map isAfterWord.isNameLetter).getD false

/-- The spots that can be reached by repeating a step, farthest ones first. -/
def iterate (step : Spot → List Spot) (fuel : Nat) (spot : Spot) : List Spot :=
  match fuel with
  | 0 => [spot]
  | left + 1 =>
      let next := (step spot).filter fun other => spot.count < other.count
      next.flatMap (iterate step left) ++ [spot]

/-- The spots that can be reached by a number of steps. -/
def times (step : Spot → List Spot) (spots : List Spot) : Nat → List Spot
  | 0 => spots
  | left + 1 => times step (spots.flatMap step) left

end Spot

/-- Whether two letters are the same, or differ in case only if that does not count. -/
def sameLetter (ignoresCase : Bool) (first second : Char) : Bool :=
  first == second || (ignoresCase && first.toLower == second.toLower)

/-- Whether an element fits a letter, or its other case if that does not count. -/
def Element.fitsCase (ignoresCase : Bool) (element : Element) (letter : Char) : Bool :=
  element.fits letter ||
    (ignoresCase && (element.fits letter.toLower || element.fits letter.toUpper))

/-- The spots that a regular expression can lead to. -/
def Regular.spots (ignoresCase : Bool) : Regular → Spot → List Spot
  | .empty, spot => [spot]
  | .one element, spot =>
      match spot.rest with
      | [] => []
      | letter :: _ => if element.fitsCase ignoresCase letter then [spot.advance] else []
  | .lineStart, spot => if spot.before.isNone then [spot] else []
  | .lineEnd, spot => if spot.rest.isEmpty then [spot] else []
  | .wordEdge atStart atEnd, spot =>
      let isStart := !spot.isAfterWord && spot.isBeforeWord
      let isEnd := spot.isAfterWord && !spot.isBeforeWord
      if (atStart && isStart) || (atEnd && isEnd) then [spot] else []
  | .insideWord, spot => if spot.isAfterWord == spot.isBeforeWord then [spot] else []
  | .sequence first second, spot => (first.spots ignoresCase spot).flatMap (second.spots ignoresCase)
  | .either first second, spot => first.spots ignoresCase spot ++ second.spots ignoresCase spot
  | .repeated least greatest body, spot =>
      let more := (greatest.map (· - least)).getD (spot.rest.length + 1)
      (Spot.times (body.spots ignoresCase) [spot] least).flatMap
        (Spot.iterate (body.spots ignoresCase) more)
  | .group number body, spot =>
      (body.spots ignoresCase spot).map fun after =>
        let fitted := spot.rest.take (after.count - spot.count)
        { after with groups := (number, fitted) :: after.groups.filter (·.1 != number) }
  | .again number, spot =>
      match spot.groups.lookup number with
      | none => []
      | some letters =>
          let same := (letters.zip spot.rest).all fun (first, second) =>
            sameLetter ignoresCase first second
          if letters.length ≤ spot.rest.length && same then [spot.advanceBy letters.length] else []

/-- A part of a text that a regular expression fits: the letters before it, the letters that fit, the letters after it, and what groups have fitted. -/
structure Fit where
  before : List Char
  inside : List Char
  after : List Char
  groups : List (Nat × List Char)
  deriving DecidableEq

/-- The first one of the spots that are farthest. -/
def farthest (spots : List Spot) : Option Spot :=
  spots.foldl (fun best spot =>
    match best with
    | none => some spot
    | some found => if found.count < spot.count then some spot else best) none

/-- The fit at the start of letters that follow others, last one first. -/
def Regular.fitHere? (regular : Regular) (ignoresCase : Bool) (passed letters : List Char) :
    Option Fit :=
  (farthest (regular.spots ignoresCase ⟨passed.head?, letters, 0, []⟩)).map fun spot =>
    ⟨passed.reverse, letters.take spot.count, spot.rest, spot.groups⟩

/-- The first fit in letters that follow others, last one first. -/
def Regular.fitAfter? (regular : Regular) (ignoresCase : Bool) (passed : List Char) :
    List Char → Option Fit
  | [] => regular.fitHere? ignoresCase passed []
  | letter :: rest =>
      match regular.fitHere? ignoresCase passed (letter :: rest) with
      | some fit => some fit
      | none => regular.fitAfter? ignoresCase (letter :: passed) rest

/-- The first fit in a text. -/
def Regular.fit? (regular : Regular) (ignoresCase : Bool) (letters : List Char) : Option Fit :=
  regular.fitAfter? ignoresCase [] letters

/-! ## Reading -/

/-- Why a regular expression cannot be read. -/
inductive RegularFault where
  | openGroup
  | closedGroup
  | openSet
  | openInterval
  | badInterval
  | nothingRepeated
  | loneBackslash
  | badReference
  | badClass
  deriving DecidableEq

/-- The wording of a fault of a regular expression. -/
def RegularFault.message (isExtended : Bool) (fault : RegularFault) : String :=
  match fault with
  | .openGroup => "Unmatched ( or \\("
  | .closedGroup => "Unmatched ) or \\)"
  | .openSet => "Unmatched [, [^, [:, [., or [="
  | .openInterval => if isExtended then "Unmatched \x7b or \\\x7b" else "Unmatched \\\x7b"
  | .badInterval => "Invalid content of \\\x7b\\\x7d"
  | .nothingRepeated => "Invalid preceding regular expression"
  | .loneBackslash => "Trailing backslash"
  | .badReference => "Invalid back reference"
  | .badClass => "Invalid character class name"

/-- A sign of a regular expression. -/
inductive RegularSign where
  | plain (regular : Regular)
  | star
  | plus
  | maybe
  | open_
  | close
  | bar
  | interval (least : Nat) (greatest : Option Nat)
  | start
  | end_

/-- A set of letters that belong to words, or not. -/
def wordElement (isNegated : Bool) : Element :=
  .among isNegated [.class_ "alnum", .range '_' '_']

/-- The members of a set up to its closing bracket, with the number of letters, after a number of letters that are passed over. -/
def setMembers? (skip : Nat) (isFirst : Bool) : List Char → Option (List Member × Nat)
  | [] => none
  | letter :: rest =>
      match skip with
      | left + 1 => setMembers? left isFirst rest
      | 0 =>
          let add (member : Member) (length : Nat) : Option (List Member × Nat) :=
            (setMembers? (length - 1) false rest).map fun (others, total) =>
              (member :: others, total + length)
          if letter == ']' && !isFirst then some ([], 1)
          else match letter, rest with
            | '[', ':' :: _ =>
                match className? (rest.map fun letter => (letter, false)) with
                | some name => add (.class_ name) (name.length + 4)
                | none => add (.range '[' '[') 1
            | first, '-' :: last :: _ =>
                if last == ']' then add (.range first first) 1 else add (.range first last) 3
            | other, _ => add (.range other other) 1

/-- The set after an opening bracket, with the number of its letters. -/
def regularSet? (letters : List Char) : Option (Element × Nat) :=
  match letters with
  | '^' :: rest =>
      (setMembers? 0 true rest).map fun (members, length) => (.among true members, length + 1)
  | _ => (setMembers? 0 true letters).map fun (members, length) => (.among false members, length)

/-- The bounds of an interval after its opening brace, with the number of letters up to the closing one, which may need a backslash. -/
def interval? (isExtended : Bool) (letters : List Char) :
    Except RegularFault (Nat × Option Nat × Nat) :=
  let least := letters.takeWhile Char.isDigit
  let rest := letters.drop least.length
  let (greatest, length, rest) : Option (Option Nat) × Nat × List Char :=
    match rest with
    | ',' :: more =>
        let digits := more.takeWhile Char.isDigit
        let bound := if digits.isEmpty then none else some (digitsValue 10 0 digits)
        (some bound, digits.length + 1, more.drop digits.length)
    | _ => (none, 0, rest)
  let bound := digitsValue 10 0 least
  let greatest := greatest.getD (some bound)
  let isOrdered := (greatest.map fun other => decide (bound ≤ other)).getD true
  let total := least.length + length
  let found (closing : Nat) : Except RegularFault (Nat × Option Nat × Nat) :=
    if total = 0 || !isOrdered then .error .badInterval
    else .ok (bound, greatest, total + closing)
  match isExtended, rest with
  | true, '\x7d' :: _ => found 1
  | false, '\\' :: '\x7d' :: _ => found 2
  | _, [] => .error .openInterval
  | _, _ => .error .badInterval

/-- The sign of a letter after a backslash, in both ways of writing. -/
def escapedSign (isExtended : Bool) (letter : Char) : RegularSign :=
  let general : RegularSign :=
    match letter with
    | 'w' => .plain (.one (wordElement false))
    | 'W' => .plain (.one (wordElement true))
    | 's' => .plain (.one (.among false [.class_ "space"]))
    | 'S' => .plain (.one (.among true [.class_ "space"]))
    | 'b' => .plain (.wordEdge true true)
    | '<' => .plain (.wordEdge true false)
    | '>' => .plain (.wordEdge false true)
    | 'B' => .plain .insideWord
    | _ =>
        if letter.isDigit && letter != '0' then .plain (.again (digitsValue 10 0 [letter]))
        else .plain (.one (.exactly letter))
  if isExtended then general
  else match letter with
    | '(' => .open_
    | ')' => .close
    | '|' => .bar
    | '+' => .plus
    | '?' => .maybe
    | _ => general

/-- The sign at the start of letters, with the number of its letters. -/
def regularSign (isExtended : Bool) (letters : List Char) :
    Except RegularFault (RegularSign × Nat) :=
  let interval (rest : List Char) (opening : Nat) : Except RegularFault (RegularSign × Nat) := do
    let (least, greatest, length) ← interval? isExtended rest
    return (.interval least greatest, opening + length)
  match letters with
  | [] => .ok (.end_, 0)
  | '.' :: _ => .ok (.plain (.one .one), 1)
  | '*' :: _ => .ok (.star, 1)
  | '^' :: _ => .ok (.start, 1)
  | '$' :: _ => .ok (.end_, 1)
  | '[' :: rest =>
      match regularSet? rest with
      | some (element, length) => .ok (.plain (.one element), length + 1)
      | none => .error .openSet
  | ['\\'] => .error .loneBackslash
  | '\\' :: '\x7b' :: rest =>
      if isExtended then .ok (.plain (.one (.exactly '\x7b')), 2) else interval rest 2
  | '\\' :: letter :: _ => .ok (escapedSign isExtended letter, 2)
  | '(' :: _ => .ok (if isExtended then .open_ else .plain (.one (.exactly '(')), 1)
  | ')' :: _ => .ok (if isExtended then .close else .plain (.one (.exactly ')')), 1)
  | '|' :: _ => .ok (if isExtended then .bar else .plain (.one (.exactly '|')), 1)
  | '+' :: _ => .ok (if isExtended then .plus else .plain (.one (.exactly '+')), 1)
  | '?' :: _ => .ok (if isExtended then .maybe else .plain (.one (.exactly '?')), 1)
  | '\x7b' :: rest =>
      if isExtended then
        match interval rest 1 with
        | .ok found => .ok found
        | .error _ => .ok (.plain (.one (.exactly '\x7b')), 1)
      else .ok (.plain (.one (.exactly '\x7b')), 1)
  | letter :: _ => .ok (.plain (.one (.exactly letter)), 1)

/-- Whether letters begin with the end of an alternative. -/
def isAlternativeEnd (isExtended : Bool) (letters : List Char) : Bool :=
  match isExtended, letters with
  | _, [] => true
  | true, ')' :: _ | true, '|' :: _ => true
  | false, '\\' :: ')' :: _ | false, '\\' :: '|' :: _ => true
  | _, _ => false

/-- What has been read of a regular expression: the alternatives that are finished, the pieces of the one that is being read, last one first, and the letters that are left with the number of groups. -/
structure RegularReading where
  letters : List Char
  groups : Nat

/-- A step of reading a regular expression. -/
abbrev ReadingRegular := StateT RegularReading (Except RegularFault)

/-- Joins pieces, last one first. -/
def joinedPieces (pieces : List Regular) : Regular :=
  match pieces with
  | [] => .empty
  | last :: before => before.foldl (fun rest piece => .sequence piece rest) last

/-- Passes over letters. -/
def skipLetters (count : Nat) : ReadingRegular Unit :=
  modify fun reading => { reading with letters := reading.letters.drop count }

/-- Repeats the piece that has been read last. -/
def repeatLast (least : Nat) (greatest : Option Nat) (pieces : List Regular) :
    ReadingRegular (List Regular) :=
  match pieces with
  | [] => throw .nothingRepeated
  | last :: before => return .repeated least greatest last :: before

mutual

/-- Reads alternatives, inside a group or not. -/
def readAlternatives (isExtended isInside : Bool) (fuel : Nat) : ReadingRegular Regular := do
  match fuel with
  | 0 => throw .openGroup
  | left + 1 => do
      let first ← readPiecesOf isExtended isInside left []
      match isExtended, (← get).letters with
      | true, '|' :: _ => do
          skipLetters 1
          return .either first (← readAlternatives isExtended isInside left)
      | false, '\\' :: '|' :: _ => do
          skipLetters 2
          return .either first (← readAlternatives isExtended isInside left)
      | _, _ => return first

/-- Reads the pieces of an alternative after those that have been read, last one first. -/
def readPiecesOf (isExtended isInside : Bool) (fuel : Nat) (pieces : List Regular) :
    ReadingRegular Regular := do
  match fuel with
  | 0 => throw .openGroup
  | left + 1 => do
      let letters := (← get).letters
      let goOn (pieces : List Regular) : ReadingRegular Regular :=
        readPiecesOf isExtended isInside left pieces
      let isStart := match pieces with
        | [] => true
        | [.lineStart] => !isExtended
        | _ => false
      let literal (letter : Char) : ReadingRegular Regular := do
        goOn (.one (.exactly letter) :: pieces)
      if letters.isEmpty then return joinedPieces pieces
      else
        let (sign, length) ← regularSign isExtended letters
        match sign with
        | .bar => return joinedPieces pieces
        | .close =>
            if isInside then return joinedPieces pieces
            else if isExtended then do
              skipLetters length
              literal ')'
            else throw .closedGroup
        | .open_ => do
            let number := (← get).groups + 1
            set (RegularReading.mk (letters.drop length) number)
            let body ← readAlternatives isExtended true left
            let closing := if isExtended then [')'] else ['\\', ')']
            if closing.isPrefixOf (← get).letters then
              skipLetters closing.length
              goOn (.group number body :: pieces)
            else throw .openGroup
        | .plain (.again number) => do
            skipLetters length
            if number ≤ (← get).groups then goOn (.again number :: pieces) else throw .badReference
        | .plain regular => do
            skipLetters length
            goOn (regular :: pieces)
        | .start => do
            skipLetters length
            if isExtended || pieces.isEmpty then goOn (.lineStart :: pieces) else literal '^'
        | .end_ => do
            skipLetters length
            if isExtended || isAlternativeEnd isExtended (letters.drop length) then
              goOn (.lineEnd :: pieces)
            else literal '$'
        | .star => do
            skipLetters length
            if isStart then (if isExtended then goOn pieces else literal '*')
            else goOn (← repeatLast 0 none pieces)
        | .plus => do
            skipLetters length
            if isStart then (if isExtended then goOn pieces else literal '+')
            else goOn (← repeatLast 1 none pieces)
        | .maybe => do
            skipLetters length
            if isStart then (if isExtended then goOn pieces else literal '?')
            else goOn (← repeatLast 0 (some 1) pieces)
        | .interval least greatest => do
            skipLetters length
            goOn (← repeatLast least greatest pieces)

end

/-- Reads a regular expression. -/
def Regular.parse (isExtended : Bool) (text : String) : Except RegularFault Regular := do
  let letters := text.toList
  let fuel := 2 * letters.length + 4
  let (regular, rest) ← (readAlternatives isExtended false fuel).run ⟨letters, 0⟩
  if rest.letters.isEmpty then return regular else throw .closedGroup

/-- A regular expression that fits letters only as they are. -/
def Regular.ofLetters (letters : List Char) : Regular :=
  joinedPieces (letters.reverse.map fun letter => .one (.exactly letter))

end Script
end TileProgram
