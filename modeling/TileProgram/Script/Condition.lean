import TileProgram.Script.Arithmetic
import TileProgram.Script.State

/-!
# Conditions

A condition is a list of words: operands, operators before one operand or
between two, and signs that join conditions.  All parts are tested, also those
that do not decide.
-/

namespace TileProgram
namespace Script

open Files (Action Kind)

/-- What a word is in a condition. -/
inductive ConditionSign where
  | unary
  | binary
  | not
  | and_
  | or_
  | open_
  | close
  | operand
  | ending
  deriving DecidableEq

/-- The operators before one operand. -/
def unaryTests : List String :=
  [ "-r", "-w", "-x", "-e", "-f", "-d", "-c", "-b", "-p", "-u", "-g", "-k", "-s", "-t", "-z", "-n",
    "-h", "-O", "-G", "-L", "-S" ]

/-- The operators between two numbers. -/
def numberTests : List (String × (Int → Int → Bool)) :=
  [ ("-eq", fun left right => left == right), ("-ne", fun left right => left != right),
    ("-lt", fun left right => left < right), ("-le", fun left right => left ≤ right),
    ("-gt", fun left right => left > right), ("-ge", fun left right => left ≥ right) ]

/-- The operators between two texts. -/
def textTests : List (String × (String → String → Bool)) :=
  [ ("=", fun left right => left == right), ("!=", fun left right => left != right),
    ("<", fun left right => left < right), (">", fun left right => right < left) ]

/-- Whether a word is an operator between two operands. -/
def isBinaryTest (word : String) : Bool :=
  (numberTests.lookup word).isSome || (textTests.lookup word).isSome ||
    ["-nt", "-ot", "-ef"].contains word

/-- What the first of some words is. -/
def conditionSign (words : List String) : ConditionSign :=
  match words with
  | [] => .ending
  | "!" :: _ => .not
  | "-a" :: _ => .and_
  | "-o" :: _ => .or_
  | ")" :: _ => .close
  | "(" :: rest => if rest.isEmpty then .operand else .open_
  | word :: rest =>
      if isBinaryTest word then .binary
      else if unaryTests.contains word then
        match rest with
        | [] => .operand
        | [_] => .unary
        | next :: _ => if isBinaryTest next then .operand else .unary
      else .operand

/-- The number that an operand stands for. -/
def conditionNumber (text : String) : Running Int := do
  let isBlank (letter : Char) : Bool := letter == ' ' || ('\t' ≤ letter && letter ≤ '\x0d')
  let letters := text.toList.dropWhile isBlank
  let (isNegative, unsigned) := match letters with
    | '-' :: rest => (true, rest)
    | '+' :: rest => (false, rest)
    | _ => (false, letters)
  let digits := unsigned.takeWhile Char.isDigit
  let magnitude : Int := digitsValue 10 0 digits
  let value := if isNegative then -magnitude else magnitude
  let isWhole := ((unsigned.drop digits.length).dropWhile isBlank).isEmpty
  if digits.isEmpty || !isWhole || value < -greatestNumber - 1 || greatestNumber < value then
    Running.fail ("Illegal number: " ++ text)
  else return value

/-- Whether a condition with one operand holds. -/
def holdsOf (operator operand : String) : Running Bool := do
  let kind := (← Running.kind operand).toOption
  match operator with
  | "-z" => return operand.isEmpty
  | "-n" => return !operand.isEmpty
  | "-t" => do
      let _ ← conditionNumber operand
      return false
  | "-e" | "-r" | "-w" | "-O" | "-G" => return kind.isSome
  | "-d" => return kind == some .directory
  | "-f" => return (kind.map Kind.isRegular).getD false
  | "-x" => return kind == some .directory || kind == some .executable
  | "-c" => return kind == some .device
  | "-h" | "-L" => return (← Running.onPath Action.linkTarget operand).toOption.isSome
  | "-s" =>
      if (kind.map Kind.isRegular).getD false then
        match ← Running.readFile operand with
        | .ok bytes => return !bytes.isEmpty
        | .error _ => return false
      else return kind == some .directory
  | _ => return false

/-- Whether a condition with two operands holds. -/
def holdsBetween (left operator right : String) : Running Bool := do
  match numberTests.lookup operator, textTests.lookup operator with
  | some compare, _ => do
      let first ← conditionNumber left
      let second ← conditionNumber right
      return compare first second
  | none, some compare => return compare left right
  | none, none => do
      let first ← Running.kind left
      let second ← Running.kind right
      match operator with
      | "-nt" => return first.toOption.isSome && second.toOption.isNone
      | "-ot" => return first.toOption.isNone && second.toOption.isSome
      | _ => return left == right && first.toOption.isSome

mutual

/-- Tests conditions of which one has to hold; gives the words from the last one on that was used. -/
def anyHolds (fuel : Nat) (sign : ConditionSign) (words : List String) :
    Running (Bool × List String) := do
  match fuel with
  | 0 => throw .exhausted
  | left + 1 => do
      let (first, rest) ← allHold left sign words
      if conditionSign rest.tail = .or_ then
        let others := rest.tail.tail
        let (second, rest) ← anyHolds left (conditionSign others) others
        return (first || second, rest)
      else return (first, rest)

/-- Tests conditions that have to hold all. -/
def allHold (fuel : Nat) (sign : ConditionSign) (words : List String) :
    Running (Bool × List String) := do
  match fuel with
  | 0 => throw .exhausted
  | left + 1 => do
      let (first, rest) ← negatedHolds left sign words
      if conditionSign rest.tail = .and_ then
        let others := rest.tail.tail
        let (second, rest) ← allHold left (conditionSign others) others
        return (first && second, rest)
      else return (first, rest)

/-- Tests a condition that may be negated. -/
def negatedHolds (fuel : Nat) (sign : ConditionSign) (words : List String) :
    Running (Bool × List String) := do
  match fuel with
  | 0 => throw .exhausted
  | left + 1 =>
      if sign = .not then
        let next := conditionSign words.tail
        let rest := if next = .ending then words else words.tail
        let (holds, rest) ← negatedHolds left next rest
        return (!holds, rest)
      else primaryHolds left sign words

/-- Tests a condition that is not joined. -/
def primaryHolds (fuel : Nat) (sign : ConditionSign) (words : List String) :
    Running (Bool × List String) := do
  match fuel with
  | 0 => throw .exhausted
  | left + 1 =>
      match sign, words with
      | .ending, _ => return (false, words)
      | _, [] => return (false, words)
      | .open_, _ :: inside => do
          if conditionSign inside = .close then return (false, inside)
          else
            let (holds, rest) ← anyHolds left (conditionSign inside) inside
            if conditionSign rest.tail = .close then return (holds, rest.tail)
            else Running.fail "closing paren expected"
      | .unary, operator :: rest =>
          match rest with
          | [] => Running.fail (operator ++ ": argument expected")
          | operand :: _ => return (← holdsOf operator operand, rest)
      | _, operand :: rest =>
          if conditionSign rest = .binary then
            match rest with
            | operator :: second :: others =>
                return (← holdsBetween operand operator second, second :: others)
            | operator :: [] => Running.fail (operator ++ ": argument expected")
            | [] => return (!operand.isEmpty, words)
          else return (!operand.isEmpty, words)

end

/-- Tests the words of a condition; with three words an operator in the middle decides how they are read, and with three or four a negation or parentheses around them. -/
def condition (fuel : Nat) (words : List String) : Running Bool := do
  match fuel with
  | 0 => throw .exhausted
  | left + 1 =>
      let test (sign : ConditionSign) : Running Bool := do
        let (holds, rest) ← anyHolds (8 * words.length + 8) sign words
        match rest with
        | last :: _ :: _ => Running.fail (last ++ ": unexpected operator")
        | _ => return holds
      let around : Running Bool := do
        match words.head?, words.getLast? with
        | some "(", some ")" => do
            let inside := words.tail.dropLast
            let (holds, rest) ← anyHolds (8 * words.length + 8) (conditionSign inside) inside
            match rest with
            | last :: _ :: _ => Running.fail (last ++ ": unexpected operator")
            | _ => return holds
        | some "!", _ => return !(← condition left words.tail)
        | _, _ => test (conditionSign words)
      match words with
      | [] => return false
      | [_, operator, _] => if isBinaryTest operator then test .operand else around
      | [_, _, _, _] => around
      | _ => test (conditionSign words)

/-- The status of a command that tests a condition: zero if it holds. -/
def testStatus (command : String) (arguments : List String) : Running Nat := do
  let isBracket := command == "["
  if isBracket && arguments.getLast? != some "]" then Running.fail "missing ]"
  let words := if isBracket then arguments.dropLast else arguments
  return if ← condition (words.length + 1) words then 0 else 1

end Script
end TileProgram
