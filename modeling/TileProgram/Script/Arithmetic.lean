import TileProgram.Script.Octets
import TileProgram.Script.Syntax

/-!
# Arithmetic of scripts

Expressions are made of numbers of 64 bits with a sign, variables and
operators.  An expression is read as a whole before it is evaluated; variables
that it assigns keep their values for what is evaluated after them.
-/

namespace TileProgram
namespace Script

/-- An operator between two numbers. -/
inductive Binary where
  | times
  | divided
  | remainder
  | plus
  | minus
  | shiftedLeft
  | shiftedRight
  | less
  | atMost
  | greater
  | atLeast
  | equal
  | unequal
  | bitsBoth
  | bitsDiffer
  | bitsEither
  deriving DecidableEq

/-- An operator before a number. -/
inductive Unary where
  | keep
  | negate
  | not
  | complement
  deriving DecidableEq

/-- An expression. -/
inductive Expression where
  | number (value : Int)
  | variable (name : String)
  | unary (operator : Unary) (operand : Expression)
  | binary (operator : Binary) (left right : Expression)
  | both (left right : Expression)
  | either (left right : Expression)
  | choose (condition left right : Expression)
  | assign (name : String) (operator : Option Binary) (value : Expression)

/-- Why an expression has no value. -/
inductive ArithmeticFault where
  | noOperand
  | notEnded
  | noParenthesis
  | noColon
  | divisionByZero
  | badNumber (text : String)
  deriving DecidableEq

/-- The wording of a fault of an expression with a given text. -/
def ArithmeticFault.message (text : String) (fault : ArithmeticFault) : String :=
  let general (words : String) : String :=
    "arithmetic expression: " ++ words ++ ": \"" ++ text ++ "\""
  match fault with
  | .noOperand => general "expecting primary"
  | .notEnded => general "expecting EOF"
  | .noParenthesis => general "expecting ')'"
  | .noColon => general "expecting ':'"
  | .divisionByZero => general "division by zero"
  | .badNumber text => "Illegal number: " ++ text

/-! ## Numbers -/

/-- The number of values that a number can have. -/
def numberCount : Nat := Nat.pow 2 64

/-- The number with the same last 64 bits. -/
def wrap (value : Int) : Int :=
  value.bmod numberCount

/-- The largest number. -/
def greatestNumber : Int := (Nat.pow 2 63 : Int) - 1

/-- The digits of a number at the start of letters, with its base and the number of letters before them. -/
def digitsAt (letters : List Char) : List Char × Nat × Nat :=
  let isHex (letter : Char) : Bool := letter.isDigit || "abcdefABCDEF".toList.contains letter
  let isOctal (letter : Char) : Bool := '0' ≤ letter && letter ≤ '7'
  let hexadecimal (rest : List Char) : Option (List Char) :=
    some (rest.takeWhile isHex) |>.filter fun digits => !digits.isEmpty
  match letters with
  | '0' :: sign :: rest =>
      match if sign == 'x' || sign == 'X' then hexadecimal rest else none with
      | some digits => (digits, 16, 2)
      | none => ('0' :: (sign :: rest).takeWhile isOctal, 8, 0)
  | _ => (letters.takeWhile Char.isDigit, 10, 0)

/-- The number that a text stands for; blanks around it do not count, and no text stands for zero. -/
def numberOf? (text : String) : Option Int :=
  let isBlank (letter : Char) : Bool := letter == ' ' || ('\t' ≤ letter && letter ≤ '\x0d')
  let letters := text.toList.dropWhile isBlank
  let (isNegative, unsigned) := match letters with
    | '-' :: rest => (true, rest)
    | '+' :: rest => (false, rest)
    | _ => (false, letters)
  let (digits, base, before) := digitsAt unsigned
  let rest := (unsigned.drop (before + digits.length)).dropWhile isBlank
  let magnitude : Int := digitsValue base 0 digits
  let value := if isNegative then -magnitude else magnitude
  if digits.isEmpty then (if letters.isEmpty then some 0 else none)
  else if rest.isEmpty && -greatestNumber - 1 ≤ value && value ≤ greatestNumber then some value
  else none

/-! ## Reading -/

/-- A part of the text of an expression. -/
inductive Lexeme where
  | number (value : Int)
  | name (text : String)
  | sign (text : String)
  deriving DecidableEq

/-- The signs of expressions, longer ones first. -/
def signs : List String :=
  [ "<<=", ">>=", "<<", ">>", "<=", ">=", "==", "!=", "&&", "||", "|=", "&=", "^=", "*=", "/=", "%=",
    "+=", "-=", "<", ">", "|", "&", "^", "!", "~", "=", "(", ")", "*", "/", "%", "+", "-", "?", ":" ]

/-- Cuts an expression into lexemes; the first argument counts letters to pass over. -/
def lexemes (skip : Nat) : List Char → List Lexeme
  | [] => []
  | letter :: rest =>
      match skip with
      | left + 1 => lexemes left rest
      | 0 =>
          let letters := letter :: rest
          if " \t\n".toList.contains letter then lexemes 0 rest
          else if letter.isDigit then
            let (digits, base, before) := digitsAt letters
            let value := min (digitsValue base 0 digits : Int) greatestNumber
            .number value :: lexemes (before + digits.length - 1) rest
          else if isNameLetter letter then
            let name := letters.takeWhile isNameLetter
            .name (String.ofList name) :: lexemes (name.length - 1) rest
          else match signs.find? fun sign => sign.toList.isPrefixOf letters with
            | some sign => .sign sign :: lexemes (sign.length - 1) rest
            | none => .sign (String.ofList [letter]) :: lexemes 0 rest

/-- The operators between two numbers with their signs and levels; lower levels bind more tightly. -/
def binaries : List (String × Binary × Nat) :=
  [ ("*", .times, 0), ("/", .divided, 0), ("%", .remainder, 0), ("+", .plus, 1), ("-", .minus, 1),
    ("<<", .shiftedLeft, 2), (">>", .shiftedRight, 2), ("<", .less, 3), ("<=", .atMost, 3),
    (">", .greater, 3), (">=", .atLeast, 3), ("==", .equal, 4), ("!=", .unequal, 4),
    ("&", .bitsBoth, 5), ("^", .bitsDiffer, 6), ("|", .bitsEither, 7) ]

/-- The loosest level. -/
def loosestLevel : Nat := 7

/-- The operators that are combined with an assignment. -/
def assignments : List (String × Option Binary) :=
  ("=", none) :: (["*", "/", "%", "+", "-", "<<", ">>", "&", "^", "|"].map fun sign =>
    (sign ++ "=", (binaries.lookup sign).map Prod.fst))

/-- An expression with the lexemes after it. -/
abbrev Parsed := Except ArithmeticFault (Expression × List Lexeme)

mutual

/-- Reads an expression that may assign. -/
def parseAssignment (fuel : Nat) (lexemes : List Lexeme) : Parsed := do
  match fuel with
  | 0 => throw .noOperand
  | left + 1 =>
      match lexemes with
      | .name name :: .sign sign :: rest =>
          match assignments.lookup sign with
          | some operator => do
              let (value, rest) ← parseAssignment left rest
              return (.assign name operator value, rest)
          | none => parseChoice left lexemes
      | _ => parseChoice left lexemes

/-- Reads an expression that may choose between two others. -/
def parseChoice (fuel : Nat) (lexemes : List Lexeme) : Parsed := do
  match fuel with
  | 0 => throw .noOperand
  | left + 1 =>
      let (condition, rest) ← parseEither left lexemes
      match rest with
      | .sign "?" :: rest => do
          let (first, rest) ← parseAssignment left rest
          match rest with
          | .sign ":" :: rest => do
              let (second, rest) ← parseChoice left rest
              return (.choose condition first second, rest)
          | _ => throw .noColon
      | _ => return (condition, rest)

/-- Reads expressions of which one has to hold. -/
def parseEither (fuel : Nat) (lexemes : List Lexeme) : Parsed := do
  match fuel with
  | 0 => throw .noOperand
  | left + 1 =>
      let (first, rest) ← parseBoth left lexemes
      match rest with
      | .sign "||" :: rest => do
          let (second, rest) ← parseEither left rest
          return (.either first second, rest)
      | _ => return (first, rest)

/-- Reads expressions that have to hold all. -/
def parseBoth (fuel : Nat) (lexemes : List Lexeme) : Parsed := do
  match fuel with
  | 0 => throw .noOperand
  | left + 1 =>
      let (first, rest) ← parseLevel left loosestLevel lexemes
      match rest with
      | .sign "&&" :: rest => do
          let (second, rest) ← parseBoth left rest
          return (.both first second, rest)
      | _ => return (first, rest)

/-- Reads operands joined by operators of a level or of tighter ones. -/
def parseLevel (fuel level : Nat) (lexemes : List Lexeme) : Parsed := do
  match fuel with
  | 0 => throw .noOperand
  | left + 1 =>
      let (first, rest) ←
        match level with
        | 0 => parseOperand left lexemes
        | tighter + 1 => parseLevel left tighter lexemes
      parseMore left level first rest

/-- Reads what operators of a level join to an expression. -/
def parseMore (fuel level : Nat) (first : Expression) (lexemes : List Lexeme) : Parsed := do
  match fuel with
  | 0 => throw .noOperand
  | left + 1 =>
      match lexemes with
      | .sign sign :: rest =>
          match (binaries.lookup sign).filter fun found => found.2 == level with
          | some (operator, _) => do
              let (second, rest) ←
                match level with
                | 0 => parseOperand left rest
                | tighter + 1 => parseLevel left tighter rest
              parseMore left level (.binary operator first second) rest
          | none => return (first, lexemes)
      | _ => return (first, lexemes)

/-- Reads an operand. -/
def parseOperand (fuel : Nat) (lexemes : List Lexeme) : Parsed := do
  match fuel with
  | 0 => throw .noOperand
  | left + 1 =>
      let signed (operator : Unary) (rest : List Lexeme) : Parsed := do
        let (operand, rest) ← parseOperand left rest
        return (.unary operator operand, rest)
      match lexemes with
      | .number value :: rest => return (.number value, rest)
      | .name name :: rest => return (.variable name, rest)
      | .sign "(" :: rest => do
          let (inside, rest) ← parseAssignment left rest
          match rest with
          | .sign ")" :: rest => return (inside, rest)
          | _ => throw .noParenthesis
      | .sign "+" :: rest => signed .keep rest
      | .sign "-" :: rest => signed .negate rest
      | .sign "!" :: rest => signed .not rest
      | .sign "~" :: rest => signed .complement rest
      | _ => throw .noOperand

end

/-- Reads a whole expression. -/
def parseExpression (text : String) : Except ArithmeticFault Expression := do
  let all := lexemes 0 text.toList
  match ← parseAssignment (16 * all.length + 32) all with
  | (expression, []) => return expression
  | _ => throw .notEnded

/-! ## Evaluation -/

/-- The number for a truth value. -/
def truth (holds : Bool) : Int :=
  if holds then 1 else 0

/-- Combines the bits of two numbers. -/
def onBits (combine : BitVec 64 → BitVec 64 → BitVec 64) (left right : Int) : Int :=
  (combine (BitVec.ofInt 64 left) (BitVec.ofInt 64 right)).toInt

/-- The distance that a number is shifted by. -/
def shiftDistance (value : Int) : Nat :=
  (value % 64).toNat

/-- What an operator makes of two numbers. -/
def Binary.apply (operator : Binary) (left right : Int) : Except ArithmeticFault Int :=
  match operator with
  | .times => .ok (wrap (left * right))
  | .divided => if right = 0 then .error .divisionByZero else .ok (wrap (left.tdiv right))
  | .remainder => if right = 0 then .error .divisionByZero else .ok (left.tmod right)
  | .plus => .ok (wrap (left + right))
  | .minus => .ok (wrap (left - right))
  | .shiftedLeft => .ok (wrap (left * Nat.pow 2 (shiftDistance right)))
  | .shiftedRight => .ok (left.fdiv (Nat.pow 2 (shiftDistance right)))
  | .less => .ok (truth (left < right))
  | .atMost => .ok (truth (left ≤ right))
  | .greater => .ok (truth (right < left))
  | .atLeast => .ok (truth (right ≤ left))
  | .equal => .ok (truth (left == right))
  | .unequal => .ok (truth (left != right))
  | .bitsBoth => .ok (onBits (· &&& ·) left right)
  | .bitsDiffer => .ok (onBits (· ^^^ ·) left right)
  | .bitsEither => .ok (onBits (· ||| ·) left right)

/-- What an operator makes of a number. -/
def Unary.apply (operator : Unary) (value : Int) : Int :=
  match operator with
  | .keep => value
  | .negate => wrap (-value)
  | .not => truth (value == 0)
  | .complement => -value - 1

/-- An evaluation, which knows the variables that have been assigned, last one first. -/
abbrev Evaluation := StateT (List (String × Int)) (Except ArithmeticFault)

/-- The number of a variable, given the texts of those that are not assigned. -/
def valueOf (text : String → String) (name : String) : Evaluation Int := do
  match (← get).lookup name with
  | some value => return value
  | none =>
      match numberOf? (text name) with
      | some value => return value
      | none => throw (.badNumber (text name))

/-- Evaluates an expression; what does not decide is not evaluated. -/
def Expression.evaluate (text : String → String) : Expression → Evaluation Int
  | .number value => return value
  | .variable name => valueOf text name
  | .unary operator operand => return operator.apply (← operand.evaluate text)
  | .binary operator left right => do
      let first ← left.evaluate text
      let second ← right.evaluate text
      operator.apply first second
  | .both left right => do
      if (← left.evaluate text) = 0 then return 0
      else return truth ((← right.evaluate text) != 0)
  | .either left right => do
      if (← left.evaluate text) != 0 then return 1
      else return truth ((← right.evaluate text) != 0)
  | .choose condition left right => do
      if (← condition.evaluate text) != 0 then left.evaluate text else right.evaluate text
  | .assign name operator value => do
      let given ← value.evaluate text
      let result ←
        match operator with
        | none => pure given
        | some operator => do operator.apply (← valueOf text name) given
      modify fun assigned => (name, result) :: assigned
      return result

/-- The value of an expression with the variables it assigns, last one first. -/
def arithmetic (text : String → String) (expression : String) :
    Except ArithmeticFault (Int × List (String × Int)) := do
  (← parseExpression expression).evaluate text |>.run []

end Script
end TileProgram
