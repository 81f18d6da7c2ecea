/-!
# Patterns of scripts

A pattern is a list of elements, each of which fits one letter or, for a star,
any number of letters.  A letter of a pattern that was quoted fits itself only.
-/

namespace TileProgram
namespace Script

/-- A letter with the note whether it was quoted. -/
abbrev Mark := Char × Bool

/-- Letters none of which was quoted. -/
def unquoted (text : String) : List Mark :=
  text.toList.map fun letter => (letter, false)

/-- The text of letters with their marks. -/
def textOfMarks (marks : List Mark) : String :=
  String.ofList (marks.map Prod.fst)

/-- A member of a set of letters: all letters from one to another, or a class. -/
inductive Member where
  | range (first last : Char)
  | class_ (name : String)
  deriving DecidableEq

/-- An element of a pattern. -/
inductive Element where
  | exactly (letter : Char)
  | one
  | many
  | among (isNegated : Bool) (members : List Member)
  deriving DecidableEq

/-- Whether a letter is a sign: shown, but neither a letter nor a digit nor a blank. -/
def isPunctuation (letter : Char) : Bool :=
  '!' ≤ letter && letter ≤ '~' && !letter.isAlphanum

/-- Whether a letter belongs to a class. -/
def isInClass (name : String) (letter : Char) : Bool :=
  let isBlank := letter == ' ' || letter == '\t'
  match name with
  | "alpha" => letter.isAlpha
  | "digit" => letter.isDigit
  | "alnum" => letter.isAlphanum
  | "upper" => letter.isUpper
  | "lower" => letter.isLower
  | "blank" => isBlank
  | "space" => letter == ' ' || ('\t' ≤ letter && letter ≤ '\x0d')
  | "punct" => isPunctuation letter
  | "xdigit" => letter.isDigit || ("abcdefABCDEF".toList.contains letter)
  | "cntrl" => letter < ' ' || letter == '\x7f'
  | "print" => ' ' ≤ letter && letter ≤ '~'
  | "graph" => '!' ≤ letter && letter ≤ '~'
  | _ => false

/-- Whether a member of a set contains a letter. -/
def Member.contains (member : Member) (letter : Char) : Bool :=
  match member with
  | .range first last => first ≤ letter && letter ≤ last
  | .class_ name => isInClass name letter

/-- Whether an element that stands for one letter fits it. -/
def Element.fits (element : Element) (letter : Char) : Bool :=
  match element with
  | .exactly expected => letter == expected
  | .one => true
  | .many => false
  | .among isNegated members => isNegated != members.any fun member => member.contains letter

/-- The name of a class at the start of letters, after the bracket that begins it. -/
def className? (letters : List Mark) : Option String :=
  match letters with
  | (':', false) :: rest =>
      let name := rest.takeWhile fun mark => mark.1.isAlpha
      match rest.drop name.length with
      | (':', _) :: (']', _) :: _ => some (String.ofList (name.map Prod.fst))
      | _ => none
  | _ => none

/-- The members of a set up to its closing bracket, with the number of letters; the first argument counts letters to pass over, and the second says whether a bracket would be a member. -/
def members? (skip : Nat) (isFirst : Bool) : List Mark → Option (List Member × Nat)
  | [] => none
  | mark :: rest =>
      match skip with
      | left + 1 => members? left isFirst rest
      | 0 =>
          let add (member : Member) (length : Nat) :=
            (members? (length - 1) false rest).map fun (others, total) =>
              (member :: others, total + length)
          if mark == (']', false) && !isFirst then some ([], 1)
          else match mark, rest with
            | ('[', false), _ =>
                match className? rest with
                | some name => add (.class_ name) (name.length + 4)
                | none => add (.range '[' '[') 1
            | ('\\', false), (next, _) :: _ => add (.range next next) 2
            | (first, _), ('-', false) :: (last, isQuoted) :: _ =>
                if last == ']' && !isQuoted then add (.range first first) 1
                else add (.range first last) 3
            | (letter, _), _ => add (.range letter letter) 1

/-- The set after an opening bracket, with the number of its letters. -/
def set? (letters : List Mark) : Option (Element × Nat) :=
  match letters with
  | ('!', false) :: rest =>
      (members? 0 true rest).map fun (members, length) => (.among true members, length + 1)
  | _ => (members? 0 true letters).map fun (members, length) => (.among false members, length)

/-- The elements of a pattern; the first argument counts letters to pass over. -/
def elements (skip : Nat) : List Mark → List Element
  | [] => []
  | mark :: rest =>
      match skip with
      | left + 1 => elements left rest
      | 0 =>
          match mark, rest with
          | ('?', false), _ => .one :: elements 0 rest
          | ('*', false), _ => .many :: elements 0 rest
          | ('[', false), _ =>
              match set? rest with
              | some (element, length) => element :: elements length rest
              | none => .exactly '[' :: elements 0 rest
          | ('\\', false), (next, _) :: _ => .exactly next :: elements 1 rest
          | (letter, _), _ => .exactly letter :: elements 0 rest

/-- Whether elements fit a whole text. -/
def fitsAll : List Element → List Char → Bool
  | [], letters => letters.isEmpty
  | [.many], _ => true
  | .many :: rest, letters =>
      (List.range (letters.length + 1)).any fun count => fitsAll rest (letters.drop count)
  | element :: rest, letters =>
      match letters with
      | [] => false
      | letter :: others => element.fits letter && fitsAll rest others

/-- Takes away the start of a text that elements fit, the longest or the shortest one. -/
def withoutStart (isLongest : Bool) (pattern : List Element) (letters : List Char) : List Char :=
  let counts := List.range (letters.length + 1)
  let ordered := if isLongest then counts.reverse else counts
  match ordered.find? fun count => fitsAll pattern (letters.take count) with
  | some count => letters.drop count
  | none => letters

/-- Takes away the end of a text that elements fit, the longest or the shortest one. -/
def withoutEnd (isLongest : Bool) (pattern : List Element) (letters : List Char) : List Char :=
  let counts := List.range (letters.length + 1)
  let ordered := if isLongest then counts else counts.reverse
  match ordered.find? fun count => fitsAll pattern (letters.drop count) with
  | some count => letters.take count
  | none => letters

/-- Whether a pattern has an element that fits more than one text. -/
def isOpenPattern (pattern : List Element) : Bool :=
  pattern.any fun element =>
    match element with
    | .exactly _ => false
    | _ => true

end Script
end TileProgram
