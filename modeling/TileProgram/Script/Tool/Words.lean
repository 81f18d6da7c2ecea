import TileProgram.Script.Arithmetic
import TileProgram.Script.Regular
import TileProgram.Script.Tool.Texts

/-!
# Tools that work on their arguments

Names of files are taken apart, numbers are counted, expressions evaluated,
and bytes are shown as numbers.
-/

namespace TileProgram
namespace Script
namespace Tool

open Files (Action)
open Running (forOperands misused toolLine withFlags)

/-! ## Names -/

/-- A text without an ending, unless there is nothing else. -/
def withoutSuffix (suffix text : String) : String :=
  let letters := text.toList
  if text != suffix && suffix.toList.isSuffixOf letters then
    String.ofList (letters.take (letters.length - suffix.length))
  else text

/-- Shows the last parts of paths. -/
def basename (arguments : List String) : Running Nat :=
  withFlags ⟨"basename", "az", "s", [("multiple", 'a'), ("suffix", 's')], 1⟩ arguments
    fun flags => do
      let isMany := flags.has 'a' || flags.has 's'
      match flags.operands, isMany with
      | [], _ => misused "basename" 1 "missing operand"
      | path :: rest, false =>
          match rest with
          | _ :: extra :: _ => misused "basename" 1 ("extra operand " ++ curled extra)
          | _ => do
              Running.outputLine (withoutSuffix (rest.headD "") (Files.Path.name path))
              return 0
      | paths, true => do
          for path in paths do
            Running.outputLine
              (withoutSuffix ((flags.value? 's').getD "") (Files.Path.name path))
          return 0

/-- A path without its last part. -/
def directoryOf (path : String) : String :=
  let trimmed := path.toList.reverse.dropWhile (· == '/')
  let rest := trimmed.dropWhile (· != '/')
  let kept := (rest.dropWhile (· == '/')).reverse
  if kept.isEmpty then (if path.toList.head? == some '/' then "/" else ".") else String.ofList kept

/-- Shows paths without their last parts. -/
def dirname (arguments : List String) : Running Nat :=
  withFlags ⟨"dirname", "z", "", [], 1⟩ arguments fun flags => do
    if flags.operands.isEmpty then misused "dirname" 1 "missing operand"
    else
      for path in flags.operands do Running.outputLine (directoryOf path)
      return 0

/-- Shows the targets of links, or where paths lead to. -/
def readlink (arguments : List String) : Running Nat :=
  withFlags ⟨"readlink", "fnemqsvz", "", [("canonicalize", 'f')], 1⟩ arguments fun flags => do
    if flags.operands.isEmpty then misused "readlink" 1 "missing operand"
    else forOperands flags.operands fun path => do
      let show_ (text : String) : Running Nat := do
        Running.output (octetBytes (if flags.has 'n' then text else text ++ "\n"))
        return 0
      if flags.has 'f' || flags.has 'e' || flags.has 'm' then
        let parts := (Files.Path.steps (← Running.resolve path)).filter (· != ".")
        show_ (octetsOfText ("/" ++ "/".intercalate parts))
      else match ← Running.onPath Action.linkTarget path with
        | .ok target => show_ (octetsOfText target)
        | .error _ => return 1

/-- Shows the sizes of files, if only those are asked for. -/
def stat (arguments : List String) : Running Nat :=
  withFlags ⟨"stat", "Lft", "c", [("format", 'c'), ("printf", 'c')], 1⟩ arguments fun flags =>
    forOperands flags.operands fun path => do
      match ← Running.kind path with
      | .error failure => do
          toolLine "stat" ("cannot statx " ++ quoted path ++ ": " ++ failure.words)
          return 1
      | .ok kind => do
          let size := (((← Running.readFile path).toOption).getD []).length
          let word := match kind with
            | .directory => "directory"
            | .device => "character special file"
            | _ => if size = 0 then "regular empty file" else "regular file"
          let format := (flags.value? 'c').getD "%n"
          let text := ((format.replace "%s" (toString size)).replace "%n" path).replace "%F" word
          Running.outputLine text
          return 0

/-! ## Numbers -/

/-- The number that a text of digits with a sign stands for. -/
def integer? (text : String) : Option Int :=
  match text.toList with
  | '-' :: rest => (number? (String.ofList rest)).map fun value => -(value : Int)
  | '+' :: rest => (number? (String.ofList rest)).map fun value => (value : Int)
  | _ => (number? text).map fun value => (value : Int)

/-- The most numbers that are counted at once. -/
def sequenceLimit : Nat := 100000

/-- Counts from one number to another. -/
def seq (arguments : List String) : Running Nat := do
  let isOption (text : String) : Bool := text.startsWith "-" && (integer? text).isNone
  let (options, numbers) := (arguments.takeWhile isOption, arguments.dropWhile isOption)
  let (options, numbers) := match options.getLast?, numbers with
    | some "-s", separator :: rest => (options ++ [separator], rest)
    | _, _ => (options, numbers)
  withFlags ⟨"seq", "w", "sf", [("separator", 's'), ("equal-width", 'w')], 1⟩ options fun flags => do
    match numbers.find? fun text => (integer? text).isNone with
    | some text => misused "seq" 1 ("invalid floating point argument: " ++ curled text)
    | none =>
        let show_ (first step last : Int) : Running Nat := do
          let count := if step = 0 then 0
            else if 0 < step then (last - first) / step + 1
            else (first - last) / (-step) + 1
          let values := (List.range (min count.toNat sequenceLimit)).map fun (place : Nat) =>
            toString (first + step * (place : Int))
          let width := if flags.has 'w' then (values.map String.length).foldl max 0 else 0
          let filled := values.map fun text =>
            String.ofList (List.replicate (width - text.length) '0') ++ text
          if !filled.isEmpty then
            Running.outputLine (((flags.value? 's').getD "\n").intercalate filled)
          return 0
        match numbers.filterMap integer? with
        | [] => misused "seq" 1 "missing operand"
        | [last] => show_ 1 1 last
        | [first, last] => show_ first 1 last
        | first :: step :: last :: _ =>
            if step = 0 then
              misused "seq" 1 ("invalid Zero increment value: " ++ curled (numbers.getD 1 ""))
            else show_ first step last

/-! ## Expressions -/

/-- Why an expression of words has no value. -/
inductive WordFault where
  | unexpected (word : String)
  | missingAfter (word : String)
  | missingOperand
  | notNumber
  | divisionByZero
  | expectedClose (word : String)
  | missingClose (word : String)
  | badRegular (text : String)
  deriving DecidableEq

/-- The wording of a fault of an expression of words. -/
def WordFault.message : WordFault → String
  | .unexpected word => "syntax error: unexpected argument " ++ curled word
  | .missingAfter word => "syntax error: missing argument after " ++ curled word
  | .missingOperand => "missing operand"
  | .notNumber => "non-integer argument"
  | .divisionByZero => "division by zero"
  | .expectedClose word => "syntax error: expecting ')' instead of " ++ curled word
  | .missingClose word => "syntax error: expecting ')' after " ++ curled word
  | .badRegular text => text

/-- A value of an expression of words with the words after it. -/
abbrev WordValue := Except WordFault (String × List String)

/-- Whether a value counts as nothing. -/
def isNothing (text : String) : Bool :=
  text.isEmpty || integer? text == some 0

/-- The operators of an expression of words by level; tighter ones come later. -/
def wordOperators : List (List String) :=
  [ ["|"], ["&"], ["<", "<=", "=", "==", "!=", ">=", ">"], ["+", "-"], ["*", "/", "%"], [":"] ]

/-- The part of a text that a regular expression fits at its start: the first group, or the number of letters. -/
def fittedStart (text pattern : String) : Except WordFault String :=
  match Regular.parse false pattern with
  | .error fault => .error (.badRegular (fault.message false))
  | .ok regular =>
      let hasGroup := (pattern.splitOn "\\(").length ≠ 1
      match regular.fitHere? false [] text.toList with
      | some fit =>
          .ok (if hasGroup then String.ofList ((fit.groups.lookup 1).getD [])
            else toString fit.inside.length)
      | none => .ok (if hasGroup then "" else "0")

/-- Applies an operator to two values. -/
def applyWord (operator first second : String) : Except WordFault String :=
  let numbers := do return (← integer? first, ← integer? second)
  let arithmetic (apply : Int → Int → Int) : Except WordFault String :=
    match numbers with
    | some (left, right) => .ok (toString (apply left right))
    | none => .error .notNumber
  let division (apply : Int → Int → Int) : Except WordFault String :=
    match numbers with
    | some (left, right) =>
        if right = 0 then .error .divisionByZero else .ok (toString (apply left right))
    | none => .error .notNumber
  let order := match numbers with
    | some (left, right) => compare left right
    | none => compare first second
  let truthOf (holds : Bool) : Except WordFault String := .ok (if holds then "1" else "0")
  match operator with
  | "|" => .ok (if !isNothing first then first else if isNothing second then "0" else second)
  | "&" => .ok (if isNothing first || isNothing second then "0" else first)
  | "<" => truthOf (order == .lt)
  | "<=" => truthOf (order != .gt)
  | "=" | "==" => truthOf (order == .eq)
  | "!=" => truthOf (order != .eq)
  | ">=" => truthOf (order != .lt)
  | ">" => truthOf (order == .gt)
  | "+" => arithmetic (· + ·)
  | "-" => arithmetic (· - ·)
  | "*" => arithmetic (· * ·)
  | "/" => division Int.tdiv
  | "%" => division Int.tmod
  | _ => fittedStart first second

/-- The place, counted from one, of the first letter of a text that belongs to a set. -/
def placeOf (text set : String) : Nat :=
  match text.toList.findIdx? fun letter => set.toList.contains letter with
  | some place => place + 1
  | none => 0

/-- A part of a text from a place on, counted from one. -/
def partOf (text : String) (place length : Option Int) : String :=
  match place, length with
  | some place, some length =>
      if place < 1 || length < 1 then ""
      else String.ofList ((text.toList.drop (place.toNat - 1)).take length.toNat)
  | _, _ => ""

mutual

/-- Evaluates words joined by operators of the given levels, the first of which binds least. -/
def wordLevel (fuel : Nat) (levels : List (List String)) (words : List String) : WordValue := do
  match fuel, levels with
  | 0, _ => throw .missingOperand
  | left + 1, [] => wordOperand left words
  | left + 1, level :: tighter => do
      let (first, rest) ← wordLevel left tighter words
      wordMore left level tighter first rest

/-- Evaluates what operators of a level join to a value. -/
def wordMore (fuel : Nat) (level : List String) (tighter : List (List String)) (first : String)
    (words : List String) : WordValue := do
  match fuel, words with
  | 0, _ => throw .missingOperand
  | _ + 1, [] => return (first, [])
  | left + 1, operator :: rest =>
      if level.contains operator then
        if rest.isEmpty then throw (.missingAfter operator)
        let (second, rest) ← wordLevel left tighter rest
        wordMore left level tighter (← applyWord operator first second) rest
      else return (first, words)

/-- Evaluates an operand. -/
def wordOperand (fuel : Nat) (words : List String) : WordValue := do
  match fuel, words with
  | 0, _ => throw .missingOperand
  | _ + 1, [] => throw .missingOperand
  | left + 1, word :: rest =>
      match word, rest with
      | "(", _ => do
          if rest.isEmpty then throw (.missingAfter word)
          let (inside, after) ← wordLevel left wordOperators rest
          match after with
          | ")" :: others => return (inside, others)
          | other :: _ => throw (.expectedClose other)
          | [] => throw (.missingClose (rest.getLastD ""))
      | ")", _ => throw (.unexpected word)
      | "length", _ :: _ => do
          let (text, rest) ← wordOperand left rest
          return (toString text.length, rest)
      | "match", _ :: _ => do
          let (text, rest) ← wordOperand left rest
          let (pattern, rest) ← wordOperand left rest
          return (← fittedStart text pattern, rest)
      | "index", _ :: _ => do
          let (text, rest) ← wordOperand left rest
          let (set, rest) ← wordOperand left rest
          return (toString (placeOf text set), rest)
      | "substr", _ :: _ => do
          let (text, rest) ← wordOperand left rest
          let (place, rest) ← wordOperand left rest
          let (length, rest) ← wordOperand left rest
          return (partOf text (integer? place) (integer? length), rest)
      | _, _ => return (word, rest)

end

/-- Evaluates an expression of words. -/
def expr (arguments : List String) : Running Nat := do
  let words := if arguments.head? == some "--" then arguments.tail else arguments
  if words.isEmpty then return ← misused "expr" 2 "missing operand"
  match wordLevel (16 * words.length + 32) wordOperators words with
  | .ok (value, []) => do
      Running.outputLine value
      return if isNothing value then 1 else 0
  | .ok (_, word :: _) => do
      toolLine "expr" (WordFault.unexpected word).message
      return 2
  | .error fault => do
      toolLine "expr" fault.message
      return 2

/-! ## Bytes -/

/-- A number in a base, filled with a letter on the left. -/
def filledDigits (fill : Char) (width base number : Nat) : String :=
  let digits := Nat.toDigits base number
  String.ofList (List.replicate (width - digits.length) fill ++ digits)

/-- A byte shown as a letter. -/
def shownByte (byte : UInt8) : String :=
  let letter := Char.ofNat byte.toNat
  let named : List (Char × String) :=
    [ ('\x00', "\\0"), ('\x07', "\\a"), ('\x08', "\\b"), ('\t', "\\t"), ('\n', "\\n"),
      ('\x0b', "\\v"), ('\x0c', "\\f"), ('\x0d', "\\r") ]
  let text := (named.lookup letter).getD
    (if isInClass "print" letter then String.ofList [letter] else filledDigits '0' 3 8 byte.toNat)
  String.ofList (List.replicate (4 - text.length) ' ') ++ text

/-- Splits values into groups. -/
def chunks (size fuel : Nat) (values : List Value) : List (List Value) :=
  match fuel with
  | 0 => []
  | left + 1 =>
      if values.isEmpty then [] else values.take size :: chunks size left (values.drop size)

/-- The number that bytes stand for, the first one counting least. -/
def bytesValue (bytes : Bytes) : Nat :=
  bytes.foldr (fun byte value => 256 * value + byte.toNat) 0

/-- How numbers are shown: their size in bytes, and what is made of the bytes. -/
def byteFormat (name : String) : Nat × (Bytes → String) :=
  let digits (size width base : Nat) (fill : Char) : Nat × (Bytes → String) :=
    (size, fun bytes => " " ++ filledDigits fill width base (bytesValue bytes))
  let signed (size width : Nat) : Nat × (Bytes → String) :=
    (size, fun bytes =>
      let text := toString ((bytesValue bytes : Int).bmod (Nat.pow 256 size))
      " " ++ String.ofList (List.replicate (width - text.length) ' ') ++ text)
  match name with
  | "c" => (1, fun bytes => shownByte (bytes.headD 0))
  | "x1" => digits 1 2 16 '0'
  | "x2" => digits 2 4 16 '0'
  | "x4" | "x" => digits 4 8 16 '0'
  | "x8" => digits 8 16 16 '0'
  | "o1" => digits 1 3 8 '0'
  | "u1" => digits 1 3 10 ' '
  | "u2" => digits 2 5 10 ' '
  | "u4" | "u" => digits 4 10 10 ' '
  | "d1" => signed 1 4
  | "d2" => signed 2 6
  | "d4" | "d" => signed 4 11
  | _ => digits 2 6 8 '0'

/-- Shows bytes as numbers. -/
def od (arguments : List String) : Running Nat :=
  let known : KnownFlags :=
    ⟨"od", "vbcxdoh", "AtNjw", [("format", 't'), ("address-radix", 'A'), ("read-bytes", 'N')], 1⟩
  withFlags known arguments fun flags => do
    let (bytes, status) ← allBytes "od" 1 flags
    let skipped := ((flags.value? 'j').bind number?).getD 0
    let rest := bytes.drop skipped
    let bytes := rest.take (((flags.value? 'N').bind number?).getD rest.length)
    let letters : List (Char × String) :=
      [('b', "o1"), ('c', "c"), ('x', "x2"), ('h', "x2"), ('d', "u2"), ('o', "o2")]
    let usual := ((letters.find? fun entry => flags.has entry.1).map Prod.snd).getD "o2"
    let (size, show_) := byteFormat ((flags.value? 't').getD usual)
    let address (place : Nat) : String :=
      match (flags.value? 'A').getD "o" with
      | "n" => ""
      | "d" => filledDigits '0' 7 10 place
      | "x" => filledDigits '0' 6 16 place
      | _ => filledDigits '0' 7 8 place
    let rows := (chunks 16 (bytes.length + 1) bytes).zipIdx
    let _ ← rows.foldlM (fun (last : Option Bytes × Bool) (row, place) => do
      let isRepeat := last.1 == some row && !flags.has 'v' && place + 1 < rows.length
      if isRepeat then
        if !last.2 then Running.outputLine "*"
        return (some row, true)
      else
        let numbers := chunks size (row.length + 1) row
        Running.outputLine
          (address (skipped + 16 * place) ++ String.join (numbers.map show_))
        return (some row, false)) (none, false)
    let ending := address (skipped + bytes.length)
    let isRead := status = 0 || !bytes.isEmpty
    if isRead && !ending.isEmpty then Running.outputLine ending
    return status

/-! ## Others -/

/-- How many letters are repeated at most. -/
def repeatLimit : Nat := 65536

/-- Repeats a line. -/
def yes (arguments : List String) : Running Nat := do
  let line := (if arguments.isEmpty then "y" else " ".intercalate arguments) ++ "\n"
  let count := repeatLimit / line.length + 1
  Running.output ((List.replicate count (octetBytes line)).flatten)
  return 0

/-- A time in millionths of a second, from digits that may have a point and a letter for the unit. -/
def duration? (text : String) : Option Nat :=
  let letters := text.toList
  let unit := (letters.getLast?).bind fun letter =>
    [('s', 1), ('m', 60), ('h', 3600), ('d', 86400)].lookup letter
  let digits := if unit.isSome then letters.dropLast else letters
  let whole := digits.takeWhile Char.isDigit
  let fraction := (digits.drop whole.length).drop 1
  let isNumber := (digits.drop whole.length).headD '.' == '.' && fraction.all Char.isDigit
  if isNumber && !(whole.isEmpty && fraction.isEmpty) then
    let places := fraction.take 6 ++ List.replicate (6 - fraction.length) '0'
    some (digitsValue 10 0 (whole ++ places) * unit.getD 1)
  else none

/-- Waits. -/
def sleep (arguments : List String) : Running Nat := do
  let invalid := arguments.filter fun text => (duration? text).isNone
  if arguments.isEmpty then misused "sleep" 1 "missing operand"
  else if let some ('-' :: letter :: _) := (invalid.map String.toList).find? (·.head? == some '-') then
    misused "sleep" 1 ("invalid option -- " ++ quoted (String.ofList [letter]))
  else match invalid.reverse with
    | [] => do
        Running.sleep ((arguments.filterMap duration?).foldl (· + ·) 0)
        return 0
    | last :: others => do
        for text in others.reverse do toolLine "sleep" ("invalid time interval " ++ curled text)
        misused "sleep" 1 ("invalid time interval " ++ curled last)

/-- Shows the name of the system. -/
def uname (arguments : List String) : Running Nat := do
  let text := match arguments with
    | ["-m"] => "x86_64"
    | ["-o"] => "GNU/Linux"
    | _ => "Linux"
  Running.outputLine text
  return 0

/-- Shows the number of the user. -/
def id (arguments : List String) : Running Nat := do
  let text := match arguments with
    | ["-u"] | ["-g"] => "0"
    | ["-un"] | ["-gn"] => "root"
    | _ => "uid=0(root) gid=0(root) groups=0(root)"
  Running.outputLine text
  return 0

end Tool
end Script
end TileProgram
