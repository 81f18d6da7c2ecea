import TileProgram.Script.Pattern
import TileProgram.Script.Tool.Flags

/-!
# Tools that show texts

Files are read one after the other; without any, or for a hyphen, the input is
read.
-/

namespace TileProgram
namespace Script
namespace Tool

open Files (Failure Kind)
open Running (forOperands toolLine withFlags)

/-- The lines of bytes, each with its end. -/
def linesOf (bytes : Bytes) : List String :=
  (lines (octets bytes).toList).map String.ofList

/-- A line without its end. -/
def withoutEnd (line : String) : String :=
  match line.toList.reverse with
  | '\n' :: rest => String.ofList rest.reverse
  | _ => line

/-- The lines of bytes without their ends. -/
def plainLines (bytes : Bytes) : List String :=
  (linesOf bytes).map withoutEnd

/-- The operands, or a hyphen if there are none. -/
def operandsOrInput (flags : Flags) : List String :=
  if flags.operands.isEmpty then ["-"] else flags.operands

/-- Complains about an operand. -/
def refuseOperand (tool operand : String) (failure : Failure) : Running Nat := do
  toolLine tool (quotedIfNeeded operand ++ ": " ++ failure.words)
  return 1

/-- The bytes of all operands one after the other, with the status that complaints about them give. -/
def allBytes (tool : String) (status : Nat) (flags : Flags) : Running (Bytes × Nat) :=
  (operandsOrInput flags).foldlM (fun (bytes, before) operand => do
    match ← Running.operandBytes operand with
    | .ok more => return (bytes ++ more, before)
    | .error failure => do
        let _ ← refuseOperand tool operand failure
        return (bytes, status)) ([], 0)

/-- A number filled with blanks on the left. -/
def column (width number : Nat) : String :=
  let digits := toString number
  String.ofList (List.replicate (width - digits.length) ' ') ++ digits

/-! ## Whole texts -/

/-- A line with its blanks and its end marked as options say. -/
def marked (flags : Flags) (line : String) : String :=
  String.ofList (line.toList.flatMap fun letter =>
    if letter = '\t' && (flags.has 'T' || flags.has 'A' || flags.has 't') then ['^', 'I']
    else if letter = '\n' && (flags.has 'E' || flags.has 'A' || flags.has 'e') then ['$', '\n']
    else [letter])

/-- Lines as options say they are shown, after a number of lines that have been numbered: numbered, without repeated empty lines, with marks. -/
def decorated (flags : Flags) (count : Nat) (texts : List String) : List String × Nat :=
  let isEmpty (line : String) : Bool := line == "\n"
  let squeezed (before : List String) (line : String) : List String :=
    if isEmpty line && (before.head?.map isEmpty).getD false then before else line :: before
  let kept := if flags.has 's' then (texts.foldl squeezed []).reverse else texts
  let isNumbered (line : String) : Bool :=
    if flags.has 'b' then !isEmpty line else flags.has 'n'
  let step (state : List String × Nat) (line : String) : List String × Nat :=
    if isNumbered line then
      ((column 6 (state.2 + 1) ++ "\t" ++ marked flags line) :: state.1, state.2 + 1)
    else (marked flags line :: state.1, state.2)
  let (reversed, count) := kept.foldl step ([], count)
  (reversed.reverse, count)

/-- Shows files one after the other. -/
def cat (arguments : List String) : Running Nat :=
  let known : KnownFlags :=
    ⟨"cat", "nbsETAetuv", "", [("number", 'n'), ("show-all", 'A'), ("show-ends", 'E'),
      ("squeeze-blank", 's'), ("number-nonblank", 'b'), ("show-tabs", 'T')], 1⟩
  withFlags known arguments fun flags => do
    let isPlain := flags.options.all fun entry => entry.1 == 'u' || entry.1 == 'v'
    let (status, _) ← (operandsOrInput flags).foldlM (fun (status, count) operand => do
      if operand == "-" && (← Running.streamNumber? 0).isNone then
        toolLine "cat" "-: Bad file descriptor"
        return (1, count)
      match ← Running.operandBytes operand with
      | .ok bytes => do
          if isPlain then
            Running.output bytes
            return (status, count)
          else
            let (shown, count) := decorated flags count (linesOf bytes)
            Running.output (octetBytes ("".intercalate shown))
            return (status, count)
      | .error failure => return (← refuseOperand "cat" operand failure, count)) (0, 0)
    return status

/-- Shows the lines of files in reverse order. -/
def tac (arguments : List String) : Running Nat :=
  withFlags ⟨"tac", "", "", [], 1⟩ arguments fun flags =>
    forOperands (operandsOrInput flags) fun operand => do
      match ← Running.operandBytes operand with
      | .ok bytes => do
          for line in (linesOf bytes).reverse do Running.output (octetBytes line)
          return 0
      | .error .isDirectory => do
          let name := if operand == "-" then quoted "standard input" else operand
          toolLine "tac" (name ++ ": read error: Invalid argument")
          return 1
      | .error failure => do
          toolLine "tac"
            ("failed to open " ++ quoted operand ++ " for reading: " ++ failure.words)
          return 1

/-- Shows the letters of every line in reverse order. -/
def rev (arguments : List String) : Running Nat :=
  withFlags ⟨"rev", "", "", [], 1⟩ arguments fun flags =>
    forOperands (operandsOrInput flags) fun operand => do
      match ← Running.operandBytes operand with
      | .ok bytes => do
          for line in plainLines bytes do
            Running.outputLine (String.ofList line.toList.reverse)
          return 0
      | .error failure => do
          toolLine "rev" ("cannot open " ++ operand ++ ": " ++ failure.words)
          return 1

/-- Shows lines with their numbers; empty lines only count if that is wanted. -/
def nl (arguments : List String) : Running Nat :=
  withFlags ⟨"nl", "p", "bwsvi", [("body-numbering", 'b')], 1⟩ arguments fun flags => do
    let (bytes, status) ← allBytes "nl" 1 flags
    let width := ((flags.value? 'w').bind number?).getD 6
    let separator := (flags.value? 's').getD "\t"
    let countsAll := flags.value? 'b' == some "a"
    let number (count : Nat) (line : String) : Running Nat := do
      if line.isEmpty && !countsAll then
        let blanks := List.replicate (width + separator.length) ' '
        Running.outputLine (String.ofList blanks)
        return count
      else
        Running.outputLine (column width count ++ separator ++ line)
        return count + 1
    let _ ← (plainLines bytes).foldlM number (((flags.value? 'v').bind number?).getD 1)
    return status

/-- Joins the lines of files side by side, or all lines of every file. -/
def paste (arguments : List String) : Running Nat :=
  withFlags ⟨"paste", "sz", "d", [("serial", 's'), ("delimiters", 'd')], 1⟩ arguments
    fun flags => do
      let separator := (flags.value? 'd').getD "\t"
      let operands := operandsOrInput flags
      let missing ← operands.findM? fun operand => do
        return operand != "-" && (← Running.kind operand).toOption.isNone
      if let some operand := missing then return ← refuseOperand "paste" operand .missing
      let shared := operands.count "-"
      let input ← if shared = 0 then pure [] else do pure (plainLines (← Running.inputBytes))
      let files ← operands.zipIdx.mapM fun (operand, place) => do
        if operand == "-" then
          let turn := (operands.take place).count "-"
          if flags.has 's' then return if turn = 0 then input else []
          return (input.zipIdx.filter fun entry => entry.2 % shared = turn).map Prod.fst
        else
          return plainLines (((← Running.readFile operand).toOption).getD [])
      if flags.has 's' then
        for file in files do Running.outputLine (separator.intercalate file)
      else
        let count := (files.map List.length).foldl max 0
        for place in List.range count do
          Running.outputLine (separator.intercalate (files.map fun file => file.getD place ""))
      return 0

/-! ## Parts of texts -/

/-- Arguments in which an old form of a count, a hyphen with digits, is replaced by an option. -/
def modernCount (arguments : List String) : List String :=
  match arguments with
  | first :: rest =>
      match first.toList with
      | '-' :: digit :: more =>
          if digit.isDigit && more.all Char.isDigit then
            "-n" :: String.ofList (digit :: more) :: rest
          else arguments
      | _ => arguments
  | [] => []

/-- A count with the sign before it, if there is one. -/
def signedCount? (text : String) : Option (Option Char × Nat) :=
  match text.toList with
  | '-' :: rest => (blockCount rest).map fun count => (some '-', count)
  | '+' :: rest => (blockCount rest).map fun count => (some '+', count)
  | letters => (blockCount letters).map fun count => (none, count)
where
  /-- A number with a unit. -/
  blockCount (letters : List Char) : Option Nat :=
    let digits := letters.takeWhile Char.isDigit
    let factor : Option Nat := match letters.drop digits.length with
      | [] => some 1
      | ['b'] => some 512
      | ['k'] | ['K'] => some 1024
      | ['M'] => some 1048576
      | _ => none
    if digits.isEmpty then none else factor.map fun factor => factor * digitsValue 10 0 digits

/-- The number of bytes of the first lines. -/
def linesLength (count : Nat) (bytes : Bytes) : Nat :=
  match bytes with
  | [] => 0
  | byte :: rest =>
      match count with
      | 0 => 0
      | left + 1 => 1 + linesLength (if byte = 10 then left else left + 1) rest

/-- The number of bytes at the start that are shown. -/
def headLength (countsBytes : Bool) (sign : Option Char) (count : Nat) (bytes : Bytes) : Nat :=
  let all := if countsBytes then bytes.length else (lines (octets bytes).toList).length
  let wanted := if sign = some '-' then all - count else count
  if countsBytes then min wanted bytes.length else linesLength wanted bytes

/-- The number of bytes before those at the end that are shown. -/
def tailStart (countsBytes : Bool) (sign : Option Char) (count : Nat) (bytes : Bytes) : Nat :=
  let all := if countsBytes then bytes.length else (lines (octets bytes).toList).length
  let passed := if sign = some '+' then count - 1 else all - count
  if countsBytes then passed else linesLength passed bytes

/-- Shows a part of every operand, with heads between them if there are several. -/
def showParts (tool : String) (flags : Flags) (part : String → Running (Except Failure Bytes)) :
    Running Nat := do
  let operands := operandsOrInput flags
  let hasHeads := (1 < operands.length && !flags.has 'q') || flags.has 'v'
  let (status, _) ← operands.foldlM (fun (status, isLater) operand => do
    let name := if operand == "-" then "standard input" else operand
    let showHead : Running Unit := do
      if hasHeads then
        if isLater then Running.outputLine ""
        Running.outputLine ("==> " ++ name ++ " <==")
    match ← part operand with
    | .error .isDirectory => do
        showHead
        toolLine tool ("error reading " ++ quoted name ++ ": " ++ Failure.isDirectory.words)
        return (1, true)
    | .error failure => do
        toolLine tool ("cannot open " ++ quoted operand ++ " for reading: " ++ failure.words)
        return (1, isLater)
    | .ok bytes => do
        showHead
        Running.output bytes
        return (status, true)) (0, false)
  return status

/-- The part of texts that options ask for: whether bytes are counted, and the count with its sign; usually ten lines. -/
def wantedPart (tool : String) (flags : Flags)
    (use : Bool → Option Char → Nat → Running Nat) : Running Nat := do
  let wanted := flags.options.reverse.find? fun entry => entry.1 == 'n' || entry.1 == 'c'
  match wanted with
  | none => use false none 10
  | some (letter, text) =>
      match signedCount? text with
      | some (sign, count) => use (letter == 'c') sign count
      | none => do
          let what := if letter == 'c' then "bytes" else "lines"
          toolLine tool ("invalid number of " ++ what ++ ": " ++ curled text)
          return 1

/-- Whether the input is a file, so that what is not shown can be left for others. -/
def isFileInput : Running Bool := do
  match ← Running.streamNumber? 0 with
  | none => return false
  | some number =>
      match ← Running.streamAt number with
      | .file .. => return true
      | _ => return false

/-- Shows the starts of texts. -/
def head (arguments : List String) : Running Nat :=
  let known : KnownFlags :=
    ⟨"head", "qvz", "nc", [("lines", 'n'), ("bytes", 'c'), ("quiet", 'q'), ("verbose", 'v')], 1⟩
  withFlags known (modernCount arguments) fun flags =>
    wantedPart "head" flags fun countsBytes sign count =>
      showParts "head" flags fun operand => do
        let length := headLength countsBytes sign count
        let takesPart ← if operand == "-" then isFileInput else pure false
        if takesPart && (← Running.inputFailure?).isNone then
          return .ok (← Running.take 0 length)
        else return (← Running.operandBytes operand).map fun bytes => bytes.take (length bytes)

/-- Shows the ends of texts. -/
def tail (arguments : List String) : Running Nat :=
  let known : KnownFlags :=
    ⟨"tail", "qvfz", "nc", [("lines", 'n'), ("bytes", 'c'), ("quiet", 'q'), ("verbose", 'v')], 1⟩
  withFlags known (modernCount arguments) fun flags =>
    wantedPart "tail" flags fun countsBytes sign count =>
      showParts "tail" flags fun operand => do
        return (← Running.operandBytes operand).map fun bytes =>
          bytes.drop (tailStart countsBytes sign count bytes)

/-! ## Counts -/

/-- The number of words, which blanks separate. -/
def wordCount (letters : List Char) : Nat :=
  let step (state : Nat × Bool) (letter : Char) : Nat × Bool :=
    if isInClass "space" letter then (state.1, false)
    else (if state.2 then state.1 else state.1 + 1, true)
  (letters.foldl step (0, false)).1

/-- The counts that options ask for: lines, words, letters, bytes, and the longest line. -/
def countsOf (flags : Flags) (bytes : Bytes) : List Nat :=
  let letters := (octets bytes).toList
  let isUsual := !"lwmcL".toList.any flags.has
  let wants (letter : Char) : Bool := flags.has letter || (isUsual && letter != 'm' && letter != 'L')
  let longest := ((lines letters).map fun line => (line.filter (· != '\n')).length).foldl max 0
  [('l', letters.count '\n'), ('w', wordCount letters), ('m', letters.length),
    ('c', letters.length), ('L', longest)].filterMap fun (letter, count) =>
      if wants letter then some count else none

/-- How wide counts are shown: as the size of all files; where a size is not known, at least seven. -/
def countWidth (flags : Flags) (isSingle hasUnknown : Bool) (total : Nat) : Nat :=
  let isOne := ("lwmcL".toList.filter flags.has).length = 1
  if isSingle && isOne then 1
  else
    let width := (toString total).length
    if hasUnknown then max 7 width else width

/-- Counts lines, words and bytes. -/
def wc (arguments : List String) : Running Nat :=
  let known : KnownFlags :=
    ⟨"wc", "lwmcL", "", [("lines", 'l'), ("words", 'w'), ("bytes", 'c'), ("chars", 'm')], 1⟩
  withFlags known arguments fun flags => do
    let operands := operandsOrInput flags
    let isUnknown ← operands.anyM fun operand => do
      if operand == "-" then return !(← isFileInput) || (← Running.inputFailure?).isSome
      else return (← Running.kind operand).toOption.any fun kind => !kind.isRegular
    let texts ← operands.mapM fun operand => do
      return (operand, ← Running.operandBytes operand)
    let sizes := texts.map fun (_, text) => ((text.toOption).map List.length).getD 0
    let width := countWidth flags (operands.length == 1) isUnknown (sizes.foldl (· + ·) 0)
    let showCounts (counts : List Nat) (name : String) : Running Unit := do
      let columns := " ".intercalate (counts.map (column width))
      Running.outputLine (if name.isEmpty then columns else columns ++ " " ++ name)
    let (status, totals) ← texts.foldlM (fun (status, totals) (operand, text) => do
      match text with
      | .error failure => do
          let isNamed := !flags.operands.isEmpty
          let _ ← refuseOperand "wc" (if isNamed then operand else "standard input") failure
          if failure = .isDirectory then
            showCounts ((countsOf flags []).map fun _ => 0) (if isNamed then operand else "")
          return (1, totals)
      | .ok bytes => do
          let counts := countsOf flags bytes
          showCounts counts (if flags.operands.isEmpty then "" else operand)
          return (status, (counts.zip (totals ++ List.replicate 5 0)).map fun (a, b) => a + b))
      ((0, []) : Nat × List Nat)
    if 1 < operands.length then showCounts totals "total"
    return status

/-! ## Order -/

/-- The number at the start of letters, with eighteen places after its point. -/
def leadingNumber (letters : List Char) : Int :=
  let unspaced := letters.dropWhile fun letter => letter == ' ' || letter == '\t'
  let (isNegative, digits) := match unspaced with
    | '-' :: rest => (true, rest)
    | _ => (false, unspaced)
  let whole := digits.takeWhile Char.isDigit
  let fraction := match digits.drop whole.length with
    | '.' :: rest => (rest.takeWhile Char.isDigit).take 18
    | _ => []
  let scaled : Int := digitsValue 10 0 (whole ++ fraction ++ List.replicate (18 - fraction.length) '0')
  if isNegative then -scaled else scaled

/-- Splits letters into fields: at a separator, or before blanks that follow others. -/
def fieldsOfLine (separator : Option Char) : List Char → List (List Char)
  | [] => [[]]
  | letter :: rest =>
      let isBlank (letter : Char) : Bool := letter == ' ' || letter == '\t'
      match separator with
      | some sign =>
          if letter = sign then [] :: fieldsOfLine separator rest
          else match fieldsOfLine separator rest with
            | [] => [[letter]]
            | field :: fields => (letter :: field) :: fields
      | none =>
          let isEdge := !isBlank letter && (rest.head?.map isBlank).getD false
          match fieldsOfLine separator rest with
          | [] => [[letter]]
          | field :: fields =>
              if isEdge then [letter] :: field :: fields else (letter :: field) :: fields

/-- A key of lines: its first field, its last one if it has one, and letters for how it is compared. -/
structure SortKey where
  first : Nat
  last : Option Nat
  letters : List Char
  deriving DecidableEq

/-- Reads a key. -/
def sortKey (text : String) : SortKey :=
  let half (letters : List Char) : Nat × List Char :=
    let digits := letters.takeWhile Char.isDigit
    let rest := letters.drop digits.length
    let rest := match rest with
      | '.' :: more => more.dropWhile Char.isDigit
      | _ => rest
    (digitsValue 10 0 digits, rest)
  match text.splitOn "," with
  | [only] =>
      let (first, letters) := half only.toList
      ⟨first, none, letters⟩
  | start :: stop :: _ =>
      let (first, before) := half start.toList
      let (last, after) := half stop.toList
      ⟨first, some last, before ++ after⟩
  | [] => ⟨1, none, []⟩

/-- The letters of a line that a key takes. -/
def keyLetters (separator : Option Char) (key : SortKey) (line : String) : List Char :=
  let fields := fieldsOfLine separator line.toList
  let kept := match key.last with
    | some last => fields.take last
    | none => fields
  let joint := match separator with
    | some sign => [sign]
    | none => []
  joint.intercalate (kept.drop (key.first - 1))

/-- How letters are compared, as options say. -/
def compareLetters (options : List Char) (first second : List Char) : Ordering :=
  let plain := options.contains 'b'
  let prepare (letters : List Char) : List Char :=
    let letters := if plain then letters.dropWhile (isInClass "blank") else letters
    let letters := if options.contains 'd' then
        letters.filter fun letter => letter.isAlphanum || isInClass "blank" letter
      else letters
    if options.contains 'f' then letters.map Char.toUpper else letters
  let order :=
    if options.contains 'n' || options.contains 'g' || options.contains 'h' then
      compare (leadingNumber first) (leadingNumber second)
    else compare (String.ofList (prepare first)) (String.ofList (prepare second))
  if options.contains 'r' then order.swap else order

/-- How lines are compared: by keys in order, and then as a whole. -/
def compareLines (flags : Flags) (first second : String) : Ordering :=
  let global := (flags.options.map Prod.fst).filter fun letter => "nrfbdgh".toList.contains letter
  let separator := (flags.value? 't').bind fun text => text.toList.head?
  let keys := (flags.options.filter fun entry => entry.1 == 'k').map fun entry => sortKey entry.2
  let byKeys := keys.foldl (fun order key =>
    order.then
      (compareLetters (if key.letters.isEmpty then global else key.letters)
        (keyLetters separator key first) (keyLetters separator key second))) Ordering.eq
  let whole := if keys.isEmpty then compareLetters global first.toList second.toList else byKeys
  if flags.has 's' || flags.has 'u' then whole
  else
    let last := compare first second
    whole.then (if global.contains 'r' then last.swap else last)

/-- Keeps the first of values that follow each other and are the same. -/
def withoutRepeats (isSame : Value → Value → Bool) (values : List Value) : List Value :=
  (values.foldl (fun kept value =>
    match kept with
    | [] => [value]
    | last :: _ => if isSame last value then kept else value :: kept) []).reverse

/-- Sorts lines. -/
def sort (arguments : List String) : Running Nat :=
  let known : KnownFlags :=
    ⟨"sort", "nrufbsdghcVzimM", "ktoST",
      [("numeric-sort", 'n'), ("reverse", 'r'), ("unique", 'u'), ("key", 'k'), ("output", 'o'),
        ("field-separator", 't'), ("ignore-case", 'f'), ("stable", 's')], 2⟩
  withFlags known arguments fun flags => do
    let missing ← (operandsOrInput flags).findM? fun operand => do
      return operand != "-" && (← Running.kind operand).toOption.isNone
    match missing with
    | some operand => do
        let words := match ← Running.kind operand with
          | .error failure => failure.words
          | .ok _ => ""
        toolLine "sort" ("cannot read: " ++ quotedIfNeeded operand ++ ": " ++ words)
        return 2
    | none => do
        let directory ← (operandsOrInput flags).findM? fun operand => do
          if operand == "-" then return (← Running.inputFailure?).isSome
          else return (← Running.readFile operand).toOption.isNone
        if let some operand := directory then
          toolLine "sort" ("read failed: " ++ operand ++ ": " ++ Failure.isDirectory.words)
          return 2
        let (bytes, status) ← allBytes "sort" 2 flags
        let all := plainLines bytes
        let sorted := sortBy (fun first second => compareLines flags first second == .lt) all
        let kept := if flags.has 'u' then
            withoutRepeats (fun first second => compareLines flags first second == .eq) sorted
          else sorted
        if flags.has 'c' then
          return if sorted == all then 0 else 1
        let text := octetBytes ("".intercalate (kept.map (· ++ "\n")))
        match flags.value? 'o' with
        | some path => do
            let _ ← Running.writeFile path text
        | none => Running.output text
        return status

/-- Groups values that follow each other and are the same, with their numbers. -/
def runs (isSame : Value → Value → Bool) (values : List Value) : List (Value × Nat) :=
  (values.foldl (fun (groups : List (Value × Nat)) value =>
    match groups with
    | (first, count) :: rest =>
        if isSame first value then (first, count + 1) :: rest else (value, 1) :: groups
    | [] => [(value, 1)]) []).reverse

/-- Shows lines that follow each other and are the same only once. -/
def uniq (arguments : List String) : Running Nat :=
  let known : KnownFlags :=
    ⟨"uniq", "cduiz", "fsw", [("count", 'c'), ("repeated", 'd'), ("unique", 'u'),
      ("ignore-case", 'i')], 1⟩
  withFlags known arguments fun flags => do
    let input := flags.operands.headD "-"
    match ← Running.operandBytes input with
    | .error .isDirectory => do
        toolLine "uniq" ("error reading " ++ quoted input ++ ": " ++ Failure.isDirectory.words)
        return 1
    | .error failure => refuseOperand "uniq" input failure
    | .ok bytes => do
        let key (line : String) : String :=
          if flags.has 'i' then String.ofList (line.toList.map Char.toLower) else line
        let groups := runs (fun first second => key first == key second) (plainLines bytes)
        let kept := groups.filter fun (_, count) =>
          (!flags.has 'd' || 1 < count) && (!flags.has 'u' || count = 1)
        let shown := kept.map fun (line, count) =>
          if flags.has 'c' then column 7 count ++ " " ++ line ++ "\n" else line ++ "\n"
        let text := octetBytes ("".intercalate shown)
        match flags.operands.tail.head? with
        | some path => do
            let _ ← Running.writeFile path text
        | none => Running.output text
        return 0

end Tool
end Script
end TileProgram
