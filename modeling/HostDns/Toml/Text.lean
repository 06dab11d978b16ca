import HostDns.Text.Numeral
import HostDns.Toml.Basic

/-!
The small parts of TOML: blanks and comments, strings, keys, and the spelling of numbers and dates.

A reader takes a text and answers what it has read with the text behind it.
-/

namespace HostDns.Toml

/-- A reader of a leading part of a text. -/
abbrev Reader (α : Type) := List Char → Except TomlError (α × List Char)

/-- Whether a character separates words on a line. -/
def isGap (c : Char) : Bool := c = ' ' || c = '\t'

/-- Whether a character may stand in a comment or, quotes and backslashes apart, in a string: no
control but the tab. -/
def isPlain (c : Char) : Bool := c = '\t' || (0x20 ≤ c.toNat && c.toNat ≠ 0x7F)

/-- The text without leading gaps. -/
def skipGaps (s : List Char) : List Char := s.dropWhile isGap

/-- The text behind a line ending, if it starts with one. -/
def lineEnding? : List Char → Option (List Char)
  | '\n' :: rest => some rest
  | '\r' :: '\n' :: rest => some rest
  | _ => none

/-- The text without leading gaps, line endings and comments. -/
def skipTrivia : (inComment : Bool) → List Char → Except TomlError (List Char)
  | _, [] => .ok []
  | _, '\n' :: rest => skipTrivia false rest
  | _, '\r' :: '\n' :: rest => skipTrivia false rest
  | true, c :: rest => if isPlain c then skipTrivia true rest else .error .malformed
  | false, c :: rest =>
    if isGap c then skipTrivia false rest
    else if c = '#' then skipTrivia true rest
    else .ok (c :: rest)

/-- What is left after the end of a line, before which only gaps and a comment may stand. -/
def endLine (s : List Char) : Except TomlError (List Char) :=
  let s := skipGaps s
  let s := if s.head? = some '#' then s.dropWhile isPlain else s
  match s with
  | [] => .ok []
  | s =>
    match lineEnding? s with
    | some rest => .ok rest
    | none => .error .malformed

/-- The character that so many hexadecimal digits give. -/
def hexEscape (width : Nat) : Reader Char := fun s =>
  let digits := s.take width
  let n := Text.hexValue digits
  if digits.length = width ∧ digits.all (fun c => (Text.hexDigit? c).isSome) ∧
      (n < 0xD800 ∨ (0xDFFF < n ∧ n < 0x110000)) then
    .ok (Char.ofNat n, s.drop width)
  else .error .malformed

/-- The character that an escape stands for, after its backslash. -/
def escape : Reader Char
  | [] => .error .malformed
  | c :: rest =>
    match c with
    | 'b' => .ok ('\x08', rest)
    | 't' => .ok ('\t', rest)
    | 'n' => .ok ('\n', rest)
    | 'f' => .ok ('\x0c', rest)
    | 'r' => .ok ('\r', rest)
    | 'e' => .ok ('\x1b', rest)
    | '"' => .ok ('"', rest)
    | '\\' => .ok ('\\', rest)
    | 'x' => hexEscape 2 rest
    | 'u' => hexEscape 4 rest
    | 'U' => hexEscape 8 rest
    | _ => .error .malformed

/-- The rest of a string on one line, after its opening quote. -/
def basicString : Nat → Reader (List Char)
  | 0, _ => .error .malformed
  | _, [] => .error .malformed
  | fuel + 1, c :: rest =>
    if c = '"' then .ok ([], rest)
    else if c = '\\' then do
      let (e, rest) ← escape rest
      let (more, rest) ← basicString fuel rest
      return (e :: more, rest)
    else if isPlain c then do
      let (more, rest) ← basicString fuel rest
      return (c :: more, rest)
    else .error .malformed

/-- The rest of a string without escapes on one line, after its opening quote. -/
def literalString : Reader (List Char)
  | [] => .error .malformed
  | c :: rest =>
    if c = '\'' then .ok ([], rest)
    else if isPlain c then do
      let (more, rest) ← literalString rest
      return (c :: more, rest)
    else .error .malformed

/-- The quotes that belong to a string on several lines although its end follows: at most two, behind
three that have been read. -/
def closingQuotes (quote : Char) : Reader (List Char)
  | c :: d :: rest =>
    if c = quote ∧ d = quote then .ok ([quote, quote], rest)
    else if c = quote then .ok ([quote], d :: rest)
    else .ok ([], c :: d :: rest)
  | [c] => if c = quote then .ok ([quote], []) else .ok ([], [c])
  | [] => .ok ([], [])

/-- The text without leading gaps and line endings. -/
def skipBreaks : List Char → List Char
  | '\r' :: '\n' :: rest => skipBreaks rest
  | c :: rest => if isGap c || c = '\n' then skipBreaks rest else c :: rest
  | [] => []

/-- The rest of a string on several lines, after its opening quotes and the line ending behind them. -/
def multilineString : Nat → Reader (List Char)
  | 0, _ => .error .malformed
  | _, [] => .error .malformed
  | _ + 1, '"' :: '"' :: '"' :: rest => closingQuotes '"' rest
  | fuel + 1, '\r' :: '\n' :: rest => do
    let (more, rest) ← multilineString fuel rest
    return ('\r' :: '\n' :: more, rest)
  | fuel + 1, c :: rest =>
    if c = '\\' then
      if (lineEnding? (skipGaps rest)).isSome then multilineString fuel (skipBreaks rest)
      else do
        let (e, rest) ← escape rest
        let (more, rest) ← multilineString fuel rest
        return (e :: more, rest)
    else if isPlain c || c = '\n' then do
      let (more, rest) ← multilineString fuel rest
      return (c :: more, rest)
    else .error .malformed

/-- The rest of a string without escapes on several lines. -/
def multilineLiteral : Reader (List Char)
  | [] => .error .malformed
  | '\'' :: '\'' :: '\'' :: rest => closingQuotes '\'' rest
  | '\r' :: '\n' :: rest => do
    let (more, rest) ← multilineLiteral rest
    return ('\r' :: '\n' :: more, rest)
  | c :: rest =>
    if isPlain c || c = '\n' then do
      let (more, rest) ← multilineLiteral rest
      return (c :: more, rest)
    else .error .malformed

/-- The text without the line ending that may follow the opening quotes of a string on several lines. -/
def skipFirstBreak (s : List Char) : List Char := (lineEnding? s).getD s

/-- A string of any of the four forms, if the text starts with a quote. -/
def string? (s : List Char) : Option (Except TomlError (List Char × List Char)) :=
  match s with
  | '"' :: '"' :: '"' :: rest => some (multilineString s.length (skipFirstBreak rest))
  | '"' :: rest => some (basicString s.length rest)
  | '\'' :: '\'' :: '\'' :: rest => some (multilineLiteral (skipFirstBreak rest))
  | '\'' :: rest => some (literalString rest)
  | _ => none

/-- Whether a character may stand in a key without quotes. -/
def isBareKeyChar (c : Char) : Bool := c.isAlphanum || c = '_' || c = '-'

/-- One step of a dotted key: a bare word or a string on one line. -/
def simpleKey : Reader String := fun s =>
  match s with
  | '"' :: rest => do
    let (key, rest) ← basicString s.length rest
    return (String.ofList key, rest)
  | '\'' :: rest => do
    let (key, rest) ← literalString rest
    return (String.ofList key, rest)
  | s =>
    match s.takeWhile isBareKeyChar with
    | [] => .error .malformed
    | key => .ok (String.ofList key, s.dropWhile isBareKeyChar)

/-- A key: steps with dots between them and gaps around the dots. -/
def readKey : Nat → Reader Key
  | 0, _ => .error .malformed
  | fuel + 1, s => do
    let (step, rest) ← simpleKey s
    match skipGaps rest with
    | '.' :: more => do
      let (key, rest) ← readKey fuel (skipGaps more)
      return ({ key with path := step :: key.path }, rest)
    | _ => return (⟨[], step⟩, rest)

/-- Whether a text is a run of digits that single underscores may divide. -/
def isGrouped (isDigit : Char → Bool) : List Char → Bool
  | [] => false
  | [c] => isDigit c
  | c :: '_' :: rest => isDigit c && isGrouped isDigit rest
  | c :: rest => isDigit c && isGrouped isDigit rest

/-- The text without a leading sign. -/
def unsigned : List Char → List Char
  | '+' :: rest => rest
  | '-' :: rest => rest
  | s => s

/-- Whether a text is a decimal integer without a sign: no zero leads another digit. -/
def isDecimal (s : List Char) : Bool :=
  isGrouped Char.isDigit s && (s.length = 1 || s.head? ≠ some '0')

/-- Whether a text is an integer. -/
def isInteger (s : List Char) : Bool :=
  match s with
  | '0' :: 'x' :: digits => isGrouped (fun c => (Text.hexDigit? c).isSome) digits
  | '0' :: 'o' :: digits => isGrouped (fun c => '0' ≤ c && c ≤ '7') digits
  | '0' :: 'b' :: digits => isGrouped (fun c => c = '0' || c = '1') digits
  | _ => isDecimal (unsigned s)

/-- Whether a text is what may follow the letter of an exponent. -/
def isExponent (s : List Char) : Bool := isGrouped Char.isDigit (unsigned s)

/-- Whether a text is a number with a fraction, an exponent or both, or one of the special numbers. -/
def isFloat (s : List Char) : Bool :=
  let body := unsigned s
  let whole := body.takeWhile fun c => c ≠ '.' && c ≠ 'e' && c ≠ 'E'
  body = ['i', 'n', 'f'] || body = ['n', 'a', 'n'] ||
    isDecimal whole &&
      match body.drop whole.length with
      | '.' :: rest =>
        let digits := rest.takeWhile fun c => c ≠ 'e' && c ≠ 'E'
        isGrouped Char.isDigit digits &&
          match rest.drop digits.length with
          | [] => true
          | _ :: exponent => isExponent exponent
      | _ :: exponent => isExponent exponent
      | [] => false

/-- The number that exactly so many digits at the start of a text give. -/
def fixedDigits (width : Nat) (s : List Char) : Option (Nat × List Char) :=
  if (s.take width).length = width then
    (Text.digits? (s.take width)).map fun n => (n, s.drop width)
  else none

/-- How many days a month has. -/
def daysInMonth (year month : Nat) : Nat :=
  if month = 2 then
    if year % 4 = 0 ∧ (year % 100 ≠ 0 ∨ year % 400 = 0) then 29 else 28
  else if month = 4 ∨ month = 6 ∨ month = 9 ∨ month = 11 then 30
  else 31

/-- The text behind a date. -/
def afterDate (s : List Char) : Option (List Char) := do
  let (year, s) ← fixedDigits 4 s
  let (month, s) ← match s with
    | '-' :: rest => fixedDigits 2 rest
    | _ => none
  let (day, s) ← match s with
    | '-' :: rest => fixedDigits 2 rest
    | _ => none
  guard (1 ≤ month ∧ month ≤ 12 ∧ 1 ≤ day ∧ day ≤ daysInMonth year month)
  return s

/-- The text behind a time of day, in which seconds and their fraction may be left out. -/
def afterTime (s : List Char) : Option (List Char) := do
  let (hour, s) ← fixedDigits 2 s
  let (minute, s) ← match s with
    | ':' :: rest => fixedDigits 2 rest
    | _ => none
  guard (hour ≤ 23 ∧ minute ≤ 59)
  match s with
  | ':' :: rest => do
    let (second, s) ← fixedDigits 2 rest
    guard (second ≤ 60)
    match s with
    | '.' :: fraction => do
      guard (fraction.head?.any Char.isDigit)
      return fraction.dropWhile Char.isDigit
    | s => return s
  | s => return s

/-- Whether a text is an offset from universal time, or empty. -/
def isOffset (s : List Char) : Bool :=
  match s with
  | [] | ['Z'] | ['z'] => true
  | sign :: rest =>
    (sign = '+' || sign = '-') &&
      match fixedDigits 2 rest with
      | some (hour, ':' :: rest) =>
        match fixedDigits 2 rest with
        | some (minute, []) => hour ≤ 23 && minute ≤ 59
        | _ => false
      | _ => false

/-- Whether a text is a date, a time of day, or both with an offset or without. -/
def isDateTime (s : List Char) : Bool :=
  match afterDate s with
  | some [] => true
  | some (divider :: time) =>
    (divider = 'T' || divider = 't' || divider = ' ') && (afterTime time).any isOffset
  | none => afterTime s = some []

end HostDns.Toml
