/-!
Log lines: a level and a message, and which levels are shown.
-/

namespace HostDns

/-- How much a log line matters, most first. -/
inductive Level where
  | error
  | warn
  | info
  | debug
  | trace
  deriving DecidableEq, Repr

namespace Level

/-- The name that a line starts with. -/
def name : Level → String
  | .error => "ERROR"
  | .warn => "WARN"
  | .info => "INFO"
  | .debug => "DEBUG"
  | .trace => "TRACE"

/-- How many levels matter more, counting the level itself. -/
def rank : Level → Nat
  | .error => 1
  | .warn => 2
  | .info => 3
  | .debug => 4
  | .trace => 5

end Level

/-- A log line. -/
structure LogLine where
  level : Level
  message : String
  deriving DecidableEq, Repr

namespace LogLine

/-- How a log shows a character: what could steer a terminal is given by its code point. -/
def shownChar (c : Char) : String :=
  let digits := String.ofList (Nat.toDigits 16 c.toNat)
  if c = '\x07' ∨ c = '\x08' ∨ c = '\x0c' then "\\x0" ++ digits
  else if c = '\x1b' ∨ c = '\x7f' then "\\x" ++ digits
  else if 0x80 ≤ c.toNat ∧ c.toNat ≤ 0x9F then "\\u\x7b" ++ digits ++ "\x7d"
  else c.toString

/-- The text of a log line, with the line feed that ends it. -/
def text (line : LogLine) : String :=
  line.level.name ++ " " ++ String.join (line.message.toList.map shownChar) ++ "\n"

end LogLine

/-- The levels that are shown: those up to a rank, none for rank zero. -/
structure LogFilter where
  rank : Nat
  deriving DecidableEq, Repr

namespace LogFilter

/-- Whether a line is shown. -/
def shows (f : LogFilter) (line : LogLine) : Bool := line.level.rank ≤ f.rank

/-- The names of the filters, each with its rank; the rank in digits is a name too. -/
def names : List (String × Nat) :=
  [("off", 0), ("error", 1), ("warn", 2), ("info", 3), ("debug", 4), ("trace", 5),
    ("0", 0), ("1", 1), ("2", 2), ("3", 3), ("4", 4), ("5", 5)]

/-- The filter that a word names, in letters of either case. -/
def ofWord? (word : String) : Option LogFilter :=
  (names.lookup (word.map Char.toLower)).map LogFilter.mk

/-- The filter of a run: what the variable sets, its last part first, and else the lines up to
`debug` in a verbose run and up to `info` in any other. -/
def ofRun (verbose : Bool) (options? : Option String) : LogFilter :=
  let parts := ((options?.getD "").splitOn ",").filterMap ofWord?
  parts.getLast?.getD (if verbose then ⟨4⟩ else ⟨3⟩)

/-- The text of the lines that are shown. -/
def render (f : LogFilter) (lines : List LogLine) : String :=
  String.join ((lines.filter f.shows).map LogLine.text)

end LogFilter

end HostDns
