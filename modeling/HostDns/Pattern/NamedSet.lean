import HostDns.Pattern.CharSet
import HostDns.Unicode.Age
import HostDns.Unicode.Break
import HostDns.Unicode.Category
import HostDns.Unicode.Property
import HostDns.Unicode.Script

/-!
The sets of characters that patterns have names for.
-/

namespace HostDns.Pattern

open Unicode (Ranges)

/-- A class of characters that one letter names. -/
inductive LetterClass where
  | digit
  | space
  | word
  deriving DecidableEq, Repr

namespace LetterClass

/-- The characters with a property of this name. -/
def property (name : String) : Ranges := (Unicode.property? name).getD #[]

/-- The decimal digits of every script. -/
def digits : CharSet := .ofRanges (Unicode.ofCategories ["Nd"]).toList

/-- The blanks. -/
def blanks : CharSet := .ofRanges (property "whitespace").toList

/-- The characters of words: letters, marks, decimal digits, connectors and joiners. -/
def wordChars : CharSet :=
  .ofRanges (property "alphabetic" ++ Unicode.ofCategories ["Mc", "Me", "Mn", "Nd", "Pc"] ++
    property "joinc").toList

/-- The characters of a class: those of ASCII, or of all scripts. -/
def set (ascii : Bool) : LetterClass → CharSet
  | .digit => if ascii then ⟨[(0x30, 0x39)]⟩ else digits
  | .space => if ascii then ⟨[(0x9, 0xD), (0x20, 0x20)]⟩ else blanks
  | .word => if ascii then ⟨[(0x30, 0x39), (0x41, 0x5A), (0x5F, 0x5F), (0x61, 0x7A)]⟩ else wordChars

end LetterClass

/-- The classes of ASCII characters that bracketed names stand for. -/
def bracketNames : List (String × CharSet) := [
  ("alnum", ⟨[(0x30, 0x39), (0x41, 0x5A), (0x61, 0x7A)]⟩),
  ("alpha", ⟨[(0x41, 0x5A), (0x61, 0x7A)]⟩),
  ("ascii", ⟨[(0, 0x7F)]⟩),
  ("blank", ⟨[(0x9, 0x9), (0x20, 0x20)]⟩),
  ("cntrl", ⟨[(0, 0x1F), (0x7F, 0x7F)]⟩),
  ("digit", ⟨[(0x30, 0x39)]⟩),
  ("graph", ⟨[(0x21, 0x7E)]⟩),
  ("lower", ⟨[(0x61, 0x7A)]⟩),
  ("print", ⟨[(0x20, 0x7E)]⟩),
  ("punct", ⟨[(0x21, 0x2F), (0x3A, 0x40), (0x5B, 0x60), (0x7B, 0x7E)]⟩),
  ("space", ⟨[(0x9, 0xD), (0x20, 0x20)]⟩),
  ("upper", ⟨[(0x41, 0x5A)]⟩),
  ("word", ⟨[(0x30, 0x39), (0x41, 0x5A), (0x5F, 0x5F), (0x61, 0x7A)]⟩),
  ("xdigit", ⟨[(0x30, 0x39), (0x41, 0x46), (0x61, 0x66)]⟩)]

/-- The name of a property in the form that tables are searched by: small letters, no blank, hyphen or
underscore, no character beyond ASCII, and no leading `is`, except that a name that is then left as
`c` keeps it. -/
def plainName (name : String) : String :=
  let letters := name.toList
  let (isFirst, body) := match letters with
    | a :: b :: rest => if a.toLower = 'i' ∧ b.toLower = 's' then (true, rest) else (false, letters)
    | _ => (false, letters)
  let kept := (body.filter fun c => c ≠ ' ' ∧ c ≠ '_' ∧ c ≠ '-' ∧ c.toNat < 0x80).map Char.toLower
  String.ofList (if isFirst ∧ kept = ['c'] then ['i', 's', 'c'] else kept)

/-- The characters that a name alone stands for: a property, a general category or a script. -/
def named? (name : String) : Option CharSet :=
  let plain := plainName name
  let ranges := (Unicode.property? plain).or ((Unicode.category? plain).or (Unicode.script? plain))
  ranges.map fun ranges => .ofRanges ranges.toList

/-- The characters that a value of a property stands for. -/
def valued? (property value : String) : Option CharSet :=
  let plain := plainName value
  let ranges := match plainName property with
    | "generalcategory" | "gc" => Unicode.category? plain
    | "script" | "sc" => Unicode.script? plain
    | "scriptextensions" | "scx" => Unicode.scriptExtension? plain
    | "age" => Unicode.age? plain
    | "graphemeclusterbreak" | "gcb" => Unicode.graphemeBreak? plain
    | "wordbreak" | "wb" => Unicode.wordBreak? plain
    | "sentencebreak" | "sb" => Unicode.sentenceBreak? plain
    | _ => none
  ranges.map fun ranges => .ofRanges ranges.toList

end HostDns.Pattern
