/-!
Why a text is no pattern.
-/

namespace HostDns.Pattern

/-- Why a text is no pattern. -/
inductive PatternError where
  | unclosedGroup
  | unopenedGroup
  | unclosedClass
  | unclosedRepetition
  | invalidRepetition
  | nothingToRepeat
  | invalidEscape
  | invalidClassRange
  | invalidGroupName
  | repeatedGroupName
  | invalidFlags
  | lookAround
  | backReference
  | unknownProperty
  /-- A part that could match something else than whole characters. -/
  | notUnicode
  | nestedTooDeep
  | tooLarge
  deriving DecidableEq, Repr

/-- The words for a refused text. -/
def PatternError.message : PatternError → String
  | .unclosedGroup => "unclosed group"
  | .unopenedGroup => "unopened group"
  | .unclosedClass => "unclosed character class"
  | .unclosedRepetition => "unclosed counted repetition"
  | .invalidRepetition => "invalid repetition count"
  | .nothingToRepeat => "repetition operator missing expression"
  | .invalidEscape => "invalid escape sequence"
  | .invalidClassRange => "invalid character class range"
  | .invalidGroupName => "invalid capture group name"
  | .repeatedGroupName => "duplicate capture group name"
  | .invalidFlags => "invalid flags"
  | .lookAround => "look-around is not supported"
  | .backReference => "backreferences are not supported"
  | .unknownProperty => "Unicode property not found"
  | .notUnicode => "pattern can match invalid UTF-8"
  | .nestedTooDeep => "pattern is nested too deeply"
  | .tooLarge => "compiled pattern exceeds size limit"

end HostDns.Pattern
