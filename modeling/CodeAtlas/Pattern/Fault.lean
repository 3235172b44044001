import CodeAtlas.Text.Quoted

/-!
# Faults of patterns

What can be wrong with the written form of a pattern, and what is said about it.
-/

namespace CodeAtlas

/-- What is wrong with a pattern. -/
inductive PatternFault where
  | unterminatedSet
  /-- A range that ends before it starts, or one between classes. -/
  | badRange (low high : String)
  | badEscape (escape : String)
  | incompleteEscape (escape : String)
  /-- Three octal digits that stand for more than a byte. -/
  | bigOctal (escape : String)
  /-- A name of a character that does not stand in braces. -/
  | missingBrace
  | unknownCharacter (name : List Char)
  | nothingToRepeat
  | multipleRepeat
  /-- A repetition whose least number is above its greatest one. -/
  | boundsReversed
  /-- A repetition more often than can be counted. -/
  | countTooLarge
  | missingParenthesis
  | unbalancedParenthesis
  | unterminatedComment
  | unexpectedEnd
  /-- A construct that is not supported. -/
  | unknownExtension (mark : String)
  | missingName
  /-- A name without the character that ends it. -/
  | unterminatedName (closing : Char)
  | badName (name : List Char)
  | unknownName (name : List Char)
  /-- A name that a group has already. -/
  | takenName (name : List Char) (index earlier : Nat)
  | unknownGroup (index : Nat)
  /-- A reference to a group from its inside. -/
  | openGroup
  /-- A reference from a look behind to a group inside it. -/
  | groupInLook
  /-- A look behind whose body matches texts of several lengths. -/
  | lookWidth
  | tooManyBranches
  /-- Letters that are no modes, or modes that cannot be changed so. -/
  | badModes
  /-- Modes for the whole pattern that do not stand at its start. -/
  | lateModes
  /-- Modes for the whole pattern that ask for two alphabets. -/
  | mixedAlphabets
  /-- A repetition in a mode without any. -/
  | barredRepeat
  /-- Groups nested more deeply than can be followed. -/
  | tooDeep
deriving Repr, DecidableEq

/-- What is said about a fault. -/
def PatternFault.text : PatternFault → String
  | unterminatedSet => "unterminated character set"
  | badRange low high => "bad character range " ++ low ++ "-" ++ high
  | badEscape escape => "bad escape " ++ escape
  | incompleteEscape escape => "incomplete escape " ++ escape
  | bigOctal escape => "octal escape value " ++ escape ++ " outside of range 0-0o377"
  | missingBrace => "missing \x7b"
  | unknownCharacter name => "undefined character name " ++ String.ofList (Text.quoted name)
  | nothingToRepeat => "nothing to repeat"
  | multipleRepeat => "multiple repeat"
  | boundsReversed => "min repeat greater than max repeat"
  | countTooLarge => "the repetition number is too large"
  | missingParenthesis => "missing ), unterminated subpattern"
  | unbalancedParenthesis => "unbalanced parenthesis"
  | unterminatedComment => "missing ), unterminated comment"
  | unexpectedEnd => "unexpected end of pattern"
  | unknownExtension mark => "unknown extension ?" ++ mark
  | missingName => "missing group name"
  | unterminatedName closing => "missing " ++ String.singleton closing ++ ", unterminated name"
  | badName name => "bad character in group name " ++ String.ofList (Text.quoted name)
  | unknownName name => "unknown group name " ++ String.ofList (Text.quoted name)
  | takenName name index earlier =>
    "redefinition of group name " ++ String.ofList (Text.quoted name) ++ " as group " ++ toString index
      ++ "; was group " ++ toString earlier
  | unknownGroup index => "invalid group reference " ++ toString index
  | openGroup => "cannot refer to an open group"
  | groupInLook => "cannot refer to group defined in the same lookbehind subpattern"
  | lookWidth => "look-behind requires fixed-width pattern"
  | tooManyBranches => "conditional backref with more than two branches"
  | badModes => "bad inline flags"
  | lateModes => "global flags not at the start of the expression"
  | mixedAlphabets => "ASCII and UNICODE flags are incompatible"
  | barredRepeat => "unsupported template operator"
  | tooDeep => "maximum recursion depth exceeded"

/-- Why a text is no pattern: a fault, and the character of the text where it is. -/
structure PatternError where
  fault : PatternFault
  position : Nat
deriving Repr, DecidableEq

/-- What the error says. Faults of the pattern as a whole have no place in it. -/
def PatternError.message (e : PatternError) : String :=
  match e.fault with
  | .mixedAlphabets | .countTooLarge | .tooDeep => e.fault.text
  | fault => fault.text ++ " at position " ++ toString e.position

end CodeAtlas
