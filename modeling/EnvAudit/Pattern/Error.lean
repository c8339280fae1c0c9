import EnvAudit.Text.Quoted

namespace EnvAudit.Pattern

inductive Flaw where
  | danglingEscape
  | incompleteEscape (escape : String)
  | badEscape (escape : String)
  | octalTooLarge (escape : String)
  | missingBrace
  | undefinedCharacter (name : String)
  | missingName (what : String)
  | unterminatedName (terminator : Char)
  | badGroupName (name : String)
  | unknownGroup (name : String)
  | redefinedGroup (name : String) (index previous : Nat)
  | badGroupNumber
  | invalidGroup (index : Nat)
  | openGroup
  | groupOfSameLookbehind
  | unterminatedSet
  | badRange (low high : String)
  | minOverMax
  | nothingToRepeat
  | multipleRepeat
  | unexpectedEnd
  | unknownExtension (text : String)
  | unterminatedGroup
  | unterminatedComment
  | tooManyBranches
  | unbalanced
  | globalFlagsInside
  | unknownFlag
  | missingFlag
  | missingFlagEnd
  | missingColon
  | localeFlag
  | incompatibleFlags
  | turnedOnGlobal
  | turnedOffGlobal
  | turnedOffClass
  | turnedOnAndOff
  | lookbehindWidth
  | lookbehindTooFar
  | templateRepeat (kind : String)
  deriving DecidableEq, Repr

def Flaw.message : Flaw → String
  | danglingEscape => "bad escape (end of pattern)"
  | incompleteEscape escape => "incomplete escape " ++ escape
  | badEscape escape => "bad escape " ++ escape
  | octalTooLarge escape => "octal escape value " ++ escape ++ " outside of range 0-0o377"
  | missingBrace => "missing \x7b"
  | undefinedCharacter name => "undefined character name " ++ Text.quoted name
  | missingName what => "missing " ++ what
  | unterminatedName terminator => "missing " ++ terminator.toString ++ ", unterminated name"
  | badGroupName name => "bad character in group name " ++ Text.quoted name
  | unknownGroup name => "unknown group name " ++ Text.quoted name
  | redefinedGroup name index previous =>
    "redefinition of group name " ++ Text.quoted name ++ " as group " ++ toString index ++
      "; was group " ++ toString previous
  | badGroupNumber => "bad group number"
  | invalidGroup index => "invalid group reference " ++ toString index
  | openGroup => "cannot refer to an open group"
  | groupOfSameLookbehind => "cannot refer to group defined in the same lookbehind subpattern"
  | unterminatedSet => "unterminated character set"
  | badRange low high => "bad character range " ++ low ++ "-" ++ high
  | minOverMax => "min repeat greater than max repeat"
  | nothingToRepeat => "nothing to repeat"
  | multipleRepeat => "multiple repeat"
  | unexpectedEnd => "unexpected end of pattern"
  | unknownExtension text => "unknown extension " ++ text
  | unterminatedGroup => "missing ), unterminated subpattern"
  | unterminatedComment => "missing ), unterminated comment"
  | tooManyBranches => "conditional backref with more than two branches"
  | unbalanced => "unbalanced parenthesis"
  | globalFlagsInside => "global flags not at the start of the expression"
  | unknownFlag => "unknown flag"
  | missingFlag => "missing flag"
  | missingFlagEnd => "missing -, : or )"
  | missingColon => "missing :"
  | localeFlag => "bad inline flags: cannot use 'L' flag with a str pattern"
  | incompatibleFlags => "bad inline flags: flags 'a', 'u' and 'L' are incompatible"
  | turnedOnGlobal => "bad inline flags: cannot turn on global flag"
  | turnedOffGlobal => "bad inline flags: cannot turn off global flag"
  | turnedOffClass => "bad inline flags: cannot turn off flags 'a', 'u' and 'L'"
  | turnedOnAndOff => "bad inline flags: flag turned on and off"
  | lookbehindWidth => "look-behind requires fixed-width pattern"
  | lookbehindTooFar => "looks too much behind"
  | templateRepeat kind => "internal: unsupported template operator " ++ kind

/-- Where a flaw stands; line and column are given in patterns that hold a line feed. -/
structure Spot where
  position : Nat
  lineColumn : Option (Nat × Nat)
  deriving DecidableEq, Repr

def Spot.of (pattern : List Char) (position : Nat) : Spot where
  position := position
  lineColumn :=
    if pattern.contains '\n' then
      let before := pattern.take position
      some (before.count '\n' + 1, (before.reverse.takeWhile (· != '\n')).length + 1)
    else none

inductive Error where
  | flaw (kind : Flaw) (spot : Option Spot)
  /-- A repetition count that does not fit. -/
  | countTooLarge
  /-- Both switches for character classes are set for the whole pattern. -/
  | classClash
  /-- More nesting than there is room for. -/
  | tooDeep
  deriving DecidableEq, Repr

def Error.message : Error → String
  | flaw kind none => kind.message
  | flaw kind (some spot) =>
    let place := kind.message ++ " at position " ++ toString spot.position
    match spot.lineColumn with
    | none => place
    | some (line, column) =>
      place ++ " (line " ++ toString line ++ ", column " ++ toString column ++ ")"
  | countTooLarge => "the repetition number is too large"
  | classClash => "ASCII and UNICODE flags are incompatible"
  | tooDeep => "maximum recursion depth exceeded"

end EnvAudit.Pattern
