import QueryTree.Pattern.Item
import QueryTree.Text.Quoted

/-!
# What can be wrong with a pattern

Most faults are found while a pattern is read, and are reported with their place in it.  Three are
found later: a look-behind whose width is not fixed, two contradicting character repertoires, and
a repeat count beyond all bounds.

## Main definitions

* `PatternFault`: what is wrong, with `PatternFault.message`.
* `PatternPlace`: where it is wrong.
* `PatternError`: a refused pattern, with `PatternError.message`.
-/

namespace QueryTree

/-- What is wrong with a pattern that cannot be read. -/
inductive PatternFault
  | unterminatedSet
  | badRange (low high : Text)
  | unterminatedGroup
  | unbalanced
  | nothingToRepeat
  | multipleRepeat
  | crossedRepeat
  | endsInEscape
  | badEscape (escape : Text)
  | incompleteEscape (escape : Text)
  | octalTooLarge (escape : Text)
  | invalidReference (group : Nat)
  | openReference
  | lookbehindReference
  | unexpectedEnd
  | missingName (what : Text)
  | unterminatedName (closing : Text)
  | badName (name : Text)
  | unknownName (name : Text)
  | redefinedName (name : Text) (group earlier : Nat)
  | unknownExtension (text : Text)
  | unterminatedComment
  | flagsNotClosed
  | missingFlag
  | missingColon
  | unknownFlag
  | flagOnAndOff
  | localeFlag
  | repertoiresOn
  | repertoireOff
  | globalFlagOn
  | globalFlagOff
  | lateFlags
  | variableLookbehind
  | farLookbehind
  | templateRepeat (kind : RepeatKind)
  | badGroupNumber
  | tooManyBranches
  | missingBrace
  | undefinedCharacter (name : Text)
deriving DecidableEq, Repr

/-- The name of a kind of repeats in reports. -/
def RepeatKind.operator : RepeatKind → Text
  | .greedy => "MAX_REPEAT".toList
  | .lazy => "MIN_REPEAT".toList
  | .possessive => "POSSESSIVE_REPEAT".toList

/-- The report of a fault, without its place. -/
def PatternFault.message : PatternFault → Text
  | .unterminatedSet => "unterminated character set".toList
  | .badRange low high => "bad character range ".toList ++ low ++ '-' :: high
  | .unterminatedGroup => "missing ), unterminated subpattern".toList
  | .unbalanced => "unbalanced parenthesis".toList
  | .nothingToRepeat => "nothing to repeat".toList
  | .multipleRepeat => "multiple repeat".toList
  | .crossedRepeat => "min repeat greater than max repeat".toList
  | .endsInEscape => "bad escape (end of pattern)".toList
  | .badEscape escape => "bad escape ".toList ++ escape
  | .incompleteEscape escape => "incomplete escape ".toList ++ escape
  | .octalTooLarge escape =>
    "octal escape value ".toList ++ escape ++ " outside of range 0-0o377".toList
  | .invalidReference group => "invalid group reference ".toList ++ Text.ofNat group
  | .openReference => "cannot refer to an open group".toList
  | .lookbehindReference =>
    "cannot refer to group defined in the same lookbehind subpattern".toList
  | .unexpectedEnd => "unexpected end of pattern".toList
  | .missingName what => "missing ".toList ++ what
  | .unterminatedName closing => "missing ".toList ++ closing ++ ", unterminated name".toList
  | .badName name => "bad character in group name ".toList ++ name.quoted
  | .unknownName name => "unknown group name ".toList ++ name.quoted
  | .redefinedName name group earlier =>
    "redefinition of group name ".toList ++ name.quoted ++ " as group ".toList
      ++ Text.ofNat group ++ "; was group ".toList ++ Text.ofNat earlier
  | .unknownExtension text => "unknown extension ?".toList ++ text
  | .unterminatedComment => "missing ), unterminated comment".toList
  | .flagsNotClosed => "missing -, : or )".toList
  | .missingFlag => "missing flag".toList
  | .missingColon => "missing :".toList
  | .unknownFlag => "unknown flag".toList
  | .flagOnAndOff => "bad inline flags: flag turned on and off".toList
  | .localeFlag => "bad inline flags: cannot use \x27L\x27 flag with a str pattern".toList
  | .repertoiresOn =>
    "bad inline flags: flags \x27a\x27, \x27u\x27 and \x27L\x27 are incompatible".toList
  | .repertoireOff =>
    "bad inline flags: cannot turn off flags \x27a\x27, \x27u\x27 and \x27L\x27".toList
  | .globalFlagOn => "bad inline flags: cannot turn on global flag".toList
  | .globalFlagOff => "bad inline flags: cannot turn off global flag".toList
  | .lateFlags => "global flags not at the start of the expression".toList
  | .variableLookbehind => "look-behind requires fixed-width pattern".toList
  | .farLookbehind => "looks too much behind".toList
  | .templateRepeat kind => "internal: unsupported template operator ".toList ++ kind.operator
  | .badGroupNumber => "bad group number".toList
  | .tooManyBranches => "conditional backref with more than two branches".toList
  | .missingBrace => "missing \x7b".toList
  | .undefinedCharacter name => "undefined character name ".toList ++ name.quoted

/-- A place in a pattern: its position, and its line and column if the pattern has lines. -/
structure PatternPlace where
  position : Nat
  line? : Option (Nat × Nat)
deriving DecidableEq, Repr

namespace PatternPlace

/-- The place of a position in a pattern. -/
def of (pattern : Text) (position : Nat) : PatternPlace :=
  let before := pattern.take position
  ⟨position,
    if pattern.contains '\n' then
      some (before.count '\n' + 1, (before.reverse.takeWhile (· ≠ '\n')).length + 1)
    else none⟩

/-- A place written out. -/
def message (p : PatternPlace) : Text :=
  " at position ".toList ++ Text.ofNat p.position ++ match p.line? with
    | none => []
    | some (line, column) =>
      " (line ".toList ++ Text.ofNat line ++ ", column ".toList ++ Text.ofNat column ++ [')']

end PatternPlace

/-- Why a pattern is refused. -/
inductive PatternError
  /-- The pattern cannot be read. -/
  | malformed (fault : PatternFault) (place : Option PatternPlace)
  /-- A repeat count is beyond all bounds. -/
  | repeatTooLarge
  /-- The pattern asks for both character repertoires. -/
  | bothRepertoires
deriving DecidableEq, Repr

/-- The report of a refused pattern. -/
def PatternError.message : PatternError → Text
  | .malformed fault place => fault.message ++ match place with
    | none => []
    | some p => p.message
  | .repeatTooLarge => "the repetition number is too large".toList
  | .bothRepertoires => "ASCII and UNICODE flags are incompatible".toList

end QueryTree
