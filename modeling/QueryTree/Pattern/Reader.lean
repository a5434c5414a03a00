import QueryTree.Pattern.Token

/-!
# Reading a pattern

A pattern is read into items from left to right.  Alternatives that start alike share that start,
and alternatives that are single characters or sets make one set.

The reader's recursion is bounded by a number: every call passes at least one token or goes one
level down before a token, so twice the number of tokens, and a little more, is enough.

## Main definitions

* `PatternReader.escape`, `PatternReader.setEscape`: what a backslash means outside and inside
  a set.
* `PatternReader.charSet`, `PatternReader.repeatRange`, `PatternReader.flagGroup`: the parts of a
  sequence.
* `PatternReader.sequence`, `PatternReader.alternatives`: sequences and alternatives.
* `readPattern`: the items of a pattern, with the switches of the whole.
-/

namespace QueryTree
namespace PatternReader

/-- Repeat counts from here on are refused. -/
def repeatLimit : Nat := 4294967295

/-- The character that a letter after a backslash stands for. -/
def controlEscape? : Char → Option Nat
  | 'a' => some 7
  | 'b' => some 8
  | 'f' => some 12
  | 'n' => some 10
  | 'r' => some 13
  | 't' => some 9
  | 'v' => some 11
  | '\\' => some 92
  | _ => none

/-- The class that a letter after a backslash stands for. -/
def categoryEscape? : Char → Option SetMember
  | 'd' => some (.category .digit false)
  | 'D' => some (.category .digit true)
  | 's' => some (.category .space false)
  | 'S' => some (.category .space true)
  | 'w' => some (.category .word false)
  | 'W' => some (.category .word true)
  | _ => none

/-- The anchor that a letter after a backslash stands for. -/
def anchorEscape? : Char → Option Anchor
  | 'A' => some .textStart
  | 'b' => some .boundary
  | 'B' => some .noBoundary
  | 'Z' => some .textEnd
  | _ => none

/-- A code point given by exactly `count` hexadecimal digits after a backslash and a letter. -/
def hexEscape (letter : Char) (count : Nat) : PatternReader Nat := do
  let digits ← takeDigits count 16
  let escape := '\\' :: letter :: digits
  if digits.length ≠ count then failBefore (.incompleteEscape escape) escape.length
  let n := Text.toNumber 16 digits
  if 0x110000 ≤ n then failBefore (.badEscape escape) escape.length
  return n

/-- A character given by its name.  No names are known. -/
def namedEscape : PatternReader Nat := do
  if !(← accept '\x7b') then failBefore .missingBrace 0
  let name ← takeName '\x7d' "character name".toList
  failBefore (.undefinedCharacter name) (name.length + 4)

/-- The code point of an octal escape, which must be a byte. -/
def octalCode (escape : Text) : PatternReader Nat := do
  let n := Text.toNumber 8 escape
  if 0o377 < n then failBefore (.octalTooLarge escape) escape.length
  return n

/-- What a backslash followed by `c` means when nothing special is known about it. -/
def plainEscape (c : Char) : PatternReader Nat := do
  if Text.isAsciiLetter c || Text.isAsciiDigit c then failBefore (.badEscape ['\\', c]) 2
  return c.toNat

/-- What a backslash followed by `c` means inside a set. -/
def setEscape (c : Char) : PatternReader SetMember := do
  match controlEscape? c, categoryEscape? c with
  | some n, _ => return .code n
  | none, some m => return m
  | none, none =>
    if c = 'x' then return .code (← hexEscape c 2)
    else if c = 'u' then return .code (← hexEscape c 4)
    else if c = 'U' then return .code (← hexEscape c 8)
    else if c = 'N' then return .code (← namedEscape)
    else if Text.isDigitOf 8 c then
      let more ← takeDigits 2 8
      return .code (← octalCode ('\\' :: c :: more))
    else return .code (← plainEscape c)

/-- A reference to a group by its number; `width` is the length of the escape. -/
def referenceTo (group offset : Nat) : PatternReader PatternItem := do
  if group < (← groupCount) then
    match ← groupWidth? group with
    | none => failBefore .openReference offset
    | some (least, most) =>
      checkLookbehind group
      return .reference group least most
  else failBefore (.invalidReference group) (offset - 1)

/-- What a backslash followed by a digit from 1 to 9 means outside a set: three octal digits are
a character, anything else is a reference to a group. -/
def digitEscape (c : Char) : PatternReader PatternItem := do
  let second ← takeDigits 1 10
  let escape := '\\' :: c :: second
  let isOctal := second.length = 1 && (c :: second).all (Text.isDigitOf 8)
  let third ← if isOctal then takeDigits 1 8 else pure []
  if third.isEmpty then referenceTo (Text.toNumber 10 (c :: second)) escape.length
  else return .code (← octalCode (escape ++ third))

/-- What a backslash followed by `c` means outside a set. -/
def escape (c : Char) : PatternReader PatternItem := do
  match anchorEscape? c, categoryEscape? c, controlEscape? c with
  | some a, _, _ => return .anchor a
  | none, some m, _ => return .set false [m]
  | none, none, some n => return .code n
  | none, none, none =>
    if c = 'x' then return .code (← hexEscape c 2)
    else if c = 'u' then return .code (← hexEscape c 4)
    else if c = 'U' then return .code (← hexEscape c 8)
    else if c = 'N' then return .code (← namedEscape)
    else if c = '0' then
      let more ← takeDigits 2 8
      return .code (Text.toNumber 8 more)
    else if Text.isAsciiDigit c then digitEscape c
    else return .code (← plainEscape c)

/-- What a token means inside a set. -/
def setToken (token : Text) : PatternReader SetMember := do
  match token with
  | '\\' :: c :: _ => setEscape c
  | c :: _ => return .code c.toNat
  | [] => return .code 0

/-- The members of a set up to its closing bracket; `start` is the position of the opening one.
The members so far are given last first. -/
def setMembers (start : Nat) : Nat → List SetMember → PatternReader (List SetMember)
  | 0, found => return found.reverse
  | fuel + 1, found => do
    match ← take with
    | none => failAt .unterminatedSet start
    | some token =>
      if token = [']'] && !found.isEmpty then return found.reverse
      let low ← setToken token
      if ← accept '-' then
        match ← take with
        | none => failAt .unterminatedSet start
        | some [']'] => return (.code '-'.toNat :: low :: found).reverse
        | some token' =>
          let high ← setToken token'
          let offset := token.length + 1 + token'.length
          match low, high with
          | .code m, .code n =>
            if n < m then failBefore (.badRange token token') offset
            setMembers start fuel (.range m n :: found)
          | _, _ => failBefore (.badRange token token') offset
      else setMembers start fuel (low :: found)

/-- The item of a set with the given members. -/
def setItem (negated : Bool) (members : List SetMember) : PatternItem :=
  match negated, members.eraseDups with
  | false, [.code n] => .code n
  | true, [.code n] => .notCode n
  | _, ms => .set negated ms

/-- A set, after its opening bracket at position `start`. -/
def charSet (start : Nat) : PatternReader PatternItem := do
  let negated ← accept '^'
  let members ← setMembers start ((← get).rest.length + 1) []
  return setItem negated members

/-- The least and the greatest count of a repeat in braces, after the opening brace; none if the
brace is an ordinary character, and then nothing is passed. -/
def repeatRange : PatternReader (Option (Nat × Option Nat)) := do
  let here := (← get).rest
  let start ← position
  if (← peek) = some ['\x7d'] then return none
  let low ← takeDigits here.length 10
  let high ← if ← accept ',' then takeDigits here.length 10 else pure low
  if !(← accept '\x7d') then
    moveTo here
    return none
  let least := Text.toNumber 10 low
  if repeatLimit ≤ least then throw .repeatTooLarge
  if high.isEmpty then return some (least, none)
  let most := Text.toNumber 10 high
  if repeatLimit ≤ most then throw .repeatTooLarge
  if most < least then failAt .crossedRepeat start
  return some (least, some most)

/-- The counts of a repeat that starts with `c`, which has been passed. -/
def repeatCounts (c : Char) : PatternReader (Option (Nat × Option Nat)) := do
  match c with
  | '?' => return some (0, some 1)
  | '*' => return some (0, none)
  | '+' => return some (1, none)
  | _ => repeatRange

/-- How a repeat is to prefer its count. -/
def repeatKind : PatternReader RepeatKind := do
  if ← accept '?' then return .lazy
  else if ← accept '+' then return .possessive
  else return .greedy

/-- Repeats the last of the items so far, which are given last first; `start` is the position of
the repeat. -/
def repeatLast (start : Nat) (least : Nat) (most : Option Nat) :
    List PatternItem → PatternReader (List PatternItem)
  | [] => failAt .nothingToRepeat start
  | .anchor _ :: _ => failAt .nothingToRepeat start
  | .repeated .. :: _ => failAt .multipleRepeat start
  | .group none on off body :: before => do
    let kind ← repeatKind
    let body := if on = {} && off = {} then body else [.group none on off body]
    return .repeated kind least most body :: before
  | item :: before => do
    let kind ← repeatKind
    return .repeated kind least most [item] :: before

/-- The switch that a letter turns. -/
def flag? : Char → Option Flags
  | 'i' => some { ignoreCase := true }
  | 'm' => some { multiLine := true }
  | 's' => some { dotAll := true }
  | 'x' => some { verbose := true }
  | 'a' => some { ascii := true }
  | 'u' => some { unicode := true }
  | 't' => some { template := true }
  | _ => none

/-- Whether a token is a letter that stands for a switch; the letter of the locale counts. -/
def isFlag : Text → Bool
  | [c] => (flag? c).isSome || c = 'L'
  | _ => false

/-- Whether a token is a letter. -/
def isLetterToken : Text → Bool
  | [c] => Text.isAlphabetic c
  | _ => false

/-- The switch of a token that stands for one. -/
def flagOf (token : Text) : Flags :=
  match token with
  | [c] => (flag? c).getD {}
  | _ => {}

/-- The switches that are turned on from `token` on, with the token after them. -/
def flagsOn : Nat → Text → Flags → PatternReader (Flags × Text)
  | 0, token, on => return (on, token)
  | fuel + 1, token, on => do
    if token = ['L'] then failBefore .localeFlag 0
    let on := on.union (flagOf token)
    if on.ascii && on.unicode then failBefore .repertoiresOn 0
    match ← take with
    | none => failBefore .flagsNotClosed 0
    | some next =>
      if next = [')'] || next = ['-'] || next = [':'] then return (on, next)
      if !isFlag next then
        failBefore (if isLetterToken next then .unknownFlag else .flagsNotClosed) next.length
      flagsOn fuel next on

/-- The switches that are turned off from `token` on, up to the colon. -/
def flagsOff : Nat → Text → Flags → PatternReader Flags
  | 0, _, off => return off
  | fuel + 1, token, off => do
    let f := flagOf token
    if f.ascii || f.unicode || token = ['L'] then failBefore .repertoireOff 0
    let off := off.union f
    match ← take with
    | none => failBefore .missingColon 0
    | some next =>
      if next = [':'] then return off
      if !isFlag next then
        failBefore (if isLetterToken next then .unknownFlag else .missingColon) next.length
      flagsOff fuel next off

/-- The switches of a group from `token` on: those that it turns on and off, or none when they
are meant for the whole pattern. -/
def flagGroup (token : Text) : PatternReader (Option (Flags × Flags)) := do
  let fuel := (← get).rest.length + 1
  let (on, next) ← if token = ['-'] then pure ({}, token) else flagsOn fuel token {}
  if next = [')'] then
    modify fun s => { s with flags := s.flags.union on }
    return none
  if on.template then failBefore .globalFlagOn 1
  let off ← if next = ['-'] then
      match ← take with
      | none => failBefore .missingFlag 0
      | some first =>
        if !isFlag first then
          failBefore (if isLetterToken first then .unknownFlag else .missingFlag) first.length
        flagsOff fuel first {}
    else pure {}
  if off.template then failBefore .globalFlagOff 1
  if on.meets off then failBefore .flagOnAndOff 1
  return some (on, off)

/-- What the start of a group in parentheses says about it. -/
inductive GroupHead
  /-- A capturing group, with its name if it has one. -/
  | capture (name : Option Text)
  /-- A group with switches. -/
  | scoped (on off : Flags)
  | atomic
  | look (behind negated : Bool)
  /-- A choice by whether a group has matched. -/
  | condition (group : Nat)
  /-- A complete item in parentheses. -/
  | item (i : PatternItem)
  /-- A comment, or switches for the whole pattern. -/
  | nothing (setsFlags : Bool)

/-- The head of a group that starts with `(?P`. -/
def namedHead : PatternReader GroupHead := do
  if ← accept '<' then
    let name ← takeName '>' "group name".toList
    checkName name
    return .capture (some name)
  else if ← accept '=' then
    let name ← takeName ')' "group name".toList
    checkName name
    match (← get).names.lookup name with
    | none => failBefore (.unknownName name) (name.length + 1)
    | some group =>
      match ← groupWidth? group with
      | none => failBefore .openReference (name.length + 1)
      | some (least, most) =>
        checkLookbehind group
        return .item (.reference group least most)
  else match ← take with
    | none => failBefore .unexpectedEnd 0
    | some token => failBefore (.unknownExtension ('P' :: token)) (token.length + 2)

/-- The head of a group that starts with `(?(`: the name or number of the group to ask for. -/
def conditionHead : PatternReader GroupHead := do
  let name ← takeName ')' "group name".toList
  let offset := name.length + 1
  let group ← if Text.isIdentifier name then
      match (← get).names.lookup name with
      | none => failBefore (.unknownName name) offset
      | some group => pure group
    else do
      if !name.all Text.isAsciiDigit then failBefore (.badName name) offset
      let group := Text.toNumber 10 name
      if group = 0 then failBefore .badGroupNumber offset
      let place := (← position) - offset
      modify fun s => { s with conditions := s.conditions ++ [(group, place)] }
      pure group
  checkLookbehind group
  return .condition group

/-- The head of a group, after its opening parenthesis at position `start`. -/
def groupHead (start : Nat) : PatternReader GroupHead := do
  if !(← accept '?') then return .capture none
  match ← take with
  | none => failBefore .unexpectedEnd 0
  | some token =>
    match token with
    | ['P'] => namedHead
    | [':'] => return .scoped {} {}
    | ['#'] =>
      match ← takePast ')' with
      | none => failAt .unterminatedComment start
      | some _ => return .nothing false
    | ['='] => return .look false false
    | ['!'] => return .look false true
    | ['<'] =>
      match ← take with
      | none => failBefore .unexpectedEnd 0
      | some ['='] => return .look true false
      | some ['!'] => return .look true true
      | some other => failBefore (.unknownExtension ('<' :: other)) (other.length + 2)
    | ['('] => conditionHead
    | ['>'] => return .atomic
    | _ =>
      if isFlag token || token = ['-'] then
        match ← flagGroup token with
        | none => return .nothing true
        | some (on, off) => return .scoped on off
      else failBefore (.unknownExtension token) (token.length + 1)

/-- Opens a capturing group and gives its number. -/
def openGroup (name : Option Text) : PatternReader Nat := do
  let group ← groupCount
  match name with
  | none => pure ()
  | some n =>
    match (← get).names.lookup n with
    | some earlier => failBefore (.redefinedName n group earlier) (n.length + 1)
    | none => modify fun s => { s with names := s.names ++ [(n, group)] }
  modify fun s => { s with groups := s.groups ++ [none] }
  return group

/-- Closes a capturing group, whose body is now known. -/
def closeGroup (group : Nat) (body : List PatternItem) : PatternReader Unit :=
  modify fun s => { s with groups := s.groups.set (group - 1) (some (PatternItem.width body)) }

/-- Enters a look-behind, unless the reader is inside one already. -/
def enterLookbehind : PatternReader (Option Nat) := do
  let outer := (← get).lookbehind
  let count ← groupCount
  modify fun s => { s with lookbehind := some (outer.getD count) }
  return outer

/-- Refuses a group that is not closed; `start` is the position of its opening parenthesis. -/
def closing (start : Nat) : PatternReader Unit := do
  if !(← accept ')') then failAt .unterminatedGroup start

/-- A group without number and switches is no more than its body. -/
def unpack : PatternItem → List PatternItem
  | .group none on off body => if on = {} && off = {} then body else [.group none on off body]
  | item => [item]

/-- The first item that all alternatives start with, if there is one. -/
def sharedStart? : List (List PatternItem) → Option PatternItem
  | (first :: _) :: others =>
    if others.all (fun a => match a with
      | item :: _ => item.sameSimple first
      | [] => false) then some first
    else none
  | _ => none

/-- Alternatives without the longest start that they share, and that start. -/
def factor : Nat → List (List PatternItem) → List PatternItem × List (List PatternItem)
  | 0, as => ([], as)
  | fuel + 1, as =>
    match sharedStart? as with
    | none => ([], as)
    | some first =>
      match factor fuel (as.map List.tail) with
      | (shared, rest) => (first :: shared, rest)

/-- The members of a set that stands for an alternative, if the alternative is a single
character or a set that is not negated. -/
def members? : List PatternItem → Option (List SetMember)
  | [.code n] => some [.code n]
  | [.set false ms] => some ms
  | _ => none

/-- The items of alternatives. -/
def joinAlternatives : List (List PatternItem) → List PatternItem
  | [only] => only
  | as =>
    match factor ((as.head?.getD []).length + 1) as with
    | (shared, rest) =>
      match rest.mapM members? with
      | some ms => shared ++ [.set false ms.flatten.eraseDups]
      | none => shared ++ [.branch rest]

/-- Whether a character is skipped in a verbose pattern. -/
def isSkipped (c : Char) : Bool :=
  c = ' ' || c = '\t' || c = '\n' || c = '\r' || c = '\x0b' || c = '\x0c'

mutual

/-- The alternatives up to a closing parenthesis or the end of the pattern. -/
def alternatives : Nat → (nested verbose first : Bool) → PatternReader (List (List PatternItem))
  | 0, _, _, _ => return []
  | fuel + 1, nested, verbose, first => do
    let items ← sequence fuel verbose first []
    if ← accept '|' then
      let s ← get
      let verbose := if nested then verbose else s.flags.verbose
      return items :: (← alternatives fuel nested verbose false)
    else return [items]

/-- The items up to the end of an alternative, after the given ones (last first).  Only the first
alternative of the whole pattern may start with switches for the whole. -/
def sequence : Nat → (verbose first : Bool) → List PatternItem → PatternReader (List PatternItem)
  | 0, _, _, found => return found.reverse.flatMap unpack
  | fuel + 1, verbose, first, found => do
    let start ← position
    match ← peek with
    | none => return found.reverse.flatMap unpack
    | some ['|'] => return found.reverse.flatMap unpack
    | some [')'] => return found.reverse.flatMap unpack
    | some token =>
      let _ ← take
      match token with
      | [c] =>
        if verbose && isSkipped c then sequence fuel verbose first found
        else if verbose && c = '#' then
          let _ ← takePast '\n'
          sequence fuel verbose first found
        else if c = '[' then sequence fuel verbose first ((← charSet start) :: found)
        else if c = '*' || c = '+' || c = '?' || c = '\x7b' then
          match ← repeatCounts c with
          | none => sequence fuel verbose first (.code c.toNat :: found)
          | some (least, most) =>
            sequence fuel verbose first (← repeatLast start least most found)
        else if c = '.' then sequence fuel verbose first (.any :: found)
        else if c = '^' then sequence fuel verbose first (.anchor .start :: found)
        else if c = '$' then sequence fuel verbose first (.anchor .finish :: found)
        else if c = '(' then
          match ← groupHead start with
          | .item i => sequence fuel verbose first (i :: found)
          | .nothing false => sequence fuel verbose first found
          | .nothing true =>
            if !first || !found.isEmpty then failAt .lateFlags start
            sequence fuel (← get).flags.verbose first found
          | .capture name =>
            let group ← openGroup name
            let body := joinAlternatives (← alternatives fuel true verbose false)
            closing start
            closeGroup group body
            sequence fuel verbose first (.group (some group) {} {} body :: found)
          | .scoped on off =>
            let inner := (verbose || on.verbose) && !off.verbose
            let body := joinAlternatives (← alternatives fuel true inner false)
            closing start
            sequence fuel verbose first (.group none on off body :: found)
          | .atomic =>
            let body := joinAlternatives (← alternatives fuel true verbose false)
            closing start
            sequence fuel verbose first (.atomic body :: found)
          | .look behind negated =>
            let before := (← get).lookbehind
            let outer ← if behind then enterLookbehind else pure before
            let body := joinAlternatives (← alternatives fuel true verbose false)
            modify fun s => { s with lookbehind := outer }
            closing start
            sequence fuel verbose first (.look behind negated body :: found)
          | .condition group =>
            let yes ← sequence fuel verbose false []
            let no ← if ← accept '|' then sequence fuel verbose false [] else pure []
            if (← peek) = some ['|'] then failBefore .tooManyBranches 0
            closing start
            sequence fuel verbose first (.condition group yes no :: found)
        else sequence fuel verbose first (.code c.toNat :: found)
      | '\\' :: c :: _ => sequence fuel verbose first ((← escape c) :: found)
      | _ => sequence fuel verbose first found

end

/-- Settles the character repertoire of a pattern. -/
def settleRepertoire (flags : Flags) : Except PatternError Flags :=
  if !flags.ascii then .ok { flags with unicode := true }
  else if flags.unicode then .error .bothRepertoires
  else .ok flags

/-- The items of the whole pattern. -/
def wholePattern : PatternReader (List PatternItem) := do
  moveTo (← get).rest
  let s ← get
  let items := joinAlternatives
    (← alternatives (2 * s.rest.length + 3) false s.flags.verbose true)
  let flags ← settleRepertoire (← get).flags
  modify fun s => { s with flags := flags }
  if (← peek).isSome then failBefore .unbalanced 0
  let s ← get
  match s.conditions.find? fun g => s.groups.length < g.1 with
  | some (group, place) => failAt (.invalidReference group) place
  | none => return items

end PatternReader

/-- The items of a pattern and the switches of the whole, when it is read with the given
switches. -/
def readPattern (flags : Flags) (pattern : Text) : Except PatternError (List PatternItem × Flags) :=
  let start : PatternState := { pattern, rest := PatternToken.tokensFrom 0 pattern, flags }
  (PatternReader.wholePattern.run start).map fun (items, s) => (items, s.flags)

end QueryTree
