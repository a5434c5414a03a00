import QueryTree.Pattern.Error
import QueryTree.Text.Letter

/-!
# The tokens of a pattern

A backslash and the character after it are one token, every other character is one by itself.  A
backslash that nothing follows is refused as soon as the reader comes to it.

The reader keeps the tokens that are left, the switches of the whole pattern and what it knows
about the groups so far.

## Main definitions

* `PatternToken`: a token with its position.
* `PatternState`: what the reader knows.
* `PatternReader`: computations of the reader, with the basic ones: `peek`, `take`, `accept`,
  `takeDigits`, `takeUntil`.
-/

namespace QueryTree

/-- A token and its position in the pattern. -/
structure PatternToken where
  position : Nat
  text : Text
deriving DecidableEq, Repr

namespace PatternToken

/-- The tokens of a pattern from a position on. -/
def tokensFrom (position : Nat) : Text → List PatternToken
  | [] => []
  | ['\\'] => [⟨position, ['\\']⟩]
  | '\\' :: c :: cs => ⟨position, ['\\', c]⟩ :: tokensFrom (position + 2) cs
  | c :: cs => ⟨position, [c]⟩ :: tokensFrom (position + 1) cs

/-- Whether a token is a backslash that nothing follows. -/
def isDangling (t : PatternToken) : Bool := t.text = ['\\']

end PatternToken

/-- What the reader of a pattern knows. -/
structure PatternState where
  pattern : Text
  rest : List PatternToken
  flags : Flags
  /-- The widths of the groups so far, from group 1 on; none while a group is open. -/
  groups : List (Option (Nat × Nat)) := []
  names : List (Text × Nat) := []
  /-- Inside a look-behind, the number of the first group that starts in it. -/
  lookbehind : Option Nat := none
  /-- The groups that conditions ask for by number, with the positions of the numbers. -/
  conditions : List (Nat × Nat) := []

/-- A computation of the reader. -/
abbrev PatternReader := StateT PatternState (Except PatternError)

namespace PatternReader

/-- The position of the next token, or the end of the pattern. -/
def position : PatternReader Nat := do
  let s ← get
  return match s.rest with
    | [] => s.pattern.length
    | t :: _ => t.position

/-- Refuses the pattern for a fault at a position. -/
def failAt {α : Type} (fault : PatternFault) (position : Nat) : PatternReader α := do
  throw (.malformed fault (some (.of (← get).pattern position)))

/-- Refuses the pattern for a fault that starts `offset` characters before the next token. -/
def failBefore {α : Type} (fault : PatternFault) (offset : Nat) : PatternReader α := do
  failAt fault ((← position) - offset)

/-- Goes on with the given tokens. -/
def moveTo (rest : List PatternToken) : PatternReader Unit := do
  match rest with
  | [] => modify fun s => { s with rest := [] }
  | t :: ts =>
    if t.isDangling then failAt .endsInEscape t.position
    else modify fun s => { s with rest := t :: ts }

/-- The next token. -/
def peek : PatternReader (Option Text) := do
  return (← get).rest.head?.map (·.text)

/-- The next token, which is left behind. -/
def take : PatternReader (Option Text) := do
  match (← get).rest with
  | [] => return none
  | t :: ts => moveTo ts; return some t.text

/-- Whether the next token is a certain character, which is then left behind. -/
def accept (c : Char) : PatternReader Bool := do
  if (← peek) = some [c] then
    let _ ← take
    return true
  else return false

/-- The longest run of tokens in a class, at most `limit` of them, put together. -/
def takeWhileOf (limit : Nat) (p : Char → Bool) : PatternReader Text := do
  let s ← get
  let found := (s.rest.take limit).takeWhile fun t => match t.text with
    | [c] => p c
    | _ => false
  moveTo (s.rest.drop found.length)
  return found.flatMap (·.text)

/-- The digits of a number in some base that come next. -/
def takeDigits (limit base : Nat) : PatternReader Text := takeWhileOf limit (Text.isDigitOf base)

/-- Leaves everything behind up to a token, and that token too; none if it does not come. -/
def takePast (closing : Char) : PatternReader (Option Text) := do
  let s ← get
  let passed := s.rest.takeWhile fun t => t.text ≠ [closing] && !t.isDangling
  match s.rest.drop passed.length with
  | [] => moveTo []; return none
  | t :: ts =>
    if t.isDangling then failAt .endsInEscape t.position
    else moveTo ts; return some (passed.flatMap (·.text))

/-- The name up to a closing character; `what` says what kind of name is missing. -/
def takeName (closing : Char) (what : Text) : PatternReader Text := do
  let before := (← get).rest
  match ← takePast closing with
  | some [] => failBefore (.missingName what) 1
  | some name => return name
  | none =>
    if before.isEmpty then failBefore (.missingName what) 0
    else failBefore (.unterminatedName [closing]) (before.flatMap (·.text)).length

/-- The number that the next group gets. -/
def groupCount : PatternReader Nat := do
  return (← get).groups.length + 1

/-- The widths of a group, if there is such a group and it is closed. -/
def groupWidth? (group : Nat) : PatternReader (Option (Nat × Nat)) := do
  let s ← get
  return match group with
    | 0 => none
    | g + 1 => (s.groups[g]?).join

/-- Refuses a reference from inside a look-behind to a group that is open or starts in it. -/
def checkLookbehind (group : Nat) : PatternReader Unit := do
  match (← get).lookbehind with
  | none => return ()
  | some first =>
    if (← groupWidth? group).isNone then failBefore .openReference 0
    if first ≤ group then failBefore .lookbehindReference 0

/-- Refuses a group name that is no identifier. -/
def checkName (name : Text) : PatternReader Unit := do
  if !Text.isIdentifier name then failBefore (.badName name) (name.length + 1)

end PatternReader
end QueryTree
