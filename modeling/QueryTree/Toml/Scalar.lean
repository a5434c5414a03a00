import QueryTree.Toml.Error

/-!
# Simple TOML values

Texts between quotes, numbers, dates and times, read from the front of a text.  A reader gives
what it read together with the rest, or a fault together with the number of characters that are
left where it stands.

## Main definitions

* `Toml.Reader`: computations that read from the front of a text.
* `Toml.basicString`, `Toml.literalString`, `Toml.multilineString`: texts between quotes.
* `Toml.number?`, `Toml.dateTime?`, `Toml.time?`: numbers, dates and times.
-/

namespace QueryTree.Toml

/-- A fault and the number of characters that are left where it stands. -/
abbrev Stop := Fault × Nat

/-- A computation that reads from the front of a text. -/
abbrev Reader := StateT Text (Except Stop)

/-- Whether a character is blank space within a line. -/
def isSpace (c : Char) : Bool := c = ' ' || c = '\t'

/-- Whether a character is blank space or a line feed. -/
def isSpaceOrNewline (c : Char) : Bool := isSpace c || c = '\n'

/-- Whether a character is a control character other than the tab. -/
def isControl (c : Char) : Bool := (c.toNat < 32 && c ≠ '\t') || c.toNat = 127

/-- Whether a control character is refused in a text over several lines, or in one line. -/
def isRefused (multiline : Bool) (c : Char) : Bool :=
  isControl c && !(multiline && c = '\n')

namespace Reader

/-- Stops with a fault at the present place. -/
def fail {α : Type} (fault : Fault) : Reader α := fun rest => .error (fault, rest.length)

/-- Leaves the characters of a class behind. -/
def skip (p : Char → Bool) : Reader Unit := modify (·.dropWhile p)

/-- The next character. -/
def peek : Reader (Option Char) := do return (← get).head?

/-- Whether a text follows, which is then left behind. -/
def accept (t : Text) : Reader Bool := do
  let rest ← get
  if Text.startsWith rest t then
    set (rest.drop t.length)
    return true
  else return false

end Reader

/-- What stands before the first occurrence of `closing` and what stands from there on; none if
it does not occur. -/
def breakAt (closing : Text) : Text → Option (Text × Text)
  | [] => none
  | c :: cs =>
    if Text.startsWith (c :: cs) closing then some ([], c :: cs)
    else (breakAt closing cs).map fun (before, rest) => (c :: before, rest)

/-- Stops at the first refused character of what has been passed; `rest` is what follows it. -/
def checkPassed (multiline : Bool) (rest : Text) : Text → Except Stop Unit
  | [] => .ok ()
  | c :: cs =>
    if isRefused multiline c then .error (.invalidCharacter c, cs.length + 1 + rest.length)
    else checkPassed multiline rest cs

/-- Leaves a comment behind, if one follows. -/
def skipComment : Reader Unit := fun text =>
  match text with
  | '#' :: cs =>
    let (passed, rest) := (breakAt ['\n'] cs).getD (cs, [])
    (checkPassed false rest passed).map fun _ => ((), rest)
  | _ => .ok ((), text)

/-- The text up to `closing`, which is left behind. -/
def textUpTo (multiline : Bool) (closing : Text) : Reader Text := fun text =>
  match breakAt closing text with
  | none => .error (.expectedClosing closing, 0)
  | some (passed, rest) =>
    (checkPassed multiline rest passed).map fun _ => (passed, rest.drop closing.length)

/-- A single quote. -/
def apostrophe : Char := '\x27'

/-- The text between single quotes, after the opening one. -/
def literalString : Reader Text := textUpTo false [apostrophe]

/-- The character that a letter after a backslash stands for. -/
def escape? : Char → Option Char
  | 'b' => some '\x08'
  | 't' => some '\t'
  | 'n' => some '\n'
  | 'f' => some '\x0c'
  | 'r' => some '\r'
  | '"' => some '"'
  | '\\' => some '\\'
  | _ => none

/-- Whether a number is a code point that a text can hold. -/
def isScalar (n : Nat) : Bool := n < 0xd800 || (0xe000 ≤ n && n < 0x110000)

/-- The character given by exactly `count` hexadecimal digits, and the rest. -/
def hexChar (count : Nat) (text : Text) : Except Stop (Text × Text) :=
  let digits := text.take count
  let rest := text.drop count
  if digits.length ≠ count || !digits.all (Text.isDigitOf 16) then .error (.invalidHex, text.length)
  else
    let n := Text.toNumber 16 digits
    if isScalar n then .ok ([Char.ofNat n], rest) else .error (.notScalar, rest.length)

/-- What a backslash at the end of a line stands for: nothing, and all blank space up to the next
visible character is passed.  `text` follows the backslash. -/
def lineEnding (text : Text) : Except Stop (Text × Text) :=
  match text.dropWhile isSpace with
  | [] => .ok ([], [])
  | '\n' :: rest => .ok ([], rest.dropWhile isSpaceOrNewline)
  | rest => .error (.unescapedBackslash, rest.length)

/-- What an escape stands for, and the rest; `text` follows the backslash. -/
def stringEscape (multiline : Bool) (text : Text) : Except Stop (Text × Text) :=
  match text with
  | [] => .error (.unescapedBackslash, 0)
  | c :: rest =>
    if multiline && isSpaceOrNewline c then lineEnding text
    else if c = 'u' then hexChar 4 rest
    else if c = 'U' then hexChar 8 rest
    else match escape? c with
      | some d => .ok ([d], rest)
      | none => .error (.unescapedBackslash, rest.length)

/-- The text up to the closing quotes, and the rest after them.  Each step passes a character, so
as many steps as there are characters, and one more, are enough. -/
def stringFrom (multiline : Bool) : Nat → Text → Except Stop (Text × Text)
  | 0, _ => .ok ([], [])
  | _ + 1, [] => .error (.unterminatedString, 0)
  | steps + 1, c :: rest =>
    if c = '"' && !multiline then .ok ([], rest)
    else if Text.startsWith (c :: rest) ['"', '"', '"'] then .ok ([], rest.drop 2)
    else if c = '\\' then
      match stringEscape multiline rest with
      | .error e => .error e
      | .ok (t, rest) =>
        match stringFrom multiline steps rest with
        | .error e => .error e
        | .ok (u, rest) => .ok (t ++ u, rest)
    else if isRefused multiline c then .error (.illegalCharacter c, rest.length + 1)
    else
      match stringFrom multiline steps rest with
      | .error e => .error e
      | .ok (u, rest) => .ok (c :: u, rest)

/-- The text between double quotes, after the opening one. -/
def basicString : Reader Text := fun text => stringFrom false (text.length + 1) text

/-- At most two quotes that follow the closing ones of a text over several lines: they belong to
the text. -/
def extraQuotes (quote : Char) : Reader Text := do
  if !(← Reader.accept [quote]) then return []
  if !(← Reader.accept [quote]) then return [quote]
  return [quote, quote]

/-- The text between three quotes on each side, after the opening ones.  A line feed right after
them does not count. -/
def multilineString (quote : Char) : Reader Text := do
  let _ ← Reader.accept ['\n']
  let t ← if quote = '"' then fun text => stringFrom true (text.length + 1) text
    else textUpTo true [quote, quote, quote]
  return t ++ (← extraQuotes quote)

/-- Digits with single underscores between them, after a first digit. -/
def moreDigits (p : Char → Bool) : Text → Text × Text
  | [] => ([], [])
  | '_' :: c :: rest =>
    if p c then
      match moreDigits p rest with
      | (ds, rest) => ('_' :: c :: ds, rest)
    else ([], '_' :: c :: rest)
  | c :: rest =>
    if p c then
      match moreDigits p rest with
      | (ds, rest) => (c :: ds, rest)
    else ([], c :: rest)

/-- Digits with single underscores between them. -/
def digits? (p : Char → Bool) : Text → Option (Text × Text)
  | [] => none
  | c :: rest =>
    if p c then
      match moreDigits p rest with
      | (ds, rest) => some (c :: ds, rest)
    else none

/-- Decimal digits with underscores. -/
def decimals? (text : Text) : Option (Text × Text) := digits? Text.isAsciiDigit text

/-- The digits of a whole number: a zero, or digits that start with another one. -/
def wholeDigits? : Text → Option (Text × Text)
  | '0' :: rest => some (['0'], rest)
  | text => decimals? text

/-- A sign, if there is one. -/
def sign : Text → Text × Text
  | '+' :: rest => (['+'], rest)
  | '-' :: rest => (['-'], rest)
  | text => ([], text)

/-- The fraction of a number, if there is one. -/
def fraction (text : Text) : Text × Text :=
  match text with
  | '.' :: rest =>
    match decimals? rest with
    | some (ds, rest) => ('.' :: ds, rest)
    | none => ([], text)
  | _ => ([], text)

/-- The exponent of a number after its letter, if there is one. -/
def exponentAfter (letter : Char) (text rest : Text) : Text × Text :=
  match sign rest with
  | (s, rest) =>
    match decimals? rest with
    | some (ds, rest) => (letter :: s ++ ds, rest)
    | none => ([], text)

/-- The exponent of a number, if there is one. -/
def exponent (text : Text) : Text × Text :=
  match text with
  | 'e' :: rest => exponentAfter 'e' text rest
  | 'E' :: rest => exponentAfter 'E' text rest
  | _ => ([], text)

/-- A whole number in a base other than ten, after the zero and the letter. -/
def based? (base : Nat) (rest : Text) : Option (Value × Text) :=
  (digits? (Text.isDigitOf base) rest).map fun (ds, rest) =>
    (.integer (Text.toNumber base ds), rest)

/-- A number in base ten: a whole one, or one with a fraction or an exponent. -/
def decimalNumber? (text : Text) : Option (Value × Text) :=
  match sign text with
  | (s, rest) =>
    (wholeDigits? rest).map fun (ds, rest) =>
      match fraction rest with
      | (f, rest) =>
        match exponent rest with
        | (e, rest) =>
          if f.isEmpty && e.isEmpty then
            let n : Int := Text.toNumber 10 ds
            (.integer (if s = ['-'] then -n else n), rest)
          else (.float (s ++ ds ++ f ++ e), rest)

/-- The longest number at the front of a text. -/
def number? (text : Text) : Option (Value × Text) :=
  let other := match text with
    | '0' :: 'x' :: rest => based? 16 rest
    | '0' :: 'b' :: rest => based? 2 rest
    | '0' :: 'o' :: rest => based? 8 rest
    | _ => none
  other.or (decimalNumber? text)

/-- Two digits of a number between bounds. -/
def twoDigits? (low high : Nat) : Text → Option (Nat × Text)
  | a :: b :: rest =>
    if Text.isAsciiDigit a && Text.isAsciiDigit b then
      let n := Text.toNumber 10 [a, b]
      if low ≤ n ∧ n ≤ high then some (n, rest) else none
    else none
  | _ => none

/-- The rest after a certain character. -/
def after? (c : Char) : Text → Option Text
  | d :: rest => if d = c then some rest else none
  | [] => none

/-- The rest after a fraction of a second, if there is one. -/
def afterFraction (text : Text) : Text :=
  match text with
  | '.' :: rest =>
    match rest with
    | d :: _ => if Text.isAsciiDigit d then rest.dropWhile Text.isAsciiDigit else text
    | [] => text
  | _ => text

/-- The rest after a time of day. -/
def afterTime? (text : Text) : Option Text := do
  let (_, rest) ← twoDigits? 0 23 text
  let rest ← after? ':' rest
  let (_, rest) ← twoDigits? 0 59 rest
  let rest ← after? ':' rest
  let (_, rest) ← twoDigits? 0 59 rest
  return afterFraction rest

/-- The rest after an offset from universal time, if there is one. -/
def afterOffset (text : Text) : Text :=
  match text with
  | 'Z' :: rest => rest
  | 'z' :: rest => rest
  | _ =>
    match sign text with
    | ([], _) => text
    | (_, rest) => ((do
        let (_, rest) ← twoDigits? 0 23 rest
        let rest ← after? ':' rest
        let (_, rest) ← twoDigits? 0 59 rest
        return rest) : Option Text).getD text

/-- The rest after a time of day that follows a date, if there is one. -/
def afterClock? : Text → Option Text
  | c :: rest =>
    if c = 'T' || c = 't' || c = ' ' then (afterTime? rest).map afterOffset else none
  | [] => none

/-- Whether a year has a leap day. -/
def isLeapYear (y : Nat) : Bool := y % 4 = 0 && (y % 100 ≠ 0 || y % 400 = 0)

/-- The number of days of a month. -/
def daysIn (year month : Nat) : Nat :=
  if month = 2 then (if isLeapYear year then 29 else 28)
  else if month = 4 || month = 6 || month = 9 || month = 11 then 30
  else 31

/-- The year, month and day of a date that is well formed, and the rest. -/
def calendarDate? (text : Text) : Option ((Nat × Nat × Nat) × Text) := do
  let (a, rest) ← twoDigits? 0 99 text
  let (b, rest) ← twoDigits? 0 99 rest
  let rest ← after? '-' rest
  let (month, rest) ← twoDigits? 1 12 rest
  let rest ← after? '-' rest
  let (day, rest) ← twoDigits? 1 31 rest
  return ((100 * a + b, month, day), rest)

/-- The characters of a text that are no longer part of its rest. -/
def passed (text rest : Text) : Text := text.take (text.length - rest.length)

/-- A date, perhaps with a time of day; none for one that does not exist. -/
def dateTime? (text : Text) : Option (Option Value × Text) := do
  let ((year, month, day), rest) ← calendarDate? text
  let exists_ := year ≠ 0 && day ≤ daysIn year month
  match afterClock? rest with
  | none => return (if exists_ then some (.date (passed text rest)) else none, rest)
  | some rest => return (if exists_ then some (.dateTime (passed text rest)) else none, rest)

/-- A time of day. -/
def time? (text : Text) : Option (Value × Text) :=
  (afterTime? text).map fun rest => (.time (passed text rest), rest)

/-- The numbers that are no numbers. -/
def specialFloats : List Text :=
  ["inf".toList, "nan".toList, "-inf".toList, "+inf".toList, "-nan".toList, "+nan".toList]

/-- A number that is none. -/
def specialFloat? (text : Text) : Option (Value × Text) :=
  (specialFloats.find? fun s => Text.startsWith text s).map fun s => (.float s, text.drop s.length)

end QueryTree.Toml
