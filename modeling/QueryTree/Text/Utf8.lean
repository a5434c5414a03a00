import QueryTree.Text.Basic

/-!
# Decoding bytes

Files hold bytes.  Bytes that encode a text in UTF-8 are decoded to that text; for others the
first fault is reported: where it starts, how many bytes it covers and what is wrong there.

## Main definitions

* `Utf8.Fault`: the first fault of a byte sequence, with `Fault.message`.
* `Utf8.step`: one character decoded from the front of a byte sequence.
* `Utf8.decode`: all of it.
-/

namespace QueryTree.Utf8

/-- What is wrong with a byte sequence. -/
inductive Reason
  /-- The byte starts no character. -/
  | start
  /-- The bytes start a character that does not go on as it should. -/
  | continuation
  /-- The bytes end in the middle of a character. -/
  | ended
deriving DecidableEq, Repr

/-- The first fault of a byte sequence. -/
structure Fault where
  reason : Reason
  /-- The bytes at fault; there is at least one. -/
  bytes : List Nat
  position : Nat
deriving DecidableEq, Repr

/-- The words for a reason. -/
def Reason.text : Reason → Text
  | .start => "invalid start byte".toList
  | .continuation => "invalid continuation byte".toList
  | .ended => "unexpected end of data".toList

/-- The report of a fault: a single byte is shown, more are given by their positions. -/
def Fault.message (f : Fault) : Text :=
  let place := match f.bytes with
    | [b] => "byte 0x".toList ++ Text.hex 2 b ++ " in position ".toList ++ Text.ofNat f.position
    | bs => "bytes in position ".toList ++ Text.ofNat f.position ++ ['-']
        ++ Text.ofNat (f.position + bs.length - 1)
  [Char.ofNat 39] ++ "utf-8".toList ++ [Char.ofNat 39] ++ " codec can".toList ++ [Char.ofNat 39]
    ++ "t decode ".toList ++ place ++ ": ".toList ++ f.reason.text

/-- Whether a byte can stand inside a character. -/
def isContinuation (b : Nat) : Bool := 0x80 ≤ b && b < 0xC0

/-- The six low bits of a continuation byte. -/
def lowBits (b : Nat) : Nat := b % 64

/-- Whether `b` may follow the first byte `a` of a character of three or four bytes: shorter
forms, surrogates and values beyond the last code point are excluded. -/
def mayFollow (a b : Nat) : Bool :=
  isContinuation b &&
    (if a = 0xE0 then 0xA0 ≤ b
     else if a = 0xED then b < 0xA0
     else if a = 0xF0 then 0x90 ≤ b
     else if a = 0xF4 then b < 0x90
     else true)

/-- One character from the front of a nonempty byte sequence, with the rest; or what is wrong
there and how many bytes that covers. -/
def step (a : Nat) (rest : List Nat) : Except (Reason × Nat) (Char × List Nat) :=
  if a < 0x80 then .ok (Char.ofNat a, rest)
  else if a < 0xC2 ∨ 0xF5 ≤ a then .error (.start, 1)
  else if a < 0xE0 then
    match rest with
    | [] => .error (.ended, 1)
    | b :: r =>
      if isContinuation b then .ok (Char.ofNat ((a - 0xC0) * 64 + lowBits b), r)
      else .error (.continuation, 1)
  else if a < 0xF0 then
    match rest with
    | [] => .error (.ended, 1)
    | b :: r =>
      if !mayFollow a b then .error (.continuation, 1)
      else match r with
        | [] => .error (.ended, 2)
        | c :: r =>
          if isContinuation c then
            .ok (Char.ofNat (((a - 0xE0) * 64 + lowBits b) * 64 + lowBits c), r)
          else .error (.continuation, 2)
  else
    match rest with
    | [] => .error (.ended, 1)
    | b :: r =>
      if !mayFollow a b then .error (.continuation, 1)
      else match r with
        | [] => .error (.ended, 2)
        | c :: r =>
          if !isContinuation c then .error (.continuation, 2)
          else match r with
            | [] => .error (.ended, 3)
            | d :: r =>
              if isContinuation d then
                .ok (Char.ofNat
                  ((((a - 0xF0) * 64 + lowBits b) * 64 + lowBits c) * 64 + lowBits d), r)
              else .error (.continuation, 3)

/-- Decodes from a position on; a character takes at least one byte, so as many steps as there
are bytes are enough. -/
def decodeFrom : Nat → Nat → List Nat → Except Fault Text
  | _, _, [] => .ok []
  | 0, _, _ :: _ => .ok []
  | n + 1, position, a :: rest =>
    match step a rest with
    | .error (reason, count) => .error ⟨reason, (a :: rest).take count, position⟩
    | .ok (c, r) =>
      match decodeFrom n (position + (rest.length + 1 - r.length)) r with
      | .error f => .error f
      | .ok t => .ok (c :: t)

/-- The text that a byte sequence encodes, or the first fault in it. -/
def decode (bytes : List Nat) : Except Fault Text := decodeFrom bytes.length 0 bytes

end QueryTree.Utf8
