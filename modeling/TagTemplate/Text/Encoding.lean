/-
  TagTemplate.Text.Encoding
  ────────────────────────────────
  **READING BYTES AS TEXT.**

  Three encodings: UTF-8, UTF-8 whose leading byte order mark is dropped, and
  Latin-1, in which every byte is a character.  A fault names the bytes that
  cannot be read: a byte that starts no character, a character cut short by
  a byte that cannot continue it, or by the end of the data.
-/
import TagTemplate.Text.Quoted

namespace TagTemplate.Text

/-! ## §1. Faults. -/

/-- Why bytes could not be read. -/
inductive DecodeCause where
  /-- The byte starts no character. -/
  | startByte
  /-- The next byte cannot continue the character. -/
  | continuation
  /-- The data end inside a character. -/
  | endOfData
  deriving DecidableEq, Repr

/-- The bytes at `start … stop - 1` cannot be read; `byte` is the first of them. -/
structure DecodeFault where
  /-- Position of the first byte. -/
  start : Nat
  /-- Position behind the last byte. -/
  stop : Nat
  /-- The first byte. -/
  byte : Nat
  /-- The cause. -/
  cause : DecodeCause
  deriving DecidableEq, Repr

/-- The cause in words. -/
def DecodeCause.message : DecodeCause → String
  | .startByte => "invalid start byte"
  | .continuation => "invalid continuation byte"
  | .endOfData => "unexpected end of data"

/-- The fault in words. -/
def DecodeFault.message (f : DecodeFault) : String :=
  if f.stop == f.start + 1 then
    "'utf-8' codec can't decode byte 0x" ++ String.ofList (hexText 2 f.byte) ++ " in position "
      ++ toString f.start ++ ": " ++ f.cause.message
  else
    "'utf-8' codec can't decode bytes in position " ++ toString f.start ++ "-"
      ++ toString (f.stop - 1) ++ ": " ++ f.cause.message

/-! ## §2. UTF-8. -/

/-- How many bytes follow a first byte, with the bits it contributes. -/
def leadOf? (b : Nat) : Option (Nat × Nat) :=
  if 0xC2 ≤ b && b ≤ 0xDF then some (1, b - 0xC0)
  else if 0xE0 ≤ b && b ≤ 0xEF then some (2, b - 0xE0)
  else if 0xF0 ≤ b && b ≤ 0xF4 then some (3, b - 0xF0)
  else none

/-- Whether a second byte may follow a first byte: overlong forms, surrogates and code points
beyond the last are excluded here. -/
def secondAllowed (lead b : Nat) : Bool :=
  0x80 ≤ b && b ≤ 0xBF
    && !(lead == 0xE0 && b < 0xA0) && !(lead == 0xED && b ≥ 0xA0)
    && !(lead == 0xF0 && b < 0x90) && !(lead == 0xF4 && b ≥ 0x90)

/-- Read the continuation bytes: `owed` more, `seen` so far, `value` their bits. -/
def readTail (lead : Nat) : Nat → Nat → Nat → List Nat → Except (Nat × DecodeCause) (Nat × List Nat)
  | 0, _, value, rest => .ok (value, rest)
  | _ + 1, seen, _, [] => .error (seen, .endOfData)
  | owed + 1, seen, value, b :: rest =>
    let good := if seen == 1 then secondAllowed lead b else 0x80 ≤ b && b ≤ 0xBF
    if good then readTail lead owed (seen + 1) (value * 64 + (b - 0x80)) rest
    else .error (seen, .continuation)

/-- Read UTF-8 from position `pos`; `fuel` bounds the number of characters. -/
def readUtf8 : Nat → Nat → List Nat → Except DecodeFault (List Char)
  | 0, _, _ => .ok []
  | _ + 1, _, [] => .ok []
  | fuel + 1, pos, b :: rest =>
    if b < 0x80 then (readUtf8 fuel (pos + 1) rest).map (Char.ofNat b :: ·)
    else
      match leadOf? b with
      | none => .error ⟨pos, pos + 1, b, .startByte⟩
      | some (owed, bits) =>
        match readTail b owed 1 bits rest with
        | .error (seen, cause) => .error ⟨pos, pos + seen, b, cause⟩
        | .ok (value, after) => (readUtf8 fuel (pos + owed + 1) after).map (Char.ofNat value :: ·)

/-- Read UTF-8 and put a replacement character wherever it cannot be read; `fuel` bounds the number
of characters. -/
def readReplaced : Nat → List Nat → List Char
  | 0, _ => []
  | _ + 1, [] => []
  | fuel + 1, b :: rest =>
    let bad (seen : Nat) : List Char := '\ufffd' :: readReplaced fuel (rest.drop (seen - 1))
    if b < 0x80 then Char.ofNat b :: readReplaced fuel rest
    else
      match leadOf? b with
      | none => bad 1
      | some (owed, bits) =>
        match readTail b owed 1 bits rest with
        | .error (seen, _) => bad seen
        | .ok (value, after) => Char.ofNat value :: readReplaced fuel after

/-! ## §3. The encodings. -/

/-- The encodings a text file may have. -/
inductive Encoding where
  /-- UTF-8. -/
  | utf8
  /-- UTF-8 with an optional byte order mark. -/
  | utf8Marked
  /-- One byte per character. -/
  | latin1
  deriving DecidableEq, Repr

/-- Read bytes in an encoding.  Data that are only the start of a mark hold no text. -/
def Encoding.decode (e : Encoding) (bytes : List Nat) : Except DecodeFault (List Char) :=
  match e with
  | .latin1 => .ok (bytes.map Char.ofNat)
  | .utf8 => readUtf8 (bytes.length + 1) 0 bytes
  | .utf8Marked =>
    match bytes with
    | 0xEF :: 0xBB :: 0xBF :: rest => readUtf8 (rest.length + 1) 0 rest
    | [0xEF] | [0xEF, 0xBB] => .ok []
    | _ => readUtf8 (bytes.length + 1) 0 bytes

end TagTemplate.Text
