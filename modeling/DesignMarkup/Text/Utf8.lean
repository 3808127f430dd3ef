import DesignMarkup.Text.Hex

/-!
# UTF-8

Bytes are decoded strictly. A sequence is refused at the first byte that cannot continue it, and the
bytes before that are named.
-/

namespace DesignMarkup.Text

inductive Utf8Fault
  | invalidStart
  | invalidContinuation
  | unexpectedEnd
  deriving DecidableEq

/-- The bytes that cannot be decoded: where they start, how many they are, and the first of them. -/
structure Utf8Error where
  fault : Utf8Fault
  position : Nat
  length : Nat
  byte : UInt8
  deriving DecidableEq

def Utf8Fault.text : Utf8Fault → String
  | .invalidStart => "invalid start byte"
  | .invalidContinuation => "invalid continuation byte"
  | .unexpectedEnd => "unexpected end of data"

def Utf8Error.message (error : Utf8Error) : String :=
  let place :=
    if error.length = 1 then
      "byte 0x" ++ String.ofList (hexLower 2 error.byte.toNat) ++ " in position " ++
        toString error.position
    else
      "bytes in position " ++ toString error.position ++ "-" ++
        toString (error.position + error.length - 1)
  "'utf-8' codec can't decode " ++ place ++ ": " ++ error.fault.text

/-- The lead of a sequence: how many bytes follow it, the least and the greatest second byte, and
the bits that it contributes. -/
structure Utf8Lead where
  following : Nat
  least : Nat
  greatest : Nat
  bits : Nat

/-- What a byte above the ASCII range starts. The bounds of the second byte leave out long forms,
surrogates and numbers that are no code points. -/
def utf8Lead? (byte : Nat) : Option Utf8Lead :=
  if byte < 0xc2 then none
  else if byte < 0xe0 then some ⟨1, 0x80, 0xbf, byte - 0xc0⟩
  else if byte < 0xf0 then
    some ⟨2, if byte = 0xe0 then 0xa0 else 0x80, if byte = 0xed then 0x9f else 0xbf, byte - 0xe0⟩
  else if byte < 0xf5 then
    some ⟨3, if byte = 0xf0 then 0x90 else 0x80, if byte = 0xf4 then 0x8f else 0xbf, byte - 0xf0⟩
  else none

/-- Reads what follows a lead, in at most three bytes. `taken` counts the bytes of the sequence so
far; on refusal it is returned with the fault. -/
def utf8Tail (taken least greatest bits : Nat) :
    Nat → List UInt8 → Except (Utf8Fault × Nat) (Nat × List UInt8)
  | 0, rest => .ok (bits, rest)
  | _ + 1, [] => .error (.unexpectedEnd, taken)
  | following + 1, byte :: rest =>
    let b := byte.toNat
    if least ≤ b ∧ b ≤ greatest then
      utf8Tail (taken + 1) 0x80 0xbf (bits * 64 + (b - 0x80)) following rest
    else .error (.invalidContinuation, taken)

def utf8Next (byte : UInt8) (rest : List UInt8) :
    Except (Utf8Fault × Nat) (Char × Nat × List UInt8) :=
  if byte.toNat < 0x80 then .ok (Char.ofNat byte.toNat, 1, rest)
  else
    match utf8Lead? byte.toNat with
    | none => .error (.invalidStart, 1)
    | some lead =>
      (utf8Tail 1 lead.least lead.greatest lead.bits lead.following rest).map fun (n, rest) =>
        (Char.ofNat n, lead.following + 1, rest)

/-- Decodes bytes that start at a position, after the characters in `done`, the last of which comes
first. The fuel bounds the number of characters to come. -/
def decodeUtf8From (position : Nat) (done : List Char) :
    Nat → List UInt8 → Except Utf8Error (List Char)
  | _, [] => .ok done.reverse
  | 0, _ :: _ => .ok done.reverse
  | fuel + 1, byte :: bytes =>
    match utf8Next byte bytes with
    | .error (fault, length) => .error ⟨fault, position, length, byte⟩
    | .ok (c, width, rest) => decodeUtf8From (position + width) (c :: done) fuel rest

def decodeUtf8 (bytes : List UInt8) : Except Utf8Error String :=
  (decodeUtf8From 0 [] bytes.length bytes).map String.ofList

end DesignMarkup.Text
