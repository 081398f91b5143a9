import ScreenKeyboard.Text.Digit
import ScreenKeyboard.Text.Utf8

/-!
Percent-encoding: the bytes of characters that a part of an address may not hold are written as `%` and two
hexadecimal digits. Which characters those are differs from part to part; characters outside ASCII and
control characters are always encoded.
-/

namespace ScreenKeyboard.Url

open Text.Utf8

namespace Percent

def hexValue? (b : UInt8) : Option Nat :=
  Text.digit? 16 (Char.ofNat b.toNat)

def encodeByte (b : UInt8) : List Char :=
  ['%', Text.hexDigit (b.toNat / 16), Text.hexDigit (b.toNat % 16)]

/-- Encodes the characters outside printable ASCII and those in `set`. -/
def encode (set : List Char) (text : List Char) : List Char :=
  text.flatMap fun c =>
    if c.toNat < 0x20 ∨ 0x7F ≤ c.toNat ∨ set.contains c then (encodeChar c).flatMap encodeByte else [c]

/-- The byte that two hexadecimal digits at the start of a text stand for. -/
def escaped? : Bytes → Option UInt8
  | high :: low :: _ =>
    match hexValue? high, hexValue? low with
    | some h, some l => some (16 * h + l).toUInt8
    | _, _ => none
  | _ => none

/-- Decodes every `%` with two hexadecimal digits; any other `%` stands for itself. -/
def decode : Bytes → Bytes
  | [] => []
  | b :: rest =>
    match if b = 0x25 then escaped? rest else none with
    | some value => value :: decode (rest.drop 2)
    | none => b :: decode rest
termination_by bytes => bytes.length
decreasing_by
  · simp only [List.length_drop, List.length_cons]; omega
  · simp

end Percent

/-- The characters that are encoded in each part of an address. -/
def fragmentSet : List Char := " \"<>`".toList

def querySet : List Char := " \"#<>'".toList

def pathSet : List Char := " \"<>`#?\x7b\x7d".toList

def userinfoSet : List Char := pathSet ++ "/:;=@[\\]^|".toList

end ScreenKeyboard.Url
