/-!
The UTF-8 form of text. `Utf8.scan` reads bytes into characters; bytes that begin no character, or one
that is cut short, come out as a gap, one gap for the longest start of a character that they spell.
-/

namespace ScreenKeyboard.Text.Utf8

abbrev Bytes := List UInt8

def encodeChar (c : Char) : Bytes :=
  let n := c.toNat
  if n < 0x80 then [n.toUInt8]
  else if n < 0x800 then [(0xC0 + n / 64).toUInt8, (0x80 + n % 64).toUInt8]
  else if n < 0x10000 then
    [(0xE0 + n / 4096).toUInt8, (0x80 + n / 64 % 64).toUInt8, (0x80 + n % 64).toUInt8]
  else
    [(0xF0 + n / 262144).toUInt8, (0x80 + n / 4096 % 64).toUInt8, (0x80 + n / 64 % 64).toUInt8,
      (0x80 + n % 64).toUInt8]

def encode (text : List Char) : Bytes :=
  text.flatMap encodeChar

/-- The first byte of a character: how many bytes follow, its share of the code point, and the bounds of
the second byte, which rule out surrogates, needlessly long forms and code points above U+10FFFF. -/
def lead? (b : Nat) : Option (Nat × Nat × Nat × Nat) :=
  if b < 0x80 then some (0, b, 0, 0)
  else if b < 0xC2 then none
  else if b < 0xE0 then some (1, b - 0xC0, 0x80, 0xBF)
  else if b = 0xE0 then some (2, 0, 0xA0, 0xBF)
  else if b = 0xED then some (2, 0xD, 0x80, 0x9F)
  else if b < 0xF0 then some (2, b - 0xE0, 0x80, 0xBF)
  else if b = 0xF0 then some (3, 0, 0x90, 0xBF)
  else if b < 0xF4 then some (3, b - 0xF0, 0x80, 0xBF)
  else if b = 0xF4 then some (3, 4, 0x80, 0x8F)
  else none

/-- Reads `owed` more bytes of a character, the first of them between `low` and `high`. The number counts
the bytes that were read, also where the character is cut short. -/
def follow (code low high : Nat) : Nat → Bytes → Option Char × Nat
  | 0, _ => (some (Char.ofNat code), 0)
  | _ + 1, [] => (none, 0)
  | owed + 1, b :: rest =>
    if low ≤ b.toNat ∧ b.toNat ≤ high then
      let (c, read) := follow (code * 64 + (b.toNat - 0x80)) 0x80 0xBF owed rest
      (c, read + 1)
    else (none, 0)

/-- The characters that the bytes spell, with a gap for bytes that spell none. -/
def scan : Bytes → List (Option Char)
  | [] => []
  | b :: rest =>
    match lead? b.toNat with
    | none => none :: scan rest
    | some (owed, code, low, high) =>
      let (c, read) := follow code low high owed rest
      c :: scan (rest.drop read)
termination_by bytes => bytes.length
decreasing_by
  · simp
  · simp only [List.length_drop, List.length_cons]; omega

/-- The text that the bytes spell, if they spell one. -/
def decode? (bytes : Bytes) : Option (List Char) :=
  (scan bytes).mapM id

/-- The text that the bytes spell, with U+FFFD in place of each gap. -/
def decodeLossy (bytes : Bytes) : List Char :=
  (scan bytes).map (·.getD '\uFFFD')

end ScreenKeyboard.Text.Utf8
