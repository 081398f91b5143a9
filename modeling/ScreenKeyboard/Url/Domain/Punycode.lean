/-!
Punycode: text of any characters as ASCII letters, digits and hyphens. The ASCII characters of the text come
first; the others follow as the distances between the places where they are inserted, in ascending order of
code point, each a number in 36 digits whose last digit is marked by being small.
-/

namespace ScreenKeyboard.Url.Domain.Punycode

def digitChar (d : Nat) : Char :=
  if d < 26 then Char.ofNat ('a'.toNat + d) else Char.ofNat ('0'.toNat + (d - 26))

def digitValue? (c : Char) : Option Nat :=
  if 'a' ≤ c ∧ c ≤ 'z' then some (c.toNat - 'a'.toNat)
  else if 'A' ≤ c ∧ c ≤ 'Z' then some (c.toNat - 'A'.toNat)
  else if '0' ≤ c ∧ c ≤ '9' then some (c.toNat - '0'.toNat + 26)
  else none

/-- The least digit that is not the last of its number, at weight position `k`. -/
def threshold (k bias : Nat) : Nat :=
  if k ≤ bias then 1 else if bias + 26 ≤ k then 26 else k - bias

theorem one_le_threshold (k bias : Nat) : 1 ≤ threshold k bias := by
  unfold threshold
  split
  · omega
  · split <;> omega

/-- Scales a distance down, thirty-five to one, and counts the steps in weight positions. -/
def scale (delta k : Nat) : Nat :=
  if 455 < delta then scale (delta / 35) (k + 36) else k + 36 * delta / (delta + 38)
termination_by delta
decreasing_by exact Nat.div_lt_self (by omega) (by omega)

/-- The bias for the next number after the distance `delta` led to a text of `size` characters. -/
def adapt (delta size : Nat) (first : Bool) : Nat :=
  let delta := if first then delta / 700 else delta / 2
  scale (delta + delta / size) 0

/-- The digits of a number, from weight position `k` on. -/
def digits (bias k n : Nat) : List Char :=
  let t := threshold k bias
  if n < t then [digitChar n]
  else digitChar (t + (n - t) % (36 - t)) :: digits bias (k + 36) ((n - t) / (36 - t))
termination_by n
decreasing_by
  have := one_le_threshold k bias
  exact Nat.lt_of_le_of_lt (Nat.div_le_self _ _) (by omega)

structure Writing where
  delta : Nat
  bias : Nat
  /-- How many characters have been written. -/
  size : Nat
  out : List Char

/-- Passes one character of the text while characters with the code `code` are being written. -/
def pass (code basic : Nat) (w : Writing) (c : Char) : Writing :=
  if c.toNat < code then { w with delta := w.delta + 1 }
  else if c.toNat = code then
    { delta := 0
      bias := adapt w.delta (w.size + 1) (w.size = basic)
      size := w.size + 1
      out := w.out ++ digits w.bias 36 w.delta }
  else w

/-- Writes the characters of each code in turn; `next` is the least code not yet passed. -/
def writeCodes (text : List Char) (basic : Nat) (next : Nat) (w : Writing) : List Nat → List Char
  | [] => w.out
  | code :: codes =>
    let w := { w with delta := w.delta + (code - next) * (w.size + 1) }
    let w := text.foldl (pass code basic) w
    writeCodes text basic (code + 1) { w with delta := w.delta + 1 } codes

/-- Inserts a code into an ascending list without repetition. -/
def insertCode (code : Nat) : List Nat → List Nat
  | [] => [code]
  | c :: codes =>
    if code < c then code :: c :: codes else if code = c then c :: codes else c :: insertCode code codes

def encode (text : List Char) : List Char :=
  let basic := text.filter (·.toNat < 0x80)
  let codes := ((text.filter (0x80 ≤ ·.toNat)).map Char.toNat).foldr insertCode []
  basic ++ (if basic.isEmpty then [] else ['-'])
    ++ writeCodes text basic.length 0x80 { delta := 0, bias := 72, size := basic.length, out := [] } codes

structure Reading where
  out : List Char
  /-- The code point of the last insertion. -/
  code : Nat
  /-- Where the last insertion left off. -/
  start : Nat
  index : Nat
  weight : Nat
  k : Nat
  bias : Nat

/-- Reads the digits of all insertions. -/
def readDigits (r : Reading) : List Char → Option (List Char)
  | [] => if r.k = 36 then some r.out else none
  | c :: rest =>
    match digitValue? c with
    | none => none
    | some d =>
      let index := r.index + d * r.weight
      let t := threshold r.k r.bias
      if t ≤ d then readDigits { r with index, weight := r.weight * (36 - t), k := r.k + 36 } rest
      else
        let size := r.out.length + 1
        let code := r.code + index / size
        if code.isValidChar then
          let place := index % size
          readDigits
            { out := r.out.insertIdx place (Char.ofNat code)
              code
              start := place + 1
              index := place + 1
              weight := 1
              k := 36
              bias := adapt (index - r.start) size (r.start = 0) }
            rest
        else none

/-- The text that was encoded, if there is one. The last hyphen is a separator only if something precedes it. -/
def decode? (text : List Char) : Option (List Char) :=
  let tail := (text.reverse.takeWhile (· ≠ '-')).reverse
  let basic := text.take (text.length - tail.length - 1)
  if basic.all (·.toNat < 0x80) then
    readDigits { out := basic, code := 0x80, start := 0, index := 0, weight := 1, k := 36, bias := 72 }
      (if basic.isEmpty then text else tail)
  else none

end ScreenKeyboard.Url.Domain.Punycode
