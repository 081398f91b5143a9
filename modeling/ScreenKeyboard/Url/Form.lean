import ScreenKeyboard.Text.Pieces
import ScreenKeyboard.Url.Percent

/-!
Queries as forms: pairs of a name and a value, joined by `&` and each divided by `=`. A blank is written as
`+`, and all but letters, digits and `*-._` is percent-encoded, so that reading gives back what was written.
-/

namespace ScreenKeyboard.Url.Form

open Text Text.Utf8

def isPlain (c : Char) : Bool :=
  c.isAlphanum || c = '*' || c = '-' || c = '.' || c = '_'

def encode (text : List Char) : List Char :=
  text.flatMap fun c =>
    if isPlain c then [c] else if c = ' ' then ['+'] else (encodeChar c).flatMap Percent.encodeByte

/-- The text of a name or a value; bytes that spell no text become U+FFFD. -/
def decode (text : List Char) : List Char :=
  decodeLossy (Percent.decode (Utf8.encode (text.map fun c => if c = '+' then ' ' else c)))

def readPair (pair : List Char) : List Char × List Char :=
  let name := pair.takeWhile (· ≠ '=')
  (decode name, decode (pair.drop (name.length + 1)))

/-- The pairs of a query. -/
def pairs (query : List Char) : List (List Char × List Char) :=
  ((pieces '&' query).filter (!·.isEmpty)).map readPair

def writePair (name value : List Char) : List Char :=
  encode name ++ '=' :: encode value

/-- The query with one more pair at its end. -/
def append (query : List Char) (name value : List Char) : List Char :=
  query ++ (if query.isEmpty then [] else ['&']) ++ writePair name value

end ScreenKeyboard.Url.Form
