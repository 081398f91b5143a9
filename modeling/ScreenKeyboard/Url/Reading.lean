import ScreenKeyboard.Text.WhiteSpace
import ScreenKeyboard.Url.Basic
import ScreenKeyboard.Url.Domain.Ascii

/-!
Reading the text of a web socket's address. The text is cut at the first character that can only belong to
the next part, and each part is brought into its encoded form. A backslash counts as a slash up to the
query; tabs and line ends anywhere, and blanks and control characters at both ends, do not count at all.
-/

namespace ScreenKeyboard.Url

open Text

/-- Whether a character ends the part of an address that names the host. -/
def endsAuthority (c : Char) : Bool :=
  c = '/' || c = '\\' || c = '?' || c = '#'

def isSlash (c : Char) : Bool :=
  c = '/' || c = '\\'

/-- The text up to the last `@` and after it. -/
def cutAtLast (authority : List Char) : Option (List Char × List Char) :=
  if authority.contains '@' then
    let after := (authority.reverse.takeWhile (· ≠ '@')).reverse
    some (authority.take (authority.length - after.length - 1), after)
  else none

/-- A user's name and password. -/
def readUserinfo (text : List Char) : List Char × Option (List Char) :=
  let name := text.takeWhile (· ≠ ':')
  let password := text.drop (name.length + 1)
  (Percent.encode userinfoSet name,
    if password.isEmpty then none else some (Percent.encode userinfoSet password))

/-- Cuts the host off at the first colon outside brackets. -/
def cutHost (bracketed : Bool) : List Char → List Char × List Char
  | [] => ([], [])
  | c :: rest =>
    if c = ':' ∧ !bracketed then ([], c :: rest)
    else
      let inside := if c = '[' then true else if c = ']' then false else bracketed
      let (host, after) := cutHost inside rest
      (c :: host, after)

def readHost (text : List Char) : Except Error Host :=
  match text with
  | [] => .error .emptyHost
  | '[' :: inner =>
    if inner.getLast? = some ']' then
      match Ipv6.read? inner.dropLast with
      | some groups => .ok (.ipv6 groups)
      | none => .error .badIpv6
    else .error .badIpv6
  | _ =>
    match (Utf8.decode? (Percent.decode (Utf8.encode text))).bind Domain.toAscii? with
    | none => .error .badDomain
    | some name =>
      if name.isEmpty then .error .emptyHost
      else if Ipv4.endsInNumber name then
        match Ipv4.read? name with
        | some address => .ok (.ipv4 address)
        | none => .error .badIpv4
      else .ok (.domain (String.ofList name))

/-- The port after the host, if it is not the scheme's own. -/
def readPort (scheme : Scheme) (text : List Char) : Except Error (Option Nat) :=
  match text with
  | ':' :: digits =>
    match number? 10 digits with
    | none => .error .badPort
    | some port =>
      if 65535 < port then .error .badPort
      else .ok (if digits.isEmpty ∨ port = scheme.defaultPort then none else some port)
  | _ => .ok none

/-- Spellings of a segment that means the folder itself, and of one that means the folder above. -/
def isHere (segment : List Char) : Bool :=
  let s := segment.map Char.toLower
  s = ['.'] || s = "%2e".toList

def isAbove (segment : List Char) : Bool :=
  let s := segment.map Char.toLower
  s = "..".toList || s = ".%2e".toList || s = "%2e.".toList || s = "%2e%2e".toList

/-- Whether a segment looks like the letter of a drive, which no path leaves. -/
def isDrive (segment : List Char) : Bool :=
  match segment with
  | [letter, mark] => letter.isAlpha && (mark = ':' || mark = '|')
  | _ => false

/-- The folder above; `folders` are the folders on the way, the innermost first. -/
def leave : List (List Char) → List (List Char)
  | [] => []
  | folder :: outer => if isDrive folder then folder :: outer else outer

/-- The segments of a path, from the folders on the way to where the pieces begin. -/
def readSegments (folders : List (List Char)) : List (List Char) → List (List Char)
  | [] => folders.reverse
  | [last] =>
    if isAbove last then ((leave folders).reverse) ++ [[]]
    else if isHere last then folders.reverse ++ [[]]
    else folders.reverse ++ [Percent.encode pathSet last]
  | segment :: rest =>
    if isAbove segment then readSegments (leave folders) rest
    else if isHere segment then readSegments folders rest
    else readSegments (Percent.encode pathSet segment :: folders) rest

/-- The segments of a path that begins with a slash or is empty. -/
def readPath (text : List Char) : List (List Char) :=
  let slashed := text.map fun c => if c = '\\' then '/' else c
  readSegments [] (pieces '/' (slashed.drop 1))

/-- Reads what follows the scheme and its slashes. -/
def readRest (scheme : Scheme) (text : List Char) : Except Error Url := do
  let authority := text.takeWhile (!endsAuthority ·)
  let tail := text.drop authority.length
  let (user, place) :=
    match cutAtLast authority with
    | none => (([], none), authority)
    | some (user, place) => (readUserinfo user, place)
  let (hostText, portText) := cutHost false place
  let host ← readHost hostText
  let port ← readPort scheme portText
  let path := tail.takeWhile fun c => c ≠ '?' ∧ c ≠ '#'
  let afterPath := tail.drop path.length
  let query := afterPath.takeWhile (· ≠ '#')
  let fragment := afterPath.drop query.length
  pure {
    scheme
    username := String.ofList user.1
    password := user.2.map String.ofList
    host
    port
    path := (readPath path).map String.ofList
    query := if query.isEmpty then none else some (String.ofList (Percent.encode querySet (query.drop 1)))
    fragment :=
      if fragment.isEmpty then none else some (String.ofList (Percent.encode fragmentSet (fragment.drop 1))) }

/-- The characters of a text that count. -/
def significant (text : List Char) : List Char :=
  (trim (·.toNat ≤ 0x20) text).filter fun c => c ≠ '\t' ∧ c ≠ '\n' ∧ c ≠ '\r'

/-- The address that a text spells, or why it spells none. -/
def read (text : String) : Except Error Url :=
  let chars := significant text.toList
  let scheme := chars.takeWhile (· ≠ ':')
  let rest := (chars.drop (scheme.length + 1)).dropWhile isSlash
  if scheme = "ws".toList ∧ scheme.length < chars.length then readRest .ws rest
  else if scheme = "wss".toList ∧ scheme.length < chars.length then readRest .wss rest
  else .error .notWebSocket

end ScreenKeyboard.Url
