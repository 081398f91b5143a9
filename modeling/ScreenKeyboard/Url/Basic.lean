import ScreenKeyboard.Url.Address
import ScreenKeyboard.Url.Form

/-!
Addresses of web sockets in parts, and their text. All parts are kept as they are written: encoded where
their place in the address demands it.
-/

namespace ScreenKeyboard

namespace Url

inductive Scheme
  | ws
  | wss
  deriving DecidableEq, Repr

def Scheme.name : Scheme → String
  | ws => "ws"
  | wss => "wss"

/-- The port that is meant when an address names none. -/
def Scheme.defaultPort : Scheme → Nat
  | ws => 80
  | wss => 443

inductive Host
  | domain (name : String)
  | ipv4 (address : Nat)
  | ipv6 (groups : List Nat)
  deriving DecidableEq, Repr

def Host.write : Host → List Char
  | domain name => name.toList
  | ipv4 address => Ipv4.write address
  | ipv6 groups => Ipv6.write groups

/-- Why a text is no address. -/
inductive Error
  | notWebSocket
  | emptyHost
  | badDomain
  | badPort
  | badIpv4
  | badIpv6
  deriving DecidableEq, Repr

def Error.message : Error → String
  | notWebSocket => "relative URL without a base"
  | emptyHost => "empty host"
  | badDomain => "invalid international domain name"
  | badPort => "invalid port number"
  | badIpv4 => "invalid IPv4 address"
  | badIpv6 => "invalid IPv6 address"

end Url

structure Url where
  scheme : Url.Scheme
  username : String
  /-- Never the empty text. -/
  password : Option String
  host : Url.Host
  /-- Never the default port of the scheme. -/
  port : Option Nat
  /-- The segments of the path, at least one. -/
  path : List String
  query : Option String
  fragment : Option String
  deriving DecidableEq, Repr

namespace Url

def writePath (url : Url) : List Char :=
  url.path.flatMap fun segment => '/' :: segment.toList

def writeUserinfo (url : Url) : List Char :=
  match url.password with
  | some password => url.username.toList ++ ':' :: password.toList ++ ['@']
  | none => if url.username = "" then [] else url.username.toList ++ ['@']

def writePort (url : Url) : List Char :=
  match url.port with
  | some port => ':' :: Nat.toDigits 10 port
  | none => []

/-- A part that begins with a mark of its own, if it is there. -/
def writeMarked (mark : Char) : Option String → List Char
  | some part => mark :: part.toList
  | none => []

/-- The text of an address. -/
def write (url : Url) : List Char :=
  url.scheme.name.toList ++ "://".toList ++ url.writeUserinfo ++ url.host.write ++ url.writePort
    ++ url.writePath ++ writeMarked '?' url.query ++ writeMarked '#' url.fragment

instance : ToString Url where
  toString url := String.ofList url.write

/-- The port that is connected to. -/
def effectivePort (url : Url) : Nat :=
  url.port.getD url.scheme.defaultPort

/-- The pairs of the query, read as a form. -/
def pairs (url : Url) : List (String × String) :=
  (Form.pairs ((url.query.map String.toList).getD [])).map fun (name, value) =>
    (String.ofList name, String.ofList value)

/-- The address with one more pair in its query. -/
def appendPair (url : Url) (name value : String) : Url :=
  { url with
    query := some (String.ofList (Form.append ((url.query.map String.toList).getD []) name.toList value.toList)) }

end Url

end ScreenKeyboard
