import ScreenKeyboard.Hardware.KeyCode
import ScreenKeyboard.Legend
import ScreenKeyboard.Text.Casing

/-!
Events of a hardware keyboard and what they mean: the name of the key, which does not depend on shift, and
the character it types, which does. A character event carries the character; the other events carry a key
code, which has a name of its own or else is read as a character.
-/

namespace ScreenKeyboard.Hardware

inductive EventKind
  /-- A character was typed. -/
  | press
  | down
  | up
  deriving DecidableEq, Repr

structure KeyEvent where
  kind : EventKind
  keyCode : Option Nat
  charCode : Nat
  shift : Bool
  deriving DecidableEq, Repr

structure Keystroke where
  /-- The text that the key types, or the name of a key that types none. -/
  types : String
  /-- The name of the key: a lower-case character, or a word such as `left`. -/
  key : String
  deriving DecidableEq, Repr

/-- The character with this code point. -/
def charOfCode? (code : Nat) : Option Char :=
  if code.isValidChar then some (Char.ofNat code) else none

namespace KeyEvent

/-- A character event. -/
def press (charCode : Nat) (shift : Bool) : KeyEvent :=
  { kind := .press, keyCode := none, charCode, shift }

def down (keyCode : Nat) (shift : Bool) : KeyEvent :=
  { kind := .down, keyCode := some keyCode, charCode := 0, shift }

/-- The name of the key that types `c`, with shift or without. -/
def keyOfChar (c : Char) : String :=
  match Shift.unshifted? c with
  | some base => String.singleton base
  | none => if c = '\r' then "\n" else String.ofList (Text.lower c)

/-- The name of the key of an event. An event without any code is the enter key. -/
def key? (event : KeyEvent) : Option String :=
  match event.kind, event.keyCode with
  | .press, _ => (charOfCode? event.charCode).map keyOfChar
  | _, some code =>
    match keyName? code with
    | some name => some name
    | none => (charOfCode? code).map fun c => String.ofList (Text.lower c)
  | _, none => if event.charCode = 0 then some "\n" else none

/-- What the key types while shift is held: the other character of its pair, else, unless it is a named
key, its upper case. -/
def shiftedText (key : String) : Option String :=
  match key.toList with
  | [c] =>
    match Shift.shifted? c with
    | some high => some (String.singleton high)
    | none => if isKeyName key then none else some (String.ofList (Text.upper c))
  | cs => if isKeyName key then none else some (String.ofList (cs.flatMap Text.upper))

/-- What the key types on its own. -/
def plainText (key : String) : String :=
  (numberPad.lookup key).getD key

/-- The key of an event and what it types, for events that name a key. -/
def keystroke? (event : KeyEvent) : Option Keystroke :=
  event.key?.map fun key =>
    { types := if event.shift then (shiftedText key).getD (plainText key) else plainText key, key }

end KeyEvent

end ScreenKeyboard.Hardware
