import ScreenKeyboard.Toml.Quote

/-!
Keys of TOML: bare or quoted on one line, and joined by dots into paths of at most 79 keys.
-/

namespace ScreenKeyboard.Toml

namespace KeyPath

def isBare (c : Char) : Bool :=
  c.isAlphanum || c = '_' || c = '-'

def single (text : List Char) : Option (String × List Char) :=
  match text with
  | '"' :: rest => (Quote.basic none rest).map fun (key, after) => (String.ofList key, after)
  | '\'' :: rest => (Quote.literal rest).map fun (key, after) => (String.ofList key, after)
  | _ =>
    let key := text.takeWhile isBare
    if key.isEmpty then none else some (String.ofList key, text.drop key.length)

/-- Reads at most `parts` keys with dots and blanks between them, and the blanks after them. -/
def upTo : Nat → List Char → Option (List String × List Char)
  | 0, _ => none
  | parts + 1, text => do
    let (key, rest) ← single (skipBlanks text)
    match skipBlanks rest with
    | '.' :: after =>
      let (keys, rest) ← upTo parts after
      pure (key :: keys, rest)
    | rest => pure ([key], rest)

end KeyPath

def keyPath? (text : List Char) : Option (List String × List Char) :=
  KeyPath.upTo 79 text

end ScreenKeyboard.Toml
