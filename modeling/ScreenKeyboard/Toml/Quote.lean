import ScreenKeyboard.Text.Digit
import ScreenKeyboard.Toml.Space

/-!
Quoted strings of TOML, in four forms: between double quotes, where a backslash begins an escape, or
between single quotes, where it does not, each on one line or, between three quotes, on several. The forms
on several lines drop a newline right after the opening quotes and may end in up to two quotes of their own.
Every reader starts after the opening quotes and returns the string and what follows it.
-/

namespace ScreenKeyboard.Toml

namespace Quote

/-- How far the reader is in an escape. -/
inductive Escape
  | started
  /-- So many digits of a code point are still to come after those read. -/
  | code (left value : Nat)
  deriving DecidableEq, Repr

def named? (c : Char) : Option Char :=
  match c with
  | 'b' => some '\x08'
  | 'f' => some '\x0c'
  | 'n' => some '\n'
  | 'r' => some '\r'
  | 't' => some '\t'
  | '"' => some '"'
  | '\\' => some '\\'
  | _ => none

inductive Progress
  | more (escape : Escape)
  | char (c : Char)
  deriving DecidableEq, Repr

/-- One more character of an escape. -/
def Escape.step : Escape → Char → Option Progress
  | .started, c =>
    match named? c with
    | some d => some (.char d)
    | none =>
      if c = 'u' then some (.more (.code 4 0)) else if c = 'U' then some (.more (.code 8 0)) else none
  | .code left value, c =>
    match Text.digit? 16 c with
    | none => none
    | some d =>
      let code := 16 * value + d
      if 1 < left then some (.more (.code (left - 1) code))
      else if code.isValidChar then some (.char (Char.ofNat code))
      else none

def prepend (c : Char) (read : Option (List Char × List Char)) : Option (List Char × List Char) :=
  read.map fun (content, rest) => (c :: content, rest)

/-- Reads a string on one line between double quotes; `escape` is the escape that is being read. -/
def basic : Option Escape → List Char → Option (List Char × List Char)
  | _, [] => none
  | some escape, c :: rest =>
    match escape.step c with
    | none => none
    | some (.more escape) => basic (some escape) rest
    | some (.char d) => prepend d (basic none rest)
  | none, c :: rest =>
    if c = '"' then some ([], rest)
    else if c = '\\' then basic (some .started) rest
    else if isVisible c then prepend c (basic none rest)
    else none

/-- Reads a string on one line between single quotes. -/
def literal : List Char → Option (List Char × List Char)
  | [] => none
  | c :: rest =>
    if c = '\'' then some ([], rest) else if isVisible c then prepend c (literal rest) else none

/-- How many of the quotes that begin here, after one more quote, belong to the string, and what follows
the closing quotes; nothing if there are too few quotes to close it. -/
def closing? (quote : Char) (text : List Char) : Option (Nat × List Char) :=
  let run := (text.takeWhile (· = quote)).length
  if run < 2 then none
  else
    let extra := min (run - 2) 2
    some (extra, text.drop (extra + 2))

inductive BlockMode
  /-- In the string, skipping layout after a joined line end or not. -/
  | text (skipping : Bool)
  | escape (escape : Escape)
  /-- Between a backslash and the line end that it joins. -/
  | gap
  deriving DecidableEq, Repr

/-- Reads a string on several lines between double quotes. -/
def basicBlock : BlockMode → List Char → Option (List Char × List Char)
  | _, [] => none
  | .escape escape, c :: rest =>
    if escape = .started && isBlank c then basicBlock .gap rest
    else if escape = .started && c = '\n' then basicBlock (.text true) rest
    else
      match escape.step c with
      | none => none
      | some (.more escape) => basicBlock (.escape escape) rest
      | some (.char d) => prepend d (basicBlock (.text false) rest)
  | .gap, c :: rest =>
    if isBlank c then basicBlock .gap rest
    else if c = '\n' then basicBlock (.text true) rest
    else none
  | .text skipping, c :: rest =>
    if c = '"' then
      match closing? '"' rest with
      | some (extra, after) => some (List.replicate extra '"', after)
      | none => prepend c (basicBlock (.text false) rest)
    else if c = '\\' then basicBlock (.escape .started) rest
    else if skipping && (isBlank c || c = '\n') then basicBlock (.text true) rest
    else if c = '\n' || isVisible c then prepend c (basicBlock (.text false) rest)
    else none

/-- Reads a string on several lines between single quotes. -/
def literalBlock : List Char → Option (List Char × List Char)
  | [] => none
  | c :: rest =>
    if c = '\'' then
      match closing? '\'' rest with
      | some (extra, after) => some (List.replicate extra '\'', after)
      | none => prepend c (literalBlock rest)
    else if c = '\n' || isVisible c then prepend c (literalBlock rest)
    else none

def dropNewline : List Char → List Char
  | '\n' :: rest => rest
  | text => text

end Quote

/-- Reads a quoted string of any form. -/
def quotedString? : List Char → Option (List Char × List Char)
  | '"' :: '"' :: '"' :: rest => Quote.basicBlock (.text false) (Quote.dropNewline rest)
  | '"' :: rest => Quote.basic none rest
  | '\'' :: '\'' :: '\'' :: rest => Quote.literalBlock (Quote.dropNewline rest)
  | '\'' :: rest => Quote.literal rest
  | _ => none

end ScreenKeyboard.Toml
