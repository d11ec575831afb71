import WalletPolicy.Toml.Document
import WalletPolicy.Toml.Scalar
import WalletPolicy.Toml.Text

/-!
A reader takes what is left of the text and gives what it read and what is left then.
-/
namespace WalletPolicy.Toml

/-! ## Keys -/

structure DottedKey where
  path : List String
  key : String

def maxKeyParts : Nat := 79

def isKeyChar (c : Char) : Bool := c.isAlphanum || c == '_' || c == '-'

def keyPart (input : List Char) : Option (String × List Char) :=
  match lineText input with
  | some read => some read
  | none =>
    let bare := input.takeWhile isKeyChar
    if bare.isEmpty then none else some (String.ofList bare, input.dropWhile isKeyChar)

def dottedKey : Nat → List Char → Option (DottedKey × List Char)
  | 0, _ => none
  | limit + 1, input => do
    let (part, rest) ← keyPart (skipSpaces input)
    match skipSpaces rest with
    | '.' :: rest =>
      let (inner, rest) ← dottedKey limit rest
      some (⟨part :: inner.path, inner.key⟩, rest)
    | rest => some (⟨[], part⟩, rest)

def assignedKey (input : List Char) : Option (DottedKey × List Char) := do
  let (key, rest) ← dottedKey maxKeyParts input
  match rest with
  | '=' :: rest => some (key, skipSpaces rest)
  | _ => none

/-! ## Values -/

def maxNesting : Nat := 79

def unquoted (input : List Char) : Option (Toml × List Char) := do
  let word := input.takeWhile isWordChar
  let rest := input.dropWhile isWordChar
  match Moment.read? word, rest with
  | some (.day _), ' ' :: c :: more =>
    if c.isDigit then
      let time := (c :: more).takeWhile isWordChar
      let value ← scalarWord (word ++ 'T' :: time)
      some (value, (c :: more).dropWhile isWordChar)
    else some (← scalarWord word, rest)
  | _, _ => some (← scalarWord word, rest)

def scalar (input : List Char) : Option (Toml × List Char) :=
  match input with
  | [] => none
  | c :: _ =>
    if c = quote ∨ c = apostrophe then do
      let (value, rest) ← quotedText input
      some (.text value, rest)
    else unquoted input

/-- The rest of an array, from where an item or the end stands. What was read so far is in reverse
order. Items are on any number of lines, and a comma may follow the last. The fuel is at least the
number of characters left, and every item uses up more characters than fuel. -/
def arrayItems (item : List Char → Option (Toml × List Char)) :
    Nat → List Toml → List Char → Option (List Toml × List Char)
  | 0, _, _ => none
  | fuel + 1, reversed, input => do
    let rest ← skipBlankLines fuel input
    match rest with
    | ']' :: rest => some (reversed.reverse, rest)
    | _ =>
      let (value, rest) ← item rest
      let rest ← skipBlankLines fuel rest
      match rest with
      | ',' :: rest => arrayItems item fuel (value :: reversed) rest
      | ']' :: rest => some ((value :: reversed).reverse, rest)
      | _ => none

def inlineEntries (item : List Char → Option (Toml × List Char)) :
    Nat → Entries → List Char → Option (Entries × List Char)
  | 0, _, _ => none
  | fuel + 1, entries, input => do
    let (dotted, rest) ← assignedKey input
    let (value, rest) ← item rest
    let entries ← entries.assign .header dotted.path dotted.key value
    match skipSpaces rest with
    | ',' :: rest => inlineEntries item fuel entries rest
    | '}' :: rest => some (entries, rest)
    | _ => none

def value : Nat → List Char → Option (Toml × List Char)
  | 0, input => scalar input
  | depth + 1, input =>
    match input with
    | '[' :: rest => do
      let (items, rest) ← arrayItems (value depth) input.length [] rest
      some (.array items, rest)
    | '{' :: rest =>
      match skipSpaces rest with
      | '}' :: rest => some (.table [], rest)
      | rest => do
        let (entries, rest) ← inlineEntries (value depth) input.length [] rest
        some (.table (finishEntries entries), rest)
    | _ => scalar input

/-! ## Statements -/

def header (document : Document) (input : List Char) : Option (Document × List Char) :=
  match input with
  | '[' :: rest => do
    let (dotted, rest) ← dottedKey maxKeyParts rest
    match rest with
    | ']' :: ']' :: rest => some (← document.enter true dotted.path dotted.key, rest)
    | _ => none
  | _ => do
    let (dotted, rest) ← dottedKey maxKeyParts input
    match rest with
    | ']' :: rest => some (← document.enter false dotted.path dotted.key, rest)
    | _ => none

def assignment (document : Document) (input : List Char) : Option (Document × List Char) := do
  let (dotted, rest) ← assignedKey input
  let (given, rest) ← value maxNesting rest
  some (← document.assign dotted.path dotted.key given, rest)

def statement (document : Document) (input : List Char) : Option (Document × List Char) :=
  match input with
  | [] => some (document, [])
  | '#' :: _ => some (document, input)
  | '[' :: rest => header document rest
  | _ => if (lineEnd? input).isSome then some (document, input) else assignment document input

def statements : Nat → Document → List Char → Option Document
  | 0, _, _ => none
  | fuel + 1, document, input => do
    let (document, rest) ← statement document (skipSpaces input)
    let rest ← skipOptionalComment (skipSpaces rest)
    match rest, lineEnd? rest with
    | [], _ => some document
    | _, some rest => statements fuel document rest
    | _, none => none

def parse (written : String) : Option Toml :=
  let input := written.toList
  let input :=
    match input with
    | c :: rest => if c.toNat = 0xFEFF then rest else input
    | [] => []
  (statements (input.length + 1) .empty input).map Document.finish

end WalletPolicy.Toml
