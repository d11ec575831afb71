import WalletPolicy.Toml.Basic

namespace WalletPolicy.Toml

def quote : Char := Char.ofNat 0x22

def apostrophe : Char := Char.ofNat 0x27

def backslash : Char := Char.ofNat 0x5C

def lineFeed : Char := Char.ofNat 0x0A

def carriageReturn : Char := Char.ofNat 0x0D

def isSpace (c : Char) : Bool := c.toNat == 0x20 || c.toNat == 0x09

def isTextChar (c : Char) : Bool :=
  c.toNat == 0x09 || (0x20 ≤ c.toNat && c.toNat ≤ 0x7E) || 0x80 ≤ c.toNat

def lineEnd? : List Char → Option (List Char)
  | [] => none
  | c :: rest =>
    if c = lineFeed then some rest
    else
      match rest with
      | d :: rest => if c = carriageReturn ∧ d = lineFeed then some rest else none
      | [] => none

def skipSpaces (input : List Char) : List Char := input.dropWhile isSpace

def skipComment : List Char → Option (List Char)
  | [] => some []
  | c :: rest =>
    if (lineEnd? (c :: rest)).isSome then some (c :: rest)
    else if isTextChar c then skipComment rest
    else none

def skipOptionalComment : List Char → Option (List Char)
  | '#' :: rest => skipComment rest
  | rest => some rest

def skipBlankLines : Nat → List Char → Option (List Char)
  | 0, input => some input
  | fuel + 1, input => do
    let rest ← skipOptionalComment (skipSpaces input)
    match lineEnd? rest with
    | some rest => skipBlankLines fuel rest
    | none => some rest

/-! ## Escapes -/

def charOf? (code : Nat) : Option Char :=
  if code < 0xD800 ∨ (0xDFFF < code ∧ code < 0x110000) then some (Char.ofNat code) else none

def hexValue? (c : Char) : Option Nat :=
  if c.isDigit then some (c.toNat - 48)
  else if 'a' ≤ c ∧ c ≤ 'f' then some (c.toNat - 87)
  else if 'A' ≤ c ∧ c ≤ 'F' then some (c.toNat - 55)
  else none

def codePoint : Nat → Nat → List Char → Option (Char × List Char)
  | 0, code, input => (charOf? code).map fun c => (c, input)
  | count + 1, code, c :: rest => do codePoint count (code * 16 + (← hexValue? c)) rest
  | _ + 1, _, [] => none

def escaped : List Char → Option (Char × List Char)
  | [] => none
  | c :: rest =>
    if c = quote ∨ c = backslash then some (c, rest)
    else
      match c with
      | 'b' => some (Char.ofNat 0x08, rest)
      | 't' => some (Char.ofNat 0x09, rest)
      | 'n' => some (lineFeed, rest)
      | 'f' => some (Char.ofNat 0x0C, rest)
      | 'r' => some (carriageReturn, rest)
      | 'u' => codePoint 4 0 rest
      | 'U' => codePoint 8 0 rest
      | _ => none

/-! ## Texts on one line -/

def basicLine : Nat → List Char → List Char → Option (String × List Char)
  | 0, _, _ => none
  | _ + 1, _, [] => none
  | fuel + 1, reversed, c :: rest =>
    if c = quote then some (String.ofList reversed.reverse, rest)
    else if c = backslash then do
      let (d, rest) ← escaped rest
      basicLine fuel (d :: reversed) rest
    else if isTextChar c then basicLine fuel (c :: reversed) rest
    else none

def literalLine : List Char → List Char → Option (String × List Char)
  | _, [] => none
  | reversed, c :: rest =>
    if c = apostrophe then some (String.ofList reversed.reverse, rest)
    else if isTextChar c then literalLine (c :: reversed) rest
    else none

/-! ## Texts on several lines -/

def countLeading (c : Char) (input : List Char) : Nat × List Char :=
  ((input.takeWhile (· == c)).length, input.dropWhile (· == c))

def skipEscapedLineEnd (input : List Char) : Option (List Char) := do
  let rest ← lineEnd? (skipSpaces input)
  some (dropBlanks rest.length rest)
where
  dropBlanks : Nat → List Char → List Char
    | 0, input => input
    | fuel + 1, input =>
      match lineEnd? (skipSpaces input) with
      | some rest => dropBlanks fuel rest
      | none => skipSpaces input

/-- The rest of a text on several lines. Three to five of its quotes in a row end it, and those
beyond three belong to it; one or two do not end it. -/
def manyLines (mark : Char) (hasEscapes : Bool) :
    Nat → List Char → List Char → Option (String × List Char)
  | 0, _, _ => none
  | _ + 1, _, [] => none
  | fuel + 1, reversed, c :: rest =>
    if c = mark then
      let (count, after) := countLeading mark (c :: rest)
      if count < 3 then manyLines mark hasEscapes fuel (List.replicate count mark ++ reversed) after
      else if count ≤ 5 then
        some (String.ofList (List.replicate (count - 3) mark ++ reversed).reverse, after)
      else none
    else if c = backslash && hasEscapes then
      match skipEscapedLineEnd rest with
      | some rest => manyLines mark hasEscapes fuel reversed rest
      | none => do
        let (d, rest) ← escaped rest
        manyLines mark hasEscapes fuel (d :: reversed) rest
    else
      match lineEnd? (c :: rest) with
      | some rest => manyLines mark hasEscapes fuel (lineFeed :: reversed) rest
      | none => if isTextChar c then manyLines mark hasEscapes fuel (c :: reversed) rest else none

def skipOptionalLineEnd (input : List Char) : List Char := (lineEnd? input).getD input

def lineText (input : List Char) : Option (String × List Char) :=
  match input with
  | [] => none
  | c :: rest =>
    if c = quote then basicLine input.length [] rest
    else if c = apostrophe then literalLine [] rest
    else none

def quotedText (input : List Char) : Option (String × List Char) :=
  match input with
  | a :: b :: c :: rest =>
    if a = b ∧ b = c ∧ (a = quote ∨ a = apostrophe) then
      manyLines a (a == quote) input.length [] (skipOptionalLineEnd rest)
    else lineText input
  | _ => lineText input

end WalletPolicy.Toml
