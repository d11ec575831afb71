import WalletPolicy.Text.Hidden

namespace WalletPolicy.Text

def escapeMark : Char := Char.ofNat 0x5C

def singleQuote : Char := Char.ofNat 0x27

def doubleQuote : Char := Char.ofNat 0x22

def shortEscape? (quote c : Char) : Option Char :=
  if c = quote ∨ c = escapeMark then some c
  else
    match c.toNat with
    | 0 => some '0'
    | 9 => some 't'
    | 10 => some 'n'
    | 13 => some 'r'
    | _ => none

def codeEscape (c : Char) : List Char :=
  [escapeMark, 'u', Char.ofNat 0x7B] ++ Nat.toDigits 16 c.toNat ++ [Char.ofNat 0x7D]

def quoteChar (quote c : Char) : List Char :=
  match shortEscape? quote c with
  | some short => [escapeMark, short]
  | none => if isHidden c then codeEscape c else [c]

def quotedChar (c : Char) : String :=
  String.ofList (singleQuote :: quoteChar singleQuote c ++ [singleQuote])

def quoted (text : String) : String :=
  String.ofList (doubleQuote :: text.toList.flatMap (quoteChar doubleQuote) ++ [doubleQuote])

end WalletPolicy.Text
