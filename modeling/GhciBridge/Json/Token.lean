import GhciBridge.Json.Value
import GhciBridge.Text.Numeral

/-!
# JSON tokens

The lexical level of JSON.  A token is kept even where only a later use can
tell whether it is acceptable: a number carries its spelling and may be out of
range, and a string may name half of a surrogate pair.  Readers that skip a
value therefore skip it whatever it stands for.
-/

namespace GhciBridge
namespace Json

/-- The spelling of a number: sign, digits before and after the point, and the
signed digits of the exponent. -/
structure Number where
  negative : Bool
  whole : Text
  fraction : Option Text
  exponent : Option (Bool × Text)
deriving DecidableEq, Repr

inductive Token where
  | openBrace
  | closeBrace
  | openBracket
  | closeBracket
  | colon
  | comma
  | null
  | bool (b : Bool)
  | number (n : Number)
  /-- A string, or nothing if its escapes do not name characters. -/
  | string (s : Option Text)
deriving DecidableEq, Repr

/-- The white space of JSON. -/
def isSpace (c : Char) : Bool :=
  c == ' ' || c == '\n' || c == '\t' || c == '\r'

/-- The value of a hexadecimal digit. -/
def hexDigit? (c : Char) : Option Nat :=
  if c.isDigit then some (c.toNat - 48)
  else if 'a' ≤ c ∧ c ≤ 'f' then some (c.toNat - 87)
  else if 'A' ≤ c ∧ c ≤ 'F' then some (c.toNat - 55)
  else none

/-- The value of four hexadecimal digits. -/
def hexQuad? (a b c d : Char) : Option Nat := do
  let a ← hexDigit? a
  let b ← hexDigit? b
  let c ← hexDigit? c
  let d ← hexDigit? d
  some (((a * 16 + b) * 16 + c) * 16 + d)

/-- The character that a one-letter escape stands for. -/
def shortEscape? : Char → Option Char
  | '"' => some '"'
  | '\\' => some '\\'
  | '/' => some '/'
  | 'b' => some '\x08'
  | 'f' => some '\x0c'
  | 'n' => some '\n'
  | 'r' => some '\r'
  | 't' => some '\t'
  | _ => none

/-- A code unit of a string: a character written as such or by a short escape,
or the number of a `\u` escape. -/
inductive StringUnit where
  | char (c : Char)
  | code (n : Nat)
deriving DecidableEq, Repr

/-- The units of a string up to its closing quote, and the text after it.
Control characters have to be escaped. -/
def stringUnits? : Text → Option (List StringUnit × Text)
  | [] => none
  | '"' :: rest => some ([], rest)
  | '\\' :: 'u' :: a :: b :: c :: d :: rest => do
      let n ← hexQuad? a b c d
      let (units, rest) ← stringUnits? rest
      some (.code n :: units, rest)
  | '\\' :: c :: rest => do
      let e ← shortEscape? c
      let (units, rest) ← stringUnits? rest
      some (.char e :: units, rest)
  | c :: rest =>
      if c.toNat < 0x20 ∨ c = '\\' then
        none
      else do
        let (units, rest) ← stringUnits? rest
        some (.char c :: units, rest)

/-- The characters that units stand for: two code units of a surrogate pair make
one character, and half a pair makes none. -/
def unitsText? : List StringUnit → Option Text
  | [] => some []
  | .char c :: units => (unitsText? units).map (c :: ·)
  | .code n :: units =>
      if 0xDC00 ≤ n ∧ n ≤ 0xDFFF then
        none
      else if 0xD800 ≤ n ∧ n ≤ 0xDBFF then
        match units with
        | .code m :: units =>
            if 0xDC00 ≤ m ∧ m ≤ 0xDFFF then
              (unitsText? units).map
                (Char.ofNat (0x10000 + (n - 0xD800) * 0x400 + (m - 0xDC00)) :: ·)
            else
              none
        | _ => none
      else
        (unitsText? units).map (Char.ofNat n :: ·)

/-- Digits at the front of a text, at least one. -/
def digits? (text : Text) : Option (Text × Text) :=
  match Numeral.digitsAtFront text with
  | ([], _) => none
  | front => some front

/-- The number at the front of a text. -/
def number? (text : Text) : Option (Number × Text) := do
  let (negative, text) :=
    match text with
    | '-' :: rest => (true, rest)
    | text => (false, text)
  let (whole, text) ←
    match text with
    | '0' :: rest => if (rest.take 1).any Char.isDigit then none else some (['0'], rest)
    | text => digits? text
  let (fraction, text) ←
    match text with
    | '.' :: rest => (digits? rest).map fun (ds, rest) => (some ds, rest)
    | text => some (none, text)
  let (exponent, text) ←
    match text with
    | c :: rest =>
        if c = 'e' ∨ c = 'E' then
          let (below, rest) :=
            match rest with
            | '-' :: rest => (true, rest)
            | '+' :: rest => (false, rest)
            | rest => (false, rest)
          (digits? rest).map fun (ds, rest) => (some (below, ds), rest)
        else
          some (none, text)
    | [] => some (none, [])
  some (⟨negative, whole, fraction, exponent⟩, text)

/-- A fixed word at the front of a text. -/
def keyword? (text : Text) : Option (Token × Text) :=
  [("null".toList, Token.null), ("true".toList, .bool true), ("false".toList, .bool false)].findSome?
    fun (word, token) => (Text.afterPrefix? word text).map fun rest => (token, rest)

/-- The token at the front of a text that begins with `c`. -/
def token? (c : Char) (rest : Text) : Option (Token × Text) :=
  match c with
  | '\x7b' => some (.openBrace, rest)
  | '\x7d' => some (.closeBrace, rest)
  | '[' => some (.openBracket, rest)
  | ']' => some (.closeBracket, rest)
  | ':' => some (.colon, rest)
  | ',' => some (.comma, rest)
  | '"' => (stringUnits? rest).map fun (units, rest) => (.string (unitsText? units), rest)
  | c =>
      if c = '-' ∨ c.isDigit then
        (number? (c :: rest)).map fun (n, rest) => (.number n, rest)
      else
        keyword? (c :: rest)

/-- The tokens of a text, with `fuel` more of its characters at most. -/
def tokensWithin : (fuel : Nat) → Text → Option (List Token)
  | _, [] => some []
  | 0, _ :: _ => none
  | fuel + 1, c :: rest =>
      if isSpace c then
        tokensWithin fuel rest
      else do
        let (token, rest) ← token? c rest
        let tokens ← tokensWithin fuel rest
        some (token :: tokens)

/-- The tokens of a text.  Every token takes at least one character, so the
length of the text bounds their number. -/
def tokens? (text : Text) : Option (List Token) :=
  tokensWithin text.length text

end Json
end GhciBridge
