import GhciBridge.Text.Blank

/-!
# String literals

The text that ghci prints for a string is a Haskell string literal: characters
between double quotes, with escapes that begin with a backslash.  Decoding takes
one piece after the other; a piece is a plain character or an escape with
everything that belongs to it.
-/

namespace GhciBridge
namespace Literal

/-- The character with a given code point, if there is one. -/
def char? (n : Nat) : Option Char :=
  if n.isValidChar then some (Char.ofNat n) else none

/-- The value of a digit in a base up to sixteen. -/
def digit? (base : Nat) (c : Char) : Option Nat :=
  let value :=
    if '0' ≤ c ∧ c ≤ '9' then some (c.toNat - 48)
    else if 'a' ≤ c ∧ c ≤ 'f' then some (c.toNat - 87)
    else if 'A' ≤ c ∧ c ≤ 'F' then some (c.toNat - 55)
    else none
  value.filter (· < base)

def isDigit (base : Nat) (c : Char) : Bool :=
  (digit? base c).isSome

/-- The value of a run of digits. -/
def valueIn (base : Nat) (digits : Text) : Nat :=
  digits.foldl (fun n c => n * base + (digit? base c).getD 0) 0

/-- A numeric escape: all the digits that follow, at least one. -/
def numeric? (base : Nat) (text : Text) : Option (Text × Text) :=
  let digits := text.takeWhile (isDigit base)
  if digits = [] then none
  else (char? (valueIn base digits)).map fun c => ([c], text.dropWhile (isDigit base))

/-- The names of the control characters in the order of their code points. -/
def controlNames : List Text :=
  ["NUL", "SOH", "STX", "ETX", "EOT", "ENQ", "ACK", "BEL", "BS", "HT", "LF", "VT",
    "FF", "CR", "SO", "SI", "DLE", "DC1", "DC2", "DC3", "DC4", "NAK", "SYN", "ETB",
    "CAN", "EM", "SUB", "ESC", "FS", "GS", "RS", "US", "SP"].map String.toList

/-- The control character of a name. -/
def control? (name : Text) : Option Char :=
  if name = "DEL".toList then some '\x7f'
  else (controlNames.idxOf? name).bind char?

/-- The character of a one-letter escape. -/
def letter? : Char → Option Char
  | 'n' => some '\n'
  | 't' => some '\t'
  | 'r' => some '\r'
  | 'a' => some '\x07'
  | 'b' => some '\x08'
  | 'f' => some '\x0c'
  | 'v' => some '\x0b'
  | '\\' => some '\\'
  | '"' => some '"'
  | '\'' => some '\''
  | _ => none

/-- The characters that an escape denotes, and the text behind it.  The text
given is the one behind the backslash. -/
def escape? : Text → Option (Text × Text)
  | [] => none
  | c :: rest =>
      match letter? c with
      | some d => some ([d], rest)
      | none =>
          if c = '&' then
            some ([], rest)
          else if c = '^' then
            match rest with
            | [] => none
            | d :: rest =>
                if d.toNat < 64 then none
                else (char? (d.toNat - 64)).map fun e => ([e], rest)
          else if c = 'x' then
            numeric? 16 rest
          else if c = 'o' then
            numeric? 8 rest
          else if isDigit 10 c then
            numeric? 10 (c :: rest)
          else if Text.isBlank c then
            some ([], (rest.dropWhile (· ≠ '\\')).drop 1)
          else if c.isUpper then
            (control? (c :: rest.takeWhile Char.isUpper)).map fun d =>
              ([d], rest.dropWhile Char.isUpper)
          else
            none

theorem length_dropWhile_le
    (p : Char → Bool) (text : Text) :
    (text.dropWhile p).length ≤ text.length :=
  (List.dropWhile_suffix p).length_le

/-- A numeric escape leaves less text than it was given. -/
theorem length_of_numeric?
    {base : Nat} {text chars rest : Text}
    (h : numeric? base text = some (chars, rest)) :
    rest.length ≤ text.length := by
  simp only [numeric?] at h
  split at h
  · cases h
  · simp only [Option.map_eq_some_iff, Prod.mk.injEq] at h
    obtain ⟨_, _, _, rfl⟩ := h
    exact length_dropWhile_le _ _

/-- An escape does not reach back in front of the text it was given. -/
theorem length_of_escape?
    {text chars rest : Text}
    (h : escape? text = some (chars, rest)) :
    rest.length ≤ text.length := by
  cases text with
  | nil =>
      simp [escape?] at h
  | cons c text =>
      simp only [escape?] at h
      split at h
      · simp only [Option.some.injEq, Prod.mk.injEq] at h
        simp [← h.2]
      split at h
      · simp only [Option.some.injEq, Prod.mk.injEq] at h
        simp [← h.2]
      split at h
      · split at h
        · cases h
        · split at h
          · cases h
          · simp only [Option.map_eq_some_iff, Prod.mk.injEq] at h
            obtain ⟨_, _, _, rfl⟩ := h
            simp only [List.length_cons]
            omega
      split at h
      · have := length_of_numeric? h
        simp only [List.length_cons]
        omega
      split at h
      · have := length_of_numeric? h
        simp only [List.length_cons]
        omega
      split at h
      · exact length_of_numeric? h
      split at h
      · simp only [Option.some.injEq, Prod.mk.injEq] at h
        have := length_dropWhile_le (fun c => decide (c ≠ '\\')) text
        simp only [← h.2, List.length_drop, List.length_cons]
        omega
      split at h
      · simp only [Option.map_eq_some_iff, Prod.mk.injEq] at h
        obtain ⟨_, _, _, rfl⟩ := h
        have := length_dropWhile_le Char.isUpper text
        simp only [List.length_cons]
        omega
      · cases h

/-- The characters that the text between the quotes denotes.  A quote that no
backslash protects would end the literal early. -/
def body? : Text → Option Text
  | [] => some []
  | c :: text =>
      if c = '\\' then
        match _h : escape? text with
        | none => none
        | some (chars, rest) => (body? rest).map (chars ++ ·)
      else if c = '"' then
        none
      else
        (body? text).map (c :: ·)
termination_by text => text.length
decreasing_by
  · have := length_of_escape? _h
    simp only [List.length_cons]
    omega
  · simp

/-- The string that a literal denotes. -/
def decode? : Text → Option Text
  | [] => none
  | c :: rest =>
      if c = '"' ∧ rest.getLast? = some '"' then body? rest.dropLast else none

end Literal
end GhciBridge
