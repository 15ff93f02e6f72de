import GhciBridge.Proofs.Literal.Number
import GhciBridge.Proofs.Literal.Piece
import GhciBridge.Proofs.Text.Trim
import Mathlib.Data.Bool.AllAny

/-!
# Spelled literals

Between its quotes a literal is a sequence of pieces: characters that stand for
themselves and escapes of the Haskell lexical grammar.  A numeric escape and a name are
read as far as figures and capitals go, so the piece behind one of them must not begin
with such a character.  Where that is so, a literal denotes what its pieces denote.
-/

namespace GhciBridge
namespace Literal

/-!
## Pieces
-/

inductive Radix where
  | decimal
  | hexadecimal
  | octal
deriving DecidableEq, Repr

namespace Radix

def base : Radix → Nat
  | decimal => 10
  | hexadecimal => 16
  | octal => 8

/-- The letter in front of the figures. -/
def mark : Radix → Text
  | decimal => []
  | hexadecimal => ['x']
  | octal => ['o']

theorem base_le
    (radix : Radix) :
    radix.base ≤ 16 := by
  cases radix with
  | decimal => decide
  | hexadecimal => decide
  | octal => decide

end Radix

/-- The letters that are escaped, and what they denote then. -/
def letters : List (Char × Char) := [
  ('n', '\n'), ('t', '\t'), ('r', '\r'), ('a', '\x07'), ('b', '\x08'), ('f', '\x0c'),
  ('v', '\x0b'), ('\\', '\\'), ('"', '"'), ('\'', '\'')]

inductive Piece where
  /-- A character that stands for itself. -/
  | plain (c : Char)
  | letter (c : Char)
  /-- The escape that denotes nothing. -/
  | empty
  | caret (c : Char)
  | numeric (radix : Radix) (digits : Text)
  | name (text : Text)
  /-- A break of the literal, with what stands between its backslashes. -/
  | gap (inside : Text)
  /-- A break that the end of the literal cuts off. -/
  | openGap (inside : Text)
deriving DecidableEq, Repr

namespace Piece

def spelled : Piece → Text
  | .plain c => [c]
  | .letter c => ['\\', c]
  | .empty => ['\\', '&']
  | .caret c => ['\\', '^', c]
  | .numeric radix digits => '\\' :: (radix.mark ++ digits)
  | .name text => '\\' :: text
  | .gap inside => '\\' :: (inside ++ ['\\'])
  | .openGap inside => '\\' :: inside

/-- The characters that a piece stands for. -/
def denoted : Piece → Text
  | .plain c => [c]
  | .letter c => (letters.lookup c).toList
  | .empty => []
  | .caret c => [Char.ofNat (c.toNat - 64)]
  | .numeric radix digits => [Char.ofNat (number radix.base digits)]
  | .name text => (control? text).toList
  | .gap _ => []
  | .openGap _ => []

/-- The pieces of the Haskell lexical grammar: each escape is complete, and a number is
that of a character. -/
def IsComplete : Piece → Prop
  | .plain c => c ≠ '"' ∧ c ≠ '\\'
  | .letter c => c ∈ letters.map Prod.fst
  | .empty => True
  | .caret c => '@' ≤ c ∧ c ≤ '_'
  | .numeric radix digits =>
      digits ≠ [] ∧ (∀ c ∈ digits, figure c < radix.base) ∧
        (number radix.base digits).isValidChar
  | .name text => text ∈ names
  | .gap inside => inside ≠ [] ∧ Text.allBlank inside = true
  | .openGap _ => False

/-- The pieces that decoding takes: after a caret any character far enough behind the
control characters, in a gap anything behind a first blank, and of the names those in
capitals alone. -/
def IsRead : Piece → Prop
  | .caret c => 64 ≤ c.toNat ∧ (c.toNat - 64).isValidChar
  | .name text => text ∈ names ∧ ∀ c ∈ text, c.isUpper = true
  | .gap inside => Text.startsBlank inside = true ∧ '\\' ∉ inside
  | .openGap inside => Text.startsBlank inside = true ∧ '\\' ∉ inside
  | piece => piece.IsComplete

/-- The pieces that give their character without a name. -/
def IsExplicit : Piece → Prop
  | .name _ => False
  | piece => piece.IsComplete

/-- Whether a piece ends where the given text begins: the text does not go on with the
figures or the capitals of the piece. -/
def EndsAt : Piece → Text → Prop
  | .numeric radix _, rest => ∀ c ∈ rest.head?, ¬ figure c < radix.base
  | .name _, rest => ∀ c ∈ rest.head?, c.isUpper = false
  | .openGap _, rest => rest = []
  | _, _ => True

instance : DecidablePred IsComplete
  | .plain c => inferInstanceAs (Decidable (c ≠ '"' ∧ c ≠ '\\'))
  | .letter c => inferInstanceAs (Decidable (c ∈ letters.map Prod.fst))
  | .empty => inferInstanceAs (Decidable True)
  | .caret c => inferInstanceAs (Decidable ('@' ≤ c ∧ c ≤ '_'))
  | .numeric radix digits =>
      have : Decidable (∀ c ∈ digits, figure c < radix.base) := List.decidableBAll _ digits
      inferInstanceAs (Decidable (digits ≠ [] ∧ (∀ c ∈ digits, figure c < radix.base) ∧
        (number radix.base digits).isValidChar))
  | .name text => inferInstanceAs (Decidable (text ∈ names))
  | .gap inside => inferInstanceAs (Decidable (inside ≠ [] ∧ Text.allBlank inside = true))
  | .openGap _ => inferInstanceAs (Decidable False)

instance : DecidablePred IsRead
  | .caret c => inferInstanceAs (Decidable (64 ≤ c.toNat ∧ (c.toNat - 64).isValidChar))
  | .name text =>
      have : Decidable (∀ c ∈ text, c.isUpper = true) := List.decidableBAll _ text
      inferInstanceAs (Decidable (text ∈ names ∧ ∀ c ∈ text, c.isUpper = true))
  | .gap inside =>
      inferInstanceAs (Decidable (Text.startsBlank inside = true ∧ '\\' ∉ inside))
  | .openGap inside =>
      inferInstanceAs (Decidable (Text.startsBlank inside = true ∧ '\\' ∉ inside))
  | .plain c => inferInstanceAs (Decidable (IsComplete (.plain c)))
  | .letter c => inferInstanceAs (Decidable (IsComplete (.letter c)))
  | .empty => inferInstanceAs (Decidable (IsComplete .empty))
  | .numeric radix digits => inferInstanceAs (Decidable (IsComplete (.numeric radix digits)))

instance : DecidablePred IsExplicit
  | .name _ => inferInstanceAs (Decidable False)
  | .plain c => inferInstanceAs (Decidable (IsComplete (.plain c)))
  | .letter c => inferInstanceAs (Decidable (IsComplete (.letter c)))
  | .empty => inferInstanceAs (Decidable (IsComplete .empty))
  | .caret c => inferInstanceAs (Decidable (IsComplete (.caret c)))
  | .numeric radix digits => inferInstanceAs (Decidable (IsComplete (.numeric radix digits)))
  | .gap inside => inferInstanceAs (Decidable (IsComplete (.gap inside)))
  | .openGap inside => inferInstanceAs (Decidable (IsComplete (.openGap inside)))

instance (piece : Piece) (rest : Text) : Decidable (piece.EndsAt rest) :=
  match piece with
  | .numeric radix _ =>
      (Option.decidableForallMem _ : Decidable (∀ c ∈ rest.head?, ¬ figure c < radix.base))
  | .name _ => (Option.decidableForallMem _ : Decidable (∀ c ∈ rest.head?, c.isUpper = false))
  | .openGap _ => inferInstanceAs (Decidable (rest = []))
  | .plain _ => inferInstanceAs (Decidable True)
  | .letter _ => inferInstanceAs (Decidable True)
  | .empty => inferInstanceAs (Decidable True)
  | .caret _ => inferInstanceAs (Decidable True)
  | .gap _ => inferInstanceAs (Decidable True)

end Piece

def spelling (pieces : List Piece) : Text :=
  pieces.flatMap Piece.spelled

/-- Sequences in which each piece ends where the next one begins. -/
def Separated : List Piece → Prop
  | [] => True
  | piece :: pieces => piece.EndsAt (spelling pieces) ∧ Separated pieces

instance decidableSeparated : DecidablePred Separated
  | [] => inferInstanceAs (Decidable True)
  | piece :: pieces =>
      have := decidableSeparated pieces
      inferInstanceAs (Decidable (piece.EndsAt (spelling pieces) ∧ Separated pieces))

theorem spelling_cons
    (piece : Piece) (pieces : List Piece) :
    spelling (piece :: pieces) = piece.spelled ++ spelling pieces := (rfl)

/-!
## One piece
-/

theorem lookup_letters
    (c : Char) :
    letters.lookup c = letter? c := by
  by_cases hc : c ∈ letters.map Prod.fst
  · have hall : (letters.map Prod.fst).all (fun c => letters.lookup c == letter? c) = true := by
      decide
    exact beq_iff_eq.mp (List.all_eq_true.mp hall c hc)
  · have hlookup : letters.lookup c = none := by
      rw [List.lookup_eq_none_iff]
      intro pair hpair
      rw [bne_iff_ne]
      intro hsame
      exact hc (hsame ▸ List.mem_map_of_mem hpair)
    cases hletter : letter? c with
    | none => exact hlookup
    | some d => exact absurd (mem_of_letter? hletter) hc

theorem escape?_caret
    {c : Char} (hlow : 64 ≤ c.toNat) (hvalid : (c.toNat - 64).isValidChar) (rest : Text) :
    escape? ('^' :: c :: rest) = some ([Char.ofNat (c.toNat - 64)], rest) := by
  have hnot : ¬ c.toNat < 64 := by omega
  have hchar : char? (c.toNat - 64) = some (Char.ofNat (c.toNat - 64)) := if_pos hvalid
  show (if c.toNat < 64 then none else (char? (c.toNat - 64)).map fun e => ([e], rest)) = _
  rw [if_neg hnot, hchar]
  rfl

theorem numeric?_append
    {base : Nat} (hbase : base ≤ 16) {digits rest : Text} (hne : digits ≠ [])
    (hdigits : ∀ c ∈ digits, figure c < base)
    (hrest : ∀ c, rest.head? = some c → ¬ figure c < base) :
    numeric? base (digits ++ rest) = (char? (number base digits)).map fun c => ([c], rest) := by
  have hfront : ∀ c ∈ digits, isDigit base c = true := fun c hc =>
    (isDigit_iff hbase).mpr (hdigits c hc)
  have hstop : ∀ c, rest.head? = some c → isDigit base c = false := fun c hc =>
    (isDigit_eq_false_iff hbase).mpr (hrest c hc)
  have hspan := Text.takeWhile_append_of_stop hfront hstop
  rw [numeric?, hspan.1, hspan.2, if_neg hne, valueIn_eq_number hbase hdigits]

theorem escape?_radix
    (radix : Radix) {text : Text} (htext : ∃ c rest, text = c :: rest ∧ figure c < radix.base) :
    escape? (radix.mark ++ text) = numeric? radix.base text := by
  cases radix with
  | hexadecimal => rfl
  | octal => rfl
  | decimal =>
      rcases htext with ⟨c, rest, htext, hc⟩
      have hdigit : c.isDigit = true := by
        rw [← isDigit_ten]
        exact (isDigit_iff (Radix.base_le .decimal)).mpr hc
      rw [htext]
      exact escape?_digit hdigit rest

/-- A numeric escape is read as far as its figures go. -/
theorem escape?_numeric
    (radix : Radix) {digits rest : Text} (hne : digits ≠ [])
    (hdigits : ∀ c ∈ digits, figure c < radix.base)
    (hrest : ∀ c, rest.head? = some c → ¬ figure c < radix.base) :
    escape? (radix.mark ++ (digits ++ rest)) =
      (char? (number radix.base digits)).map fun c => ([c], rest) := by
  have hfirst : ∃ c more, digits ++ rest = c :: more ∧ figure c < radix.base := by
    cases digits with
    | nil => exact absurd rfl hne
    | cons c digits => exact ⟨c, digits ++ rest, rfl, hdigits c List.mem_cons_self⟩
  rw [escape?_radix radix hfirst]
  exact numeric?_append radix.base_le hne hdigits hrest

/-- A name without a capital behind it is read as it stands. -/
theorem escape?_control
    {name rest : Text} (hname : name ∈ names) (hupper : ∀ c ∈ name, c.isUpper = true)
    (hrest : ∀ c, rest.head? = some c → c.isUpper = false) :
    escape? (name ++ rest) = some ((control? name).toList, rest) := by
  have hall : names.all (fun name => name ≠ [] ∧ (control? name).isSome = true) = true := by
    decide +kernel
  have hknown := of_decide_eq_true (List.all_eq_true.mp hall name hname)
  rcases Option.isSome_iff_exists.mp hknown.2 with ⟨d, hd⟩
  have hspan := Text.takeWhile_append_of_stop (List.forall_mem_nil _) hrest
  rw [List.nil_append] at hspan
  rw [escape?_name hknown.1 hupper, hspan.1, hspan.2, List.append_nil, hd]
  rfl

/-- What stands between the backslashes of a gap is skipped. -/
theorem escape?_gap
    {inside : Text} (hstart : Text.startsBlank inside = true) (hinside : '\\' ∉ inside)
    (rest : Text) :
    escape? (inside ++ rest) = some ([], (rest.dropWhile (· ≠ '\\')).drop 1) := by
  cases inside with
  | nil => cases hstart
  | cons c inside =>
      have hskip : ∀ d ∈ inside, decide (d ≠ '\\') = true := by
        intro d hd
        rw [decide_eq_true_eq]
        intro hbackslash
        exact hinside (hbackslash ▸ List.mem_cons_of_mem c hd)
      rw [List.cons_append, escape?_blank hstart, List.dropWhile_append_of_pos hskip]

/-- A piece is read as what it denotes, up to where it ends. -/
theorem body?_spelled
    {piece : Piece} (hread : piece.IsRead) {rest : Text} (hend : piece.EndsAt rest) :
    body? (piece.spelled ++ rest) = (body? rest).map (piece.denoted ++ ·) := by
  cases piece with
  | plain c => exact body?_plain hread.2 hread.1 rest
  | letter c =>
      have hall : (letters.map Prod.fst).all (fun c => (letters.lookup c).isSome) = true := by
        decide
      rcases Option.isSome_iff_exists.mp (List.all_eq_true.mp hall c hread) with ⟨d, hd⟩
      have hescape := escape?_letter ((lookup_letters c).symm.trans hd) rest
      have hbody := body?_escape hescape
      rw [Piece.denoted, hd]
      exact hbody
  | empty => exact body?_escape (escape?_empty rest)
  | caret c => exact body?_escape (escape?_caret hread.1 hread.2 rest)
  | numeric radix digits =>
      rcases hread with ⟨hne, hdigits, hvalid⟩
      have hescape := escape?_numeric radix hne hdigits hend
      have hchar : char? (number radix.base digits) = some (Char.ofNat (number radix.base digits)) :=
        if_pos hvalid
      rw [hchar, Option.map_some, ← List.append_assoc] at hescape
      exact body?_escape hescape
  | name name => exact body?_escape (escape?_control hread.1 hread.2 hend)
  | gap inside =>
      have hescape := escape?_gap hread.1 hread.2 ('\\' :: rest)
      have hspelled : inside ++ '\\' :: rest = inside ++ ['\\'] ++ rest := by simp
      rw [hspelled] at hescape
      exact body?_escape hescape
  | openGap inside =>
      have hrest : rest = [] := hend
      have hescape := escape?_gap hread.1 hread.2 rest
      rw [hrest] at hescape ⊢
      exact body?_escape hescape

/-!
## Sequences of pieces
-/

theorem separated_of_append
    {front pieces : List Piece} (h : Separated (front ++ pieces)) :
    Separated pieces := by
  induction front with
  | nil => exact h
  | cons piece front ih => exact ih h.2

/-- Pieces in front of others are read first, and decide nothing about what follows. -/
theorem body?_spelling_append
    {front pieces : List Piece} (hread : ∀ p ∈ front, p.IsRead)
    (hseparated : Separated (front ++ pieces)) :
    body? (spelling (front ++ pieces)) =
      (body? (spelling pieces)).map (front.flatMap Piece.denoted ++ ·) := by
  induction front with
  | nil => exact Option.map_id'.symm
  | cons piece front ih =>
      rw [List.forall_mem_cons] at hread
      have hend : piece.EndsAt (spelling (front ++ pieces)) := hseparated.1
      rw [List.cons_append, spelling_cons, body?_spelled hread.1 hend,
        ih hread.2 hseparated.2, Option.map_map, List.flatMap_cons]
      congr 1
      funext chars
      exact (List.append_assoc ..).symm

theorem body?_spelling
    {pieces : List Piece} (hread : ∀ p ∈ pieces, p.IsRead) (hseparated : Separated pieces) :
    body? (spelling pieces) = some (pieces.flatMap Piece.denoted) := by
  rw [← List.append_nil pieces] at hseparated
  have hbody := body?_spelling_append hread hseparated
  rw [List.append_nil] at hbody
  rw [hbody, spelling, List.flatMap_nil, body?_nil, Option.map_some, List.append_nil]

/-- A number that is not that of a character spoils the literal. -/
theorem body?_numeric_none
    (radix : Radix) {digits rest : Text} (hne : digits ≠ [])
    (hdigits : ∀ c ∈ digits, figure c < radix.base)
    (hend : (Piece.numeric radix digits).EndsAt rest)
    (hinvalid : ¬ (number radix.base digits).isValidChar) :
    body? ((Piece.numeric radix digits).spelled ++ rest) = none := by
  have hescape := escape?_numeric radix hne hdigits hend
  have hchar : char? (number radix.base digits) = none := if_neg hinvalid
  rw [hchar, Option.map_none, ← List.append_assoc] at hescape
  exact body?_escape_none hescape

theorem backslash_of_allBlank
    {text : Text} (h : Text.allBlank text = true) :
    '\\' ∉ text := by
  intro hmem
  have hbackslash := List.all_eq_true.mp h _ hmem
  cases hbackslash

theorem Piece.IsExplicit.isRead
    {piece : Piece} (h : piece.IsExplicit) :
    piece.IsRead := by
  cases piece with
  | plain c => exact h
  | letter c => exact h
  | empty => exact h
  | caret c =>
      have hlow : 64 ≤ c.toNat := h.1
      have hhigh : c.toNat ≤ 95 := h.2
      exact ⟨hlow, .inl (by omega)⟩
  | numeric radix digits => exact h
  | name text => exact h.elim
  | gap inside =>
      exact ⟨Text.startsBlank_of_allBlank h.1 h.2, backslash_of_allBlank h.2⟩
  | openGap inside => exact h.elim

theorem not_isValidChar_iff
    {n : Nat} :
    ¬ n.isValidChar ↔ (0xD800 ≤ n ∧ n ≤ 0xDFFF) ∨ 0x10FFFF < n := by
  unfold Nat.isValidChar
  omega

/-- A literal spelled with explicit pieces denotes what the pieces denote, one after the
other.  With one number of a surrogate or beyond the last character it denotes nothing. -/
theorem explicit_pieces_decoded
    {pieces : List Piece} (hseparated : Separated pieces) :
    ((∀ p ∈ pieces, p.IsExplicit) →
      decode? (quoted (spelling pieces)) = some (pieces.flatMap Piece.denoted)) ∧
    ∀ front radix digits behind, pieces = front ++ .numeric radix digits :: behind →
      (∀ p ∈ front ++ behind, p.IsExplicit) → digits ≠ [] →
      (∀ c ∈ digits, figure c < radix.base) →
      (0xD800 ≤ number radix.base digits ∧ number radix.base digits ≤ 0xDFFF) ∨
        0x10FFFF < number radix.base digits →
      decode? (quoted (spelling pieces)) = none := by
  rw [quoted, decode?_quoted]
  constructor
  · intro hexplicit
    exact body?_spelling (fun p hp => (hexplicit p hp).isRead) hseparated
  · intro front radix digits behind hpieces hexplicit hne hdigits hvalue
    rw [List.forall_mem_append] at hexplicit
    rw [hpieces] at hseparated ⊢
    have hend : (Piece.numeric radix digits).EndsAt (spelling behind) :=
      (separated_of_append hseparated).1
    rw [body?_spelling_append (fun p hp => (hexplicit.1 p hp).isRead) hseparated, spelling_cons,
      body?_numeric_none radix hne hdigits hend (not_isValidChar_iff.mpr hvalue)]
    rfl

/-- Leading zeros, a figure set off from a number, and a number one beyond the words of
32 bits. -/
theorem numbers_decoded_or_refused :
    decode? "\"\\n\\^\\\\0065\\&1\\x43f\\ \t\\\\o101\\\"\"".toList =
        some "\n\x1cA1\u043FA\"".toList ∧
      decode? "\"a\\4294967361z\"".toList = none := by
  have hseparated : Separated [.letter 'n', .caret '\\', .numeric .decimal "0065".toList, .empty,
      .plain '1', .numeric .hexadecimal "43f".toList, .gap " \t".toList,
      .numeric .octal "101".toList, .letter '"'] := by
    decide
  have hlarge : Separated [.plain 'a', .numeric .decimal "4294967361".toList, .plain 'z'] := by
    decide +kernel
  have hfigures : ∀ c ∈ "4294967361".toList, figure c < Radix.decimal.base :=
    List.all_iff_forall_prop.mp (by decide)
  constructor
  · exact (explicit_pieces_decoded hseparated).1 (by decide)
  · exact (explicit_pieces_decoded hlarge).2 [.plain 'a'] .decimal "4294967361".toList
      [.plain 'z'] rfl (by decide) (by decide) hfigures (.inr (by decide))

end Literal
end GhciBridge
