import GhciBridge.Literal
import GhciBridge.Proofs.Text.Search

/-!
# Decoding one piece of a literal

A literal is decoded piece by piece, so one equation for each form of a piece
decides what every sequence of pieces denotes.  Digits and capitals are read as
far as they go: what an escape denotes can depend on the character behind it.
-/

namespace GhciBridge
namespace Literal

/-- A text between double quotes. -/
def quoted (body : Text) : Text :=
  '"' :: (body ++ ['"'])

/-!
## Bodies
-/

@[simp] theorem body?_nil :
    body? [] = some [] := by
  rw [body?]

theorem body?_plain
    {c : Char} (hbackslash : c ≠ '\\') (hquote : c ≠ '"') (text : Text) :
    body? (c :: text) = (body? text).map (c :: ·) := by
  rw [body?, if_neg hbackslash, if_neg hquote]

theorem body?_escape
    {text chars rest : Text} (h : escape? text = some (chars, rest)) :
    body? ('\\' :: text) = (body? rest).map (chars ++ ·) := by
  rw [body?, if_pos rfl]
  split
  · next hnone =>
      rw [hnone] at h
      cases h
  · next chars' rest' hsome =>
      rw [hsome] at h
      cases h
      rfl

theorem body?_escape_none
    {text : Text} (h : escape? text = none) :
    body? ('\\' :: text) = none := by
  rw [body?, if_pos rfl]
  split
  · rfl
  · next chars' rest' hsome =>
      rw [hsome] at h
      cases h

theorem decode?_quoted
    (text : Text) :
    decode? ('"' :: (text ++ ['"'])) = body? text := by
  simp [decode?]

/-!
## Escapes by a letter, and the empty escape
-/

theorem escape?_letter
    {c d : Char} (h : letter? c = some d) (rest : Text) :
    escape? (c :: rest) = some ([d], rest) := by
  simp only [escape?, h]

theorem escape?_empty
    (rest : Text) :
    escape? ('&' :: rest) = some ([], rest) := rfl

theorem body?_empty
    (rest : Text) :
    body? ('\\' :: '&' :: rest) = body? rest := by
  rw [body?_escape (escape?_empty rest)]
  simp

/-!
## Decimal escapes
-/

theorem digit?_of_isDigit
    {c : Char} (hc : c.isDigit = true) :
    digit? 10 c = some (c.toNat - '0'.toNat) := by
  simp only [Char.isDigit, Bool.and_eq_true, decide_eq_true_eq] at hc
  have hlow : '0' ≤ c := hc.1
  have hhigh : c ≤ '9' := hc.2
  have hcode : c.toNat ≤ 57 := hc.2
  have hlt : c.toNat - 48 < 10 := by omega
  rw [digit?, if_pos ⟨hlow, hhigh⟩]
  simp [Option.filter, hlt]

/-- The digits in base ten are `0` to `9`: letters stand for larger values. -/
theorem isDigit_ten
    (c : Char) :
    isDigit 10 c = c.isDigit := by
  cases hc : c.isDigit with
  | true => rw [isDigit, digit?_of_isDigit hc, Option.isSome_some]
  | false =>
      have hnot : ¬ ('0' ≤ c ∧ c ≤ '9') := by
        rintro ⟨hlow, hhigh⟩
        have hdigit : c.isDigit = true := by
          rw [Char.isDigit, Bool.and_eq_true, decide_eq_true_eq, decide_eq_true_eq]
          exact ⟨hlow, hhigh⟩
        rw [hdigit] at hc
        cases hc
      rw [isDigit, digit?, if_neg hnot]
      split
      · next hletter =>
          have hlow : 97 ≤ c.toNat := hletter.1
          have hlarge : ¬ c.toNat - 87 < 10 := by omega
          simp [Option.filter, hlarge]
      · split
        · next hletter =>
            have hlow : 65 ≤ c.toNat := hletter.1
            have hlarge : ¬ c.toNat - 55 < 10 := by omega
            simp [Option.filter, hlarge]
        · rfl

theorem valueIn_ten
    {digits : Text} (hdigits : ∀ c ∈ digits, c.isDigit = true) :
    valueIn 10 digits = Nat.ofDigitChars 10 digits 0 := by
  rw [valueIn, Nat.ofDigitChars_eq_foldl]
  apply List.foldl_ext
  intro n c hc
  rw [digit?_of_isDigit (hdigits c hc), Option.getD_some, Nat.mul_comm]

theorem numeric?_ofNat
    (n : Nat) {rest : Text} (hrest : ∀ c, rest.head? = some c → c.isDigit = false) :
    numeric? 10 (Text.ofNat n ++ rest) = (char? n).map fun c => ([c], rest) := by
  have hdigits : ∀ c ∈ Text.ofNat n, c.isDigit = true :=
    fun c hc => Nat.isDigit_of_mem_toDigits (by decide) (by decide) hc
  have hfront : ∀ c ∈ Text.ofNat n, isDigit 10 c = true :=
    fun c hc => (isDigit_ten c).trans (hdigits c hc)
  have hspan := Text.takeWhile_append_of_stop hfront fun c hc => (isDigit_ten c).trans (hrest c hc)
  have hne : Text.ofNat n ≠ [] := Nat.toDigits_ne_nil
  have hvalue : valueIn 10 (Text.ofNat n) = n :=
    (valueIn_ten hdigits).trans Nat.ofDigitChars_ten_toDigits
  rw [numeric?, hspan.1, hspan.2, if_neg hne, hvalue]

theorem mem_of_letter?
    {c d : Char} (h : letter? c = some d) :
    c ∈ "ntrabfv\\\"'".toList := by
  unfold letter? at h
  split at h
  all_goals first
    | decide
    | cases h

theorem letter?_eq_none
    {c : Char} (hc : c.isDigit = true ∨ c.isUpper = true) :
    letter? c = none := by
  cases h : letter? c with
  | none => rfl
  | some d =>
      have hall : ("ntrabfv\\\"'".toList.all fun e => !(e.isDigit || e.isUpper)) = true := by
        decide
      have hneither := List.all_eq_true.mp hall c (mem_of_letter? h)
      rw [Bool.not_eq_true', Bool.or_eq_false_iff] at hneither
      rw [hneither.1, hneither.2] at hc
      rcases hc with hc | hc
      · cases hc
      · cases hc

theorem escape?_digit
    {c : Char} (hc : c.isDigit = true) (rest : Text) :
    escape? (c :: rest) = numeric? 10 (c :: rest) := by
  have hother : ∀ e ∈ "&^xo".toList, c ≠ e := by
    rintro e he rfl
    have hall : ("&^xo".toList.all fun e => !e.isDigit) = true := by decide
    have hdigit := List.all_eq_true.mp hall c he
    rw [hc] at hdigit
    cases hdigit
  have hdigit : isDigit 10 c = true := (isDigit_ten c).trans hc
  simp only [escape?, letter?_eq_none (.inl hc), hother '&' (by decide), hother '^' (by decide),
    hother 'x' (by decide), hother 'o' (by decide), hdigit, if_false, if_true]

theorem escape?_ofNat
    (c : Char) {rest : Text} (hrest : ∀ d, rest.head? = some d → d.isDigit = false) :
    escape? (Text.ofNat c.toNat ++ rest) = some ([c], rest) := by
  have hchar : char? c.toNat = some c := by
    rw [char?, if_pos (show c.toNat.isValidChar from c.valid), Char.ofNat_toNat]
  have hdigits : ∀ d ∈ Text.ofNat c.toNat, d.isDigit = true :=
    fun d hd => Nat.isDigit_of_mem_toDigits (by decide) (by decide) hd
  have hnumeric := numeric?_ofNat c.toNat hrest
  rw [hchar, Option.map_some] at hnumeric
  cases hspelled : Text.ofNat c.toNat with
  | nil => exact absurd hspelled Nat.toDigits_ne_nil
  | cons d digits =>
      rw [hspelled] at hdigits hnumeric
      rw [List.cons_append, escape?_digit (hdigits d List.mem_cons_self)]
      exact hnumeric

/-!
## Gaps
-/

theorem escape?_blank
    {c : Char} (hc : Text.isBlank c = true) (rest : Text) :
    escape? (c :: rest) = some ([], (rest.dropWhile (· ≠ '\\')).drop 1) := by
  have hother : ∀ e ∈ "ntrabfv\\\"'&^xo".toList, c ≠ e := by
    intro e he hsame
    have hall : ("ntrabfv\\\"'&^xo".toList.all fun e => !Text.isBlank e) = true := by decide
    have hsolid := List.all_eq_true.mp hall e he
    rw [← hsame, hc] at hsolid
    cases hsolid
  have hletter : letter? c = none := by
    cases h : letter? c with
    | none => rfl
    | some d => exact absurd rfl (hother c (List.mem_append_left "&^xo".toList (mem_of_letter? h)))
  have hdigit : isDigit 10 c = false := by
    rw [isDigit_ten, Char.isDigit, Bool.and_eq_false_iff, decide_eq_false_iff_not,
      decide_eq_false_iff_not, ← not_and_or]
    intro h
    have hlow : 48 ≤ c.toNat := h.1
    have hhigh : c.toNat ≤ 57 := h.2
    simp only [Text.isBlank, Bool.or_eq_true, Bool.and_eq_true, decide_eq_true_eq,
      beq_iff_eq] at hc
    omega
  simp only [escape?, hletter, hother '&' (by decide), hother '^' (by decide),
    hother 'x' (by decide), hother 'o' (by decide), hdigit, hc, if_false, if_true,
    Bool.false_eq_true]

/-!
## Escapes by a name
-/

def names : List Text :=
  "DEL".toList :: controlNames

theorem control?_eq_none
    {name : Text} (h : name ∉ names) :
    control? name = none := by
  rw [names, List.mem_cons, not_or] at h
  have hidx : controlNames.idxOf? name = none := List.idxOf?_eq_none_iff.mpr h.2
  rw [control?, if_neg h.1, hidx, Option.bind_none]

/-- All the capitals behind a backslash count as one name. -/
theorem escape?_upper
    {c : Char} (hc : c.isUpper = true) (rest : Text) :
    escape? (c :: rest) =
      (control? (c :: rest.takeWhile Char.isUpper)).map fun d =>
        ([d], rest.dropWhile Char.isUpper) := by
  have hrange : 'A'.val ≤ c.val ∧ c.val ≤ 'Z'.val := by
    exact of_decide_eq_true hc
  have hlow : 65 ≤ c.toNat := hrange.1
  have hhigh : c.toNat ≤ 90 := hrange.2
  have hother : ∀ e ∈ "&^xo".toList, c ≠ e := by
    rintro e he rfl
    have hall : ("&^xo".toList.all fun e => !e.isUpper) = true := by decide
    have hupper := List.all_eq_true.mp hall c he
    rw [hc] at hupper
    cases hupper
  have hdigit : isDigit 10 c = false := by
    rw [isDigit_ten, Char.isDigit, Bool.and_eq_false_iff, decide_eq_false_iff_not,
      decide_eq_false_iff_not]
    right
    intro hle
    have hsmall : c.toNat ≤ 57 := hle
    omega
  have hblank : Text.isBlank c = false := by
    simp only [Text.isBlank, Bool.or_eq_false_iff, Bool.and_eq_false_iff, beq_eq_false_iff_ne,
      decide_eq_false_iff_not]
    omega
  simp only [escape?, letter?_eq_none (.inr hc), hother '&' (by decide), hother '^' (by decide),
    hother 'x' (by decide), hother 'o' (by decide), hdigit, hblank, hc, if_false, if_true,
    Bool.false_eq_true]

/-- A name is read together with the capitals behind it. -/
theorem escape?_name
    {name : Text} (hne : name ≠ []) (hupper : ∀ c ∈ name, c.isUpper = true) (rest : Text) :
    escape? (name ++ rest) =
      (control? (name ++ rest.takeWhile Char.isUpper)).map fun d =>
        ([d], rest.dropWhile Char.isUpper) := by
  cases name with
  | nil => exact absurd rfl hne
  | cons c name =>
      have hname : ∀ d ∈ name, d.isUpper = true := fun d hd => hupper d (List.mem_cons_of_mem c hd)
      rw [List.cons_append, escape?_upper (hupper c List.mem_cons_self),
        List.takeWhile_append_of_pos hname, List.dropWhile_append_of_pos hname]
      rfl

end Literal
end GhciBridge
