import GhciBridge.Answer.Reading
import GhciBridge.Proofs.Literal.Piece

/-!
# Shown strings

Ghci shows a string as a literal with as few escapes as it can do with.  Control
characters are shown by a letter or by their ASCII name, and an empty escape
stands only where a digit follows a number or an `H` follows `SO`.

Decoding reads a name as far as capitals go.  So it takes back exactly the
literals in which no capital stands behind a name, and in which no name has a
digit.
-/

namespace GhciBridge
namespace Literal

/-!
## How strings are shown
-/

/-- What stands behind the backslash for the characters in front of the space. -/
def controlEscapes : List String :=
  ["NUL", "SOH", "STX", "ETX", "EOT", "ENQ", "ACK", "a", "b", "t", "n", "v", "f", "r",
    "SO", "SI", "DLE", "DC1", "DC2", "DC3", "DC4", "NAK", "SYN", "ETB", "CAN", "EM",
    "SUB", "ESC", "FS", "GS", "RS", "US"]

def isControl (c : Char) : Bool :=
  c.toNat < 0x20 || c.toNat == 0x7F

def controlEscape (c : Char) : Text :=
  ((controlEscapes[c.toNat]?).getD "DEL").toList

/-- A text behind an escape, set off by an empty escape if its first character
would be taken for a part of the escape. -/
def guarded (continues : Char → Bool) (rest : Text) : Text :=
  if rest.head?.any continues then '\\' :: '&' :: rest else rest

/-- A text behind an escape by a name: an `H` behind `SO` would make it `SOH`. -/
def behindName (c : Char) (rest : Text) : Text :=
  if c = '\x0E' then guarded (· == 'H') rest else rest

/-- A character shown in front of a text. -/
def shownChar (c : Char) (rest : Text) : Text :=
  if c = '"' ∨ c = '\\' then
    '\\' :: c :: rest
  else if isControl c then
    '\\' :: (controlEscape c ++ behindName c rest)
  else if c.toNat < 0x7F then
    c :: rest
  else
    '\\' :: (Text.ofNat c.toNat ++ guarded Char.isDigit rest)

def shownBody : Text → Text
  | [] => []
  | c :: text => shownChar c (shownBody text)

/-- A string as ghci shows it. -/
def shown (text : Text) : Text :=
  '"' :: (shownBody text ++ ['"'])

/-!
## What is misread
-/

/-- Whether a character is shown by a name in capitals. -/
def isNamed (c : Char) : Bool :=
  isControl c && !(0x07 ≤ c.toNat && c.toNat ≤ 0x0D)

def isNumbered (c : Char) : Bool :=
  0x11 ≤ c.toNat && c.toNat ≤ 0x14

/-- Whether a character is misread in front of another one: its name has a digit,
or a capital follows the name that is not set off from it. -/
def isMisread (c : Char) (next : Option Char) : Bool :=
  isNamed c &&
    (isNumbered c || (next.any Char.isUpper && !(c == '\x0E' && next.any (· == 'H'))))

def isReadable : Text → Bool
  | [] => true
  | c :: text => !isMisread c text.head? && isReadable text

example : shown "\x0EH\x01\u043F1".toList = "\"\\SO\\&H\\SOH\\1087\\&1\"".toList := by decide

/-!
## The first character of a shown string
-/

/-- Whether a character stands for itself. -/
def isPlain (c : Char) : Bool :=
  0x20 ≤ c.toNat && c.toNat < 0x7F && c != '"' && c != '\\'

theorem shownChar_of_plain
    {c : Char} (hc : isPlain c = true) (rest : Text) :
    shownChar c rest = c :: rest := by
  simp only [isPlain, Bool.and_eq_true, decide_eq_true_eq, bne_iff_ne] at hc
  rcases hc with ⟨⟨⟨hlow, hhigh⟩, hquote⟩, hbackslash⟩
  have hcontrol : isControl c = false := by
    simp only [isControl, Bool.or_eq_false_iff, decide_eq_false_iff_not, beq_eq_false_iff_ne]
    omega
  simp [shownChar, hquote, hbackslash, hcontrol, hhigh]

theorem head?_shownChar_of_not_plain
    {c : Char} (hc : isPlain c = false) (rest : Text) :
    (shownChar c rest).head? = some '\\' := by
  unfold shownChar
  split
  · rfl
  · next hspecial =>
      split
      · rfl
      · next hcontrol =>
          split
          · next hlow =>
              rw [not_or] at hspecial
              simp only [isControl, Bool.or_eq_true, decide_eq_true_eq, beq_iff_eq] at hcontrol
              have hplain : isPlain c = true := by
                simp only [isPlain, Bool.and_eq_true, decide_eq_true_eq, bne_iff_ne]
                exact ⟨⟨⟨by omega, hlow⟩, hspecial.1⟩, hspecial.2⟩
              rw [hplain] at hc
              cases hc
          · rfl

theorem any_head?_shownBody
    {p : Char → Bool} (hp : ∀ c, p c = true → isPlain c = true) (text : Text) :
    (shownBody text).head?.any p = text.head?.any p := by
  cases text with
  | nil => rfl
  | cons c text =>
      rw [shownBody, List.head?_cons, Option.any_some]
      cases hc : isPlain c with
      | true => rw [shownChar_of_plain hc, List.head?_cons, Option.any_some]
      | false =>
          rw [head?_shownChar_of_not_plain hc, Option.any_some]
          have hbackslash : p '\\' = false := by
            by_contra htrue
            exact absurd (hp _ (Bool.of_not_eq_false htrue)) (by decide)
          have hother : p c = false := by
            by_contra htrue
            rw [hp c (Bool.of_not_eq_false htrue)] at hc
            cases hc
          rw [hbackslash, hother]

theorem isPlain_of_isUpper
    {c : Char} (hc : c.isUpper = true) :
    isPlain c = true := by
  have hrange : 'A'.val ≤ c.val ∧ c.val ≤ 'Z'.val := by
    exact of_decide_eq_true hc
  have hlow : 65 ≤ c.toNat := hrange.1
  have hhigh : c.toNat ≤ 90 := hrange.2
  have hquote : c ≠ '"' := by
    rintro rfl
    exact absurd hlow (by decide)
  have hbackslash : c ≠ '\\' := by
    rintro rfl
    exact absurd hhigh (by decide)
  simp only [isPlain, Bool.and_eq_true, decide_eq_true_eq, bne_iff_ne]
  exact ⟨⟨⟨by omega, by omega⟩, hquote⟩, hbackslash⟩

theorem isMisread_shownBody
    (c : Char) (text : Text) :
    isMisread c (shownBody text).head? = isMisread c text.head? := by
  have hupper := any_head?_shownBody (p := Char.isUpper) (fun _ => isPlain_of_isUpper) text
  have hletter := any_head?_shownBody (p := (· == 'H'))
    (fun d hd => by rw [beq_iff_eq.mp hd]; decide) text
  rw [isMisread, isMisread, hupper, hletter]

/-!
## Names of control characters
-/

def controls : List Char :=
  (List.range 0x20 ++ [0x7F]).map Char.ofNat

theorem mem_controls
    {c : Char} (hc : isControl c = true) :
    c ∈ controls := by
  simp only [isControl, Bool.or_eq_true, decide_eq_true_eq, beq_iff_eq] at hc
  rw [controls, List.mem_map]
  refine ⟨c.toNat, ?_, Char.ofNat_toNat c⟩
  rw [List.mem_append, List.mem_range, List.mem_singleton]
  exact hc

theorem isControl_of_isNamed
    {c : Char} (hc : isNamed c = true) :
    isControl c = true := by
  rw [isNamed, Bool.and_eq_true] at hc
  exact hc.1

theorem controlEscape_of_not_isNamed
    {c : Char} (hc : isControl c = true) (hnamed : isNamed c = false) :
    ∃ l, controlEscape c = [l] ∧ letter? l = some c := by
  have hall : (controls.all fun c => isNamed c ||
      ((controlEscape c).tail == [] && (controlEscape c).head?.bind letter? == some c)) = true := by
    decide +kernel
  have hescape := List.all_eq_true.mp hall c (mem_controls hc)
  rw [hnamed, Bool.false_or, Bool.and_eq_true, beq_iff_eq, beq_iff_eq] at hescape
  rcases hescape with ⟨htail, hletter⟩
  cases hspelled : controlEscape c with
  | nil =>
      rw [hspelled] at hletter
      cases hletter
  | cons l rest =>
      rw [hspelled] at htail hletter
      cases htail
      exact ⟨l, rfl, hletter⟩

theorem controlEscape_of_isNumbered
    {c : Char} (hnumbered : isNumbered c = true) :
    c ≠ '\x0E' ∧ ∃ d : Char, d.isUpper = false ∧ controlEscape c = ['D', 'C', d] := by
  simp only [isNumbered, Bool.and_eq_true, decide_eq_true_eq] at hnumbered
  have hcode : c.toNat = 0x11 ∨ c.toNat = 0x12 ∨ c.toNat = 0x13 ∨ c.toNat = 0x14 := by omega
  rw [← Char.ofNat_toNat c]
  rcases hcode with hcode | hcode | hcode | hcode
  · rw [hcode]
    exact ⟨by decide, '1', by decide, by decide⟩
  · rw [hcode]
    exact ⟨by decide, '2', by decide, by decide⟩
  · rw [hcode]
    exact ⟨by decide, '3', by decide, by decide⟩
  · rw [hcode]
    exact ⟨by decide, '4', by decide, by decide⟩

theorem controlEscape_of_isNamed
    {c : Char} (hc : isNamed c = true) (hnumbered : isNumbered c = false) :
    controlEscape c ≠ [] ∧ (controlEscape c).all Char.isUpper = true ∧
      control? (controlEscape c) = some c := by
  have hall : (controls.all fun c => !isNamed c || isNumbered c ||
      decide (controlEscape c ≠ [] ∧ (controlEscape c).all Char.isUpper = true ∧
        control? (controlEscape c) = some c)) = true := by
    decide +kernel
  have hescape := List.all_eq_true.mp hall c (mem_controls (isControl_of_isNamed hc))
  rw [hc, hnumbered, Bool.not_true, Bool.false_or, Bool.false_or, decide_eq_true_eq] at hescape
  exact hescape

/-- No name begins another one, but for `SO` and `SOH`. -/
theorem eq_of_controlEscape_append_mem_names
    {c : Char} {tail : Text} (hc : isNamed c = true) (hne : tail ≠ [])
    (h : controlEscape c ++ tail ∈ names) :
    c = '\x0E' ∧ tail = ['H'] := by
  have hall : (controls.all fun c => !isNamed c || names.all fun name =>
      decide (controlEscape c <+: name →
        name = controlEscape c ∨ (c = '\x0E' ∧ name = controlEscape c ++ ['H']))) = true := by
    decide +kernel
  have hnames := List.all_eq_true.mp hall c (mem_controls (isControl_of_isNamed hc))
  rw [hc, Bool.not_true, Bool.false_or] at hnames
  have hcase := of_decide_eq_true (List.all_eq_true.mp hnames _ h)
  rcases hcase (List.prefix_append _ _) with hsame | ⟨hso, hlonger⟩
  · exact absurd (List.append_right_eq_self.mp hsame) hne
  · exact ⟨hso, List.append_cancel_left hlonger⟩

/-!
## Decoding what was shown
-/

theorem body?_guarded
    (p : Char → Bool) (rest : Text) :
    body? (guarded p rest) = body? rest := by
  unfold guarded
  split
  · exact body?_empty rest
  · rfl

theorem body?_behindName
    (c : Char) (rest : Text) :
    body? (behindName c rest) = body? rest := by
  unfold behindName
  split
  · exact body?_guarded _ rest
  · rfl

theorem any_head?_guarded
    {p q : Char → Bool} (hq : q '\\' = false) (rest : Text) :
    (guarded p rest).head?.any q = (rest.head?.any q && !rest.head?.any p) := by
  unfold guarded
  split
  · next hp => rw [hp, List.head?_cons, Option.any_some, hq, Bool.not_true, Bool.and_false]
  · next hp => rw [eq_false_of_ne_true hp, Bool.not_false, Bool.and_true]

theorem any_head?_behindName
    (c : Char) (rest : Text) :
    (behindName c rest).head?.any Char.isUpper =
      (rest.head?.any Char.isUpper && !(c == '\x0E' && rest.head?.any (· == 'H'))) := by
  unfold behindName
  split
  · next hso =>
      rw [any_head?_guarded (by decide), hso, beq_self_eq_true, Bool.true_and]
  · next hso =>
      rw [beq_eq_false_iff_ne.mpr hso, Bool.false_and, Bool.not_false, Bool.and_true]

theorem body?_shown_numbered
    {c : Char} (hnumbered : isNumbered c = true) (rest : Text) :
    body? ('\\' :: (controlEscape c ++ behindName c rest)) = none := by
  rcases controlEscape_of_isNumbered hnumbered with ⟨hso, d, hd, hescape⟩
  have hunknown : control? ['D', 'C'] = none := control?_eq_none (by decide)
  have hread := escape?_upper (show 'D'.isUpper = true by decide) ('C' :: d :: rest)
  rw [List.takeWhile_cons, if_pos (show 'C'.isUpper = true by decide), List.takeWhile_cons, hd,
    if_neg Bool.false_ne_true, hunknown, Option.map_none] at hread
  apply body?_escape_none
  rw [hescape, behindName, if_neg hso]
  exact hread

theorem body?_shown_named
    {c : Char} (hc : isNamed c = true) (hnumbered : isNumbered c = false) (rest : Text) :
    body? ('\\' :: (controlEscape c ++ behindName c rest)) =
      if (behindName c rest).head?.any Char.isUpper then none
      else (body? rest).map (c :: ·) := by
  rcases controlEscape_of_isNamed hc hnumbered with ⟨hne, hupper, hcontrol⟩
  have hread := escape?_name hne (List.all_eq_true.mp hupper) (behindName c rest)
  split
  · next hcapital =>
      have htail : (behindName c rest).takeWhile Char.isUpper ≠ [] := by
        intro hnil
        cases hbehind : behindName c rest with
        | nil =>
            rw [hbehind] at hcapital
            cases hcapital
        | cons d text =>
            rw [hbehind, List.head?_cons, Option.any_some] at hcapital
            rw [hbehind, List.takeWhile_cons, hcapital] at hnil
            cases hnil
      have hunknown : controlEscape c ++ (behindName c rest).takeWhile Char.isUpper ∉ names := by
        intro hmem
        rcases eq_of_controlEscape_append_mem_names hc htail hmem with ⟨hso, hletter⟩
        have hset : (behindName c rest).head?.any (· == 'H') = false := by
          rw [behindName, if_pos hso, any_head?_guarded (by decide), Bool.and_not_self]
        cases hbehind : behindName c rest with
        | nil =>
            rw [hbehind] at hcapital
            cases hcapital
        | cons d text =>
            rw [hbehind, List.head?_cons, Option.any_some] at hcapital hset
            rw [hbehind, List.takeWhile_cons, hcapital, if_pos rfl, List.cons.injEq] at hletter
            rw [hletter.1] at hset
            cases hset
      apply body?_escape_none
      rw [hread, control?_eq_none hunknown, Option.map_none]
  · next hcapital =>
      have htaken : (behindName c rest).takeWhile Char.isUpper = [] ∧
          (behindName c rest).dropWhile Char.isUpper = behindName c rest := by
        cases hbehind : behindName c rest with
        | nil => exact ⟨rfl, rfl⟩
        | cons d text =>
            rw [hbehind, List.head?_cons, Option.any_some] at hcapital
            rw [List.takeWhile_cons, List.dropWhile_cons, eq_false_of_ne_true hcapital]
            exact ⟨rfl, rfl⟩
      rw [htaken.1, htaken.2, List.append_nil, hcontrol, Option.map_some] at hread
      rw [body?_escape hread, body?_behindName]
      rfl

/-- One shown character is read back, or it spoils the whole literal. -/
theorem body?_shownChar
    (c : Char) (rest : Text) :
    body? (shownChar c rest) =
      if isMisread c rest.head? then none else (body? rest).map (c :: ·) := by
  unfold shownChar
  split
  · next hspecial =>
      have hletter : letter? c = some c ∧ isMisread c rest.head? = false := by
        rcases hspecial with rfl | rfl
        · exact ⟨rfl, rfl⟩
        · exact ⟨rfl, rfl⟩
      rw [body?_escape (escape?_letter hletter.1 rest), hletter.2]
      rfl
  · next hspecial =>
      split
      · next hcontrol =>
          cases hnamed : isNamed c with
          | false =>
              rcases controlEscape_of_not_isNamed hcontrol hnamed with ⟨l, hescape, hletter⟩
              rw [hescape, List.singleton_append, body?_escape (escape?_letter hletter _),
                body?_behindName, isMisread, hnamed]
              rfl
          | true =>
              cases hnumbered : isNumbered c with
              | true =>
                  rw [body?_shown_numbered hnumbered, isMisread, hnamed, hnumbered]
                  rfl
              | false =>
                  rw [body?_shown_named hnamed hnumbered, any_head?_behindName, isMisread,
                    hnamed, hnumbered, Bool.true_and, Bool.false_or]
      · next hcontrol =>
          have hread : isMisread c rest.head? = false := by
            rw [isMisread, isNamed, eq_false_of_ne_true hcontrol]
            rfl
          rw [hread]
          split
          · rw [not_or] at hspecial
            exact body?_plain hspecial.2 hspecial.1 rest
          · have hdigit : ∀ d, (guarded Char.isDigit rest).head? = some d → d.isDigit = false := by
              intro d hd
              have hany := any_head?_guarded (p := Char.isDigit) (q := Char.isDigit) (by decide) rest
              rw [hd, Option.any_some, Bool.and_not_self] at hany
              exact hany
            rw [body?_escape (escape?_ofNat c hdigit), body?_guarded]
            rfl

theorem body?_shownBody
    (text : Text) :
    body? (shownBody text) = if isReadable text then some text else none := by
  induction text with
  | nil => exact body?_nil
  | cons c text ih =>
      rw [shownBody, body?_shownChar, isMisread_shownBody, ih, isReadable]
      cases isMisread c text.head? with
      | true => rfl
      | false =>
          cases isReadable text with
          | true => rfl
          | false => rfl

theorem decode?_shown
    (text : Text) :
    decode? (shown text) = if isReadable text then some text else none := by
  rw [shown, decode?_quoted, body?_shownBody]

/-!
## Shown strings as answers
-/

theorem trim_shown
    (text : Text) :
    Text.trim (shown text) = shown text := by
  have hstart : Text.trimStart (shown text) = shown text :=
    Text.trimStart_eq_self rfl
  have hend : (shown text).reverse.dropWhile Text.isBlank = (shown text).reverse := by
    rw [shown, List.reverse_cons, List.reverse_append, List.reverse_singleton,
      List.singleton_append, List.cons_append, List.dropWhile_cons]
    rfl
  rw [Text.trim, hstart, Text.trimEnd, hend, List.reverse_reverse]

theorem length_shownChar
    (c : Char) (rest : Text) :
    rest.length < (shownChar c rest).length := by
  have hguarded : ∀ p, rest.length ≤ (guarded p rest).length := by
    intro p
    unfold guarded
    split
    · exact Nat.le_add_right _ 2
    · exact Nat.le_refl _
  have hbehind : rest.length ≤ (behindName c rest).length := by
    unfold behindName
    split
    · exact hguarded _
    · exact Nat.le_refl _
  unfold shownChar
  split
  · rw [List.length_cons, List.length_cons]
    omega
  · split
    · rw [List.length_cons, List.length_append]
      omega
    · split
      · exact Nat.lt_succ_self _
      · have hdigits := hguarded Char.isDigit
        rw [List.length_cons, List.length_append]
        omega

theorem shown_ne
    (text : Text) :
    shown text ≠ text := by
  have hbody : text.length ≤ (shownBody text).length := by
    induction text with
    | nil => exact Nat.le_refl _
    | cons c text ih =>
        have hchar := length_shownChar c (shownBody text)
        rw [shownBody, List.length_cons]
        omega
  intro h
  have hlength := congrArg List.length h
  rw [shown, List.length_cons, List.length_append] at hlength
  omega

theorem shown?_shown
    (text : Text) :
    Answer.shown? [shown text] =
      if Diagnostic.isError (shown text) then none
      else some (.output (if isReadable text then text else shown text), []) := by
  have hsome : Answer.shownText [shown text] = if isReadable text then text else shown text := by
    rw [Answer.shownText, trim_shown, decode?_shown]
    split
    · rfl
    · rfl
  have hany : Diagnostic.anyError [shown text] = Diagnostic.isError (shown text) :=
    Bool.or_false _
  rw [Answer.shown?, hsome, hany]
  simp

/-- A shown string comes back exactly if none of its characters is misread, and
is an answer exactly if its literal does not look like the report of an error. -/
theorem shown_read_back_iff
    (text : Text) :
    decode? (shown text) = (if isReadable text then some text else none) ∧
      Answer.shown? [shown text] =
        (if Diagnostic.isError (shown text) then none
          else some (.output (if isReadable text then text else shown text), [])) ∧
      (Answer.shown? [shown text] = some (.output text, []) ↔
        isReadable text = true ∧ Diagnostic.isError (shown text) = false) := by
  refine ⟨decode?_shown text, shown?_shown text, ?_⟩
  rw [shown?_shown]
  cases herror : Diagnostic.isError (shown text) with
  | true => simp
  | false =>
      cases hreadable : isReadable text with
      | true => simp
      | false => simp [shown_ne text]

/-- A numbered name, a capital behind a name, and a place in front of the word
`error` each lose a string. -/
theorem shown_lost :
    decode? (shown ['\x11']) = none ∧
      decode? (shown ['\x00', 'A']) = none ∧
      Answer.shown? [shown "A.hs:1:1: error: bad".toList] = none := by
  refine ⟨?_, ?_, ?_⟩
  · rw [decode?_shown]
    rfl
  · rw [decode?_shown]
    rfl
  · rw [shown?_shown]
    rfl

end Literal
end GhciBridge
