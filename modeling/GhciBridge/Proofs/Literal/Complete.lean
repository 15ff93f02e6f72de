import GhciBridge.Proofs.Literal.Spelling

/-!
# What is taken for a literal

Decoding takes more than the complete literals: a caret may stand in front of any
character from `@` on, a gap may hold anything behind its first blank, and the end of the
literal may cut it off.  These are the only ways in which a text that is decoded can fail
to be a literal, and none of them ever is one: the character behind its backslash decides
the form of an escape.
-/

namespace GhciBridge
namespace Literal

/-- A text of complete pieces. -/
def IsBody (body : Text) : Prop :=
  ∃ pieces : List Piece, (∀ p ∈ pieces, p.IsComplete) ∧ body = spelling pieces

/-- A complete string literal. -/
def IsLiteral (text : Text) : Prop :=
  ∃ body, IsBody body ∧ text = quoted body

/-!
## Every text that is decoded has pieces
-/

theorem numeric?_eq_some
    {radix : Radix} {text chars rest : Text}
    (h : numeric? radix.base text = some (chars, rest)) :
    ∃ digits, text = digits ++ rest ∧ (Piece.numeric radix digits).IsRead ∧
      chars = (Piece.numeric radix digits).denoted ∧
      (Piece.numeric radix digits).EndsAt rest := by
  have hdigits : ∀ c ∈ text.takeWhile (isDigit radix.base), figure c < radix.base := fun c hc =>
    (isDigit_iff radix.base_le).mp (List.all_eq_true.mp List.all_takeWhile c hc)
  have hend : (Piece.numeric radix (text.takeWhile (isDigit radix.base))).EndsAt
      (text.dropWhile (isDigit radix.base)) := by
    intro c hc
    have hstop := List.head?_dropWhile_not (isDigit radix.base) text
    rw [hc] at hstop
    exact (isDigit_eq_false_iff radix.base_le).mp hstop
  rw [numeric?, valueIn_eq_number radix.base_le hdigits] at h
  split at h
  · cases h
  · next hne =>
      rcases Option.map_eq_some_iff.mp h with ⟨c, hchar, hpair⟩
      rw [char?, Option.ite_none_right_eq_some] at hchar
      rcases hchar with ⟨hvalid, hc⟩
      cases hc
      cases hpair
      exact ⟨_, List.takeWhile_append_dropWhile.symm, ⟨hne, hdigits, hvalid⟩, rfl, hend⟩

theorem exists_gap
    {c : Char} (hc : Text.isBlank c = true) (text : Text) :
    ∃ piece : Piece, piece.IsRead ∧ piece.denoted = [] ∧
      '\\' :: c :: text = piece.spelled ++ (text.dropWhile (· ≠ '\\')).drop 1 ∧
      piece.EndsAt ((text.dropWhile (· ≠ '\\')).drop 1) := by
  have hfirst : '\\' ≠ c := by
    intro hbackslash
    rw [← hbackslash] at hc
    cases hc
  have htext : text.takeWhile (· ≠ '\\') ++ text.dropWhile (· ≠ '\\') = text :=
    List.takeWhile_append_dropWhile
  have hfront : '\\' ∉ text.takeWhile (· ≠ '\\') := by
    intro hmem
    have hother := List.all_eq_true.mp List.all_takeWhile _ hmem
    exact of_decide_eq_true hother rfl
  have hinside : '\\' ∉ c :: text.takeWhile (· ≠ '\\') := by
    rw [List.mem_cons, not_or]
    exact ⟨hfirst, hfront⟩
  cases hrest : text.dropWhile (· ≠ '\\') with
  | nil =>
      rw [hrest, List.append_nil] at htext
      rw [htext] at hinside
      exact ⟨.openGap (c :: text), ⟨hc, hinside⟩, rfl, (List.append_nil _).symm, rfl⟩
  | cons d rest =>
      have hd := List.head?_dropWhile_not (· ≠ '\\') text
      rw [hrest] at hd htext
      have hbackslash : d = '\\' := by
        by_contra hother
        rw [List.head?_cons] at hd
        exact absurd (decide_eq_true hother) (ne_true_of_eq_false hd)
      have hspelled : '\\' :: c :: text =
          '\\' :: (c :: text.takeWhile (· ≠ '\\') ++ '\\' :: rest) := by
        rw [hbackslash] at htext
        rw [List.cons_append, htext]
      refine ⟨.gap (c :: text.takeWhile (· ≠ '\\')), ⟨hc, hinside⟩, rfl, ?_, trivial⟩
      rw [hspelled]
      simp [Piece.spelled]

theorem exists_name
    {c d : Char} {text : Text} (hc : c.isUpper = true)
    (hd : control? (c :: text.takeWhile Char.isUpper) = some d) :
    ∃ piece : Piece, piece.IsRead ∧ piece.denoted = [d] ∧
      '\\' :: c :: text = piece.spelled ++ text.dropWhile Char.isUpper ∧
      piece.EndsAt (text.dropWhile Char.isUpper) := by
  have hname : c :: text.takeWhile Char.isUpper ∈ names := by
    by_contra hnot
    rw [control?_eq_none hnot] at hd
    cases hd
  have hupper : ∀ e ∈ c :: text.takeWhile Char.isUpper, e.isUpper = true :=
    List.forall_mem_cons.mpr ⟨hc, List.all_eq_true.mp List.all_takeWhile⟩
  have hend : ∀ e ∈ (text.dropWhile Char.isUpper).head?, e.isUpper = false := by
    intro e he
    have hstop := List.head?_dropWhile_not Char.isUpper text
    rw [he] at hstop
    exact hstop
  refine ⟨.name (c :: text.takeWhile Char.isUpper), ⟨hname, hupper⟩, ?_, ?_, hend⟩
  · rw [Piece.denoted, hd]
    rfl
  · rw [Piece.spelled, List.cons_append, List.cons_append, List.takeWhile_append_dropWhile]

/-- An escape that is read is that of a piece. -/
theorem exists_piece_of_escape?
    {text chars rest : Text} (h : escape? text = some (chars, rest)) :
    ∃ piece : Piece, piece.IsRead ∧ piece.denoted = chars ∧
      '\\' :: text = piece.spelled ++ rest ∧ piece.EndsAt rest := by
  cases text with
  | nil => cases h
  | cons c text =>
      simp only [escape?] at h
      split at h
      · next d hletter =>
          cases h
          refine ⟨.letter c, mem_of_letter? hletter, ?_, rfl, trivial⟩
          rw [Piece.denoted, lookup_letters, hletter]
          rfl
      split at h
      · next hempty =>
          cases h
          rw [hempty]
          exact ⟨.empty, trivial, rfl, rfl, trivial⟩
      split at h
      · next hcaret =>
          rw [hcaret]
          split at h
          · cases h
          · next d behind =>
              split at h
              · cases h
              · next hlow =>
                  rcases Option.map_eq_some_iff.mp h with ⟨e, hchar, hpair⟩
                  rw [char?, Option.ite_none_right_eq_some] at hchar
                  rcases hchar with ⟨hvalid, he⟩
                  cases he
                  cases hpair
                  exact ⟨.caret d, ⟨Nat.le_of_not_lt hlow, hvalid⟩, rfl, rfl, trivial⟩
      split at h
      · next hmark =>
          rcases @numeric?_eq_some .hexadecimal _ _ _ h with ⟨digits, htext, hread, hchars, hend⟩
          rw [hmark, htext]
          exact ⟨_, hread, hchars.symm, rfl, hend⟩
      split at h
      · next hmark =>
          rcases @numeric?_eq_some .octal _ _ _ h with ⟨digits, htext, hread, hchars, hend⟩
          rw [hmark, htext]
          exact ⟨_, hread, hchars.symm, rfl, hend⟩
      split at h
      · rcases @numeric?_eq_some .decimal _ _ _ h with ⟨digits, htext, hread, hchars, hend⟩
        rw [htext]
        exact ⟨_, hread, hchars.symm, rfl, hend⟩
      split at h
      · next hblank =>
          cases h
          exact exists_gap hblank text
      split at h
      · next hupper =>
          rcases Option.map_eq_some_iff.mp h with ⟨d, hd, hpair⟩
          cases hpair
          exact exists_name hupper hd
      · cases h

theorem exists_pieces_of_body?
    {text chars : Text} (h : body? text = some chars) :
    ∃ pieces : List Piece, (∀ p ∈ pieces, p.IsRead) ∧ Separated pieces ∧
      text = spelling pieces ∧ chars = pieces.flatMap Piece.denoted := by
  fun_induction body? text generalizing chars with
  | case1 =>
      cases h
      exact ⟨[], List.forall_mem_nil _, trivial, rfl, rfl⟩
  | case2 text hescape => cases h
  | case3 text front rest hescape ih =>
      rcases Option.map_eq_some_iff.mp h with ⟨behind, hbehind, hchars⟩
      rcases ih hbehind with ⟨pieces, hread, hseparated, hrest, hdenoted⟩
      rcases exists_piece_of_escape? hescape with ⟨piece, hpiece, hfront, htext, hend⟩
      rw [hrest] at hend
      refine ⟨piece :: pieces, List.forall_mem_cons.mpr ⟨hpiece, hread⟩, ⟨hend, hseparated⟩, ?_, ?_⟩
      · rw [htext, hrest, spelling_cons]
      · rw [List.flatMap_cons, hfront, ← hdenoted, hchars]
  | case4 text _ => cases h
  | case5 c text hbackslash hquote ih =>
      rcases Option.map_eq_some_iff.mp h with ⟨behind, hbehind, hchars⟩
      rcases ih hbehind with ⟨pieces, hread, hseparated, hrest, hdenoted⟩
      have hplain : (Piece.plain c).IsRead := ⟨hquote, hbackslash⟩
      refine ⟨.plain c :: pieces, List.forall_mem_cons.mpr ⟨hplain, hread⟩,
        ⟨trivial, hseparated⟩, ?_, ?_⟩
      · rw [hrest, spelling_cons]
        rfl
      · rw [List.flatMap_cons, ← hdenoted, ← hchars]
        rfl

/-!
## The form of an escape
-/

inductive Form where
  | plain
  | letter
  | empty
  | caret
  | numeric (radix : Radix)
  | name
  | gap
deriving DecidableEq

def Piece.form : Piece → Form
  | .plain _ => .plain
  | .letter _ => .letter
  | .empty => .empty
  | .caret _ => .caret
  | .numeric radix _ => .numeric radix
  | .name _ => .name
  | .gap _ => .gap
  | .openGap _ => .gap

/-- The form of the escape with this character behind its backslash. -/
def escapeForm? (c : Char) : Option Form :=
  if Text.isBlank c then some .gap
  else if c ∈ letters.map Prod.fst then some .letter
  else if c = '&' then some .empty
  else if c = '^' then some .caret
  else if c = 'x' then some (.numeric .hexadecimal)
  else if c = 'o' then some (.numeric .octal)
  else if figure c < 10 then some (.numeric .decimal)
  else if c.isUpper then some .name
  else none

/-- The form of the piece that a text begins with. -/
def form? : Text → Option Form
  | [] => none
  | c :: text => if c = '\\' then text.head?.bind escapeForm? else some .plain

theorem escapeForm?_letter
    {c : Char} (hc : c ∈ letters.map Prod.fst) :
    escapeForm? c = some .letter := by
  have hall : ((letters.map Prod.fst).all fun c => escapeForm? c == some .letter) = true := by
    decide
  exact beq_iff_eq.mp (List.all_eq_true.mp hall c hc)

theorem escapeForm?_figure
    {c : Char} (hc : figure c < 10) :
    escapeForm? c = some (.numeric .decimal) := by
  have hascii : c.toNat < 0x80 := by
    by_contra hnot
    rw [figure_of_not_ascii hnot] at hc
    omega
  have hall : (ascii.all fun c =>
      decide (figure c < 10 → escapeForm? c = some (.numeric .decimal))) = true := by
    decide +kernel
  exact of_decide_eq_true (List.all_eq_true.mp hall c (mem_ascii hascii)) hc

theorem exists_head_of_mem_names
    {name : Text} (hname : name ∈ names) :
    ∃ c rest, name = c :: rest ∧ escapeForm? c = some .name := by
  have hall : (names.all fun name =>
      name.head?.bind escapeForm? == some .name) = true := by
    decide +kernel
  have hhead := beq_iff_eq.mp (List.all_eq_true.mp hall name hname)
  cases name with
  | nil => cases hhead
  | cons c rest => exact ⟨c, rest, rfl, hhead⟩

theorem form?_gap
    {inside : Text} (h : Text.startsBlank inside = true) (rest : Text) :
    form? ('\\' :: (inside ++ rest)) = some .gap := by
  cases inside with
  | nil => cases h
  | cons c inside => exact if_pos h

/-- A text that begins with a piece begins with its form. -/
theorem form?_spelled
    {piece : Piece} (h : piece.IsRead ∨ piece.IsComplete) (rest : Text) :
    form? (piece.spelled ++ rest) = some piece.form := by
  cases piece with
  | plain c =>
      have hbackslash : c ≠ '\\' := h.elim And.right And.right
      exact if_neg hbackslash
  | letter c => exact escapeForm?_letter (h.elim id id)
  | empty => rfl
  | caret c => rfl
  | numeric radix digits =>
      have hnumeric : (Piece.numeric radix digits).IsComplete := h.elim id id
      cases radix with
      | hexadecimal => rfl
      | octal => rfl
      | decimal =>
          cases digits with
          | nil => exact absurd rfl hnumeric.1
          | cons d digits => exact escapeForm?_figure (hnumeric.2.1 d List.mem_cons_self)
  | name text =>
      have hname : text ∈ names := h.elim And.left id
      rcases exists_head_of_mem_names hname with ⟨c, behind, htext, hform⟩
      rw [htext]
      exact hform
  | gap inside =>
      have hblank : Text.startsBlank inside = true :=
        h.elim And.left fun hgap => Text.startsBlank_of_allBlank hgap.1 hgap.2
      have hform := form?_gap hblank ('\\' :: rest)
      rw [Piece.spelled, List.cons_append, List.append_assoc]
      exact hform
  | openGap inside => exact form?_gap (h.elim And.left False.elim) rest

/-!
## Loose pieces
-/

/-- The first piece of a text of complete pieces has the form that the text begins
with. -/
theorem IsBody.exists_cons
    {text : Text} {form : Form} (h : IsBody text) (hform : form? text = some form) :
    ∃ piece : Piece, ∃ rest, piece.IsComplete ∧ piece.form = form ∧
      text = piece.spelled ++ rest ∧ IsBody rest := by
  rcases h with ⟨pieces, hcomplete, htext⟩
  cases pieces with
  | nil =>
      rw [htext] at hform
      cases hform
  | cons piece pieces =>
      rw [List.forall_mem_cons] at hcomplete
      rw [spelling_cons] at htext
      rw [htext, form?_spelled (.inr hcomplete.1)] at hform
      exact ⟨piece, spelling pieces, hcomplete.1, Option.some.inj hform, htext,
        ⟨pieces, hcomplete.2, rfl⟩⟩

/-- Characters that begin no escape are pieces of their own. -/
theorem isBody_of_append
    {run rest : Text} (hrun : '\\' ∉ run) (h : IsBody (run ++ rest)) :
    IsBody rest := by
  induction run with
  | nil => exact h
  | cons c run ih =>
      rw [List.mem_cons, not_or] at hrun
      have hform : form? (c :: run ++ rest) = some .plain := if_neg fun hc => hrun.1 hc.symm
      rcases h.exists_cons hform with ⟨piece, behind, _, hpiece, htext, hbody⟩
      cases piece with
      | plain d =>
          cases htext
          exact ih hrun.2 hbody
      | _ => cases hpiece

/-- Of two runs in front of the same text the one that goes as far as possible is the
longer. -/
theorem exists_run
    {p : Char → Prop} {long short rest behind : Text} (hshort : ∀ c ∈ short, p c)
    (hrest : ∀ c ∈ rest.head?, ¬ p c) (h : long ++ rest = short ++ behind) :
    ∃ run, long = short ++ run ∧ behind = run ++ rest := by
  rcases List.append_eq_append_iff.mp h with ⟨run, hsame, hbehind⟩ | ⟨run, hsame, hbehind⟩
  · cases run with
    | nil =>
        rw [List.append_nil] at hsame
        exact ⟨[], by rw [hsame, List.append_nil], hbehind.symm⟩
    | cons c run =>
        have hc : p c := hshort c (hsame ▸ List.mem_append_right long List.mem_cons_self)
        rw [hbehind] at hrest
        exact absurd hc (hrest c rfl)
  · exact ⟨run, hsame, hbehind⟩

theorem backslash_of_figure
    {base : Nat} (hbase : base ≤ 16) {run : Text} (hrun : ∀ c ∈ run, figure c < base) :
    '\\' ∉ run := by
  intro hmem
  have hfigure := hrun _ hmem
  have hbackslash : figure '\\' = 16 := by decide
  omega

theorem complete_name
    {text other rest behind : Text} (htext : text ∈ names) (hupper : ∀ c ∈ text, c.isUpper = true)
    (hother : other ∈ names) (hrest : ∀ c ∈ rest.head?, c.isUpper = false)
    (h : text ++ rest = other ++ behind) :
    ∃ run, text = other ++ run ∧ behind = run ++ rest := by
  -- the only names that go on with another character are those that go on with a capital
  have hall : (names.all fun name => names.all fun other =>
      decide (name <+: other → name.length < other.length → name.all Char.isUpper = true →
        (other.drop name.length).head?.any Char.isUpper = true)) = true := by
    decide +kernel
  have hlonger := of_decide_eq_true
    (List.all_eq_true.mp (List.all_eq_true.mp hall text htext) other hother)
  rcases List.append_eq_append_iff.mp h with ⟨run, hsame, hbehind⟩ | ⟨run, hsame, hbehind⟩
  · cases run with
    | nil =>
        rw [List.append_nil] at hsame
        exact ⟨[], by rw [hsame, List.append_nil], hbehind.symm⟩
    | cons c run =>
        have hc := hlonger ⟨c :: run, hsame.symm⟩ (by simp [hsame]) (List.all_eq_true.mpr hupper)
        rw [hsame, List.drop_left, List.head?_cons, Option.any_some] at hc
        rw [hbehind] at hrest
        rw [hrest c rfl] at hc
        cases hc
  · exact ⟨run, hsame, hbehind⟩

/-- If a text of complete pieces begins with a piece that is read, then that piece is
complete and what is behind it has complete pieces. -/
theorem complete_of_isBody
    {piece : Piece} (hread : piece.IsRead) {rest : Text} (hend : piece.EndsAt rest)
    (h : IsBody (piece.spelled ++ rest)) :
    piece.IsComplete ∧ IsBody rest := by
  rcases h.exists_cons (form?_spelled (.inl hread) rest) with
    ⟨other, behind, hother, hform, htext, hbody⟩
  cases piece with
  | plain c =>
      cases other with
      | plain d =>
          cases htext
          exact ⟨hread, hbody⟩
      | _ => cases hform
  | letter c =>
      cases other with
      | letter d =>
          cases htext
          exact ⟨hread, hbody⟩
      | _ => cases hform
  | empty =>
      cases other with
      | empty =>
          cases htext
          exact ⟨trivial, hbody⟩
      | _ => cases hform
  | caret c =>
      cases other with
      | caret d =>
          cases htext
          exact ⟨hother, hbody⟩
      | _ => cases hform
  | numeric radix digits =>
      cases other with
      | numeric radix' digits' =>
          cases hform
          have hdigits : digits ++ rest = digits' ++ behind := by
            simpa [Piece.spelled] using htext
          rcases exists_run hother.2.1 hend hdigits with ⟨run, hlong, hbehind⟩
          rw [hbehind] at hbody
          have hrun : ∀ c ∈ run, figure c < radix.base := fun c hc =>
            hread.2.1 c (hlong ▸ List.mem_append_right digits' hc)
          exact ⟨hread, isBody_of_append (backslash_of_figure radix.base_le hrun) hbody⟩
      | _ => cases hform
  | name text =>
      cases other with
      | name text' =>
          have hname : text ++ rest = text' ++ behind := by
            simpa [Piece.spelled] using htext
          rcases complete_name hread.1 hread.2 hother hend hname with ⟨run, hlong, hbehind⟩
          rw [hbehind] at hbody
          have hrun : '\\' ∉ run := by
            intro hmem
            have hupper := hread.2 _ (hlong ▸ List.mem_append_right text' hmem)
            cases hupper
          exact ⟨hread.1, isBody_of_append hrun hbody⟩
      | _ => cases hform
  | gap inside =>
      cases other with
      | gap inside' =>
          have hinside : inside ++ '\\' :: rest = inside' ++ '\\' :: behind := by
            simpa [Piece.spelled] using htext
          have hblank : ∀ c ∈ inside', c ≠ '\\' := fun c hc hbackslash =>
            backslash_of_allBlank hother.2 (hbackslash ▸ hc)
          have hstop : ∀ c ∈ ('\\' :: rest).head?, ¬ c ≠ '\\' := by
            intro c hc
            cases hc
            exact fun hne => hne rfl
          rcases exists_run hblank hstop hinside with ⟨run, hlong, hbehind⟩
          cases run with
          | nil =>
              cases hbehind
              rw [List.append_nil] at hlong
              exact ⟨hlong ▸ hother, hbody⟩
          | cons c run =>
              cases hbehind
              exact absurd (hlong ▸ List.mem_append_right inside' List.mem_cons_self) hread.2
      | openGap inside' => exact hother.elim
      | _ => cases hform
  | openGap inside =>
      cases other with
      | gap inside' =>
          have hrest : rest = [] := hend
          have hmem : '\\' ∈ inside := by
            have hinside : inside = inside' ++ '\\' :: behind := by
              simpa [Piece.spelled, hrest] using htext
            rw [hinside]
            exact List.mem_append_right inside' List.mem_cons_self
          exact absurd hmem hread.2
      | openGap inside' => exact hother.elim
      | _ => cases hform

theorem isBody_spelling_iff
    {pieces : List Piece} (hread : ∀ p ∈ pieces, p.IsRead) (hseparated : Separated pieces) :
    IsBody (spelling pieces) ↔ ∀ p ∈ pieces, p.IsComplete := by
  constructor
  · intro h
    induction pieces with
    | nil => exact List.forall_mem_nil _
    | cons piece pieces ih =>
        rw [List.forall_mem_cons] at hread
        rw [spelling_cons] at h
        rcases complete_of_isBody hread.1 hseparated.1 h with ⟨hcomplete, hbody⟩
        exact List.forall_mem_cons.mpr ⟨hcomplete, ih hread.2 hseparated.2 hbody⟩
  · intro hcomplete
    exact ⟨pieces, hcomplete, rfl⟩

/-!
## Decoded texts
-/

theorem quoted_inj
    {body other : Text} :
    quoted body = quoted other ↔ body = other := by
  rw [quoted, quoted, List.cons_inj_right, List.append_left_inj]

theorem decode?_eq_some_iff
    {text chars : Text} :
    decode? text = some chars ↔ ∃ body, text = quoted body ∧ body? body = some chars := by
  constructor
  · intro h
    cases text with
    | nil => cases h
    | cons c rest =>
        rw [decode?, Option.ite_none_right_eq_some] at h
        rcases h with ⟨⟨hc, hlast⟩, hbody⟩
        rcases List.getLast?_eq_some_iff.mp hlast with ⟨body, hrest⟩
        rw [hrest, List.dropLast_concat] at hbody
        exact ⟨body, by rw [hc, hrest]; rfl, hbody⟩
  · intro h
    rcases h with ⟨body, htext, hbody⟩
    rw [htext, quoted, decode?_quoted]
    exact hbody

theorem isLiteral_quoted_iff
    {body : Text} :
    IsLiteral (quoted body) ↔ IsBody body := by
  constructor
  · intro h
    rcases h with ⟨other, hbody, hsame⟩
    rw [quoted_inj.mp hsame]
    exact hbody
  · intro h
    exact ⟨body, h, rfl⟩

section Pieces

variable {pieces : List Piece} (hread : ∀ p ∈ pieces, p.IsRead) (hseparated : Separated pieces)

include hread hseparated

theorem decode?_spelling :
    decode? (quoted (spelling pieces)) = some (pieces.flatMap Piece.denoted) := by
  rw [quoted, decode?_quoted]
  exact body?_spelling hread hseparated

theorem isLiteral_spelling_iff :
    IsLiteral (quoted (spelling pieces)) ↔ ∀ p ∈ pieces, p.IsComplete := by
  rw [isLiteral_quoted_iff]
  exact isBody_spelling_iff hread hseparated

end Pieces

/-- A text is decoded exactly if it is a quote, pieces that are read each up to where it
ends, and a quote.  It is a complete literal exactly if all these pieces are complete. -/
theorem decoded_iff
    (text : Text) :
    (∀ chars, decode? text = some chars ↔
      ∃ pieces : List Piece, (∀ p ∈ pieces, p.IsRead) ∧ Separated pieces ∧
        text = quoted (spelling pieces) ∧ chars = pieces.flatMap Piece.denoted) ∧
    ∀ pieces : List Piece, (∀ p ∈ pieces, p.IsRead) → Separated pieces →
      text = quoted (spelling pieces) →
      (IsLiteral text ↔ ∀ p ∈ pieces, p.IsComplete) := by
  constructor
  · intro chars
    constructor
    · intro h
      rcases decode?_eq_some_iff.mp h with ⟨body, htext, hbody⟩
      rcases exists_pieces_of_body? hbody with ⟨pieces, hread, hseparated, hspelled, hchars⟩
      exact ⟨pieces, hread, hseparated, by rw [htext, hspelled], hchars⟩
    · intro h
      rcases h with ⟨pieces, hread, hseparated, htext, hchars⟩
      rw [htext, hchars]
      exact decode?_spelling hread hseparated
  · intro pieces hread hseparated htext
    rw [htext]
    exact isLiteral_spelling_iff hread hseparated

/-- A name set off from what follows, a number, and a break of the literal. -/
theorem escapes_of_literal :
    let text := "\"a\\SOH\\&9\\233\\ \n \\\"".toList
    decode? text = some "a\x019é".toList ∧ IsLiteral text := by
  intro text
  have hread : ∀ p ∈ [Piece.plain 'a', .name "SOH".toList, .empty, .plain '9',
      .numeric .decimal "233".toList, .gap " \n ".toList], p.IsRead := by
    decide
  have hseparated : Separated [.plain 'a', .name "SOH".toList, .empty, .plain '9',
      .numeric .decimal "233".toList, .gap " \n ".toList] := by
    decide
  have hdecoded := decoded_iff text
  constructor
  · exact (hdecoded.1 _).mpr ⟨_, hread, hseparated, rfl, rfl⟩
  · exact (hdecoded.2 _ hread hseparated rfl).mpr (by decide)

/-- A break that the end cuts off, a break with a letter in it, and a caret in front of a
small letter: three texts that are decoded and are no literals. -/
theorem loose_pieces_decoded :
    (decode? "\"\\ \"".toList = some [] ∧ ¬ IsLiteral "\"\\ \"".toList) ∧
    (decode? "\"\\ a\\\"".toList = some [] ∧ ¬ IsLiteral "\"\\ a\\\"".toList) ∧
    (decode? "\"\\^a\"".toList = some ['!'] ∧ ¬ IsLiteral "\"\\^a\"".toList) := by
  have hloose : ∀ piece : Piece, piece.IsRead → piece.EndsAt [] → ¬ piece.IsComplete →
      decode? (quoted (spelling [piece])) = some (piece.denoted ++ []) ∧
        ¬ IsLiteral (quoted (spelling [piece])) := by
    intro piece hpiece hend hincomplete
    have hread : ∀ p ∈ [piece], p.IsRead := List.forall_mem_singleton.mpr hpiece
    have hseparated : Separated [piece] := ⟨hend, trivial⟩
    constructor
    · exact decode?_spelling hread hseparated
    · rw [isLiteral_spelling_iff hread hseparated, List.forall_mem_singleton]
      exact hincomplete
  constructor
  · exact hloose (.openGap [' ']) ⟨rfl, by decide⟩ rfl (by decide)
  constructor
  · exact hloose (.gap " a".toList) ⟨rfl, by decide⟩ trivial (by decide)
  · exact hloose (.caret 'a') ⟨by decide, by decide⟩ trivial (by decide)

end Literal
end GhciBridge
