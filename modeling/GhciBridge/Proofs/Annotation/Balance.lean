import GhciBridge.Proofs.Binding.Legible

/-!
# The place of the separator

The scan for a separator carries the nesting of everything in front of it.  Whether a
separator counts depends on that front alone: as many brackets are closed in it as
opened, of whatever kind, and no string is open at its end.  So an annotated text is
split behind its shortest level front that a separator follows, and only there.
-/

namespace GhciBridge
namespace Annotation

/-!
## Level texts
-/

def openings : List Char :=
  ['(', '[', '\x7b']

def closings : List Char :=
  [')', ']', '\x7d']

/-- What a character outside of strings adds to the balance. -/
def weight (c : Char) : Int :=
  if c ∈ openings then 1 else if c ∈ closings then -1 else 0

/-- Opening brackets less closing ones.  Inside of a string no character counts, and a
backslash takes the next character with it.  The flag tells whether the text begins
inside of a string. -/
def balance : (quoted : Bool) → Text → Int
  | _, [] => 0
  | true, '\\' :: _ :: text => balance true text
  | true, c :: text => balance (c != '"') text
  | false, c :: text =>
      if c = '"' then balance true text else weight c + balance false text

/-- Whether a text ends inside of a string. -/
def endsQuoted : (quoted : Bool) → Text → Bool
  | quoted, [] => quoted
  | true, '\\' :: _ :: text => endsQuoted true text
  | true, c :: text => endsQuoted (c != '"') text
  | false, c :: text => endsQuoted (c == '"') text

/-- A text with as many closing brackets as opening ones that ends outside of strings. -/
structure IsLevel (front : Text) : Prop where
  balanced : balance false front = 0
  unquoted : endsQuoted false front = false

instance (front : Text) : Decidable (IsLevel front) :=
  decidable_of_iff (balance false front = 0 ∧ endsQuoted false front = false) <| by
    constructor
    · intro h
      exact ⟨h.1, h.2⟩
    · intro h
      exact ⟨h.balanced, h.unquoted⟩

/-!
## The nesting behind a text
-/

theorem Nesting.after_cons
    (n : Nesting) (c : Char) (text : Text) :
    n.after (c :: text) = (n.step c).after text := (rfl)

/-- The nesting in front of a text that begins inside or outside of a string. -/
def nestingAt (depth : Int) (quoted : Bool) : Nesting :=
  ⟨depth, if quoted then .string else .code⟩

theorem step_string
    (depth : Int) {c : Char} (hc : c ≠ '\\') :
    (nestingAt depth true).step c = nestingAt depth (c != '"') := by
  by_cases hquote : c = '"'
  · subst hquote
    rfl
  · simp [nestingAt, Nesting.step, hc, hquote]

theorem step_code
    (depth : Int) {c : Char} (hc : c ≠ '"') :
    (nestingAt depth false).step c = nestingAt (depth + weight c) false := by
  by_cases hopen : c = '(' ∨ c = '[' ∨ c = '\x7b'
  · have hmem : c ∈ openings := by simpa [openings] using hopen
    simp [nestingAt, Nesting.step, weight, hc, hopen, hmem]
  · have hmem : c ∉ openings := by simpa [openings] using hopen
    by_cases hclose : c = ')' ∨ c = ']' ∨ c = '\x7d'
    · have hmem' : c ∈ closings := by simpa [closings] using hclose
      simp [nestingAt, Nesting.step, weight, hc, hopen, hmem, hclose, hmem', Int.sub_eq_add_neg]
    · have hmem' : c ∉ closings := by simpa [closings] using hclose
      simp [nestingAt, Nesting.step, weight, hc, hopen, hmem, hclose, hmem']

/-- The depth of the scan is the balance of what is in front, and it is in code exactly
if no string is open there. -/
theorem after_nestingAt
    (depth : Int) (quoted : Bool) (text : Text) :
    ((nestingAt depth quoted).after text).depth = depth + balance quoted text ∧
      (((nestingAt depth quoted).after text).mode = .code ↔ endsQuoted quoted text = false) := by
  fun_induction balance quoted text generalizing depth with
  | case1 quoted =>
      cases quoted with
      | true => simp [nestingAt, Nesting.after, endsQuoted]
      | false => simp [nestingAt, Nesting.after, endsQuoted]
  | case2 c text ih => exact ih depth
  | case3 c text hescape ih =>
      rw [Nesting.after_cons]
      by_cases hc : c = '\\'
      · -- a backslash at the very end, with nothing to take with it
        cases text with
        | nil =>
            subst hc
            simp [nestingAt, Nesting.after, Nesting.step, balance, endsQuoted]
        | cons d text => exact (hescape d text hc rfl).elim
      · rw [step_string depth hc, endsQuoted]
        · exact ih depth
        · intro d rest hslash
          exact absurd hslash hc
  | case4 text ih => exact ih depth
  | case5 c text hc ih =>
      have hquoted : (c == '"') = false := beq_eq_false_iff_ne.mpr hc
      rw [Nesting.after_cons, step_code depth hc, endsQuoted, hquoted, ← Int.add_assoc]
      exact ih (depth + weight c)

theorem depth_after
    (front : Text) :
    (Nesting.start.after front).depth = balance false front := by
  have hafter := (after_nestingAt 0 false front).1
  rw [Int.zero_add] at hafter
  exact hafter

theorem isOutside_after_iff
    {front : Text} :
    (Nesting.start.after front).isOutside = true ↔ IsLevel front := by
  have hmode := (after_nestingAt 0 false front).2
  rw [Nesting.isOutside, Bool.and_eq_true, beq_iff_eq, beq_iff_eq, depth_after]
  constructor
  · intro h
    exact ⟨h.1, hmode.mp h.2⟩
  · intro h
    exact ⟨h.balanced, hmode.mpr h.unquoted⟩

theorem natAbs_balance_le
    (quoted : Bool) (text : Text) :
    (balance quoted text).natAbs ≤ text.length := by
  fun_induction balance quoted text with
  | case1 => exact Nat.le_refl 0
  | case2 c text ih =>
      simp only [List.length_cons]
      omega
  | case3 c text _ ih =>
      simp only [List.length_cons]
      omega
  | case4 text ih =>
      simp only [List.length_cons]
      omega
  | case5 c text _ ih =>
      have hweight : (weight c).natAbs ≤ 1 := by
        unfold weight
        split
        · exact Nat.le_refl 1
        · split
          · exact Nat.le_refl 1
          · exact Nat.zero_le 1
      simp only [List.length_cons]
      omega

/-- A signed word of 32 bits holds the depth of the scan behind every front that is
shorter than its range. -/
theorem toInt_ofInt_depth
    {front : Text} (hlength : front.length < Nat.pow 2 31) :
    (Int32.ofInt (Nesting.start.after front).depth).toInt =
      (Nesting.start.after front).depth := by
  have hbound := natAbs_balance_le false front
  have hrange : Nat.pow 2 31 = 2147483648 := rfl
  rw [depth_after]
  apply Int32.toInt_ofInt_of_le
  · omega
  · omega

/-!
## The first separator that counts
-/

/-- A front that a separator follows and behind which it counts. -/
structure IsCut (n : Nesting) (text front : Text) : Prop where
  followed : front ++ separator <+: text
  outside : (n.after front).isOutside = true

variable {n : Nesting} {c : Char} {text : Text}

theorem isCut_cons_iff
    {d : Char} {front : Text} :
    IsCut n (c :: text) (d :: front) ↔ d = c ∧ IsCut (n.step c) text front := by
  constructor
  · intro h
    have hfollowed := h.followed
    rw [List.cons_append, List.cons_prefix_cons] at hfollowed
    have houtside := h.outside
    rw [Nesting.after_cons, hfollowed.1] at houtside
    exact ⟨hfollowed.1, hfollowed.2, houtside⟩
  · intro h
    constructor
    · exact List.cons_prefix_cons.mpr ⟨h.1, h.2.followed⟩
    · rw [Nesting.after_cons, h.1]
      exact h.2.outside

/-- The scan stops in front of a separator that counts. -/
theorem splitFrom?_of_isCut_nil
    (h : IsCut n (c :: text) []) :
    ∃ type, splitFrom? n (c :: text) = some ([], type) := by
  rcases h.followed with ⟨type, htype⟩
  have houtside : n.isOutside = true := h.outside
  have hhead : Text.afterPrefix? separator (c :: text) = some type :=
    Text.afterPrefix?_eq_some_iff.mpr htype.symm
  rw [splitFrom?, houtside, if_pos rfl, hhead]
  exact ⟨type, rfl⟩

/-- In front of anything else it goes on by one character. -/
theorem splitFrom?_of_not_isCut_nil
    (h : ¬ IsCut n (c :: text) []) :
    splitFrom? n (c :: text) =
      (splitFrom? (n.step c) text).map fun cut => (c :: cut.1, cut.2) := by
  have hhead : (if n.isOutside then Text.afterPrefix? separator (c :: text) else none) = none := by
    cases houtside : n.isOutside with
    | false => rfl
    | true =>
        rw [if_pos rfl, Text.afterPrefix?_eq_none_iff]
        intro hfollowed
        exact h ⟨hfollowed, houtside⟩
  rw [splitFrom?, hhead]

theorem splitFrom?_eq_none_iff :
    splitFrom? n text = none ↔ ∀ front, ¬ IsCut n text front := by
  induction text generalizing n with
  | nil =>
      constructor
      · intro _ front hcut
        cases (List.append_eq_nil_iff.mp (List.prefix_nil.mp hcut.followed)).2
      · intro _
        rfl
  | cons c text ih =>
      by_cases hcut : IsCut n (c :: text) []
      · rcases splitFrom?_of_isCut_nil hcut with ⟨type, hsplit⟩
        rw [hsplit]
        constructor
        · intro h
          cases h
        · intro h
          exact absurd hcut (h [])
      · rw [splitFrom?_of_not_isCut_nil hcut, Option.map_eq_none_iff, ih]
        constructor
        · intro h front hfront
          cases front with
          | nil => exact hcut hfront
          | cons d front => exact h front (isCut_cons_iff.mp hfront).2
        · intro h front hfront
          exact h (c :: front) (isCut_cons_iff.mpr ⟨rfl, hfront⟩)

theorem isCut_of_splitFrom?
    {expression type : Text} (h : splitFrom? n text = some (expression, type)) :
    IsCut n text expression ∧
      ∀ front, IsCut n text front → expression.length ≤ front.length := by
  induction text generalizing n expression with
  | nil => cases h
  | cons c text ih =>
      by_cases hcut : IsCut n (c :: text) []
      · rcases splitFrom?_of_isCut_nil hcut with ⟨type', hsplit⟩
        rw [hsplit] at h
        cases h
        exact ⟨hcut, fun front _ => Nat.zero_le _⟩
      · rw [splitFrom?_of_not_isCut_nil hcut] at h
        rcases Option.map_eq_some_iff.mp h with ⟨⟨front, behind⟩, hsplit, hpair⟩
        cases hpair
        rcases ih hsplit with ⟨hfound, hfirst⟩
        refine ⟨isCut_cons_iff.mpr ⟨rfl, hfound⟩, ?_⟩
        intro front' hfront'
        cases front' with
        | nil => exact absurd hfront' hcut
        | cons d front' =>
            exact Nat.succ_le_succ (hfirst front' (isCut_cons_iff.mp hfront').2)

/-- A text is split behind its shortest cut. -/
theorem splitFrom?_eq_some_iff
    {expression type : Text} :
    splitFrom? n text = some (expression, type) ↔
      text = expression ++ separator ++ type ∧ (n.after expression).isOutside = true ∧
        ∀ front, IsCut n text front → expression.length ≤ front.length := by
  constructor
  · intro h
    rcases isCut_of_splitFrom? h with ⟨hcut, hfirst⟩
    exact ⟨eq_append_of_splitFrom? h, hcut.outside, hfirst⟩
  · intro h
    rcases h with ⟨htext, houtside, hfirst⟩
    have hcut : IsCut n text expression := ⟨⟨type, htext.symm⟩, houtside⟩
    cases hsplit : splitFrom? n text with
    | none => exact absurd hcut (splitFrom?_eq_none_iff.mp hsplit expression)
    | some found =>
        rcases found with ⟨front, behind⟩
        rcases isCut_of_splitFrom? hsplit with ⟨hfound, hshortest⟩
        have hlength : front.length = expression.length :=
          Nat.le_antisymm (hshortest expression hcut) (hfirst front hfound)
        have hparts := eq_append_of_splitFrom? hsplit
        rw [htext, List.append_assoc, List.append_assoc] at hparts
        rcases List.append_inj hparts hlength.symm with ⟨hfront, hbehind⟩
        rw [hfront, List.append_cancel_left hbehind]

theorem isCut_start_iff
    {front : Text} :
    IsCut .start text front ↔ front ++ separator <+: text ∧ IsLevel front := by
  constructor
  · intro h
    exact ⟨h.followed, isOutside_after_iff.mp h.outside⟩
  · intro h
    exact ⟨h.1, isOutside_after_iff.mpr h.2⟩

/-- A text is split behind its shortest level front that a separator follows. -/
theorem split?_eq_some_iff
    {expression type : Text} :
    split? text = some (expression, type) ↔
      text = expression ++ separator ++ type ∧ IsLevel expression ∧
        ∀ front, front ++ separator <+: text → front.length < expression.length →
          ¬ IsLevel front := by
  rw [split?, splitFrom?_eq_some_iff, isOutside_after_iff]
  apply and_congr_right
  intro _
  apply and_congr_right
  intro _
  constructor
  · intro h front hfollowed hlength hlevel
    have hle := h front (isCut_start_iff.mpr ⟨hfollowed, hlevel⟩)
    omega
  · intro h front hcut
    rw [isCut_start_iff] at hcut
    by_contra hlt
    exact h front hcut.1 (by omega) hcut.2

theorem split?_eq_none_iff :
    split? text = none ↔ ∀ front, front ++ separator <+: text → ¬ IsLevel front := by
  rw [split?, splitFrom?_eq_none_iff]
  constructor
  · intro h front hfollowed hlevel
    exact h front (isCut_start_iff.mpr ⟨hfollowed, hlevel⟩)
  · intro h front hcut
    rw [isCut_start_iff] at hcut
    exact h front hcut.1 hcut.2

end Annotation
end GhciBridge
