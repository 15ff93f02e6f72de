import GhciBridge.Console.Request
import GhciBridge.Proofs.Text.ShellWords

/-!
# The wording of requests

A request is written as one of its keywords with its arguments behind it, and a command
for ghci as it is.  Any blanks can stand around that and behind the keyword.  All these
lines are read as the request, and a request with a text in it is read from no other
line.
-/

namespace GhciBridge
namespace Request

/-- The words for a request.  A command for ghci needs none; an empty line and a run to a
position have none. -/
def aliases : Request → List Text
  | .setBreakpoint _ _ => ["b".toList, "break".toList]
  | .deleteBreakpoint _ _ => ["delete".toList]
  | .breakpoints => ["breakpoints".toList]
  | .trace _ => ["trace".toList]
  | .typeOf _ => ["t".toList, "type".toList]
  | .print _ => ["p".toList, "print".toList]
  | .force _ => ["force".toList]
  | .history => ["history".toList]
  | .back => ["back".toList]
  | .forward => ["forward".toList]
  | .bindings => ["bindings".toList]
  | .load _ => ["load".toList]
  | .step .stepOver => ["n".toList, "next".toList, "stepOver".toList]
  | .step .stepInto => ["s".toList, "step".toList, "stepInto".toList]
  | .step .stepOut => ["o".toList, "out".toList, "stepOut".toList]
  | .step .resume => ["c".toList, "continue".toList]
  | .step .runToPosition => []
  | .raw _ => []
  | .help => ["h".toList, "help".toList]
  | .quit => ["q".toList, "quit".toList]
  | .empty => []

/-- What a request says besides its keyword. -/
inductive Arguments where
  | none
  | text (argument : Text)
  | spot (module : Text) (line : Nat)
  /-- All there is to a command for ghci. -/
  | command (argument : Text)

def arguments : Request → Arguments
  | .setBreakpoint module line => .spot module line
  | .deleteBreakpoint module line => .spot module line
  | .trace expression => .text expression
  | .typeOf expression => .text expression
  | .print expression => .text expression
  | .force expression => .text expression
  | .load path => .text path
  | .raw text => .command text
  | _ => .none

namespace Arguments

/-- Arguments that come back from the line in which they are written. -/
def IsWritable : Arguments → Prop
  | .none => True
  | .text argument => argument ≠ [] ∧ Text.trim argument = argument
  | .spot module line => ShellWords.IsPlain module ∧ line < Nat.pow 2 32
  | .command argument => argument.head? = some ':' ∧ Text.trim argument = argument

def text? : Arguments → Option Text
  | .none => Option.none
  | .text argument => some argument
  | .spot _ _ => Option.none
  | .command argument => some argument

end Arguments

/-- The texts that spell arguments behind a keyword. -/
inductive Arguments.IsSpelled : Arguments → Text → Prop where
  | text (argument : Text) : IsSpelled (.text argument) argument
  | spot (module : Text) (line : Nat) {gap : Text} (hgap : ShellWords.IsGap gap) :
      IsSpelled (.spot module line) (module ++ gap ++ Text.ofNat line)

/-- The texts in which a request is written. -/
inductive IsWritten (request : Request) : Text → Prop where
  | alone {keyword : Text}
      (hkeyword : keyword ∈ request.aliases)
      (hnone : request.arguments = .none) :
      IsWritten request keyword
  | behind {keyword blanks text : Text}
      (hkeyword : keyword ∈ request.aliases)
      (hblanks : Text.allBlank blanks = true)
      (hne : blanks ≠ [])
      (hspelled : request.arguments.IsSpelled text) :
      IsWritten request (keyword ++ blanks ++ text)
  | command {text : Text}
      (hcommand : request.arguments = .command text) :
      IsWritten request text

/-- A line in which a request is written, with any blanks around it. -/
structure IsWrittenOn (request : Request) (line : Text) : Prop where
  writable : request.arguments.IsWritable
  text :
    ∃ before text after, Text.allBlank before = true ∧ Text.allBlank after = true ∧
      request.IsWritten text ∧ line = before ++ text ++ after

/-!
## Keywords and forms
-/

/-- A keyword is a word that is not taken for a command for ghci. -/
structure IsKeyword (keyword : Text) : Prop where
  word : Text.IsWord keyword
  colon : keyword.head? ≠ some ':'

instance (keyword : Text) : Decidable (IsKeyword keyword) :=
  decidable_of_iff (Text.IsWord keyword ∧ keyword.head? ≠ some ':')
    ⟨fun h => ⟨h.1, h.2⟩, fun h => ⟨h.word, h.colon⟩⟩

theorem isKeyword_of_mem_aliases
    {request : Request} {keyword : Text} (h : keyword ∈ request.aliases) :
    IsKeyword keyword := by
  have hall : ∀ keyword ∈ request.aliases, IsKeyword keyword := by
    cases request with
    | step request =>
        cases request with
        | _ => decide
    | _ =>
        simp only [aliases]
        decide
  exact hall keyword h

/-- The requests that a form makes. -/
inductive Form.Makes : Form → Request → Prop where
  | plain {request : Request} (hnone : request.arguments = .none) :
      Makes (.plain request) request
  | expression {make : Text → Request} {text : Text}
      (htext : (make text).arguments = .text text) :
      Makes (.expression make) (make text)
  | moduleAndLine {make : Text → Nat → Request} {module : Text} {line : Nat}
      (hspot : (make module line).arguments = .spot module line) :
      Makes (.moduleAndLine make) (make module line)
  | file {make : Text → Request} {text : Text}
      (htext : (make text).arguments = .text text) :
      Makes (.file make) (make text)

theorem exists_form_of_mem_aliases
    {request : Request} {keyword : Text} (h : keyword ∈ request.aliases) :
    ∃ form, form? keyword = some form ∧ form.Makes request := by
  have hall : ∀ keyword ∈ request.aliases,
      ∃ form, form? keyword = some form ∧ form.Makes request := by
    cases request with
    | step request =>
        cases request with
        | _ =>
            simp only [aliases, List.forall_mem_cons, List.not_mem_nil, false_implies,
              implies_true, and_true]
            and_intros
            all_goals exact ⟨_, rfl, .plain rfl⟩
    | _ =>
        simp only [aliases, List.forall_mem_cons, List.not_mem_nil, false_implies,
          implies_true, and_true]
        and_intros
        all_goals
          refine ⟨_, rfl, ?_⟩
          constructor
          rfl
  exact hall keyword h

/-- The keyword of a form is a word for each of its requests. -/
def Form.Fits (keyword : Text) : Form → Prop
  | .plain request => request.arguments = .none
  | .expression make =>
      ∀ text, (make text).arguments = .text text ∧ keyword ∈ (make text).aliases
  | .moduleAndLine make =>
      ∀ module line, (make module line).arguments = .spot module line
  | .file make =>
      ∀ text, (make text).arguments = .text text ∧ keyword ∈ (make text).aliases

theorem fits_of_form?
    {keyword : Text} {form : Form} (h : form? keyword = some form) :
    form.Fits keyword := by
  have hall : ∀ entry ∈ keywords, entry.2.Fits entry.1 := by
    simp [keywords, Form.Fits, arguments, aliases]
  rcases Option.map_eq_some_iff.mp h with ⟨entry, hfound, rfl⟩
  have hkeyword := List.find?_some hfound
  rw [decide_eq_true_eq] at hkeyword
  rw [← hkeyword]
  exact hall entry (List.mem_of_find?_eq_some hfound)

/-!
## Reading what was written
-/

/-- The text behind a keyword that is read as these arguments. -/
inductive Arguments.IsFound : Arguments → Text → Prop where
  | none (text : Text) : IsFound .none text
  | text {argument : Text} (hne : argument ≠ []) : IsFound (.text argument) argument
  | spot {module text : Text} {line : Nat} (hspot : moduleAndLine? text = some (module, line)) :
      IsFound (.spot module line) text

theorem ofForm_of_makes
    {form : Form} {request : Request} {text : Text} (hmakes : form.Makes request)
    (hfound : request.arguments.IsFound text) (keyword : Text) :
    ofForm keyword text form = .ok request := by
  cases hmakes with
  | plain hnone => rfl
  | expression htext =>
      rw [htext] at hfound
      cases hfound with
      | text hne => exact if_neg hne
  | moduleAndLine hspot =>
      rw [hspot] at hfound
      cases hfound with
      | spot hread => rw [ofForm, hread]
  | file htext =>
      rw [htext] at hfound
      cases hfound with
      | text hne => exact if_neg hne

theorem beginsWith_colon_iff
    {text : Text} :
    Text.beginsWith [':'] text = true ↔ text.head? = some ':' := by
  rw [Text.beginsWith_iff, List.head?_eq_some_iff]
  rfl

theorem read_of_colon
    {line : Text} (h : (Text.trim line).head? = some ':') :
    read line = .ok (.raw (Text.trim line)) :=
  if_pos (beginsWith_colon_iff.mpr h)

theorem read_of_not_colon
    {line : Text} (h : (Text.trim line).head? ≠ some ':') :
    read line =
      match form? (Text.breakBlank (Text.trim line)).1 with
      | some form =>
          ofForm (Text.breakBlank (Text.trim line)).1
            (Text.trim (Text.breakBlank (Text.trim line)).2) form
      | none => .error (.unknown (Text.breakBlank (Text.trim line)).1) :=
  if_neg fun hcolon => h (beginsWith_colon_iff.mp hcolon)

theorem read_of_mem_aliases
    {request : Request} {line keyword rest : Text} (hkeyword : keyword ∈ request.aliases)
    (hrest : rest ≠ [] → Text.startsBlank rest = true) (htrim : Text.trim line = keyword ++ rest)
    (hfound : request.arguments.IsFound (Text.trim rest)) :
    read line = .ok request := by
  rcases isKeyword_of_mem_aliases hkeyword with ⟨hword, hcolon⟩
  rcases exists_form_of_mem_aliases hkeyword with ⟨form, hform, hmakes⟩
  have hhead : (Text.trim line).head? ≠ some ':' := by
    rw [htrim, List.head?_append_of_ne_nil _ hword.nonempty]
    exact hcolon
  rw [read_of_not_colon hhead, htrim, Text.breakBlank_append hword.solid hrest]
  simp only [hform]
  exact ofForm_of_makes hmakes hfound keyword

theorem eq_raw_of_arguments
    {request : Request} {text : Text} (h : request.arguments = .command text) :
    request = .raw text := by
  cases request with
  | raw text =>
      cases h
      rfl
  | _ => cases h

namespace Arguments

variable {arguments : Arguments} {text : Text}

/-- Behind a keyword there is something, and it has no blanks around it. -/
theorem IsSpelled.ends
    (h : arguments.IsSpelled text) (hwritable : arguments.IsWritable) :
    text ≠ [] ∧ Text.trim text = text := by
  cases h with
  | text => exact hwritable
  | spot module line hgap =>
      have hmodule := hwritable.1.solid
      have hline := Numeral.isWord_ofNat line
      constructor
      · exact List.append_ne_nil_of_right_ne_nil _ hline.nonempty
      · exact Text.trim_between hmodule.nonempty hmodule.startsBlank hline.nonempty
          hline.reverse.startsBlank _

theorem IsSpelled.isFound
    (h : arguments.IsSpelled text) (hwritable : arguments.IsWritable) :
    arguments.IsFound text := by
  cases h with
  | text => exact .text hwritable.1
  | spot module line hgap =>
      have hsplit := ShellWords.split?_append hwritable.1 hgap (Text.ofNat line)
      rw [ShellWords.split?_of_isPlain (Numeral.isPlain_ofNat line), Option.map_some] at hsplit
      apply IsFound.spot
      rw [moduleAndLine?, hsplit]
      simp only [Numeral.unsigned?_ofNat hwritable.2, Option.map_some]

end Arguments

namespace IsWritten

variable {request : Request} {text : Text}

theorem trim
    (h : request.IsWritten text) (hwritable : request.arguments.IsWritable) :
    Text.trim text = text := by
  cases h with
  | alone hkeyword => exact (Text.Spaced.word (isKeyword_of_mem_aliases hkeyword).word).trim
  | behind hkeyword hblanks hne hspelled =>
      have hword := (isKeyword_of_mem_aliases hkeyword).word
      rcases hspelled.ends hwritable with ⟨hnonempty, htrim⟩
      exact Text.trim_between hword.nonempty hword.startsBlank hnonempty
        (Text.trim_eq_self_iff.mp htrim).2 _
  | command hcommand =>
      rw [hcommand] at hwritable
      exact hwritable.2

theorem read_eq
    (h : request.IsWritten text) (hwritable : request.arguments.IsWritable) {line : Text}
    (hline : Text.trim line = text) :
    read line = .ok request := by
  cases h with
  | alone hkeyword hnone =>
      rw [← List.append_nil text] at hline
      refine read_of_mem_aliases hkeyword (absurd rfl) hline ?_
      rw [hnone]
      exact .none _
  | @behind keyword blanks text hkeyword hblanks hne hspelled =>
      have hstart : Text.startsBlank (blanks ++ text) = true :=
        (Text.startsBlank_append hne text).trans (Text.startsBlank_of_allBlank hne hblanks)
      have htrim : Text.trim (blanks ++ text ++ []) = text :=
        Text.trim_padded hblanks (hspelled.ends hwritable).2 rfl
      rw [List.append_nil] at htrim
      rw [List.append_assoc] at hline
      refine read_of_mem_aliases hkeyword (fun _ => hstart) hline ?_
      rw [htrim]
      exact hspelled.isFound hwritable
  | command hcommand =>
      rw [hcommand] at hwritable
      rw [eq_raw_of_arguments hcommand, ← hline]
      apply read_of_colon
      rw [hline]
      exact hwritable.1

end IsWritten

theorem aliases_ne_nil
    {request : Request} (hempty : request ≠ .empty) (hstep : request ≠ .step .runToPosition)
    (hraw : ∀ text, request ≠ .raw text) :
    request.aliases ≠ [] := by
  cases request with
  | empty => exact absurd rfl hempty
  | raw text => exact absurd rfl (hraw text)
  | step request =>
      cases request with
      | runToPosition => exact absurd rfl hstep
      | _ => exact List.cons_ne_nil _ _
  | _ => exact List.cons_ne_nil _ _

/-- Whatever can be asked for has a text in which it is written. -/
theorem exists_isWritten
    {request : Request} (hempty : request ≠ .empty) (hstep : request ≠ .step .runToPosition) :
    ∃ text, request.IsWritten text := by
  by_cases hcommand : ∃ text, request.arguments = .command text
  · rcases hcommand with ⟨text, hcommand⟩
    exact ⟨text, .command hcommand⟩
  · have hraw : ∀ text, request ≠ .raw text := by
      rintro text rfl
      exact hcommand ⟨text, rfl⟩
    have hblank : Text.allBlank [' '] = true := rfl
    have hspace : [' '] ≠ [] := List.cons_ne_nil _ _
    rcases List.exists_mem_of_ne_nil _ (aliases_ne_nil hempty hstep hraw) with
      ⟨keyword, hkeyword⟩
    cases harguments : request.arguments with
    | none => exact ⟨keyword, .alone hkeyword harguments⟩
    | text argument =>
        have hspelled := Arguments.IsSpelled.text argument
        rw [← harguments] at hspelled
        exact ⟨_, .behind hkeyword hblank hspace hspelled⟩
    | spot module line =>
        have hgap : ShellWords.IsGap [' '] :=
          ⟨hspace, fun c hc => .inl (List.mem_singleton.mp hc)⟩
        have hspelled := Arguments.IsSpelled.spot module line hgap
        rw [← harguments] at hspelled
        exact ⟨_, .behind hkeyword hblank hspace hspelled⟩
    | command text => exact absurd ⟨text, harguments⟩ hcommand

theorem IsWrittenOn.read_eq
    {request : Request} {line : Text} (h : request.IsWrittenOn line) :
    read line = .ok request := by
  rcases h.text with ⟨before, text, after, hbefore, hafter, hwritten, rfl⟩
  exact hwritten.read_eq h.writable (Text.trim_padded hbefore (hwritten.trim h.writable) hafter)

/-!
## What was read
-/

theorem Arguments.IsWritable.text
    {arguments : Arguments} {argument : Text} (h : arguments.IsWritable)
    (htext : arguments.text? = some argument) :
    argument ≠ [] ∧ Text.trim argument = argument := by
  cases arguments with
  | none => cases htext
  | text => exact Option.some.inj htext ▸ h
  | spot => cases htext
  | command text =>
      cases htext
      refine ⟨?_, h.2⟩
      rintro rfl
      cases h.1

/-- A form that makes a request with a text takes that text as it is. -/
theorem arguments_of_ofForm
    {keyword text argument : Text} {form : Form} {request : Request} (hfits : form.Fits keyword)
    (hread : ofForm keyword text form = .ok request)
    (htext : request.arguments.text? = some argument) :
    text ≠ [] ∧ request.arguments = .text text ∧ keyword ∈ request.aliases := by
  cases form with
  | plain other =>
      cases hread
      rw [hfits] at htext
      cases htext
  | expression make =>
      rw [ofForm] at hread
      split at hread
      · cases hread
      · next hne =>
          cases hread
          exact ⟨hne, hfits text⟩
  | moduleAndLine make =>
      rw [ofForm] at hread
      split at hread
      · next module line _ =>
          cases hread
          rw [hfits module line] at htext
          cases htext
      · cases hread
  | file make =>
      rw [ofForm] at hread
      split at hread
      · cases hread
      · next hne =>
          cases hread
          exact ⟨hne, hfits text⟩

/-- A text that is read behind a keyword was written there. -/
theorem isWrittenOn_of_keyword
    {request : Request} {line keyword rest : Text} (hkeyword : keyword ∈ request.aliases)
    (hcut : keyword ++ rest = Text.trim line) (hrest : rest ≠ [] → Text.startsBlank rest = true)
    (harguments : request.arguments = .text (Text.trim rest)) (hne : Text.trim rest ≠ []) :
    request.IsWrittenOn line := by
  rcases Text.exists_blanks_trim line with ⟨before, after, hbefore, hafter, hline⟩
  rcases Text.exists_blanks_trim rest with ⟨blanks, behind, hblanks, hbehind, hsplit⟩
  have hargument := Text.startsBlank_trim rest
  have hspelled := Arguments.IsSpelled.text (Text.trim rest)
  rw [← harguments] at hspelled
  have hgap : blanks ≠ [] := by
    rintro rfl
    rw [List.nil_append] at hsplit
    have hnonempty : rest ≠ [] := by
      rw [hsplit]
      exact List.append_ne_nil_of_left_ne_nil hne behind
    have hstart := hrest hnonempty
    rw [hsplit, Text.startsBlank_append hne, hargument] at hstart
    cases hstart
  constructor
  · rw [harguments]
    exact ⟨hne, Text.trim_trim rest⟩
  · refine ⟨before, _, behind ++ after, hbefore, ?_,
      .behind hkeyword hblanks hgap hspelled, hline.trans ?_⟩
    · rw [Text.allBlank, List.all_append, Bool.and_eq_true]
      exact ⟨hbehind, hafter⟩
    · rw [← hcut]
      nth_rewrite 1 [hsplit]
      simp only [List.append_assoc]

theorem isWrittenOn_of_read
    {request : Request} {line argument : Text} (htext : request.arguments.text? = some argument)
    (hread : read line = .ok request) :
    request.IsWrittenOn line := by
  by_cases hcolon : (Text.trim line).head? = some ':'
  · rcases Text.exists_blanks_trim line with ⟨before, after, hbefore, hafter, hline⟩
    rw [read_of_colon hcolon, Except.ok.injEq] at hread
    subst hread
    exact ⟨⟨hcolon, Text.trim_trim line⟩, before, _, after, hbefore, hafter, .command rfl, hline⟩
  · rw [read_of_not_colon hcolon] at hread
    cases hform : form? (Text.breakBlank (Text.trim line)).1 with
    | none =>
        rw [hform] at hread
        cases hread
    | some form =>
        rw [hform] at hread
        rcases arguments_of_ofForm (fits_of_form? hform) hread htext with
          ⟨hne, harguments, hkeyword⟩
        exact isWrittenOn_of_keyword hkeyword (Text.append_breakBlank _)
          Text.startsBlank_breakBlank harguments hne

theorem read_eq_ok_iff
    {request : Request} {line argument : Text}
    (htext : request.arguments.text? = some argument) :
    read line = .ok request ↔ request.IsWrittenOn line :=
  ⟨isWrittenOn_of_read htext, IsWrittenOn.read_eq⟩

end Request
end GhciBridge
