import GhciBridge.Proofs.Wire.Lines
import GhciBridge.Proofs.Wire.Prompt
import GhciBridge.Wire.Feed

/-!
# The events of printed text

What an interpreter prints is text, and its bytes are read line by line.  A line
break has a byte of its own in the encoding, so the events of the bytes are those
of the lines of the text, in whatever portions they arrive.
-/

namespace GhciBridge

/-!
## Encoded text
-/

theorem encodeUtf8_eq_flatMap
    (text : Text) :
    encodeUtf8 text = text.flatMap String.utf8EncodeChar := by
  simp [encodeUtf8, List.utf8Encode]

@[simp] theorem encodeUtf8_nil :
    encodeUtf8 [] = [] := by
  simp [encodeUtf8_eq_flatMap]

theorem encodeUtf8_append
    (first second : Text) :
    encodeUtf8 (first ++ second) = encodeUtf8 first ++ encodeUtf8 second := by
  simp [encodeUtf8_eq_flatMap]

@[simp] theorem decodeUtf8?_encodeUtf8
    (text : Text) :
    decodeUtf8? (encodeUtf8 text) = some text := by
  have hbytes : (⟨(encodeUtf8 text).toArray⟩ : ByteArray) = text.utf8Encode := by
    rw [encodeUtf8, String.toUTF8_eq_toByteArray, String.toByteArray_ofList]
  rw [decodeUtf8?, hbytes, String.fromUTF8?, dif_pos ByteArray.isValidUTF8_utf8Encode]
  have hstring : String.fromUTF8 text.utf8Encode ByteArray.isValidUTF8_utf8Encode =
      String.ofList text := by
    rw [← String.toByteArray_inj, String.toByteArray_ofList]
    rfl
  rw [Option.map_some, hstring, String.toList_ofList]

theorem encodeUtf8_eq_nil_iff
    {text : Text} :
    encodeUtf8 text = [] ↔ text = [] := by
  constructor
  · intro h
    have hdecode := decodeUtf8?_encodeUtf8 text
    rw [h, ← encodeUtf8_nil, decodeUtf8?_encodeUtf8] at hdecode
    exact (Option.some.inj hdecode).symm
  · rintro rfl
    exact encodeUtf8_nil

theorem lineBreak_notMem_utf8EncodeChar
    {c : Char} (hc : c ≠ '\n') :
    Feed.lineBreak ∉ String.utf8EncodeChar c := by
  have hcode : c.toNat ≠ 10 := by
    intro h
    exact hc (Char.ext (UInt32.toNat_inj.mp h))
  rw [String.utf8EncodeChar, Feed.lineBreak]
  split
  · next hsmall =>
      have hlt : c.toNat ≤ 0x7f := hsmall
      simp [← UInt8.toNat_inj]
      omega
  · -- every byte of a longer code is at least 0x80
    split
    · simp [← UInt8.toNat_inj]
      omega
    · split
      · simp [← UInt8.toNat_inj]
        omega
      · simp [← UInt8.toNat_inj]
        omega

theorem cut_encodeUtf8
    (text : Text) :
    Lines.cut Feed.lineBreak (encodeUtf8 text) =
      ((Lines.cut '\n' text).1.map encodeUtf8, encodeUtf8 (Lines.cut '\n' text).2) := by
  have hstop : String.utf8EncodeChar '\n' = [Feed.lineBreak] := by decide
  have hcut := Lines.cut_flatMap hstop (fun _ hc => lineBreak_notMem_utf8EncodeChar hc) text
  simp only [← encodeUtf8_eq_flatMap] at hcut
  exact hcut

theorem all_encodeUtf8
    (text : Text) :
    Lines.all Feed.lineBreak (encodeUtf8 text) = (Lines.all '\n' text).map encodeUtf8 := by
  rw [Lines.all, Lines.all, cut_encodeUtf8]
  simp only [encodeUtf8_eq_nil_iff]
  split
  · rfl
  · rw [List.map_append, List.map_singleton]

/-!
## Feeding text
-/

namespace Feed

/-- A feed that has not ended and holds the start of a line. -/
def holding (sentinel front : Text) : Feed :=
  ⟨sentinel, encodeUtf8 front, false⟩

@[simp] theorem holding_nil
    (sentinel : Text) :
    holding sentinel [] = start sentinel := by
  simp [holding, start]

theorem readLines_map_encodeUtf8
    (sentinel : Text) (lines : List Text) :
    readLines sentinel (lines.map encodeUtf8) =
      (lines.flatMap (Event.classify sentinel), true) := by
  induction lines with
  | nil => rfl
  | cons line lines ih =>
      rw [List.map_cons, readLines, decodeUtf8?_encodeUtf8]
      simp only [ih, List.flatMap_cons]

/-- More text completes the line that the feed holds. -/
theorem push_holding
    (sentinel front text : Text) :
    (holding sentinel front).push (encodeUtf8 text) =
      ((Lines.cut '\n' (front ++ text)).1.flatMap (Event.classify sentinel),
        holding sentinel (Lines.cut '\n' (front ++ text)).2) := by
  rw [push, holding, if_neg Bool.false_ne_true, ← encodeUtf8_append, cut_encodeUtf8]
  simp only [readLines_map_encodeUtf8]
  rfl

/-- At the end of the output the line that is held counts as complete. -/
theorem finish_holding
    (sentinel front : Text) :
    (holding sentinel front).finish =
      ((if front = [] then [] else Event.classify sentinel front) ++ [.closed],
        ⟨sentinel, [], true⟩) := by
  rw [finish, holding, if_neg Bool.false_ne_true]
  by_cases hfront : front = []
  · simp [hfront, readLines]
  · have hbytes : encodeUtf8 front ≠ [] := fun h => hfront (encodeUtf8_eq_nil_iff.mp h)
    have hread := readLines_map_encodeUtf8 sentinel [front]
    rw [List.map_singleton, List.flatMap_singleton] at hread
    simp only [hfront, hbytes, if_false, hread, if_true]

end Feed
end GhciBridge
