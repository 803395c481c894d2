/-
# What the reader refuses

The reader under the frames of `SPEC_FULL.md` §3 and the files of §9 and §12.

A text of blanks is malformed (`Json.read_of_allBlank`), and a row of digits is beyond
the limits of the reader once it is too long (`Json.exceeded?_digits`).  Being malformed and
being beyond the limits are different errors; `Json.exceeded?` is about the second one only.

The difference matters wherever a document is read: what is malformed is skipped or
replaced, while what is beyond the limits is an error that goes on to the caller.
-/

import Mathlib.Data.List.TakeWhile
import Recorder.Json.Reader
import Recorder.Text.Blank

namespace Recorder
namespace Json

/-- The limit of the reader that a text is beyond, if it is beyond one. -/
def exceeded? (s : String) : Option JsonLimit :=
  match read s with
  | .error (.beyond limit) => some limit
  | _ => none

/-- A text is beyond a limit just if reading it fails with that limit. -/
theorem exceeded?_eq_some {s : String} {limit : JsonLimit} :
    exceeded? s = some limit ↔ read s = .error (.beyond limit) := by
  unfold exceeded?
  split
  · rename_i l h
    simp [h]
  · rename_i h
    exact iff_of_false (fun h' => by cases h') (h limit)

/-- A text is within the limits just if reading it fails with none of them; it may still be
malformed. -/
theorem exceeded?_eq_none {s : String} :
    exceeded? s = none ↔ ∀ limit, read s ≠ .error (.beyond limit) := by
  rw [Option.eq_none_iff_forall_ne_some]
  simp only [ne_eq, exceeded?_eq_some]

namespace Reader

/-- The characters that a value other than a number without a sign can start with. -/
def valueHeads : List Char := ['"', '[', '{', 'n', 't', 'f', 'N', 'I', '-']

-- Stated of the list, as there is another way to decide a statement about characters: to
-- go through all of them.
/-- No value starts with a blank. -/
theorem isBlank_of_mem_valueHeads : ∀ c ∈ valueHeads, Text.isBlank c = false := by
  have hall : valueHeads.all (!Text.isBlank ·) = true := by decide
  simpa using hall

/-- Those heads are no digits; a number that starts with a digit is told apart from all of
them. -/
theorem isAsciiDigit_of_mem_valueHeads : ∀ c ∈ valueHeads, isAsciiDigit c = false := by
  have hall : valueHeads.all (!isAsciiDigit ·) = true := by decide
  simpa using hall

/-- What starts with none of them is read as a number. -/
theorem readValue_of_notMem {c : Char} (hc : c ∉ valueHeads) (room fuel : Nat) (cs : List Char) :
    readValue room (fuel + 1) (c :: cs) = readNumber false (c :: cs) := by
  simp only [valueHeads, List.mem_cons, not_or] at hc
  have hs : readScalar (c :: cs) = readNumber false (c :: cs) := by
    unfold readScalar
    split <;> simp_all
  unfold readValue
  split <;> simp_all

/-- No blank is a digit, so that a number ends at one. -/
theorem isAsciiDigit_of_isBlank {c : Char} (hc : Text.isBlank c = true) :
    isAsciiDigit c = false := by
  cases hd : isAsciiDigit c with
  | false => rfl
  | true =>
    have hr : 48 ≤ c.toNat ∧ c.toNat ≤ 57 := by simpa [isAsciiDigit, Text.asciiDigit?] using hd
    simp [Text.isBlank, Text.isSpace, Text.inRanges, Text.spaceRanges] at hc
    omega

/-- A number needs a digit. -/
theorem readNumber_of_not_digit {c : Char} (hc : isAsciiDigit c = false) (negative : Bool)
    (cs : List Char) : readNumber negative (c :: cs) = .error .malformed := by
  have hw : (takeWhole (c :: cs)).1 = [] := by
    unfold takeWhole
    split
    · rename_i heq
      obtain ⟨rfl, -⟩ := List.cons.inj heq
      exact absurd hc (by decide)
    · simp [hc]
  rw [readNumber]
  simp only [hw]
  rfl

/-- Digits alone are a whole number, read up to their end. -/
theorem readNumber_digits {ds : List Char} (hd : ∀ c ∈ ds, isAsciiDigit c = true) (hne : ds ≠ [])
    (hz : ds.head? ≠ some '0') (negative : Bool) :
    readNumber negative ds = (numberOf negative ds none none).map (·, []) := by
  have hw : takeWhole ds = (ds, []) := by
    have ht : ds.takeWhile isAsciiDigit = ds := List.takeWhile_eq_self_iff.2 hd
    have hr : ds.dropWhile isAsciiDigit = [] := List.dropWhile_eq_nil_iff.2 hd
    unfold takeWhole
    split
    · exact absurd rfl hz
    · rw [ht, hr]
  have hn : ds.isEmpty = false := by simpa using hne
  rw [readNumber, hw]
  simp only [hn]
  rfl

end Reader

/-- **Blanks** alone are malformed, and never beyond a limit: there is neither a digit nor a
bracket among them. -/
theorem read_of_allBlank {s : String} (h : Text.allBlank s = true) : read s = .error .malformed := by
  have hb : ∀ c ∈ Reader.skipSpace s.toList, Text.isBlank c = true := fun c hc =>
    List.all_eq_true.1 h c ((List.dropWhile_sublist _).subset hc)
  have hv : Reader.readValue maxNesting (2 * s.toList.length + 2) (Reader.skipSpace s.toList) =
      .error .malformed := by
    cases hs : Reader.skipSpace s.toList with
    | nil => rfl
    | cons c cs =>
      have hc : Text.isBlank c = true := hb c (hs ▸ List.mem_cons_self)
      have hm : c ∉ Reader.valueHeads := fun hm => by
        rw [Reader.isBlank_of_mem_valueHeads c hm] at hc
        cases hc
      rw [Reader.readValue_of_notMem hm,
        Reader.readNumber_of_not_digit (Reader.isAsciiDigit_of_isBlank hc)]
  simp only [read, readWithin, hv]

/-- **Digits in a row** are beyond the limits if there are too many of them.  The first one
must not be a zero, since a number with a zero in front ends after it. -/
theorem exceeded?_digits {ds : List Char} (hd : ∀ c ∈ ds, Reader.isAsciiDigit c = true)
    (hz : ds.head? ≠ some '0') (hl : maxIntegerDigits < ds.length) :
    exceeded? (String.ofList ds) = some (.digits ds.length) := by
  rw [exceeded?_eq_some]
  cases ds with
  | nil => exact absurd hl (by decide)
  | cons c cs =>
    have hc : Reader.isAsciiDigit c = true := hd c List.mem_cons_self
    have hm : c ∉ Reader.valueHeads := fun hm => by
      rw [Reader.isAsciiDigit_of_mem_valueHeads c hm] at hc
      cases hc
    have hs : Reader.skipSpace (c :: cs) = c :: cs := by
      have hspace : Reader.isJsonSpace c = false := by
        cases h : Reader.isJsonSpace c with
        | false => rfl
        | true =>
          simp only [Reader.isJsonSpace, Bool.or_eq_true, beq_iff_eq, or_assoc] at h
          rcases h with rfl | rfl | rfl | rfl <;> exact absurd hc (by decide)
      rw [Reader.skipSpace, List.dropWhile_cons, hspace]
      rfl
    have hv : Reader.readValue maxNesting (2 * (c :: cs).length + 2) (c :: cs) =
        .error (.beyond (.digits (c :: cs).length)) := by
      rw [Reader.readValue_of_notMem hm, Reader.readNumber_digits hd (List.cons_ne_nil c cs) hz]
      simp only [Reader.numberOf, if_pos hl]
      rfl
    simp only [read, readWithin, String.toList_ofList, hs, hv]

end Json
end Recorder
