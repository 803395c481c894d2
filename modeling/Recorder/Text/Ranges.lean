/-
# Classes of characters given by ranges

A class is a list of closed ranges of code points.
-/

namespace Recorder
namespace Text

/-- Whether a code point lies in one of the closed ranges. -/
def inRanges (ranges : List (Nat × Nat)) (n : Nat) : Bool :=
  ranges.any fun r => r.1 ≤ n && n ≤ r.2

/-- The part of a text left when every character of a class is taken off both ends. -/
def trimBy (p : Char → Bool) (cs : List Char) : List Char :=
  ((cs.dropWhile p).reverse.dropWhile p).reverse

/-- The pieces between the characters of a class; one more than there are such characters. -/
def splitBy (p : Char → Bool) : List Char → List (List Char)
  | [] => [[]]
  | c :: cs =>
    if p c then [] :: splitBy p cs
    else match splitBy p cs with
      | [] => [[c]]
      | w :: ws => (c :: w) :: ws

theorem splitBy_ne_nil (p : Char → Bool) (cs : List Char) : splitBy p cs ≠ [] := by
  induction cs with
  | nil => simp [splitBy]
  | cons c cs ih =>
    unfold splitBy
    split
    · simp
    · split <;> simp

/-- A character of the class divides the pieces before it from those after it. -/
theorem splitBy_append_cons {p : Char → Bool} {c : Char} (hc : p c = true) (as bs : List Char) :
    splitBy p (as ++ c :: bs) = splitBy p as ++ splitBy p bs := by
  induction as with
  | nil => simp [splitBy, hc]
  | cons a as ih =>
    rw [List.cons_append, splitBy, splitBy, ih]
    cases ha : p a with
    | true => rfl
    | false =>
      obtain ⟨w, ws, hw⟩ := List.exists_cons_of_ne_nil (splitBy_ne_nil p as)
      rw [hw]
      rfl

/-- A text without characters of the class is one piece. -/
theorem splitBy_of_not {p : Char → Bool} {cs : List Char} (h : ∀ c ∈ cs, p c = false) :
    splitBy p cs = [cs] := by
  induction cs with
  | nil => rfl
  | cons c cs ih =>
    have hc : p c = false := h c List.mem_cons_self
    rw [splitBy, hc, ih fun d hd => h d (List.mem_cons_of_mem _ hd)]
    rfl

/-- Whether `word` occurs somewhere in a text. -/
def occursIn (word : List Char) : List Char → Bool
  | [] => word.isEmpty
  | c :: cs => word.isPrefixOf (c :: cs) || occursIn word cs

/-- What follows `lead`, if a text starts with it. -/
def dropLead? (lead cs : List Char) : Option (List Char) :=
  if lead.isPrefixOf cs then some (cs.drop lead.length) else none

/-- What precedes `tail`, if a text ends with it. -/
def dropTail? (tail cs : List Char) : Option (List Char) :=
  if tail.isSuffixOf cs then some (cs.take (cs.length - tail.length)) else none

end Text
end Recorder
