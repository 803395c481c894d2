/-
# Texts beyond the limits of the reader

The reader under the frames of `SPEC_FULL.md` §3 and the files of §9 and §12.

A text is beyond the limits of the reader only if it holds what a limit is about: a row of
too many digits, or more opening brackets than there is room for (`Json.exceeds_of_exceeded?`).
A short text holds neither (`Json.exceeded?_of_length_le`).

Every reader leaves an end of its text (`Json.Reader.Reads`), so what a later reader meets was
in the text from the beginning.

| error | what the text holds |
| --- | --- |
| malformed | anything |
| beyond the limit of digits | that many digits in a row |
| beyond the limit of brackets | more opening brackets than there is room for |
-/

import Recorder.Proofs.Json.Limits

namespace Recorder
namespace Json
namespace Reader

variable {α β : Type} {room : Nat} {cs ds : List Char}

/-- Whether a character opens an array or an object. -/
def isOpening (c : Char) : Bool := c == '[' || c == '{'

/-- **What a text holds that is beyond a limit:** so many digits in a row, more than the
reader takes; or more opening brackets than there is room for, whether or not they are closed
again. -/
def Exceeds (room : Nat) (cs : List Char) : JsonLimit → Prop
  | .digits n => maxIntegerDigits < n ∧
      ∃ row, row <:+: cs ∧ row.length = n ∧ ∀ c ∈ row, isAsciiDigit c = true
  | .depth => room < cs.countP isOpening

/-- **What a reader does with a text:** it leaves an end of it, or it gives up, and then on
something that the text holds. -/
def Reads (room : Nat) (cs : List Char) : Except JsonError (α × List Char) → Prop
  | .ok (_, rest) => rest <:+ cs
  | .error .malformed => True
  | .error (.beyond limit) => Exceeds room cs limit

/-- What an end of a text holds, the text holds. -/
theorem Exceeds.of_suffix {limit : JsonLimit} (h : Exceeds room ds limit) (hs : ds <:+ cs) :
    Exceeds room cs limit := by
  cases limit with
  | digits n =>
    obtain ⟨hn, row, hrow, hlen, hdigits⟩ := h
    exact ⟨hn, row, hrow.trans hs.isInfix, hlen, hdigits⟩
  | depth => exact Nat.lt_of_lt_of_le h (hs.sublist.countP_le)

/-- A text with one more opening bracket in front has room for one less after it. -/
theorem Exceeds.cons {limit : JsonLimit} {c : Char} (hc : isOpening c = true)
    (h : Exceeds room cs limit) : Exceeds (room + 1) (c :: cs) limit := by
  cases limit with
  | digits n =>
    have hrow : Exceeds room (c :: cs) (.digits n) := h.of_suffix (List.suffix_cons c cs)
    exact hrow
  | depth =>
    have hcount : (c :: cs).countP isOpening = cs.countP isOpening + 1 := List.countP_cons_of_pos hc
    rw [Exceeds, hcount]
    exact Nat.succ_lt_succ h

namespace Reads

variable {outcome : Except JsonError (α × List Char)}

/-- What reads an end of a text reads the text: its rest is an end of the text as well, and
what it gives up on is in the text. -/
theorem of_suffix (h : Reads room ds outcome) (hs : ds <:+ cs) : Reads room cs outcome := by
  match outcome with
  | .ok (_, rest) => exact List.IsSuffix.trans h hs
  | .error .malformed => trivial
  | .error (.beyond limit) => exact Exceeds.of_suffix h hs

/-- Reading what follows an opening bracket. -/
theorem cons {c : Char} (hc : isOpening c = true) (h : Reads room cs outcome) :
    Reads (room + 1) (c :: cs) outcome := by
  match outcome with
  | .ok (_, rest) => exact List.IsSuffix.trans h (List.suffix_cons c cs)
  | .error .malformed => trivial
  | .error (.beyond limit) => exact Exceeds.cons hc h

/-- There is no room for an opening bracket. -/
theorem noRoom {c : Char} (hc : isOpening c = true) :
    Reads 0 (c :: cs) (.error (.beyond .depth) : Except JsonError (α × List Char)) :=
  Nat.lt_of_lt_of_eq (Nat.zero_lt_succ _) (List.countP_cons_of_pos hc).symm

/-- A value that is read is made into another one. -/
theorem map (h : Reads room cs outcome) (f : α → β) :
    Reads room cs (outcome.map fun p => (f p.1, p.2)) := by
  match outcome with
  | .ok (_, rest) => exact h
  | .error .malformed => trivial
  | .error (.beyond limit) => exact h

/-- What is left is read on. -/
theorem bind {next : α × List Char → Except JsonError (β × List Char)} (h : Reads room cs outcome)
    (hnext : ∀ a rest, rest <:+ cs → Reads room cs (next (a, rest))) :
    Reads room cs (outcome >>= next) := by
  match outcome with
  | .ok (a, rest) => exact hnext a rest h
  | .error .malformed => trivial
  | .error (.beyond limit) => exact h

end Reads

/-! ## Strings and numbers -/

/-- Skipping space leaves an end of the text. -/
theorem skipSpace_suffix (cs : List Char) : skipSpace cs <:+ cs := List.dropWhile_suffix _

/-- What follows the first character that is no space. -/
theorem suffix_of_skipSpace {c : Char} {tail : List Char} (h : skipSpace cs = c :: tail) :
    tail <:+ cs := by
  have hskip : skipSpace cs <:+ cs := skipSpace_suffix cs
  rw [h] at hskip
  exact (List.suffix_cons c tail).trans hskip

theorem hexFour?_suffix {n : Nat} {rest : List Char} (h : hexFour? cs = some (n, rest)) :
    rest <:+ cs := by
  unfold hexFour? at h
  split at h
  · rename_i a b c d rest'
    split at h
    · obtain ⟨-, rfl⟩ := Prod.mk.inj (Option.some.inj h)
      exact ⟨[a, b, c, d], rfl⟩
    · cases h
  · cases h

/-- A unit that is joined with the next one leaves what follows that, any other leaves all. -/
theorem unitChar_suffix (n : Nat) (cs : List Char) : (unitChar n cs).2 <:+ cs := by
  unfold unitChar
  split
  · split
    · rename_i more
      have hmore : more <:+ '\\' :: 'u' :: more := ⟨['\\', 'u'], rfl⟩
      split
      · rename_i m rest h
        split
        · exact (hexFour?_suffix h).trans hmore
        · exact List.suffix_rfl
      · exact List.suffix_rfl
    · exact List.suffix_rfl
  · split <;> exact List.suffix_rfl

/-- **A string** is never beyond a limit.  It is read to its closing mark, and digits and
brackets in it are only characters. -/
theorem reads_readString (room fuel : Nat) (done cs : List Char) :
    Reads room cs (readString fuel done cs) := by
  induction fuel generalizing done cs with
  | zero => trivial
  | succ fuel ih =>
    unfold readString
    split
    · trivial
    · exact List.suffix_cons _ _
    · rename_i rest
      split
      · rename_i n more h
        have hmore : more <:+ '\\' :: 'u' :: rest := (hexFour?_suffix h).trans ⟨['\\', 'u'], rfl⟩
        exact (ih _ _).of_suffix ((unitChar_suffix n more).trans hmore)
      · trivial
    · rename_i e rest _
      split
      · exact (ih _ _).of_suffix ⟨['\\', e], rfl⟩
      · trivial
    · split
      · trivial
      · exact (ih _ _).of_suffix (List.suffix_cons _ _)

/-- The digits before a point stand in a row in the text, and what follows them is an end of
it. -/
theorem takeWhole_spec (cs : List Char) : (takeWhole cs).1 <:+: cs ∧ (takeWhole cs).2 <:+ cs ∧
    ∀ c ∈ (takeWhole cs).1, isAsciiDigit c = true := by
  unfold takeWhole
  split
  · rename_i rest
    refine ⟨⟨[], rest, rfl⟩, List.suffix_cons _ _, fun c hc => ?_⟩
    obtain rfl := List.mem_singleton.1 hc
    rfl
  · exact ⟨(List.takeWhile_prefix _).isInfix, List.dropWhile_suffix _, fun c hc =>
      List.mem_takeWhile_imp hc⟩

/-- A fraction leaves what follows it; where there is none, all is left. -/
theorem takeFraction_suffix (cs : List Char) : (takeFraction cs).2 <:+ cs := by
  unfold takeFraction
  split
  · rename_i rest
    dsimp only
    split
    · exact List.suffix_rfl
    · exact (List.dropWhile_suffix _).trans (List.suffix_cons _ _)
  · exact List.suffix_rfl

theorem takeSign_suffix (cs : List Char) : (Text.takeSign cs).2 <:+ cs := by
  unfold Text.takeSign
  split
  · exact List.suffix_cons _ _
  · exact List.suffix_cons _ _
  · exact List.suffix_rfl

theorem takeExponent_suffix (cs : List Char) : (takeExponent cs).2 <:+ cs := by
  unfold takeExponent
  split
  · rename_i e rest
    split
    · dsimp only
      split
      · exact List.suffix_rfl
      · exact ((List.dropWhile_suffix _).trans (takeSign_suffix rest)).trans (List.suffix_cons _ _)
    · exact List.suffix_rfl
  · exact List.suffix_rfl

/-- **A number** is beyond the limit of digits only, and only if it has neither a fraction nor
a power of ten.  Then it would be held with all its digits, and these are a row in the text. -/
theorem reads_readNumber (room : Nat) (negative : Bool) (cs : List Char) :
    Reads room cs (readNumber negative cs) := by
  obtain ⟨hrow, hrest, hdigits⟩ := takeWhole_spec cs
  unfold readNumber
  generalize takeWhole cs = w at hrow hrest hdigits
  obtain ⟨whole, rest⟩ := w
  dsimp only
  split
  · trivial
  · unfold numberOf
    dsimp only
    split
    · split
      · rename_i hlong
        exact ⟨hlong, whole, hrow, rfl, hdigits⟩
      · exact (takeExponent_suffix _).trans ((takeFraction_suffix rest).trans hrest)
    · exact (takeExponent_suffix _).trans ((takeFraction_suffix rest).trans hrest)

/-- **A value without brackets** is read from the head of the text.  Only its digits can be
too many. -/
theorem reads_readScalar (room : Nat) (cs : List Char) : Reads room cs (readScalar cs) := by
  unfold readScalar
  split
  · exact ⟨['n', 'u', 'l', 'l'], rfl⟩
  · exact ⟨['t', 'r', 'u', 'e'], rfl⟩
  · exact ⟨['f', 'a', 'l', 's', 'e'], rfl⟩
  · exact ⟨['N', 'a', 'N'], rfl⟩
  · exact ⟨['I', 'n', 'f', 'i', 'n', 'i', 't', 'y'], rfl⟩
  · exact ⟨['-', 'I', 'n', 'f', 'i', 'n', 'i', 't', 'y'], rfl⟩
  · exact (reads_readNumber room true _).of_suffix (List.suffix_cons _ _)
  · exact reads_readNumber room false cs

/-! ## Values -/

section Step

/-! One step of each reader of values, if the readers of what follows do as they should. -/

variable {fuel : Nat}

/-- The items of an array with one more round of fuel: a value, and then the others after a
comma. -/
theorem reads_readItems_succ (hvalue : ∀ cs, Reads room cs (readValue room fuel cs))
    (hitems : ∀ cs, Reads room cs (readItems room fuel cs)) (cs : List Char) :
    Reads room cs (readItems room (fuel + 1) cs) := by
  rw [readItems]
  refine (hvalue cs).bind fun x rest hrest => ?_
  dsimp only
  split
  · rename_i tail h
    exact (suffix_of_skipSpace h).trans hrest
  · rename_i tail h
    have htail : skipSpace tail <:+ cs :=
      (skipSpace_suffix tail).trans ((suffix_of_skipSpace h).trans hrest)
    exact ((hitems (skipSpace tail)).of_suffix htail).map (x :: ·)
  · trivial

/-- The fields of an object with one more round of fuel: a name, a value, and then the others
after a comma. -/
theorem reads_readFields_succ (hvalue : ∀ cs, Reads room cs (readValue room fuel cs))
    (hfields : ∀ cs, Reads room cs (readFields room fuel cs)) (cs : List Char) :
    Reads room cs (readFields room (fuel + 1) cs) := by
  unfold readFields
  split
  · rename_i key
    refine ((reads_readString room fuel [] key).of_suffix (List.suffix_cons _ key)).bind
      fun k rest hrest => ?_
    dsimp only
    split
    · rename_i tail h
      have htail : skipSpace tail <:+ '"' :: key :=
        (skipSpace_suffix tail).trans ((suffix_of_skipSpace h).trans hrest)
      refine ((hvalue (skipSpace tail)).of_suffix htail).bind fun v rest' hrest' => ?_
      dsimp only
      split
      · rename_i tail' h'
        exact (suffix_of_skipSpace h').trans hrest'
      · rename_i tail' h'
        have htail' : skipSpace tail' <:+ '"' :: key :=
          (skipSpace_suffix tail').trans ((suffix_of_skipSpace h').trans hrest')
        exact ((hfields (skipSpace tail')).of_suffix htail').map ((k, v) :: ·)
      · trivial
    · trivial
  · trivial

/-- A value with one more round of fuel.  Each bracket that is opened takes up room for one. -/
theorem reads_readValue_succ (hitems : ∀ room cs, Reads room cs (readItems room fuel cs))
    (hfields : ∀ room cs, Reads room cs (readFields room fuel cs)) (room : Nat) (cs : List Char) :
    Reads room cs (readValue room (fuel + 1) cs) := by
  unfold readValue
  split
  · rename_i rest
    exact ((reads_readString room fuel [] rest).of_suffix (List.suffix_cons _ rest)).map Json.str
  · rename_i rest
    split
    · exact .noRoom rfl
    · rename_i tail _ h
      exact (suffix_of_skipSpace h).trans (List.suffix_cons _ rest)
    · exact (((hitems _ _).of_suffix (skipSpace_suffix rest)).map Json.arr).cons rfl
  · rename_i rest
    split
    · exact .noRoom rfl
    · rename_i tail _ h
      exact (suffix_of_skipSpace h).trans (List.suffix_cons _ rest)
    · exact (((hfields _ _).of_suffix (skipSpace_suffix rest)).map
        fun ps => Json.obj (Entries.ofPairs ps)).cons rfl
  · exact reads_readScalar room _

end Step

/-- **Values, items and fields** are read as they should be.  The three readers call each
other, so the three statements go through one induction on the fuel, with one step lemma for
each reader. -/
theorem reads_values (fuel : Nat) : (∀ room cs, Reads room cs (readValue room fuel cs)) ∧
    (∀ room cs, Reads room cs (readItems room fuel cs)) ∧
    ∀ room cs, Reads room cs (readFields room fuel cs) := by
  induction fuel with
  | zero => exact ⟨fun _ _ => trivial, fun _ _ => trivial, fun _ _ => trivial⟩
  | succ fuel ih =>
    obtain ⟨hvalue, hitems, hfields⟩ := ih
    exact ⟨reads_readValue_succ hitems hfields,
      fun room => reads_readItems_succ (hvalue room) (hitems room),
      fun room => reads_readFields_succ (hvalue room) (hfields room)⟩

end Reader

/-! ## Documents -/

/-- **A text beyond a limit** holds what the limit is about.  The converse does not hold: a
text may be malformed before the reader comes to it. -/
theorem exceeds_of_exceeded? {s : String} {limit : JsonLimit} (h : exceeded? s = some limit) :
    Reader.Exceeds maxNesting s.toList limit := by
  rw [exceeded?_eq_some, read, readWithin] at h
  have hreads := ((Reader.reads_values (2 * s.toList.length + 2)).1 maxNesting
    (Reader.skipSpace s.toList)).of_suffix (Reader.skipSpace_suffix s.toList)
  split at h
  · rename_i e he
    obtain rfl := Except.error.inj h
    rw [he] at hreads
    exact hreads
  · split at h <;> cases h

/-- **A short text** is within the limits: it has no more digits and no more brackets than
characters.  A bound on the length is what can be asked for where a frame comes from outside. -/
theorem exceeded?_of_length_le {s : String} (h : s.length ≤ maxNesting) : exceeded? s = none := by
  rw [Option.eq_none_iff_forall_ne_some]
  intro limit hl
  have hlen : s.toList.length ≤ maxNesting := by rwa [String.length_toList]
  have hexceeds := exceeds_of_exceeded? hl
  cases limit with
  | digits n =>
    obtain ⟨hn, row, hrow, rfl, -⟩ := hexceeds
    have hmax : maxNesting ≤ maxIntegerDigits := by decide
    exact Nat.not_lt.2 (hrow.length_le.trans (hlen.trans hmax)) hn
  | depth => exact Nat.not_lt.2 (List.countP_le_length.trans hlen) hexceeds

end Json
end Recorder
