/-
# Which texts are whole numbers

The data model (`SPEC_FULL.md` §1) takes text for a number where it plainly is one.  A whole
number is read from every text of this shape and from no other
(`Scalar.isOk_intOfText_iff`).

| part | what stands there |
| --- | --- |
| `before`, `after` | white space |
| `sign` | a plus, a minus or nothing |
| `zeros` | nothing, or a zero and any number of zeros and low lines after it |
| `core` | the digits that count, with single low lines between them |
| `fraction` | nothing, or a point and at least one zero |

The core is a number without a superfluous character once the low lines are out of it: its
first digit is a zero only if it is the only one, and no more than `maxIntegerDigits`
characters are read.  Behind zeros the core may start with a minus of its own: only
the sign in front of the zeros is taken off before them.
-/

import Recorder.Proofs.Number.Numeral
import Recorder.Proofs.Outcome
import Recorder.Proofs.Schema.NumberParts

namespace Recorder
namespace Scalar

/-! ## Plain whole numbers -/

/-- **A plain whole number:** a minus or none, and digits, the first of which is `0` only if
it is alone.  No more than `maxIntegerDigits` characters are read. -/
def IsPlainWhole (cs : List Char) : Prop :=
  ∃ minus digits, cs = minus ++ digits ∧ (minus = [] ∨ minus = ['-']) ∧ IsDigits digits ∧
    (digits.head? = some '0' → digits = ['0']) ∧ cs.length ≤ maxIntegerDigits

/-- The beginning of a number that is longer than what is read, whatever follows. -/
def IsTooLong (cs : List Char) : Prop :=
  ∃ minus digits rest, cs = minus ++ (digits ++ rest) ∧ (minus = [] ∨ minus = ['-']) ∧
    IsDigits digits ∧ digits.head? ≠ some '0' ∧ maxIntegerDigits < (minus ++ digits).length

/-- Digits start with a digit and nothing else. -/
theorem head?_ne_of_isDigits {digits : List Char} {c : Char} (h : IsDigits digits)
    (hc : c.isDigit = false) : digits.head? ≠ some c := fun hhead => by
  have hdigit := h.isDigit c (List.mem_of_head? hhead)
  rw [hc] at hdigit
  cases hdigit

/-- After a minus or none, digits are the rest of the number. -/
theorem isPlainWhole_append_iff {minus body : List Char}
    (h : minus = [] ∧ body.head? ≠ some '-' ∨ minus = ['-']) :
    IsPlainWhole (minus ++ body) ↔ IsDigits body ∧ (body.head? = some '0' → body = ['0']) ∧
      (minus ++ body).length ≤ maxIntegerDigits := by
  constructor
  · rintro ⟨minus', digits, heq, hminus', hdigits, hzero, hlength⟩
    have hhead : digits.head? ≠ some '-' := head?_ne_of_isDigits hdigits rfl
    obtain rfl : body = digits := by
      rcases h with ⟨rfl, hbody⟩ | rfl <;> rcases hminus' with rfl | rfl
      · exact heq
      · exact absurd (congrArg List.head? heq) hbody
      · exact absurd (congrArg List.head? heq).symm hhead
      · exact (List.cons.inj heq).2
    exact ⟨hdigits, hzero, hlength⟩
  · rintro ⟨hdigits, hzero, hlength⟩
    exact ⟨minus, body, rfl, h.imp And.left id, hdigits, hzero, hlength⟩

/-- A text is a minus or none, and what follows it. -/
theorem exists_minus (cs : List Char) : ∃ minus body, cs = minus ++ body ∧
    (minus = [] ∧ body.head? ≠ some '-' ∨ minus = ['-']) := by
  by_cases hminus : cs.head? = some '-'
  · obtain ⟨body, rfl⟩ := List.head?_eq_some_iff.1 hminus
    exact ⟨['-'], body, rfl, .inr rfl⟩
  · exact ⟨[], cs, rfl, .inl ⟨rfl, hminus⟩⟩

/-- **A plain number is looked at digit by digit:** a zero must be all there is, and any other
digit is followed by digits up to the end, of which there are not too many. -/
theorem plainInteger_append {minus body : List Char}
    (h : minus = [] ∧ body.head? ≠ some '-' ∨ minus = ['-']) :
    plainInteger (minus ++ body) =
      match body.takeWhile Char.isDigit with
      | [] => .error .intParsing
      | c :: more =>
        if c = '0' then if body = ['0'] then .ok 0 else .error .intParsing
        else if maxIntegerDigits < minus.length + (c :: more).length then .error .intParsingSize
        else if c :: more = body then
          .ok (Text.signedOf (minus == ['-']) (Text.ofDigits (body.filterMap Text.asciiDigit?)))
        else .error .intParsing := by
  have hnegative : ((minus ++ body).head? == some '-') = (minus == ['-']) := by
    rcases h with ⟨rfl, hbody⟩ | rfl
    · exact beq_eq_false_iff_ne.2 hbody
    · rfl
  have hbody : (if minus == ['-'] then (minus ++ body).drop 1 else minus ++ body) = body := by
    rcases h with ⟨rfl, -⟩ | rfl <;> rfl
  have hlength : (minus ++ body).length - body.length = minus.length := by
    rw [List.length_append, Nat.add_sub_cancel]
  have hrow : body.takeWhile Char.isDigit ++ body.dropWhile Char.isDigit = body :=
    List.takeWhile_append_dropWhile
  have hdigits : ∀ c ∈ body.takeWhile Char.isDigit, c.isDigit = true := fun c hc =>
    List.mem_takeWhile_imp hc
  rw [plainInteger]
  simp only [hnegative, hbody, isSome_asciiDigit?, hlength]
  generalize body.takeWhile Char.isDigit = digits at hrow hdigits ⊢
  cases digits with
  | nil => rfl
  | cons c more =>
    obtain ⟨d, hd, hzero⟩ := asciiDigit?_of_isDigit (hdigits c List.mem_cons_self)
    have hmore := filterMap_asciiDigit?_eq_nil fun e he => hdigits e (List.mem_cons_of_mem _ he)
    -- A zero counts as a number only if the row of digits is all there is.
    have halone (hc : c = '0') : (more = [] ∧ c :: more = body) ↔ body = ['0'] := by
      subst hc
      constructor
      · rintro ⟨rfl, hbody⟩
        exact hbody.symm
      · intro hbody
        obtain ⟨hnil, -⟩ := List.append_eq_nil_iff.1 (List.cons.inj (hrow.trans hbody)).2
        exact ⟨hnil, by rw [hnil, hbody]⟩
    rw [List.filterMap_cons_some hd]
    dsimp only
    simp only [hzero, Bool.and_eq_true, List.isEmpty_iff, beq_iff_eq, hmore]
    by_cases hc : c = '0'
    · rw [if_pos hc, if_pos hc, if_congr (halone hc) rfl rfl]
    · rw [if_neg hc, if_neg hc]
      by_cases hall : c :: more = body
      · rw [← hall, List.filterMap_cons_some hd]
      · rw [if_neg hall, if_neg hall]

/-- **What becomes of a text that should be a plain number:** it is one and is read, it is
none, or its digits are too many, which is found before what follows them is looked at. -/
theorem plainInteger_cases (cs : List Char) :
    IsPlainWhole cs ∧ (plainInteger cs).isOk = true ∨
      ¬ IsPlainWhole cs ∧ plainInteger cs = .error .intParsing ∨
      IsTooLong cs ∧ plainInteger cs = .error .intParsingSize := by
  obtain ⟨minus, body, rfl, hshape⟩ := exists_minus cs
  rw [isPlainWhole_append_iff hshape, plainInteger_append hshape, List.length_append]
  have hshort : minus.length ≤ 1 := by
    rcases hshape with ⟨rfl, -⟩ | rfl <;> decide
  have hrow : body.takeWhile Char.isDigit ++ body.dropWhile Char.isDigit = body :=
    List.takeWhile_append_dropWhile
  have hdigits : ∀ c ∈ body.takeWhile Char.isDigit, c.isDigit = true := fun c hc =>
    List.mem_takeWhile_imp hc
  have hstays : IsDigits body → body.takeWhile Char.isDigit = body := fun h =>
    List.takeWhile_eq_self_iff.2 h.isDigit
  -- From here on only two things are used of the row: it starts the body, and it is all digits.
  generalize body.takeWhile Char.isDigit = digits at hrow hdigits hstays ⊢
  cases digits with
  | nil => exact .inr (.inl ⟨fun h => h.1.ne_nil (hstays h.1).symm, rfl⟩)
  | cons c more =>
    have hhead : body.head? = some c := by rw [← hrow]; rfl
    have hfirst : body.head? = some '0' ↔ c = '0' := by rw [hhead, Option.some.injEq]
    have hsome : IsDigits (c :: more) := ⟨List.cons_ne_nil _ _, hdigits⟩
    dsimp only
    by_cases hc : c = '0'
    · rw [if_pos hc]
      by_cases halone : body = ['0']
      · rw [if_pos halone, halone]
        exact .inl ⟨⟨⟨List.cons_ne_nil _ _, by simp⟩, fun _ => rfl,
          (Nat.add_le_add_right hshort 1).trans (by decide)⟩, rfl⟩
      · rw [if_neg halone]
        exact .inr (.inl ⟨fun h => halone (h.2.1 (hfirst.2 hc)), rfl⟩)
    · rw [if_neg hc]
      by_cases hlong : maxIntegerDigits < minus.length + (c :: more).length
      · rw [if_pos hlong]
        refine .inr (.inr ⟨⟨minus, c :: more, body.dropWhile Char.isDigit, ?_,
          hshape.imp And.left id, hsome, ?_, ?_⟩, rfl⟩)
        · rw [hrow]
        · rwa [List.head?_cons, ne_eq, Option.some.injEq]
        · rwa [List.length_append]
      · rw [if_neg hlong]
        by_cases hall : c :: more = body
        · rw [if_pos hall]
          refine .inl ⟨⟨hall ▸ hsome, fun h => absurd (hfirst.1 h) hc, ?_⟩, rfl⟩
          rw [← hall]
          exact Nat.not_lt.1 hlong
        · rw [if_neg hall]
          exact .inr (.inl ⟨fun h => hall (hstays h.1), rfl⟩)

/-! ## Zeros in front and behind -/

/-- **Zeros in front:** none, or a zero and any number of zeros and low lines after it.  Here
low lines need not be apart. -/
def IsZeros (cs : List Char) : Prop :=
  cs = [] ∨ ∃ more, cs = '0' :: more ∧ ∀ c ∈ more, c = '0' ∨ c = '_'

/-- **A fraction of zeros:** none, or a point and at least one zero.  A point alone is no
fraction, and neither is one that digits other than zero follow. -/
def IsZeroFraction (cs : List Char) : Prop :=
  cs = [] ∨ ∃ count, cs = '.' :: List.replicate (count + 1) '0'

/-- Where the zeros in front of a number end: at a minus, at another digit, or at a zero that
nothing or a point follows. -/
def EndsZeros : List Char → Prop
  | [] => False
  | c :: cs => c = '-' ∨ c.isDigit = true ∧ (c = '0' → cs = [] ∨ cs.head? = some '.')

/-- What is left after zeros is the end of the text. -/
theorem exists_afterZeros? {last : Char} {cs out : List Char} (hlast : last = '0' ∨ last = '_')
    (h : afterZeros? last cs = some out) :
    ∃ zeros, (∀ c ∈ zeros, c = '0' ∨ c = '_') ∧ last :: cs = zeros ++ out ∧
      (zeros = [] → out.head? = some last) := by
  induction cs generalizing last with
  | nil =>
    rw [afterZeros?, Option.some.injEq] at h
    exact ⟨[], by simp, h, fun _ => h ▸ rfl⟩
  | cons c cs ih =>
    rw [afterZeros?] at h
    split at h
    · rename_i hc
      obtain ⟨zeros, hzeros, hcs, -⟩ := ih hc h
      refine ⟨last :: zeros, List.forall_mem_cons.2 ⟨hlast, hzeros⟩, ?_, fun hnil => by cases hnil⟩
      rw [hcs, List.cons_append]
    · split at h
      · obtain rfl := Option.some.inj h
        exact ⟨[], by simp, rfl, fun _ => rfl⟩
      · split at h
        · obtain rfl := Option.some.inj h
          exact ⟨[last], by simpa using hlast, rfl, fun hnil => by cases hnil⟩
        · cases h

/-- **Zeros are passed over** up to where they end.  The last of them is carried along, since
a zero that a point or nothing follows is the number itself. -/
theorem afterZeros?_append {last : Char} {zeros out : List Char}
    (hzeros : ∀ c ∈ zeros, c = '0' ∨ c = '_') (hout : EndsZeros out) :
    afterZeros? last (zeros ++ out) = some out := by
  induction zeros generalizing last with
  | nil =>
    obtain _ | ⟨c, cs⟩ := out
    · exact hout.elim
    · rw [List.nil_append, afterZeros?]
      rcases hout with rfl | ⟨hdigit, hzero⟩
      · rfl
      · by_cases hc : c = '0'
        · rw [if_pos (.inl hc)]
          subst hc
          rcases hzero rfl with rfl | hpoint
          · rfl
          · obtain ⟨rest, rfl⟩ := List.head?_eq_some_iff.1 hpoint
            rfl
        · have hother : ¬ (c = '0' ∨ c = '_') ∧ c ≠ '.' := by
            refine ⟨?_, ?_⟩
            · rintro (rfl | rfl)
              · exact hc rfl
              · cases hdigit
            · rintro rfl
              cases hdigit
          rw [if_neg hother.1, if_neg hother.2, isSome_asciiDigit?, if_pos (.inr hdigit)]
  | cons c zeros ih =>
    obtain ⟨hc, hmore⟩ := List.forall_mem_cons.1 hzeros
    rw [List.cons_append, afterZeros?, if_pos hc]
    exact ih hmore

/-- What is left without zeros is the end of the text, and starts with a minus only after
some. -/
theorem exists_dropZeros? {cs out : List Char} (h : dropZeros? cs = some out) :
    ∃ zeros, IsZeros zeros ∧ cs = zeros ++ out ∧ (zeros = [] → out.head? ≠ some '-') := by
  cases cs with
  | nil => cases h
  | cons c cs =>
    rw [dropZeros?] at h
    split at h
    · rename_i hc
      subst hc
      obtain ⟨zeros, hzeros, hcs, hhead⟩ := exists_afterZeros? (.inl rfl) h
      refine ⟨zeros, ?_, hcs, fun hnil => by simp [hhead hnil]⟩
      cases zeros with
      | nil => exact .inl rfl
      | cons d more =>
        obtain ⟨rfl, -⟩ := List.cons.inj hcs
        exact .inr ⟨more, rfl, (List.forall_mem_cons.1 hzeros).2⟩
    · split at h
      · rename_i hdigit
        obtain rfl := Option.some.inj h
        refine ⟨[], .inl rfl, rfl, fun _ hminus => ?_⟩
        rw [Option.some.inj hminus] at hdigit
        cases hdigit
      · cases h

/-- **Zeros are dropped** up to where they end, and nothing is dropped where there are none. -/
theorem dropZeros?_append {zeros out : List Char} (hzeros : IsZeros zeros) (hout : EndsZeros out)
    (hminus : zeros = [] → out.head? ≠ some '-') : dropZeros? (zeros ++ out) = some out := by
  rcases hzeros with rfl | ⟨more, rfl, hmore⟩
  · obtain _ | ⟨c, cs⟩ := out
    · exact hout.elim
    · rcases hout with rfl | ⟨hdigit, hzero⟩
      · exact absurd rfl (hminus rfl)
      · rw [List.nil_append, dropZeros?]
        by_cases hc : c = '0'
        · have hrest : afterZeros? '0' ([] ++ c :: cs) = some (c :: cs) :=
            afterZeros?_append (by simp) (.inr ⟨hdigit, hzero⟩)
          rw [List.nil_append, afterZeros?, if_pos (.inl hc)] at hrest
          rw [if_pos hc, ← hrest, hc]
        · rw [if_neg hc, isSome_asciiDigit?, if_pos hdigit]
  · rw [List.cons_append, dropZeros?, if_pos rfl]
    exact afterZeros?_append hmore hout

/-- The zeros at the end of a text, and what stands before them. -/
theorem reverse_eq_zeros (cs : List Char) :
    ∃ count, cs.reverse.takeWhile (· == '0') = List.replicate count '0' ∧
      cs.reverse = List.replicate count '0' ++ cs.reverse.drop count := by
  have hzeros : cs.reverse.takeWhile (· == '0') =
      List.replicate (cs.reverse.takeWhile (· == '0')).length '0' :=
    List.eq_replicate_of_mem fun c hc => by simpa using List.mem_takeWhile_imp hc
  have hfront := List.prefix_iff_eq_take.1 (List.takeWhile_prefix (l := cs.reverse) (· == '0'))
  refine ⟨_, hzeros, ?_⟩
  exact (List.take_append_drop _ _).symm.trans (congrArg (· ++ _) (hfront.symm.trans hzeros))

/-- Only a fraction of zeros is taken off. -/
theorem exists_dropZeroFraction (cs : List Char) :
    ∃ fraction, IsZeroFraction fraction ∧ cs = dropZeroFraction cs ++ fraction := by
  obtain ⟨count, hzeros, hcs⟩ := reverse_eq_zeros cs
  rw [dropZeroFraction, hzeros, List.length_replicate]
  split
  · rename_i rest hrest
    rw [List.isEmpty_replicate]
    cases count with
    | zero => exact ⟨[], .inl rfl, (List.append_nil _).symm⟩
    | succ count =>
      refine ⟨'.' :: List.replicate (count + 1) '0', .inr ⟨count, rfl⟩, ?_⟩
      rw [← List.reverse_reverse cs, hcs, hrest]
      simp
  · exact ⟨[], .inl rfl, (List.append_nil _).symm⟩

/-- **A fraction of zeros is taken off** what has no point in it, so a number with a fraction
of zeros is a whole one. -/
theorem dropZeroFraction_append {core fraction : List Char} (hcore : '.' ∉ core)
    (hfraction : IsZeroFraction fraction) : dropZeroFraction (core ++ fraction) = core := by
  rcases hfraction with rfl | ⟨count, rfl⟩
  · rw [List.append_nil, dropZeroFraction]
    split
    · rename_i rest hrest
      have hpoint : '.' ∈ core.reverse := List.mem_of_mem_drop (hrest ▸ List.mem_cons_self)
      exact absurd (List.mem_reverse.1 hpoint) hcore
    · rfl
  · have hreverse : (core ++ '.' :: List.replicate (count + 1) '0').reverse =
        List.replicate (count + 1) '0' ++ '.' :: core.reverse := by simp
    have hzeros : (List.replicate (count + 1) '0' ++ '.' :: core.reverse).takeWhile (· == '0') =
        List.replicate (count + 1) '0' := by
      rw [List.takeWhile_append_of_pos (by simp), List.takeWhile_cons_of_neg (by decide),
        List.append_nil]
    rw [dropZeroFraction, hreverse, hzeros, List.drop_left]
    simp

/-! ## Texts of whole numbers -/

/-- What a sign is kept as: a minus stays and a plus goes. -/
def minusOf (sign : List Char) : List Char := if sign == ['-'] then ['-'] else []

/-- **A whole number as it may be written:** the six parts in order, and what is asked of each
of them.  They are stated apart from the functions that take them off. -/
structure WholeText where
  before : List Char
  sign : List Char
  zeros : List Char
  core : List Char
  fraction : List Char
  after : List Char
  isWhite_before : IsWhite before
  isSign : IsSign sign
  isZeros : IsZeros zeros
  lowLinesApart : LowLinesApart core
  isPlainWhole : IsPlainWhole (minusOf sign ++ withoutLowLines core)
  isZeroFraction : IsZeroFraction fraction
  isWhite_after : IsWhite after
  /-- Only after zeros the core has a minus of its own. -/
  zeros_of_minus : zeros = [] → core.head? ≠ some '-'

/-- A text that a whole number may be written as. -/
def IsWholeText (cs : List Char) : Prop :=
  ∃ t : WholeText, cs = t.before ++ (t.sign ++ (t.zeros ++ (t.core ++ t.fraction))) ++ t.after

/-- What is kept of a sign is a minus or nothing. -/
theorem minusOf_eq (sign : List Char) : minusOf sign = [] ∨ minusOf sign = ['-'] := by
  rw [minusOf]
  split
  · exact .inr rfl
  · exact .inl rfl

/-- A plain number has digits and perhaps a minus. -/
theorem IsPlainWhole.mem {cs : List Char} (h : IsPlainWhole cs) :
    ∀ c ∈ cs, c = '-' ∨ c.isDigit = true := by
  obtain ⟨minus, digits, rfl, hminus, hdigits, -, -⟩ := h
  intro c hc
  rcases List.mem_append.1 hc with hc | hc
  · rcases hminus with rfl | rfl
    · cases hc
    · exact .inl (List.mem_singleton.1 hc)
  · exact .inr (hdigits.isDigit c hc)

/-- There is no low line in it, so all of them have to be dropped before it is read. -/
theorem IsPlainWhole.lowLine_notMem {cs : List Char} (h : IsPlainWhole cs) : '_' ∉ cs := fun hc =>
  (h.mem '_' hc).elim (by decide) (by decide)

/-- A minus alone is no number, and neither is nothing. -/
theorem not_isPlainWhole_minusOf (sign : List Char) : ¬ IsPlainWhole (minusOf sign) := by
  have hshape : minusOf sign = [] ∧ ([] : List Char).head? ≠ some '-' ∨ minusOf sign = ['-'] :=
    (minusOf_eq sign).imp (fun h => ⟨h, by decide⟩) id
  rw [← List.append_nil (minusOf sign), isPlainWhole_append_iff hshape]
  exact fun h => h.1.ne_nil rfl

namespace WholeText

variable (t : WholeText)

/-- The core has digits, low lines and perhaps a minus. -/
theorem mem_core : ∀ c ∈ t.core, c = '_' ∨ c = '-' ∨ c.isDigit = true := by
  intro c hc
  by_cases hlow : c = '_'
  · exact .inl hlow
  · refine .inr (t.isPlainWhole.mem c (List.mem_append_right _ ?_))
    exact List.mem_filter.2 ⟨hc, bne_iff_ne.2 hlow⟩

/-- There is a digit in the core at least. -/
theorem core_ne_nil : t.core ≠ [] := by
  intro hnil
  have h := t.isPlainWhole
  rw [hnil, withoutLowLines, List.filter_nil, List.append_nil] at h
  exact not_isPlainWhole_minusOf t.sign h

/-- A core that starts with zero is zero. -/
theorem core_eq_zero {more : List Char} (h : t.core = '0' :: more) : more = [] := by
  have hclean : withoutLowLines t.core = '0' :: withoutLowLines more := by rw [h]; rfl
  have hshape : minusOf t.sign = [] ∧ (withoutLowLines t.core).head? ≠ some '-' ∨
      minusOf t.sign = ['-'] := by
    refine (minusOf_eq t.sign).imp (fun hminus => ⟨hminus, ?_⟩) id
    rw [hclean, List.head?_cons]
    decide
  obtain ⟨-, hzero, -⟩ := (isPlainWhole_append_iff hshape).1 t.isPlainWhole
  rw [hclean] at hzero
  have hmore : withoutLowLines more = [] := (List.cons.inj (hzero rfl)).2
  -- What follows has nothing but low lines, and the last character is none.
  by_contra hne
  have hlast : t.core.getLast? = some (more.getLast hne) := by
    rw [h, List.getLast?_cons, List.getLast?_eq_some_getLast hne, Option.getD_some]
  have hlow := List.filter_eq_nil_iff.1 hmore _ (List.getLast_mem hne)
  refine t.lowLinesApart.last (hlast.trans ?_)
  rw [bne_iff_ne, not_not] at hlow
  rw [hlow]

/-- The zeros in front end where the core starts: it starts with another digit, with a minus,
or with a zero that is all of it. -/
theorem endsZeros : EndsZeros (t.core ++ t.fraction) := by
  obtain ⟨c, more, hcore⟩ := List.exists_cons_of_ne_nil t.core_ne_nil
  have hc : c ∈ t.core := hcore ▸ List.mem_cons_self
  rw [hcore]
  rcases t.mem_core c hc with rfl | rfl | hdigit
  · exact absurd (by rw [hcore]; rfl) t.lowLinesApart.head
  · exact .inl rfl
  · refine .inr ⟨hdigit, ?_⟩
    rintro rfl
    rw [t.core_eq_zero hcore]
    exact t.isZeroFraction.imp id fun ⟨count, h⟩ => congrArg List.head? h

/-- There is no white space but around the number. -/
theorem isSpace_eq_false :
    ∀ c ∈ t.sign ++ (t.zeros ++ (t.core ++ t.fraction)), Text.isSpace c = false := by
  intro c hc
  rcases List.mem_append.1 hc with hc | hc
  · exact t.isSign.isSpace_eq_false c hc
  rcases List.mem_append.1 hc with hc | hc
  · rcases t.isZeros with h | ⟨more, h, hmore⟩ <;> rw [h] at hc
    · cases hc
    · rcases List.mem_cons.1 hc with rfl | hc
      · decide
      · rcases hmore c hc with rfl | rfl <;> decide
  rcases List.mem_append.1 hc with hc | hc
  · rcases t.mem_core c hc with rfl | rfl | hdigit
    · decide
    · decide
    · exact isSpace_of_isDigit hdigit
  · rcases t.isZeroFraction with h | ⟨count, h⟩ <;> rw [h] at hc
    · cases hc
    · rcases List.mem_cons.1 hc with rfl | hc
      · decide
      · rw [List.eq_of_mem_replicate hc]
        decide

/-- After the sign no other sign comes. -/
theorem head?_body (rest : List Char) :
    ¬ ((t.zeros ++ (t.core ++ rest)).head? = some '+' ∨
      (t.zeros ++ (t.core ++ rest)).head? = some '-') := by
  rcases t.isZeros with h | ⟨more, h, -⟩
  · obtain ⟨c, more, hcore⟩ := List.exists_cons_of_ne_nil t.core_ne_nil
    have hminus := t.zeros_of_minus h
    have hc := t.mem_core c (hcore ▸ List.mem_cons_self)
    rw [hcore] at hminus
    rw [h, hcore]
    rintro (hsign | hsign)
    · rw [Option.some.inj hsign] at hc
      exact absurd hc (by decide)
    · exact hminus hsign
  · rw [h]
    rintro (hsign | hsign) <;> cases hsign

/-- **A text of a whole number is cleaned up** to a plain one.  White space, the plus, the
zeros in front, the fraction and the low lines go, in this order, and the minus stays. -/
theorem cleanInteger?_eq {cs : List Char}
    (h : cs = t.before ++ (t.sign ++ (t.zeros ++ (t.core ++ t.fraction))) ++ t.after) :
    cleanInteger? cs = some (minusOf t.sign ++ withoutLowLines t.core) := by
  have hminus : t.zeros = [] → (t.core ++ t.fraction).head? ≠ some '-' := by
    intro hzeros
    rw [List.head?_append_of_ne_nil _ t.core_ne_nil]
    exact t.zeros_of_minus hzeros
  have hpoint : '.' ∉ t.core := fun hc => absurd (t.mem_core '.' hc) (by decide)
  have hclean : (dropLowLines? t.core).getD t.core = withoutLowLines t.core :=
    (getD_dropLowLines?_iff (P := (· = withoutLowLines t.core))
      (fun cs hcs hlow => by simp [hcs, withoutLowLines] at hlow) t.core).2 ⟨t.lowLinesApart, rfl⟩
  rw [cleanInteger?, h, trimBy_append t.isWhite_before t.isSpace_eq_false t.isWhite_after,
    takeSign_append t.isSign (t.head?_body t.fraction)]
  dsimp only
  rw [dropZeros?_append t.isZeros t.endsZeros hminus, Option.map_some,
    dropZeroFraction_append hpoint t.isZeroFraction, hclean]
  rfl

end WholeText

/-- **What is cleaned up to a plain number is a text of one:** every step of cleaning takes
off a part, and what is left of the text is its core. -/
theorem isWholeText_of_clean {cs out : List Char} (h : cleanInteger? cs = some out)
    (hout : IsPlainWhole out) : IsWholeText cs := by
  obtain ⟨before, after, hbefore, hafter, hcs⟩ := exists_trimBy cs
  obtain ⟨sign, body, hsign, hbody, htake⟩ := exists_takeSign (Text.trimBy Text.isSpace cs)
  rw [cleanInteger?, htake] at h
  obtain ⟨number, hnumber, hwhole⟩ := Option.map_eq_some_iff.1 h
  obtain ⟨zeros, hzeros, hrest, hminus⟩ := exists_dropZeros? hnumber
  obtain ⟨fraction, hfraction, hcore⟩ := exists_dropZeroFraction number
  rw [← hwhole] at hout
  have hlow : ∀ cs, IsPlainWhole (minusOf sign ++ cs) → '_' ∉ cs := fun cs hplain hmem =>
    hplain.lowLine_notMem (List.mem_append_right _ hmem)
  obtain ⟨hapart, hplain⟩ :=
    (getD_dropLowLines?_iff (P := fun cs => IsPlainWhole (minusOf sign ++ cs)) hlow _).1 hout
  have hne : dropZeroFraction number ≠ [] := by
    intro hnil
    rw [hnil, withoutLowLines, List.filter_nil, List.append_nil] at hplain
    exact not_isPlainWhole_minusOf sign hplain
  have htext :
      cs = before ++ (sign ++ (zeros ++ (dropZeroFraction number ++ fraction))) ++ after := by
    rw [← hcore, ← hrest, ← hbody]
    exact hcs
  refine ⟨{ before, sign, zeros, core := dropZeroFraction number, fraction, after,
            isWhite_before := hbefore, isSign := hsign, isZeros := hzeros,
            lowLinesApart := hapart, isPlainWhole := hplain, isZeroFraction := hfraction,
            isWhite_after := hafter, zeros_of_minus := fun hnil => ?_ }, htext⟩
  have hhead := hminus hnil
  rwa [hcore, List.head?_append_of_ne_nil _ hne] at hhead

/-- A plain number is a text of itself. -/
theorem IsPlainWhole.isWholeText {cs : List Char} (h : IsPlainWhole cs) : IsWholeText cs := by
  have hplain := h
  obtain ⟨minus, digits, rfl, hminus, hdigits, -, -⟩ := h
  have hlow : '_' ∉ digits := fun hc => absurd (hdigits.isDigit '_' hc) (by decide)
  have hsign : minusOf minus = minus := by rcases hminus with rfl | rfl <;> rfl
  refine ⟨{ before := [], sign := minus, zeros := [], core := digits, fraction := [], after := [],
            isWhite_before := isWhite_nil, isSign := hminus.imp id .inr, isZeros := .inl rfl,
            lowLinesApart := lowLinesApart_of_notMem hlow, isPlainWhole := ?_,
            isZeroFraction := .inl rfl, isWhite_after := isWhite_nil,
            zeros_of_minus := fun _ => head?_ne_of_isDigits hdigits rfl }, by simp⟩
  rwa [hsign, withoutLowLines_of_notMem hlow]

/-- **Plain numbers are read and no others:** it does not matter that too many digits are
found before what follows them is looked at, as either is refused. -/
theorem isOk_plainInteger_iff {cs : List Char} :
    (plainInteger cs).isOk = true ↔ IsPlainWhole cs := by
  rcases plainInteger_cases cs with ⟨hplain, hok⟩ | ⟨hplain, herror⟩ | ⟨hlong, herror⟩
  · exact iff_of_true hok hplain
  · rw [herror]
    exact iff_of_false Bool.false_ne_true hplain
  · rw [herror]
    refine iff_of_false Bool.false_ne_true ?_
    obtain ⟨minus, digits, rest, rfl, -, -, -, hlength⟩ := hlong
    rintro ⟨-, -, -, -, -, -, hshort⟩
    rw [List.length_append] at hlength
    rw [List.length_append, List.length_append] at hshort
    omega

/-- The digits at the head of a text are no more than those left without its low lines. -/
theorem length_takeWhile_isDigit_le (cs : List Char) :
    (cs.takeWhile Char.isDigit).length ≤ (withoutLowLines cs).length := by
  have hdigits : withoutLowLines (cs.takeWhile Char.isDigit) = cs.takeWhile Char.isDigit :=
    withoutLowLines_of_notMem fun hmem => absurd (List.mem_takeWhile_imp hmem) (by decide)
  rw [← hdigits]
  exact ((List.takeWhile_sublist Char.isDigit).filter _).length_le

namespace WholeText

variable (t : WholeText)

/-- A text that starts with something else has no white space in front. -/
theorem before_eq_nil {c : Char} {cs rest : List Char} (hc : Text.isSpace c = false)
    (h : c :: cs = t.before ++ rest) : t.before = [] := by
  by_contra hne
  obtain ⟨b, bs, hb⟩ := List.exists_cons_of_ne_nil hne
  have hspace : Text.isSpace b = true := t.isWhite_before b (hb ▸ List.mem_cons_self)
  rw [hb] at h
  rw [← (List.cons.inj h).1, hc] at hspace
  cases hspace

/-- A text that starts with another digit has no zeros in front. -/
theorem zeros_eq_nil {cs rest : List Char} (hcs : cs.head? ≠ some '0')
    (h : cs = t.zeros ++ rest) : t.zeros = [] := by
  rcases t.isZeros with hnil | ⟨more, hmore, -⟩
  · exact hnil
  · rw [h, hmore] at hcs
    exact absurd rfl hcs

/-- No digit comes right behind the core, so it ends the digits that are in it. -/
theorem isDigit_head?_after :
    ∀ c, (t.fraction ++ t.after).head? = some c → c.isDigit = false := by
  intro c hc
  rcases t.isZeroFraction with h | ⟨count, h⟩ <;> rw [h] at hc
  · have hspace : Text.isSpace c = true := t.isWhite_after c (List.mem_of_head? hc)
    by_contra hother
    rw [isSpace_of_isDigit (Bool.not_eq_false _ ▸ hother)] at hspace
    cases hspace
  · rw [← Option.some.inj hc]
    rfl

end WholeText

/-- **A number that is too long is no text of one,** whatever follows its digits.  Its first
digit is no zero, so nothing of it is taken off in front, and all its digits are in the core. -/
theorem IsTooLong.not_isWholeText {cs : List Char} (h : IsTooLong cs) : ¬ IsWholeText cs := by
  obtain ⟨minus, digits, rest, rfl, hminus, hdigits, hzero, hlength⟩ := h
  obtain ⟨d, ds, hds⟩ := List.exists_cons_of_ne_nil hdigits.ne_nil
  have hdigit : d.isDigit = true := hdigits.isDigit d (hds ▸ List.mem_cons_self)
  rintro ⟨t, ht⟩
  have hbefore : t.before = [] := by
    rw [hds, List.append_assoc] at ht
    rcases hminus with rfl | rfl
    · exact t.before_eq_nil (isSpace_of_isDigit hdigit) ht
    · exact t.before_eq_nil rfl ht
  have hfront : Text.takeSign (minus ++ (digits ++ rest)) = (minus == ['-'], digits ++ rest) := by
    refine takeSign_append (hminus.imp id .inr) ?_
    rw [hds]
    rintro (hsign | hsign) <;> rw [Option.some.inj hsign] at hdigit <;> cases hdigit
  have hparts : minus ++ (digits ++ rest) =
      t.sign ++ (t.zeros ++ (t.core ++ (t.fraction ++ t.after))) := by
    rw [ht, hbefore]
    simp
  rw [hparts, takeSign_append t.isSign (t.head?_body _)] at hfront
  obtain ⟨hsign, hbody⟩ := Prod.mk.inj hfront
  have hzeros : t.zeros = [] := by
    refine t.zeros_eq_nil ?_ hbody.symm
    rwa [List.head?_append_of_ne_nil _ hdigits.ne_nil]
  have hall : digits.length ≤ (t.core.takeWhile Char.isDigit).length := by
    rw [← takeWhile_isDigit_append t.isDigit_head?_after, ← List.nil_append (t.core ++ _),
      ← hzeros, hbody, List.takeWhile_append_of_pos hdigits.isDigit, List.length_append]
    exact Nat.le_add_right _ _
  have hkept := length_takeWhile_isDigit_le t.core
  have hsame : minusOf t.sign = minus := by
    rw [minusOf, hsign]
    rcases hminus with rfl | rfl <;> rfl
  obtain ⟨-, -, -, -, -, -, hshort⟩ := t.isPlainWhole
  rw [hsame, List.length_append] at hshort
  rw [List.length_append] at hlength
  omega

/-- **Whole numbers are read from their texts and from no others.**  A text is first read as
it is and cleaned up only if it is no plain number; a number that is too long is not cleaned
up, and no cleaning would make it short enough. -/
theorem isOk_intOfText_iff {s : String} :
    (intOfText s).isOk = true ↔ IsWholeText s.toList := by
  rw [intOfText]
  rcases plainInteger_cases s.toList with ⟨hplain, hok⟩ | ⟨hplain, herror⟩ | ⟨hlong, herror⟩
  -- Only where the text is no plain number does cleaning come into it.
  · obtain ⟨n, hn⟩ := Outcome.isOk_iff.1 hok
    rw [hn]
    exact iff_of_true rfl hplain.isWholeText
  · rw [herror]
    dsimp only
    constructor
    · intro h
      cases hclean : cleanInteger? s.toList with
      | none =>
        rw [hclean] at h
        cases h
      | some out =>
        refine isWholeText_of_clean hclean (isOk_plainInteger_iff.1 ?_)
        rw [hclean, Option.map_some] at h
        cases hout : plainInteger out with
        | ok n => rfl
        | error e =>
          rw [hout] at h
          cases h
    · rintro ⟨t, ht⟩
      obtain ⟨n, hn⟩ := Outcome.isOk_iff.1 (isOk_plainInteger_iff.2 t.isPlainWhole)
      rw [t.cleanInteger?_eq ht, Option.map_some, hn]
      rfl
  · rw [herror]
    exact iff_of_false Bool.false_ne_true hlong.not_isWholeText

/-- Every part is there in the first text; in the second, low lines stand side by side. -/
example : intOfText " -0_01_000.00\n" = .ok (-1000) ∧
    intOfText "1__000" = .error .intParsing := by decide +kernel

end Scalar
end Recorder
