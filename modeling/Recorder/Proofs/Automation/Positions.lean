/-
# Clicks at positions

`SPEC_FULL.md` §5, `pointer_rule`: in coordinate mode `onElement` is omitted and `argument`
carries X and Y.

Where clicks have positions, the rule of a click has no element, and all that tells the
engine where to click is its argument `{{$ --X:<n> --Y:<m>}}`.  The argument holds two
numerals just if both coordinates of the event are finite numbers, and then the numerals
denote them (`RuleCompiler.positioned_iff`).  A coordinate that is missing, infinite or not
a number is written as a word instead (`RuleCompiler.exists_not_positioned`).
-/

import Recorder.Event.Reading
import Recorder.Proofs.Automation.Pauses
import Recorder.Proofs.Number.Numeral

namespace Recorder

/-! ## Coordinates -/

/-- **A coordinate that is given:** there is a number, and it is a finite one.  Other numbers
have no digits to be written with. -/
def IsGiven (x : Option Double) : Prop := ∃ v ∈ x, v.isFinite = true

instance (x : Option Double) : Decidable (IsGiven x) :=
  decidable_of_iff (x.any Double.isFinite = true) (Option.any_eq_true _ _)

/-- Numbers that are not finite are written as words. -/
theorem Double.startsNumber_valueText {x : Double} (h : x.isFinite = false) :
    startsNumber (Parameters.valueText (.float x)).toList = false := by
  cases x with
  | finite negative scaled => cases h
  | infinite negative => cases negative <;> decide +kernel
  | nan => decide +kernel

namespace RuleCompiler

/-- A coordinate that is given is written as a numeral that denotes it. -/
theorem exists_numeral_coordinate {x : Option Double} (h : IsGiven x) :
    ∃ n : Numeral, Parameters.valueText (coordinateValue x) = String.ofList n.text ∧
      ∃ v ∈ x, n.Denotes v := by
  obtain ⟨v, rfl, hv⟩ := h
  obtain ⟨n, htext, hdenotes⟩ := Double.exists_numeral_valueText hv
  exact ⟨n, htext, v, rfl, hdenotes⟩

/-- A coordinate that is written as a numeral is given. -/
theorem isGiven_of_numeral {x : Option Double} {n : Numeral}
    (h : Parameters.valueText (coordinateValue x) = String.ofList n.text) : IsGiven x := by
  have hstarts : startsNumber (Parameters.valueText (coordinateValue x)).toList = true := by
    rw [h, String.toList_ofList]
    exact n.startsNumber_text
  cases x with
  | none => exact absurd hstarts (by decide +kernel)
  | some v =>
    refine ⟨v, rfl, ?_⟩
    by_contra hv
    rw [coordinateValue, Double.startsNumber_valueText (Bool.eq_false_of_not_eq_true hv)] at hstarts
    exact Bool.false_ne_true hstarts

/-! ## Arguments -/

/-- **The argument of a position,** made of the texts of its two coordinates.  It is what
`format_argument` gives to a click in coordinate mode, the x first. -/
def positionText (x y : String) : String := "\x7b\x7b$ --X:" ++ x ++ " --Y:" ++ y ++ "\x7d\x7d"

/-- In coordinate mode the argument of a click is the text of its two coordinates, in this
order and with nothing else. -/
theorem argument_clickRule (i : Interaction) (button : MouseButton) (x y : Option Double) :
    (clickRule .coordinate i button x y).argument =
      some (positionText (Parameters.valueText (coordinateValue x))
        (Parameters.valueText (coordinateValue y))) := by
  refine congrArg some (String.toList_injective ?_)
  simp [Parameters.text, Parameters.itemText, positionText]

/-- The numerals of a position are read off its text: they have no blank. -/
theorem positionText_inj {n m : Numeral} {x y : String}
    (h : positionText x y = positionText (String.ofList n.text) (String.ofList m.text)) :
    x = String.ofList n.text ∧ y = String.ofList m.text := by
  have hsplit : n.text ++ ' ' :: ("--Y:".toList ++ m.text ++ "\x7d\x7d".toList) =
      x.toList ++ ' ' :: ("--Y:".toList ++ y.toList ++ "\x7d\x7d".toList) := by
    have hlist := congrArg String.toList h.symm
    simpa [positionText] using hlist
  have hrest : ' ' ∉ "--Y:".toList ++ m.text ++ "\x7d\x7d".toList := by
    simp [m.blank_notMem_text]
  obtain ⟨hx, -, hy⟩ := (List.append_cons_inj_of_notMem n.blank_notMem_text hrest).1 hsplit
  have hy := List.append_cancel_left (List.append_cancel_right hy)
  exact ⟨String.toList_injective (by rw [String.toList_ofList, hx]),
    String.toList_injective (by rw [String.toList_ofList, hy])⟩

/-! ## Rules -/

/-- Every pointer event has its rule among those of the group, wherever it stands and whatever
is waiting to be typed before it. -/
theorem clickRule_mem_rulesAfter {names : KeyNames} {mode : CaptureMode} {i : Interaction}
    {button : MouseButton} {x y : Option Double} (hp : i.event.gesture = .pointer button x y)
    {is : List Interaction} (hi : i ∈ is) (typed : Typed) :
    clickRule mode i button x y ∈ rulesAfter names mode typed is := by
  induction is generalizing typed with
  | nil => cases hi
  | cons j rest ih =>
    rcases List.mem_cons.1 hi with rfl | hi
    · rw [rulesAfter, hp]
      exact List.mem_append_right _ List.mem_cons_self
    · rw [rulesAfter]
      split
      · exact List.mem_append_right _ (List.mem_cons_of_mem _ (ih hi none))
      · split
        · exact List.mem_append_right _ (List.mem_cons_of_mem _ (ih hi none))
        · exact ih hi _
        · exact ih hi typed

/-- **A rule at a position:** its argument is that of two numerals, the first of which denotes
the one coordinate and the second the other.  Numerals are read by their value, so it does not
matter how a coordinate is written. -/
def IsAt (r : Rule) (x y : Option Double) : Prop :=
  ∃ n m : Numeral, r.argument = some (positionText (String.ofList n.text) (String.ofList m.text)) ∧
    (∃ v ∈ x, n.Denotes v) ∧ ∃ w ∈ y, m.Denotes w

/-- A click can be placed just if both of its coordinates are there: a coordinate that is
missing is written as a word, and no word is a numeral. -/
theorem isAt_clickRule_iff (i : Interaction) (button : MouseButton) (x y : Option Double) :
    IsAt (clickRule .coordinate i button x y) x y ↔ IsGiven x ∧ IsGiven y := by
  constructor
  · rintro ⟨n, m, -, ⟨v, hv, hn⟩, w, hw, hm⟩
    exact ⟨⟨v, hv, hn.1⟩, w, hw, hm.1⟩
  · rintro ⟨hx, hy⟩
    obtain ⟨n, hn, hdenotes⟩ := exists_numeral_coordinate hx
    obtain ⟨m, hm, hdenotes'⟩ := exists_numeral_coordinate hy
    refine ⟨n, m, ?_, hdenotes, hdenotes'⟩
    rw [argument_clickRule, hn, hm]

/-- The argument of a click is two numerals only if both coordinates are given. -/
theorem isGiven_of_argument {i : Interaction} {button : MouseButton} {x y : Option Double}
    {n m : Numeral} (h : (clickRule .coordinate i button x y).argument =
      some (positionText (String.ofList n.text) (String.ofList m.text))) :
    IsGiven x ∧ IsGiven y := by
  rw [argument_clickRule] at h
  obtain ⟨hx, hy⟩ := positionText_inj (Option.some.inj h)
  exact ⟨isGiven_of_numeral hx, isGiven_of_numeral hy⟩

/-- **Clicks at positions.**  In the job of a group, every pointer event has a rule whose
context holds its coordinates.  The rule is at that position just if both coordinates are
given, and otherwise its argument is no two numerals at all. -/
theorem positioned_iff {names : KeyNames} {g : Group} {job : Job}
    (h : compile names .coordinate g = .ok job) {i : Interaction} (hi : i ∈ g.events)
    {button : MouseButton} {x y : Option Double} (hp : i.event.gesture = .pointer button x y) :
    ∃ r ∈ job.rules, r.context = some { timestamp := some i.timestamp, x, y } ∧
      (IsAt r x y ↔ IsGiven x ∧ IsGiven y) ∧
      ∀ n m : Numeral,
        r.argument = some (positionText (String.ofList n.text) (String.ofList m.text)) →
          IsAt r x y := by
  have hmem : clickRule .coordinate i button x y ∈ rules names .coordinate g :=
    List.mem_append_left _ (clickRule_mem_rulesAfter hp hi none)
  have hat := isAt_clickRule_iff i button x y
  exact ⟨_, (sublist_rules_of_compile h).mem hmem, rfl, hat,
    fun n m harg => hat.2 (isGiven_of_argument harg)⟩

/-- A click with coordinates as a recorder sends it. -/
def sentClick (value : Fields) : Json :=
  .obj [("timestamp", .int 1), ("machineName", .str "A"), ("type", .str "mouse"),
    ("event", .str "left up"),
    ("chain", .obj [("locator", .str "//B"), ("path", .arr [.obj [("name", .str "OK")]])]),
    ("value", .obj value)]

/-- The interaction of such a click. -/
def keptClick (x y : Option Double) : Interaction where
  event := {
    timestamp := 1, machine := "A", text := "left up", phase := some .up
    chain := { locator := "//B", path := [{ name := some "OK" }] }, gesture := .pointer .left x y }
  bounds := {}

/-- One click with the given coordinates on one machine, as a group of its own. -/
def clickGroup (x y : Option Double) : Group where
  id := 1
  machine := "A"
  origin := none
  events := [keptClick x y]

/-- A coordinate that is sent as text with a fraction, and a negative one. -/
theorem positioned_iff_sentClick :
    ∃ x y job, Event.decode? (sentClick [("x", .str " 12.5"), ("y", .int (-7))]) =
        some (keptClick (some x) (some y)).event ∧
      Interaction.ofEvent? [] (keptClick (some x) (some y)).event =
        .ok (some (keptClick (some x) (some y))) ∧
      compile .standard .coordinate (clickGroup (some x) (some y)) = .ok job ∧
      ∃ r ∈ job.rules, IsAt r (some x) (some y) := by
  let x : Double := .ofDecimal false 125 (-1)
  let y : Double := .ofDecimal true 7 0
  have hdecode : Event.decode? (sentClick [("x", .str " 12.5"), ("y", .int (-7))]) =
      some (keptClick (some x) (some y)).event := by decide +kernel
  have hkept : Interaction.ofEvent? [] (keptClick (some x) (some y)).event =
      .ok (some (keptClick (some x) (some y))) := by decide +kernel
  have hgiven : IsGiven (some x) ∧ IsGiven (some y) := by decide +kernel
  have hjob : compile .standard .coordinate (clickGroup (some x) (some y)) = .ok _ := rfl
  obtain ⟨r, hr, -, hat, -⟩ := positioned_iff hjob (List.mem_singleton_self _) rfl
  exact ⟨x, y, _, hdecode, hkept, hjob, r, hr, hat.2 hgiven⟩

/-- **A click without a position:** with one coordinate missing, the argument has the word for
nothing in its place.  The event is one that a recorder may send, it survives, and the
argument is the only target that its rule has in coordinate mode. -/
theorem exists_not_positioned :
    ∃ x y job, Event.decode? (sentClick [("y", .int 25)]) = some (keptClick x y).event ∧
      Interaction.ofEvent? [] (keptClick x y).event = .ok (some (keptClick x y)) ∧
      compile .standard .coordinate (clickGroup x y) = .ok job ∧
      ∃ r ∈ job.rules, r.context = some { timestamp := some 1, x, y } ∧
        r.argument = some (positionText "None" "25") ∧
        ∀ n m : Numeral,
          r.argument ≠ some (positionText (String.ofList n.text) (String.ofList m.text)) := by
  let y : Double := .ofDecimal false 25 0
  have hdecode : Event.decode? (sentClick [("y", .int 25)]) =
      some (keptClick none (some y)).event := by decide +kernel
  have hkept : Interaction.ofEvent? [] (keptClick none (some y)).event =
      .ok (some (keptClick none (some y))) := by decide +kernel
  have harg : (clickRule .coordinate (keptClick none (some y)) .left none (some y)).argument =
      some (positionText "None" "25") := by decide +kernel
  refine ⟨none, some y, _, hdecode, hkept, rfl, _, List.mem_cons_self, rfl, harg, ?_⟩
  intro n m hnm
  have hx : IsGiven none := (isGiven_of_argument hnm).1
  exact absurd hx (by decide)

end RuleCompiler

end Recorder
