/-
# The shape of a job

`SPEC_FULL.md` §5, `RuleCompiler.compile`: the click rules, the keyboard runs, and the
`CloseBrowser` that is appended unconditionally.

The interactions of a group fall into stretches: keys in a row that are not on the list of
keys with an action of their own form one, and any other interaction is one by itself.  The
job has one rule for each stretch, in order, or none, and ends with one rule that closes the
session (`RuleCompiler.compile_shape`).

| stretch | rule | its moment and element |
| --- | --- | --- |
| a pointer event | a click | of the event |
| a key on the list | that key | of the event |
| other keys, some with names of one character | those characters | of the last of these |
| other keys, none of them so | none | |
-/

import Mathlib.Data.List.SplitBy
import Recorder.Proofs.Automation.Tokens

namespace Recorder
namespace RuleCompiler

variable (names : KeyNames) (mode : CaptureMode)

/-! ## Stretches -/

/-- Whether an interaction is a key that is not on the list. -/
def isTyping (i : Interaction) : Bool :=
  match i.event.gesture with
  | .pointer .. => false
  | .key key => (names.find? (SpaceBar.asBlank key)).isNone

/-- **The stretches of interactions:** keys in a row that are not on the list stay together. -/
def stretches (is : List Interaction) : List (List Interaction) :=
  is.splitBy fun i j => isTyping names i && isTyping names j

/-- The character that a key names, if it names a single one. -/
def character? (i : Interaction) : Option Char :=
  match i.event.gesture with
  | .pointer .. => none
  | .key key =>
    match (SpaceBar.asBlank key).toList with
    | [c] => some c
    | _ => none

/-- The characters that keys name, each with its interaction. -/
def characters (is : List Interaction) : List (Char × Interaction) :=
  is.filterMap fun i => (character? i).map (·, i)

/-- **What keys type:** their characters, and the interaction of the last one. -/
def typedBy (is : List Interaction) : Typed :=
  (characters is).getLast?.map fun (_, last) => ((characters is).map Prod.fst, last)

/-- What a stretch becomes. -/
inductive Part where
  | click (i : Interaction) (button : MouseButton) (x y : Option Double)
  | single (i : Interaction) (name : String)
  | typing (cs : List Char) (last : Interaction)
deriving DecidableEq

namespace Part

/-- **What becomes of a stretch,** which may be nothing. -/
def ofStretch? : List Interaction → Option Part
  | [] => none
  | i :: is =>
    match i.event.gesture with
    | .pointer button x y => some (.click i button x y)
    | .key key =>
      match names.find? (SpaceBar.asBlank key) with
      | some name => some (.single i name)
      | none => (typedBy (i :: is)).map fun (cs, last) => .typing cs last

/-- The one rule of a part.  A stretch of typing makes a single rule, however long it is, and
that rule belongs to the last interaction of the stretch. -/
def rule : Part → Rule
  | .click i button x y => clickRule mode i button x y
  | .single i name => keyRule mode name i
  | .typing cs last => typeRule mode cs last

/-- The interaction that a part belongs to. -/
def source : Part → Interaction
  | .click i .. => i
  | .single i _ => i
  | .typing _ last => last

/-- What a part does. -/
def tokens : Part → List Token
  | .click i _ x y => [.click i.timestamp x y]
  | .single _ name => [.key name]
  | .typing cs _ => cs.map .character

/-- **A rule of a part** does what the part does, at the moment of its interaction and on the
element of it, which is left out where clicks have positions. -/
structure IsRule (p : Part) (r : Rule) : Prop where
  tokens : r.tokens = p.tokens
  timestamp : r.timestamp = some p.source.timestamp
  onElement : r.onElement = if mode = .coordinate then none else some p.source.locator

/-- That rule says all there is to say of the part: its plugin, its argument, the element and
the place in the recording. -/
theorem isRule_rule (p : Part) : IsRule mode p (p.rule mode) where
  tokens := by
    cases p with
    | click i button x y => exact tokens_clickRule mode i button x y
    | single i name => exact tokens_keyRule mode name i
    | typing cs last => exact tokens_typeRule mode cs last
  timestamp := by cases p <;> rfl
  onElement := by cases p <;> rfl

/-- Text is never empty. -/
theorem ne_nil_of_ofStretch? {is : List Interaction} {cs : List Char} {last : Interaction}
    (h : ofStretch? names is = some (.typing cs last)) : cs ≠ [] := by
  cases is with
  | nil => cases h
  | cons i is =>
    rw [ofStretch?] at h
    split at h
    · cases h
    · split at h
      · cases h
      · obtain ⟨⟨cs', last'⟩, htyped, hpart⟩ := Option.map_eq_some_iff.1 h
        obtain ⟨rfl, rfl⟩ := Part.typing.inj hpart
        obtain ⟨⟨c, j⟩, hlast, hpair⟩ := Option.map_eq_some_iff.1 htyped
        obtain ⟨rfl, -⟩ := Prod.mk.inj hpair
        rw [ne_eq, List.map_eq_nil_iff]
        intro hnil
        rw [hnil] at hlast
        cases hlast

end Part

/-- **The parts of a job:** what becomes of the stretches, in order. -/
def partsOf (is : List Interaction) : List Part :=
  (stretches names is).filterMap (Part.ofStretch? names)

/-! ## A stretch and what follows -/

/-- One more key that is not on the list. -/
def Typed.add (typed : Typed) (i : Interaction) : Typed :=
  match character? i with
  | some c => typed.push c i
  | none => typed

/-- A key that is not on the list only adds to what is waiting to be typed. -/
theorem rulesAfter_of_isTyping {i : Interaction} (h : isTyping names i = true) (typed : Typed)
    (rest : List Interaction) :
    rulesAfter names mode typed (i :: rest) = rulesAfter names mode (typed.add i) rest := by
  rw [rulesAfter, Typed.add, character?]
  cases hgesture : i.event.gesture with
  | pointer button x y =>
    simp only [isTyping, hgesture] at h
    cases h
  | key key =>
    simp only [isTyping, hgesture, Option.isNone_iff_eq_none] at h
    simp only [strokeOf_eq, h]
    rcases (SpaceBar.asBlank key).toList with _ | ⟨c, _ | ⟨d, cs⟩⟩ <;> rfl

/-- A stretch of such keys does as well. -/
theorem rulesAfter_append {is : List Interaction} (h : ∀ i ∈ is, isTyping names i = true)
    (typed : Typed) (rest : List Interaction) :
    rulesAfter names mode typed (is ++ rest) =
      rulesAfter names mode (is.foldl Typed.add typed) rest := by
  induction is generalizing typed with
  | nil => rfl
  | cons i is ih =>
    obtain ⟨hi, his⟩ := List.forall_mem_cons.1 h
    rw [List.cons_append, rulesAfter_of_isTyping names mode hi, ih his, List.foldl_cons]

/-- What is waiting after a stretch is what its keys type. -/
theorem foldl_add (is : List Interaction) : is.foldl Typed.add none = typedBy is := by
  induction is using List.reverseRecOn with
  | nil => rfl
  | append_singleton is i ih =>
    have hchars : characters (is ++ [i]) =
        characters is ++ ((character? i).map (·, i)).toList := by
      rw [characters, List.filterMap_append]
      cases hc : character? i <;> simp [hc, characters]
    rw [List.foldl_append, List.foldl_cons, List.foldl_nil, ih]
    unfold Typed.add typedBy
    rw [hchars]
    cases character? i with
    | none => simp
    | some c =>
      rcases List.eq_nil_or_concat (characters is) with hnil | ⟨front, ⟨d, j⟩, hfront⟩
      · simp [hnil, Typed.push]
      · simp [hfront, Typed.push]

/-- **The end of a stretch:** before anything but another key of it, what is waiting is typed. -/
theorem rulesAfter_of_end {rest : List Interaction}
    (h : ∀ i ∈ rest.head?, isTyping names i = false) (typed : Typed) :
    rulesAfter names mode typed rest = flush mode typed ++ rulesAfter names mode none rest := by
  cases rest with
  | nil => simp [rulesAfter, flush]
  | cons i rest =>
    have hi := h i rfl
    rw [rulesAfter, rulesAfter]
    cases hgesture : i.event.gesture with
    | pointer button x y => simp [flush]
    | key key =>
      simp only [isTyping, hgesture] at hi
      obtain ⟨name, hname⟩ := Option.isSome_iff_exists.1 (Option.isNone_eq_false_iff.1 hi)
      simp [strokeOf_eq, hname, flush]

/-! ## The rules of stretches -/

/-- With its first key not on the list, no key of a stretch is. -/
theorem forall_isTyping {i : Interaction} {is : List Interaction}
    (h : (i :: is).IsChain fun a b => (isTyping names a && isTyping names b) = true)
    (hi : isTyping names i = true) : ∀ j ∈ i :: is, isTyping names j = true := by
  induction is generalizing i with
  | nil => simpa using hi
  | cons j is ih =>
    obtain ⟨hij, hrest⟩ := List.isChain_cons_cons.1 h
    rw [Bool.and_eq_true] at hij
    exact List.forall_mem_cons.2 ⟨hi, ih hrest hij.2⟩

/-- Anything but a key that is not on the list is a stretch by itself. -/
theorem eq_nil_of_isChain {i : Interaction} {is : List Interaction}
    (h : (i :: is).IsChain fun a b => (isTyping names a && isTyping names b) = true)
    (hi : isTyping names i = false) : is = [] := by
  cases is with
  | nil => rfl
  | cons j is =>
    have hij := (List.isChain_cons_cons.1 h).1
    rw [hi, Bool.false_and] at hij
    cases hij

/-- What keys type is the rule of their stretch. -/
theorem flush_typedBy {i : Interaction} (hi : isTyping names i = true) (is : List Interaction) :
    flush mode (typedBy (i :: is)) =
      (Part.ofStretch? names (i :: is)).toList.map (Part.rule mode) := by
  rw [Part.ofStretch?]
  cases hgesture : i.event.gesture with
  | pointer button x y =>
    simp only [isTyping, hgesture] at hi
    cases hi
  | key key =>
    simp only [isTyping, hgesture, Option.isNone_iff_eq_none] at hi
    simp only [hi]
    cases typedBy (i :: is) <;> rfl

/-- Anything else has a rule of its own. -/
theorem rulesAfter_of_alone {i : Interaction} (hi : isTyping names i = false)
    (rest : List Interaction) :
    rulesAfter names mode none (i :: rest) =
      (Part.ofStretch? names [i]).toList.map (Part.rule mode) ++ rulesAfter names mode none rest := by
  rw [rulesAfter, Part.ofStretch?]
  cases hgesture : i.event.gesture with
  | pointer button x y => simp [flush, Part.rule]
  | key key =>
    simp only [isTyping, hgesture] at hi
    obtain ⟨name, hname⟩ := Option.isSome_iff_exists.1 (Option.isNone_eq_false_iff.1 hi)
    simp [strokeOf_eq, hname, flush, Part.rule]

/-- **Stretch by stretch:** however interactions fall into stretches, the rules are those of
these, in order. -/
theorem rulesAfter_flatten {stretches : List (List Interaction)} (hne : [] ∉ stretches)
    (hrun : ∀ s ∈ stretches, s.IsChain fun a b => (isTyping names a && isTyping names b) = true)
    (hcut : stretches.IsChain fun s t => ∃ hs ht,
      (isTyping names (s.getLast hs) && isTyping names (t.head ht)) = false) :
    rulesAfter names mode none stretches.flatten =
      (stretches.filterMap (Part.ofStretch? names)).map (Part.rule mode) := by
  induction stretches with
  | nil => rfl
  | cons s later ih =>
    obtain ⟨hs, hlater⟩ := not_or.1 (List.mem_cons.not.1 hne)
    obtain ⟨hchain, hrun'⟩ := List.forall_mem_cons.1 hrun
    have hcons : ((s :: later).filterMap (Part.ofStretch? names)) =
        (Part.ofStretch? names s).toList ++ later.filterMap (Part.ofStretch? names) := by
      rw [List.filterMap_cons]
      cases Part.ofStretch? names s <;> rfl
    rw [List.flatten_cons, hcons, List.map_append, ← ih hlater hrun' hcut.tail]
    obtain ⟨i, is, rfl⟩ := List.exists_cons_of_ne_nil (Ne.symm hs)
    -- A stretch is keys to be typed, or one interaction by itself.
    by_cases hi : isTyping names i = true
    · have hall := forall_isTyping names hchain hi
      have hend : ∀ j ∈ later.flatten.head?, isTyping names j = false := by
        cases later with
        | nil => exact fun j hj => absurd hj (Option.not_mem_none j)
        | cons t later =>
          obtain ⟨hs, ht, hboth⟩ := (List.isChain_cons_cons.1 hcut).1
          obtain ⟨k, ks, rfl⟩ := List.exists_cons_of_ne_nil ht
          have hlast := hall _ (List.getLast_mem hs)
          intro j hj
          obtain rfl : k = j := Option.some.inj hj
          rwa [hlast, Bool.true_and] at hboth
      rw [rulesAfter_append names mode hall, foldl_add, rulesAfter_of_end names mode hend,
        flush_typedBy names mode hi]
    · rw [Bool.not_eq_true] at hi
      obtain rfl := eq_nil_of_isChain names hchain hi
      exact rulesAfter_of_alone names mode hi later.flatten

/-- **The rules of a group** are those of its parts, and one that closes the session. -/
theorem rules_eq_parts (g : Group) :
    rules names mode g = (partsOf names g.events).map (Part.rule mode) ++ [Rule.close] := by
  obtain ⟨hflat, hne, hrun, hcut⟩ := List.splitBy_eq_iff.1 (rfl : _ = stretches names g.events)
  rw [rules, partsOf, ← rulesAfter_flatten names mode hne hrun hcut, ← hflat]

end RuleCompiler

/-! ## Typed text -/

/-- Whether a rule types text. -/
def Rule.TypesText (r : Rule) : Prop := r.plugin = .keys ∨ r.plugin = .user32Keys

namespace RuleCompiler

variable (names : KeyNames) (mode : CaptureMode)

/-- A click types no text, since its plugin is that of a button. -/
theorem not_typesText_clickRule (i : Interaction) (button : MouseButton) (x y : Option Double) :
    ¬ (clickRule mode i button x y).TypesText := by
  cases mode <;> cases button <;> rintro (h | h) <;> cases h

/-- A key with an action of its own types no text either, though it comes from the keyboard. -/
theorem not_typesText_keyRule (name : String) (i : Interaction) :
    ¬ (keyRule mode name i).TypesText := by
  cases mode <;> rintro (h | h) <;> cases h

/-- **Texts are never typed in a row:** a click or a key stands between any two of them. -/
theorem isChain_rulesAfter (typed : Typed) (is : List Interaction) :
    (rulesAfter names mode typed is ++ [Rule.close]).IsChain
      fun r s => ¬ (r.TypesText ∧ s.TypesText) := by
  -- Only what is waiting can be typed before a rule that types nothing.
  have hflush {r : Rule} (hr : ¬ r.TypesText) {rs : List Rule}
      (h : rs.IsChain fun r s => ¬ (r.TypesText ∧ s.TypesText)) (typed : Typed) :
      (flush mode typed ++ r :: rs).IsChain fun r s => ¬ (r.TypesText ∧ s.TypesText) := by
    have hcons : (r :: rs).IsChain fun r s => ¬ (r.TypesText ∧ s.TypesText) :=
      h.cons fun s _ hboth => hr hboth.1
    cases typed with
    | none => exact hcons
    | some p => exact List.isChain_cons_cons.2 ⟨fun hboth => hr hboth.2, hcons⟩
  induction is generalizing typed with
  | nil =>
    refine hflush ?_ List.IsChain.nil typed
    rintro (h | h) <;> cases h
  | cons i rest ih =>
    rw [rulesAfter]
    split
    · rw [List.append_assoc, List.cons_append]
      exact hflush (not_typesText_clickRule mode i _ _ _) (ih none) typed
    · split
      · rw [List.append_assoc, List.cons_append]
        exact hflush (not_typesText_keyRule mode _ i) (ih none) typed
      · exact ih _
      · exact ih typed

/-- No text that is typed is empty. -/
theorem exists_text_of_mem_partsOf {is : List Interaction} {p : Part} (hp : p ∈ partsOf names is)
    (ht : (p.rule mode).TypesText) :
    ∃ text, (p.rule mode).value? "Keys" = some text ∧ text ≠ "" := by
  obtain ⟨s, -, hs⟩ := List.mem_filterMap.1 hp
  cases p with
  | click i button x y => exact absurd ht (not_typesText_clickRule mode i button x y)
  | single i name => exact absurd ht (not_typesText_keyRule mode name i)
  | typing cs last =>
    refine ⟨String.ofList cs, Parameters.valueIn?_text "Keys" (.str (String.ofList cs)), ?_⟩
    intro hempty
    exact Part.ne_nil_of_ofStretch? names hs (by simpa using congrArg String.toList hempty)

/-- No part of a recording closes the session, so the last rule of a job is the only one that
does. -/
theorem plugin_rule_ne_closeSession (p : Part) : (p.rule mode).plugin ≠ .closeSession := by
  cases p with
  | click i button x y => cases mode <;> cases button <;> exact Plugin.noConfusion
  | single i name => cases mode <;> exact Plugin.noConfusion
  | typing cs last => cases mode <;> exact Plugin.noConfusion

/-- **The shape of a job.**  Without think time, every group has a job.  Its rules are those of
the parts that its stretches become, in order, each at the moment and on the element of its
interaction, and the last rule, which alone closes the session.  Texts are never typed in a
row, and none of them is empty. -/
theorem compile_shape {g : Group} (hoff : ∀ settings, g.thinkTime = some settings →
    settings.enabled = false) :
    ∃ job, compile names mode g = .ok job ∧
      job.rules = (partsOf names g.events).map (Part.rule mode) ++ [Rule.close] ∧
      (∀ p ∈ partsOf names g.events, p.IsRule mode (p.rule mode)) ∧
      (job.rules.IsChain fun r s => ¬ (r.TypesText ∧ s.TypesText)) ∧
      (∀ r ∈ job.rules, r.TypesText → ∃ text, r.value? "Keys" = some text ∧ text ≠ "") ∧
      job.rules.filter (·.plugin = .closeSession) = [Rule.close] := by
  have hrules : withPauses g.thinkTime (rules names mode g) = .ok (rules names mode g) := by
    unfold withPauses
    split
    · rename_i settings hsome
      rw [hoff settings hsome]
      rfl
    · rfl
  refine ⟨{ reference := jobReference g.machine, rules := rules names mode g }, ?_,
    rules_eq_parts names mode g, fun p _ => Part.isRule_rule mode p,
    isChain_rulesAfter names mode none g.events, ?_, ?_⟩
  · rw [compile, hrules]
    rfl
  · rw [rules_eq_parts]
    refine List.forall_mem_append.2 ⟨List.forall_mem_map.2 fun p hp => ?_, ?_⟩
    · exact exists_text_of_mem_partsOf names mode hp
    · refine List.forall_mem_singleton.2 fun h => ?_
      rcases h with h | h <;> cases h
  · have hnone : ((partsOf names g.events).map (Part.rule mode)).filter
        (·.plugin = .closeSession) = [] := by
      refine List.filter_eq_nil_iff.2 (List.forall_mem_map.2 fun p _ => ?_)
      simpa using plugin_rule_ne_closeSession mode p
    rw [rules_eq_parts, List.filter_append, hnone]
    rfl

/-- What a user did at a moment, in a text field. -/
def inField (t : Int) (gesture : Gesture) : Interaction where
  event := {
    timestamp := t, machine := "A", text := "up", phase := some .up
    chain := { locator := "//Edit", path := [{}] }, gesture }
  bounds := {}

/-- A click, three characters with a key among them that types nothing, a key on the list, and
another key that types nothing.  The last of the characters is the blank of the space bar. -/
def mixedKeys : Group where
  id := 1
  machine := "A"
  origin := none
  events := [inField 1 (.pointer .left none none), inField 2 (.key "h"), inField 3 (.key "Shift"),
    inField 4 (.key "I"), inField 5 (.key "Space"), inField 6 (.key "ENTER"),
    inField 7 (.key "Shift")]

theorem compile_shape_mixedKeys :
    (∀ settings, mixedKeys.thinkTime = some settings → settings.enabled = false) ∧
    ∃ job, compile (.ofPairs [("Enter", "Enter")]) .standard mixedKeys = .ok job ∧
      job.rules = [clickRule .standard (inField 1 (.pointer .left none none)) .left none none,
        typeRule .standard ['h', 'I', ' '] (inField 5 (.key "Space")),
        keyRule .standard "Enter" (inField 6 (.key "ENTER")), Rule.close] := by
  have hoff : ∀ settings, mixedKeys.thinkTime = some settings → settings.enabled = false :=
    fun _ h => absurd h.symm (Option.some_ne_none _)
  have hparts : partsOf (.ofPairs [("Enter", "Enter")]) mixedKeys.events =
      [.click (inField 1 (.pointer .left none none)) .left none none,
        .typing ['h', 'I', ' '] (inField 5 (.key "Space")),
        .single (inField 6 (.key "ENTER")) "Enter"] := by
    decide +kernel
  obtain ⟨job, hjob, hrules, -⟩ := compile_shape (.ofPairs [("Enter", "Enter")]) .standard hoff
  rw [hparts] at hrules
  exact ⟨hoff, job, hjob, hrules⟩

end RuleCompiler
end Recorder
