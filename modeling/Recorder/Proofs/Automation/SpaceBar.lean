/-
# The space bar

`SPEC_FULL.md` §5, "Keyboard run": a key called `space` is a blank.  A name counts as that
one if it is the word `space` in any case, alone or before a final line feed, as the pattern
`^space$` has it when case is ignored.

Ignoring case is a matter of five letters: each agrees with its capital, and `s` with the
long s as well.  So there are finitely many names, and `SpaceBar.names` has all of them.  The
compiler recognizes just these (`SpaceBar.isSpaceBar_iff`), and just these are what the
pattern finds (`SpaceBar.search_pattern_iff`).
-/

import Recorder.Automation.RuleCompiler
import Recorder.Proofs.Text.Occurrence
import Recorder.Text.Pattern.Matching

namespace Recorder
namespace SpaceBar

/-- The letters of the word `space`, each in every form that it has when case is ignored. -/
def letters : List (List Char) := [['s', 'S', 'ſ'], ['p', 'P'], ['a', 'A'], ['c', 'C'], ['e', 'E']]

/-- **The names of the space bar:** one form of each letter in turn, and the same names with a
line feed at the end. -/
def names : List (List Char) := letters.sections ++ (letters ++ [['\n']]).sections

/-- What a key is called, the space bar being a blank. -/
def asBlank (key : String) : String := if key.toList ∈ names then " " else key

/-- The forms of the five letters are all the characters that agree with them. -/
theorem agrees_letters : List.Forall₂ (fun a ls => ∀ c, Text.agrees a c = true ↔ c ∈ ls)
    ['s', 'p', 'a', 'c', 'e'] letters :=
  .cons (fun _ => Text.agrees_iff_mem (by decide +kernel) (by decide +kernel)) <|
  .cons (fun _ => Text.agrees_iff_mem (by decide +kernel) (by decide +kernel)) <|
  .cons (fun _ => Text.agrees_iff_mem (by decide +kernel) (by decide +kernel)) <|
  .cons (fun _ => Text.agrees_iff_mem (by decide +kernel) (by decide +kernel)) <|
  .cons (fun _ => Text.agrees_iff_mem (by decide +kernel) (by decide +kernel)) .nil

/-- A line feed agrees with nothing but itself. -/
theorem agrees_lineFeed (c : Char) : Text.agrees '\n' c = true ↔ c ∈ ['\n'] :=
  Text.agrees_iff_mem (by decide +kernel) (by decide +kernel)

/-- **The compiler recognizes the space bar** by these names and no others. -/
theorem isSpaceBar_iff (key : String) :
    RuleCompiler.isSpaceBar key = true ↔ key.toList ∈ names := by
  have hfeed : List.Forall₂ (fun a ls => ∀ c, Text.agrees a c = true ↔ c ∈ ls)
      (['s', 'p', 'a', 'c', 'e'] ++ ['\n']) (letters ++ [['\n']]) :=
    List.rel_append agrees_letters (.cons agrees_lineFeed .nil)
  rw [RuleCompiler.isSpaceBar, Bool.or_eq_true, Text.agreesText_iff_mem_sections agrees_letters,
    Text.agreesText_iff_mem_sections hfeed, names, List.mem_append]

/-! ## The pattern -/

/-- A word of a pattern, its letters in any case, and what follows it. -/
def spell (word : List Char) (rest : Pattern) : Pattern :=
  word.foldr (fun a p => .seq (.one (.char .all false a.toNat)) p) rest

/-- The end of a pattern at the end of a text or before its final line feed. -/
def lineEnd : Pattern := .seq (.place .lastLineEnd) .empty

/-- The pattern `^space$`: the start of a text, the five letters in any case, and the end of
the text or a final line feed. -/
def pattern : Pattern := .seq (.place .textStart) (spell ['s', 'p', 'a', 'c', 'e'] lineEnd)

/-- A letter of a pattern stands for the members of a list, if the list has every code point
whose lower case is that of the letter or related to it, and the letter stands for each. -/
theorem holds_iff_mem {a c : Char} {ls : List Char}
    (hall : ∀ n ∈ Text.lowerCode a.toNat :: Text.relatives (Text.lowerCode a.toNat),
      ∀ m ∈ Text.lowerOrigins n, m ∈ ls.map Char.toNat)
    (hletters : (ls.all fun d => CaseRule.all.agrees a.toNat d.toNat) = true) :
    CaseRule.all.agrees a.toNat c.toNat = true ↔ c ∈ ls := by
  refine ⟨fun h => ?_, List.all_eq_true.1 hletters c⟩
  have hlower : Text.lowerCode c.toNat ∈
      Text.lowerCode a.toNat :: Text.relatives (Text.lowerCode a.toNat) := by
    simp only [CaseRule.agrees, CaseRule.plain, Bool.or_eq_true, Bool.and_eq_true, beq_iff_eq,
      List.contains_iff_mem] at h
    rcases h with h | ⟨-, h⟩
    · exact h ▸ List.mem_cons_self
    · exact List.mem_cons_of_mem _ h
  obtain ⟨d, hd, hcode⟩ := List.mem_map.1 (hall _ hlower _ (Text.mem_lowerOrigins.2 rfl))
  obtain rfl := Char.toNat_inj.1 hcode
  exact hd

/-- In a pattern the five letters stand for the same forms. -/
theorem holds_letters : List.Forall₂
    (fun a ls => ∀ c : Char, CaseRule.all.agrees a.toNat c.toNat = true ↔ c ∈ ls)
    ['s', 'p', 'a', 'c', 'e'] letters :=
  .cons (fun _ => holds_iff_mem (by decide +kernel) (by decide +kernel)) <|
  .cons (fun _ => holds_iff_mem (by decide +kernel) (by decide +kernel)) <|
  .cons (fun _ => holds_iff_mem (by decide +kernel) (by decide +kernel)) <|
  .cons (fun _ => holds_iff_mem (by decide +kernel) (by decide +kernel)) <|
  .cons (fun _ => holds_iff_mem (by decide +kernel) (by decide +kernel)) .nil

/-- Nothing is reached from nowhere. -/
theorem reach_spell_nil (text : Array Char) (word : List Char) {rest : Pattern}
    (h : rest.reach text [] = []) : (spell word rest).reach text [] = [] := by
  induction word with
  | nil => exact h
  | cons a word ih => exact ih

/-- **A word of a pattern** leads on from a place where the text has one form of each of its
letters in turn, to the rest of the pattern behind them, and nowhere from any other place. -/
theorem reach_spell {word : List Char} {ls : List (List Char)} {rest : Pattern}
    (h : List.Forall₂ (fun a ls => ∀ c : Char, CaseRule.all.agrees a.toNat c.toNat = true ↔ c ∈ ls)
      word ls) (hrest : ∀ text, rest.reach text [] = []) (before after : List Char) :
    (spell word rest).reach (before ++ after).toArray [⟨before.length, []⟩] =
      if after.take word.length ∈ ls.sections then
        rest.reach (before ++ after).toArray [⟨before.length + word.length, []⟩]
      else [] := by
  induction h generalizing before after with
  | nil => simp [spell]
  | @cons a l word ls ha hword ih =>
    have hstep : (spell (a :: word) rest).reach (before ++ after).toArray [⟨before.length, []⟩] =
        (spell word rest).reach (before ++ after).toArray
          ([⟨before.length, []⟩].filterMap
            (Spot.step? (before ++ after).toArray (.char .all false a.toNat))) := rfl
    rw [hstep]
    -- The first letter is matched here and the others by induction, one place further on.
    cases after with
    | nil =>
      have hnone : [⟨before.length, []⟩].filterMap
          (Spot.step? (before ++ []).toArray (.char .all false a.toNat)) = [] := by
        simp [Spot.step?]
      rw [hnone, reach_spell_nil _ _ (hrest _), if_neg (by simp [List.mem_sections])]
    | cons c after =>
      have hmem : (c :: after).take (a :: word).length ∈ (l :: ls).sections ↔
          c ∈ l ∧ after.take word.length ∈ ls.sections := by
        rw [List.length_cons, List.take_succ_cons, List.mem_sections, List.mem_sections,
          List.forall₂_cons]
      have hnext := ih (before ++ [c]) after
      rw [List.append_assoc, List.singleton_append, List.length_append, List.length_singleton,
        Nat.add_assoc, Nat.add_comm 1] at hnext
      by_cases hc : c ∈ l
      · have hone : [⟨before.length, []⟩].filterMap
            (Spot.step? (before ++ c :: after).toArray (.char .all false a.toNat)) =
              [⟨before.length + 1, []⟩] := by
          simp [Spot.step?, CharTest.holds, (ha c).2 hc]
        rw [hone, hnext]
        exact if_congr (by rw [hmem, and_iff_right hc]) rfl rfl
      · have hnone : [⟨before.length, []⟩].filterMap
            (Spot.step? (before ++ c :: after).toArray (.char .all false a.toNat)) = [] := by
          simp [Spot.step?, CharTest.holds, mt (ha c).1 hc]
        rw [hnone, reach_spell_nil _ _ (hrest _), if_neg (fun h => hc (hmem.1 h).1)]

/-- The names are the five letters, each in one of its forms, with nothing behind them or a
line feed. -/
theorem mem_names_iff {cs : List Char} : cs ∈ names ↔
    cs.take 5 ∈ letters.sections ∧ (cs.drop 5 = [] ∨ cs.drop 5 = ['\n']) := by
  rw [names, List.mem_append]
  constructor
  · rintro (h | h)
    · have hlength : cs.length ≤ 5 := Nat.le_of_eq (List.mem_sections_length h)
      rw [List.take_of_length_le hlength, List.drop_of_length_le hlength]
      exact ⟨h, .inl rfl⟩
    · rw [List.mem_sections] at h
      have htail := List.forall₂_drop_append _ _ _ h
      rw [List.forall₂_cons_right_iff] at htail
      obtain ⟨c, rest, hc, hrest, hdrop⟩ := htail
      obtain rfl := List.forall₂_nil_right_iff.1 hrest
      obtain rfl := List.mem_singleton.1 hc
      exact ⟨List.mem_sections.2 (List.forall₂_take_append _ _ _ h), .inr hdrop⟩
  · rintro ⟨hword, htail⟩
    rw [← List.take_append_drop 5 cs]
    rcases htail with htail | htail
    · rw [htail, List.append_nil]
      exact .inl hword
    · rw [htail, List.mem_sections, List.mem_sections]
      exact .inr (List.rel_append (List.mem_sections.1 hword)
        (.cons List.mem_cons_self .nil))

/-- Behind a part of a text comes the end of its last line just if nothing follows the part but
a line feed. -/
theorem holds_lastLineEnd_iff (part tail : List Char) :
    Place.lastLineEnd.holds (part ++ tail).toArray part.length = true ↔
      tail = [] ∨ tail = ['\n'] := by
  rcases tail with _ | ⟨c, _ | ⟨d, tail⟩⟩ <;> simp [Place.holds]

/-- **The pattern finds the names of the space bar** and no other texts. -/
theorem search_pattern_iff (key : String) : pattern.search key = true ↔ key.toList ∈ names := by
  -- Of all places where a match may begin only the first is the start of the text.
  have hstart : (((List.range (key.toList.toArray.size + 1)).map fun i => (⟨i, []⟩ : Spot)).filter
      fun s => Place.textStart.holds key.toList.toArray s.position) = [⟨0, []⟩] := by
    simp [Place.holds, List.range_succ_eq_map, List.filter_map, Function.comp_def]
  have hsearch : pattern.search key =
      !((spell ['s', 'p', 'a', 'c', 'e'] lineEnd).reach key.toList.toArray [⟨0, []⟩]).isEmpty := by
    rw [← hstart]
    rfl
  have hspell : (spell ['s', 'p', 'a', 'c', 'e'] lineEnd).reach key.toList.toArray [⟨0, []⟩] =
      if key.toList.take 5 ∈ letters.sections then
        lineEnd.reach key.toList.toArray [⟨5, []⟩]
      else [] :=
    reach_spell holds_letters (fun _ => rfl) [] key.toList
  rw [hsearch, hspell, Bool.not_eq_true', List.isEmpty_eq_false_iff, mem_names_iff]
  by_cases hword : key.toList.take 5 ∈ letters.sections
  · have hlength : (key.toList.take 5).length = 5 := List.mem_sections_length hword
    have hend := holds_lastLineEnd_iff (key.toList.take 5) (key.toList.drop 5)
    rw [List.take_append_drop, hlength] at hend
    have hreach : lineEnd.reach key.toList.toArray [⟨5, []⟩] = [(⟨5, []⟩ : Spot)].filter fun s =>
        Place.lastLineEnd.holds key.toList.toArray s.position := rfl
    rw [if_pos hword, and_iff_right hword, ← hend, hreach, ne_eq, List.filter_eq_nil_iff]
    simp
  · rw [if_neg hword]
    simp [hword]

end SpaceBar

namespace RuleCompiler

/-- **The name the compiler takes a key by** is the one that has the space bar as a blank. -/
theorem keyName_eq (key : String) : keyName key = SpaceBar.asBlank key := by
  rw [keyName, SpaceBar.asBlank]
  exact if_congr (SpaceBar.isSpaceBar_iff key) rfl rfl

/-- The long s and a line feed at the end go through, other letters behind the word do not. -/
example : keyName "ſPACE\n" = " " ∧ keyName "spaces" = "spaces" := by decide +kernel

/-- **What a key stands for,** by that name: an entry of the list, the one character that the
name has, or nothing. -/
theorem strokeOf_eq (names : KeyNames) (key : String) :
    strokeOf names key =
      match names.find? (SpaceBar.asBlank key) with
      | some name => .special name
      | none => match (SpaceBar.asBlank key).toList with
        | [c] => .character c
        | _ => .ignored := by
  rw [← keyName_eq]
  rfl

end RuleCompiler
end Recorder
