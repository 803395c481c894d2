/-
# What the rules of a job do

`SPEC_FULL.md` §5, `RuleCompiler.compile`, read from the side of the engine: what the
plugins and the argument formats make happen.

Rules and events are compared by their tokens, what a user would see happen.

| token | of an event | of a rule |
| --- | --- | --- |
| `click` | a pointer event | a rule that clicks, by its context |
| `character` | a key that names one character | each character of the text typed |
| `key` | a key with an action of its own | the name in the argument |

A pause and the end of a session have no tokens.  Compiling interactions keeps
their tokens and the order of them (`tokens_rules`), and so does putting pauses
between rules (`Pause.tokens_insert`).
-/

import Recorder.Proofs.Automation.Pauses
import Recorder.Proofs.Automation.SpaceBar

namespace Recorder

/-- One thing that an automation does. -/
inductive Token where
  | click (timestamp : Int) (x y : Option Double)
  | character (c : Char)
  | key (name : String)
deriving DecidableEq, Repr

/-- **The tokens of an event.**  Any name of the space bar (`SpaceBar.names`) counts as a
blank; a name on the list is one key, another name of one character is typed, and any other
name does nothing. -/
def Event.tokens (names : KeyNames) (e : Event) : List Token :=
  match e.gesture with
  | .pointer _ x y => [.click e.timestamp x y]
  | .key name =>
    let name := SpaceBar.asBlank name
    match names.find? name with
    | some canonical => [.key canonical]
    | none => if name.length = 1 then name.toList.map .character else []

/-- What stands in an argument between the name of its first parameter and its end. -/
def Parameters.valueIn? (name argument : String) : Option String :=
  ((Text.dropLead? ("\x7b\x7b$ --" ++ name ++ ":").toList argument.toList).bind
    (Text.dropTail? "\x7d\x7d".toList)).map String.ofList

namespace Rule

/-- The value of the first parameter, as the engine reads it. -/
def value? (r : Rule) (name : String) : Option String := r.argument.bind (Parameters.valueIn? name)

/-- **The tokens of a rule:** what the engine makes happen when it runs the rule.  Text and
the names of keys are read from the argument, as the engine reads them, and a click is known
by the moment and the coordinates in its context. -/
def tokens (r : Rule) : List Token :=
  match r.plugin with
  | .wait | .closeSession => []
  | .keys | .user32Keys => (r.value? "Keys").elim [] fun typed => typed.toList.map .character
  | .keyboardKey | .user32KeyboardKey => ((r.value? "Key").map Token.key).toList
  -- The plugins of the buttons, and the one of a button that is not known.
  | _ => match r.context with
    | some ⟨some t, x, y⟩ => [.click t x y]
    | _ => []

end Rule

/-! ## Arguments -/

namespace Text

/-- What stands after a beginning is found when the beginning is taken off. -/
@[simp] theorem dropLead?_append (lead cs : List Char) : dropLead? lead (lead ++ cs) = some cs := by
  simp [dropLead?]

@[simp] theorem dropTail?_append (tail cs : List Char) : dropTail? tail (cs ++ tail) = some cs := by
  simp [dropTail?]

end Text

namespace Parameters

/-- The argument of a single value, as characters. -/
theorem toList_text (name : String) (v : Json) :
    (text [(name, v)]).toList =
      ("\x7b\x7b$ --" ++ name ++ ":").toList ++ ((valueText v).toList ++ "\x7d\x7d".toList) := by
  simp [text, itemText]

/-- **A value is read back** from the argument that holds it, whatever is in its text.  The
argument is only cut at its two ends, whose lengths do not depend on the value, so a value
with braces in it comes back as well. -/
@[simp] theorem valueIn?_text (name : String) (v : Json) :
    valueIn? name (text [(name, v)]) = some (valueText v) := by
  rw [valueIn?, toList_text, Text.dropLead?_append, Option.bind_some, Text.dropTail?_append]
  simp

end Parameters

/-! ## Rules -/

namespace RuleCompiler

variable (names : KeyNames) (mode : CaptureMode)

/-- A click is read back from its rule, in every mode, with its moment and its coordinates. -/
@[simp] theorem tokens_clickRule (i : Interaction) (button : MouseButton) (x y : Option Double) :
    (clickRule mode i button x y).tokens = [.click i.timestamp x y] := by
  cases mode <;> cases button <;> rfl

/-- A key with an action of its own is read back from the argument of its rule. -/
@[simp] theorem tokens_keyRule (name : String) (i : Interaction) :
    (keyRule mode name i).tokens = [.key name] := by
  have hv : (keyRule mode name i).value? "Key" = some name :=
    Parameters.valueIn?_text "Key" (.str name)
  cases mode <;> simp only [Rule.tokens, hv] <;> rfl

/-- Typed text is read back character by character; the text may be anything, as the argument
is only cut at its two ends. -/
@[simp] theorem tokens_typeRule (typed : List Char) (i : Interaction) :
    (typeRule mode typed i).tokens = typed.map .character := by
  have hv : (typeRule mode typed i).value? "Keys" = some (String.ofList typed) :=
    Parameters.valueIn?_text "Keys" (.str (String.ofList typed))
  cases mode <;>
    simp only [Rule.tokens, hv, Option.elim_some, String.toList_ofList] <;> rfl

/-- The tokens of a key are those of what it stands for to the compiler.  That the compiler
and the tokens agree on the name of the space bar is `strokeOf_eq`. -/
theorem tokens_of_key {e : Event} {key : String} (h : e.gesture = .key key) :
    e.tokens names = match strokeOf names key with
      | .special name => [.key name]
      | .character c => [.character c]
      | .ignored => [] := by
  simp only [Event.tokens, h, strokeOf_eq]
  cases names.find? (SpaceBar.asBlank key) with
  | some name => rfl
  | none =>
    rcases hk : (SpaceBar.asBlank key).toList with _ | ⟨c, _ | ⟨d, cs⟩⟩ <;>
      simp [← String.length_toList, hk]

/-- What is waiting to be typed. -/
def Typed.characters : Typed → List Char
  | some (cs, _) => cs
  | none => []

@[simp] theorem Typed.characters_none : Typed.characters none = [] := rfl

/-- One more character waits behind the others. -/
@[simp] theorem Typed.characters_push (typed : Typed) (c : Char) (i : Interaction) :
    (typed.push c i).characters = typed.characters ++ [c] := by
  cases typed <;> rfl

/-- What waited is all there is in the rule of a stretch, and there is no rule when nothing
waited. -/
@[simp] theorem tokens_flush (typed : Typed) :
    (flush mode typed).flatMap Rule.tokens = typed.characters.map .character := by
  cases typed <;> simp [flush, Typed.characters]

/-- **A run keeps its tokens:** those waiting to be typed come first, then those of the
interactions in order.  What waits is carried along until something else than a character
comes, which is why the induction is on all that may be waiting. -/
theorem tokens_rulesAfter (typed : Typed) (is : List Interaction) :
    (rulesAfter names mode typed is).flatMap Rule.tokens =
      typed.characters.map .character ++ is.flatMap (·.event.tokens names) := by
  induction is generalizing typed with
  | nil => simp [rulesAfter]
  | cons i rest ih =>
    rw [rulesAfter]
    cases hg : i.event.gesture with
    | pointer button x y => simp [ih, Event.tokens, hg, Interaction.timestamp]
    | key key =>
      rw [List.flatMap_cons, tokens_of_key names hg]
      cases hs : strokeOf names key <;> simp [hs, ih]

/-- **The rules of a group do what its interactions did,** nothing more and in the same order.
Closing the session at the end does nothing that a user would see. -/
theorem tokens_rules (g : Group) :
    (rules names mode g).flatMap Rule.tokens = g.events.flatMap (·.event.tokens names) := by
  rw [rules, List.flatMap_append, tokens_rulesAfter]
  simp [Rule.tokens, Rule.close]

end RuleCompiler

/-! ## Pauses -/

namespace Pause

/-- The pause between two rules does nothing that a user would see. -/
theorem tokens_between {least most : Int} {r s : Rule} {pause : Option Rule}
    (h : between least most r s = .ok pause) : pause.toList.flatMap Rule.tokens = [] := by
  rcases between_eq_ok h with rfl | ⟨t, u, -, -, -, rfl⟩ <;> rfl

/-- **Pauses do nothing.**  Putting them between rules keeps the tokens, and the order of
them: the rules are all still there, and each pause has none. -/
theorem tokens_insert {least most : Int} {rs out : List Rule} (h : insert least most rs = .ok out) :
    out.flatMap Rule.tokens = rs.flatMap Rule.tokens := by
  induction rs generalizing out with
  | nil => obtain rfl := Except.ok.inj h; rfl
  | cons r rs ih =>
    cases rs with
    | nil => obtain rfl := Except.ok.inj h; rfl
    | cons s rest =>
      obtain ⟨pause, tail, hp, ht, rfl⟩ := insert_cons_eq_ok.1 h
      rw [List.flatMap_cons, ← ih ht]
      simp [tokens_between hp]

end Pause

/-- **The job of a group does what its interactions did,** with think time or without, in
every mode and for every list of keys with an action of their own. -/
theorem RuleCompiler.tokens_compile {names : KeyNames} {mode : CaptureMode} {g : Group} {job : Job}
    (h : compile names mode g = .ok job) :
    job.rules.flatMap Rule.tokens = g.events.flatMap (·.event.tokens names) := by
  rw [← tokens_rules names mode g]
  rcases rules_of_compile h with heq | ⟨t, -, hinsert⟩
  · rw [heq]
  · exact Pause.tokens_insert hinsert

end Recorder
