/-
# From interactions to rules

`SPEC_FULL.md` §5, `RuleCompiler`: `pointer_rule`, `keyboard_rules` and
`compile`.

Every pointer event is a click.  Keys with an action of their own are one rule
each; the other keys that name a single character are typed together, as one
rule for each stretch that neither a click nor such a key interrupts.  Names of
several characters (`Shift`, `LControlKey`) are dropped.  Every job ends by
closing its session.

| mode | clicks | keys | element |
| --- | --- | --- | --- |
| standard | `InvokeClick` | `SendKeys`, `SendKeyboardKey` | locator |
| user32 | `InvokeUser32Click` | `SendUser32Keys`, `SendUser32KeyboardKey` | locator |
| coordinate | `InvokeUser32Click` at a position | `SendUser32Keys`, `SendUser32KeyboardKey` | none |
-/

import Recorder.Automation.Document
import Recorder.Automation.KeyNames
import Recorder.Automation.Pause
import Recorder.Log.Notice
import Recorder.Timeline.Group

namespace Recorder
namespace RuleCompiler

/-! ## Clicks -/

/-- The plugin of a button. -/
def clickPlugin : CaptureMode → MouseButton → Plugin
  | .standard, .left => .click
  | .standard, .middle => .middleClick
  | .standard, .right => .contextClick
  | _, .left => .user32Click
  | _, .middle => .user32MiddleClick
  | _, .right => .user32ContextClick
  | _, .unknown => .noAction

/-- A coordinate as a parameter. -/
def coordinateValue : Option Double → Json
  | some x => .float x
  | none => .null

/-- The element a rule acts on. -/
def elementOf (mode : CaptureMode) (i : Interaction) : Option String :=
  if mode = .coordinate then none else some i.locator

/-- **The rule of a click.**
Source: `RuleCompiler.pointer_rule`. -/
def clickRule (mode : CaptureMode) (i : Interaction) (button : MouseButton) (x y : Option Double) :
    Rule :=
  { plugin := clickPlugin mode button
    onElement := elementOf mode i
    parameters :=
      if mode = .coordinate then some [("X", coordinateValue x), ("Y", coordinateValue y)] else none
    context := some { timestamp := some i.timestamp, x, y } }

/-! ## Keys -/

/-- What a key event stands for. -/
inductive Stroke where
  /-- A key with an action of its own, by its engine name. -/
  | special (name : String)
  | character (c : Char)
  | ignored
deriving DecidableEq, Repr

/-- Whether a key is the space bar: `space` in any case, a final line feed allowed. -/
def isSpaceBar (key : String) : Bool :=
  let word := ['s', 'p', 'a', 'c', 'e']
  Text.agreesText word key.toList || Text.agreesText (word ++ ['\n']) key.toList

/-- The name of a key, the space bar being a blank. -/
def keyName (key : String) : String := if isSpaceBar key then " " else key

/-- **What a key stands for.** -/
def strokeOf (names : KeyNames) (key : String) : Stroke :=
  match names.find? (keyName key) with
  | some name => .special name
  | none => match (keyName key).toList with
    | [c] => .character c
    | _ => .ignored

/-- A rule that sends keys. -/
def keyboardRule (mode : CaptureMode) (plugin : Plugin) (parameters : Parameters)
    (i : Interaction) : Rule :=
  { plugin
    onElement := elementOf mode i
    parameters := some parameters
    context := some { timestamp := some i.timestamp } }

/-- **The rule of a key with an action of its own.** -/
def keyRule (mode : CaptureMode) (name : String) (i : Interaction) : Rule :=
  keyboardRule mode (if mode = .standard then .keyboardKey else .user32KeyboardKey)
    [("Key", .str name)] i

/-- **The rule of typed text,** which belongs to its last character. -/
def typeRule (mode : CaptureMode) (typed : List Char) (last : Interaction) : Rule :=
  keyboardRule mode (if mode = .standard then .keys else .user32Keys)
    [("Keys", .str (String.ofList typed))] last

/-! ## Jobs -/

/-- Characters typed so far, with the interaction of the last one. -/
abbrev Typed := Option (List Char × Interaction)

/-- The rule of what was typed so far, if anything was. -/
def flush (mode : CaptureMode) : Typed → List Rule
  | some (typed, last) => [typeRule mode typed last]
  | none => []

/-- One more character. -/
def Typed.push (typed : Typed) (c : Char) (i : Interaction) : Typed :=
  match typed with
  | some (cs, _) => some (cs ++ [c], i)
  | none => some ([c], i)

/-- **The rules of interactions,** `typed` waiting for the end of its stretch.
Source: the loop of `RuleCompiler.compile` with `RuleCompiler.keyboard_rules`. -/
def rulesAfter (names : KeyNames) (mode : CaptureMode) (typed : Typed) : List Interaction → List Rule
  | [] => flush mode typed
  | i :: rest =>
    match i.event.gesture with
    | .pointer button x y =>
      flush mode typed ++ clickRule mode i button x y :: rulesAfter names mode none rest
    | .key key =>
      match strokeOf names key with
      | .special name => flush mode typed ++ keyRule mode name i :: rulesAfter names mode none rest
      | .character c => rulesAfter names mode (typed.push c i) rest
      | .ignored => rulesAfter names mode typed rest

/-- The rules of a group, closing the session at the end, without pauses. -/
def rules (names : KeyNames) (mode : CaptureMode) (g : Group) : List Rule :=
  rulesAfter names mode none g.events ++ [Rule.close]

/-- Puts pauses between rules where the settings ask for it. -/
def withPauses (settings : Option ThinkTime) (rs : List Rule) :
    Except PauseError (List Rule) :=
  match settings with
  | some t => if t.enabled then Pause.insert t.least t.most rs else .ok rs
  | none => .ok rs

/-- How the job of a machine is called. -/
def jobReference (machine : String) : Reference :=
  { id := "recorded-actions-job-" ++ Text.lower machine
    name := "Recorded Actions Job (" ++ machine ++ ")"
    description := "Job to execute all recorded actions from machine " ++ machine ++ "." }

/-- **The job of a group.**
Source: `RuleCompiler.compile`. -/
def compile (names : KeyNames) (mode : CaptureMode) (g : Group) : Except PauseError Job := do
  let rs ← withPauses g.thinkTime (rules names mode g)
  .ok { reference := jobReference g.machine, rules := rs }

/-- A notice for every click whose button is not known. -/
def notices (g : Group) : List Notice :=
  g.events.filterMap fun i =>
    match i.event.gesture with
    | .pointer .unknown _ _ => some (.unresolvedButton i.event.text i.timestamp)
    | _ => none

end RuleCompiler
end Recorder
