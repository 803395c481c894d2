/-
# Rules

`SPEC_FULL.md` §1, `Rule` and `RuleContext`, and §5, `Plugins` and
`format_argument`.

A rule is one action of the automation engine: a plugin, the element it acts on,
an argument of named parameters, and where in the recording it comes from.  The
engine reads the argument as `{{$ --Name:value --Name:value}}`.
-/

import Recorder.Json.Display

namespace Recorder

/-- The plugins of the engine.  Source: `Plugins`. -/
inductive Plugin where
  | click
  | middleClick
  | contextClick
  | user32Click
  | user32MiddleClick
  | user32ContextClick
  | keyboardKey
  | keys
  | user32KeyboardKey
  | user32Keys
  | wait
  | closeSession
  | noAction
deriving DecidableEq, Repr

/-- The name the engine dispatches on. -/
def Plugin.name : Plugin → String
  | .click => "InvokeClick"
  | .middleClick => "InvokeMiddleClick"
  | .contextClick => "InvokeContextClick"
  | .user32Click => "InvokeUser32Click"
  | .user32MiddleClick => "InvokeUser32MiddleClick"
  | .user32ContextClick => "InvokeUser32ContextClick"
  | .keyboardKey => "SendKeyboardKey"
  | .keys => "SendKeys"
  | .user32KeyboardKey => "SendUser32KeyboardKey"
  | .user32Keys => "SendUser32Keys"
  | .wait => "WaitFlow"
  | .closeSession => "CloseBrowser"
  | .noAction => "None"

/-- The named parameters of an argument, in order. -/
abbrev Parameters := List (String × Json)

namespace Parameters

/-- The text of a parameter's value.  A binary64 number without a fraction is
written as a whole number. -/
def valueText : Json → String
  | .float x => match x.toInt? with
    | some n => toString n
    | none => x.text
  | v => v.display

/-- One parameter. -/
def itemText (name : String) (v : Json) : String := "--" ++ name ++ ":" ++ valueText v

/-- **The text of an argument.**
Source: `format_argument`. -/
def text (ps : Parameters) : String :=
  "\x7b\x7b$ " ++ " ".intercalate (ps.map fun (name, v) => itemText name v) ++ "\x7d\x7d"

end Parameters

/-- Where in the recording a rule comes from. -/
structure RuleContext where
  timestamp : Option Int := none
  x : Option Double := none
  y : Option Double := none
deriving DecidableEq, Repr

/-- One action. -/
structure Rule where
  plugin : Plugin
  onElement : Option String := none
  parameters : Option Parameters := none
  context : Option RuleContext := none
  /-- The name the editor shows. -/
  displayName : Option String := none
deriving Repr

namespace Rule

/-- The moment of the recording that a rule belongs to. -/
def timestamp (r : Rule) : Option Int := r.context.bind RuleContext.timestamp

/-- The argument as the engine reads it. -/
def argument (r : Rule) : Option String := r.parameters.map Parameters.text

/-- The action that ends every job. -/
def close : Rule := { plugin := .closeSession }

end Rule

end Recorder
