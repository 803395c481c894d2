/-
# Recorded events

`SPEC_FULL.md` §1, from `EventPhase` to `RawEvent`, and §2, `parse_phase` and
`parse_button`.

An event is what a recorder reports of one press or release: when and on which
machine it happened, the chain of user-interface elements it hit, and the
pointer position or the name of the key.

The text of an event says what happened (`left up`, `keydown`).  Its phase and
the mouse button are read off that text.
-/

import Recorder.Number.Double
import Recorder.Text.Blank
import Recorder.Text.LetterCase

namespace Recorder

/-- The rectangle of an element on the screen. -/
structure Bounds where
  x : Double := .zero
  y : Double := .zero
  width : Double := .zero
  height : Double := .zero
deriving DecidableEq, Repr

/-- One element of the user interface. -/
structure UiNode where
  bounds : Option Bounds := none
  automationId : Option String := none
  name : Option String := none
  controlType : Option String := none
  className : Option String := none
  isTrigger : Option Bool := none
deriving DecidableEq, Repr

/-- The elements from the window down to the one that was hit, and how to find it again. -/
structure UiChain where
  locator : String := ""
  path : List UiNode := []
deriving DecidableEq, Repr

/-- The element that was hit: the deepest one. -/
def UiChain.trigger? (c : UiChain) : Option UiNode := c.path.getLast?

inductive Phase where
  | down
  | up
deriving DecidableEq, Repr

inductive MouseButton where
  | left
  | middle
  | right
  | unknown
deriving DecidableEq, Repr

/-- What was done. -/
inductive Gesture where
  | pointer (button : MouseButton) (x y : Option Double)
  | key (name : String)
deriving DecidableEq, Repr

/-- A decoded event. -/
structure Event where
  timestamp : Int
  machine : String
  text : String
  phase : Option Phase
  chain : UiChain
  gesture : Gesture
deriving DecidableEq, Repr

namespace Phase

def name : Phase → String
  | .down => "down"
  | .up => "up"

/-- **The phase of an event text.**  `down` wins over `up`, so that `mousedown` is
never taken for a release; case is ignored.
Source: `parse_phase`. -/
def ofText (s : String) : Option Phase :=
  if Text.occursFolded ['d', 'o', 'w', 'n'] s.toList then some .down
  else if Text.occursFolded ['u', 'p'] s.toList then some .up
  else none

end Phase

namespace MouseButton

def name : MouseButton → String
  | .left => "left"
  | .middle => "middle"
  | .right => "right"
  | .unknown => "unknown"

def ofName (s : String) : MouseButton :=
  if s = "left" then .left
  else if s = "middle" then .middle
  else if s = "right" then .right
  else .unknown

/-- What stands between the words of an event text. -/
def isSeparator (c : Char) : Bool := Text.isBlank c || c == '-' || c == '_'

/-- **The button of an event text:** its first word, in lower case.
Source: `parse_button`. -/
def ofText (s : String) : MouseButton :=
  match (Text.splitBy isSeparator (Text.lower (Text.trim s)).toList).find? (!·.isEmpty) with
  | some word => ofName (String.ofList word)
  | none => .unknown

end MouseButton

namespace Gesture

def isKey : Gesture → Bool
  | .key _ => true
  | .pointer .. => false

/-- The name of the device. -/
def device : Gesture → String
  | .key _ => "keyboard"
  | .pointer .. => "mouse"

end Gesture

end Recorder
