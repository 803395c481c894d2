/-
# Reading events

`SPEC_FULL.md` §2, `decode_event`.

A recorder sends an event either flat or inside an envelope:

| shape | layout |
| --- | --- |
| flat | `{timestamp, machineName, type, event, chain, value: {key, x, y}}` |
| envelope | `{"value": {…the same…}, timestamp}` |

An envelope is an object without a type whose value is an object; its timestamp
stands in for one that the body does not have.  `Event.decode?` gives nothing
for whatever does not decode, because one bad message must not stop a stream.
-/

import Recorder.Event.Basic
import Recorder.Json.Display
import Recorder.Schema.Scalar

namespace Recorder

/-! ## Elements -/

namespace Bounds

/-- A coordinate under either of its names; zero when absent. -/
def coordinate (fs : Fields) (names : List String) : Checked Double :=
  fs.read names (Scalar.checked Scalar.float) (.ok .zero)

/-- The position comes upper-cased and the size lower-cased, or the other way. -/
def check : Json → Checked Bounds
  | .obj fs =>
    ((coordinate fs ["x", "X"]).and <| (coordinate fs ["y", "Y"]).and <|
      (coordinate fs ["width", "Width"]).and <| coordinate fs ["height", "Height"]).map
      fun (x, y, w, h) => ⟨x, y, w, h⟩
  | _ => .fail .modelType

/-- Bounds that may be null. -/
def checkOptional : Json → Checked (Option Bounds)
  | .null => .ok none
  | v => (check v).map some

end Bounds

namespace UiNode

def optionalText (fs : Fields) (names : List String) : Checked (Option String) :=
  fs.read names (Scalar.checked (Scalar.optional Scalar.text)) (.ok none)

def check : Json → Checked UiNode
  | .obj fs =>
    ((Fields.read fs ["bounds"] Bounds.checkOptional (.ok none)).and <|
      (optionalText fs ["automationId", "automation_id"]).and <|
      (optionalText fs ["name"]).and <|
      (optionalText fs ["controlType", "control_type"]).and <|
      (optionalText fs ["className", "class_name"]).and <|
      Fields.read fs ["isTriggerElement", "is_trigger_element"]
        (Scalar.checked (Scalar.optional Scalar.bool)) (.ok none)).map
      fun (b, a, n, t, c, i) => ⟨b, a, n, t, c, i⟩
  | _ => .fail .modelType

end UiNode

namespace Event

/-- Text that counts as empty when absent, null, false, zero or empty. -/
def textOrEmpty? : Option Json → Option String
  | some v => if v.isTruthy then (Scalar.text v).toOption else some ""
  | none => some ""

/-- The fields of a field that is an object; none when it is not. -/
def objectAt (fs : Fields) (name : String) : Fields :=
  match fs.get? name with
  | some (.obj inner) => inner
  | _ => []

/-- The items of a field that is an array; none when it is not. -/
def itemsAt (fs : Fields) (name : String) : List Json :=
  match fs.get? name with
  | some (.arr xs) => xs
  | _ => []

/-- The chain of elements.  Nodes that are empty or null are left out. -/
def chain? (fs : Fields) : Option UiChain := do
  let locator ← textOrEmpty? (fs.get? "locator")
  let path ← ((itemsAt fs "path").filter Json.isTruthy).mapM fun v => (UiNode.check v).toOption
  some ⟨locator, path⟩

/-- The object that describes the event: the value of an envelope, or all of it. -/
def body (outer : Fields) : Fields :=
  if outer.has "type" then outer
  else match outer.get? "value" with
    | some (.obj inner) => inner
    | _ => outer

/-- The device that a type names. -/
inductive Device where
  | mouse
  | keyboard
deriving DecidableEq, Repr

/-- **The device of a type.**  The text of the type, whatever its case, has
`mouse` or else `keyboard` somewhere in it. -/
def device? (type : Option Json) : Option Device :=
  let word := (Text.lower (Json.displayOrEmpty type)).toList
  if Text.occursIn ['m', 'o', 'u', 's', 'e'] word then some .mouse
  else if Text.occursIn ['k', 'e', 'y', 'b', 'o', 'a', 'r', 'd'] word then some .keyboard
  else none

/-- A coordinate of the pointer: absent, null or a number. -/
def coordinate? : Option Json → Option (Option Double)
  | none => some none
  | some v => (Scalar.optional Scalar.float v).toOption

/-- What was done, from the description `fs` of the event and its text. -/
def gesture? (fs : Fields) (text : String) : Device → Option Gesture
  | .mouse => do
    let x ← coordinate? (((objectAt fs "value").get? "x").or (fs.get? "x"))
    let y ← coordinate? (((objectAt fs "value").get? "y").or (fs.get? "y"))
    some (.pointer (.ofText text) x y)
  | .keyboard =>
    some (.key (Json.displayOrEmpty (((objectAt fs "value").get? "key").or (fs.get? "key"))))

/-- The event that the description `fs` gives, `stamp` being its timestamp. -/
def ofBody? (fs : Fields) (stamp : Option Json) : Option Event := do
  let device ← device? (fs.get? "type")
  let timestamp ← (Scalar.int (← stamp)).toOption
  let machine ← textOrEmpty? (fs.get? "machineName")
  let text := Json.displayOrEmpty (fs.get? "event")
  let chain ← chain? (objectAt fs "chain")
  let gesture ← gesture? fs text device
  some ⟨timestamp, machine, text, Phase.ofText text, chain, gesture⟩

/-- **Reading one message.**
Source: `decode_event`. -/
def decode? (payload : Json) : Option Event := do
  let outer ← payload.fields?
  let fs := body outer
  ofBody? fs ((fs.get? "timestamp").or (outer.get? "timestamp"))

end Event

end Recorder
