/-
# Writing events

`encode_event`, which undoes `decode_event` (`SPEC_FULL.md` §2) for saved
buffers.

The flat form of an event.  Absent parts are left out; numbers keep their kind.
-/

import Recorder.Event.Basic
import Recorder.Json.Basic

namespace Recorder

/-- A field that is left out when its value is absent. -/
def Fields.optional (name : String) (v : Option Json) : Fields :=
  match v with
  | some w => [(name, w)]
  | none => []

namespace Bounds

def toFields (b : Bounds) : Fields :=
  [("x", .float b.x), ("y", .float b.y), ("width", .float b.width), ("height", .float b.height)]

end Bounds

namespace UiNode

def toFields (n : UiNode) : Fields :=
  Fields.optional "bounds" (n.bounds.map fun b => .obj b.toFields) ++
  Fields.optional "automationId" (n.automationId.map .str) ++
  Fields.optional "name" (n.name.map .str) ++
  Fields.optional "controlType" (n.controlType.map .str) ++
  Fields.optional "className" (n.className.map .str) ++
  Fields.optional "isTriggerElement" (n.isTrigger.map .bool)

end UiNode

namespace UiChain

def toFields (c : UiChain) : Fields :=
  [("locator", .str c.locator), ("path", .arr (c.path.map fun n => .obj n.toFields))]

end UiChain

namespace Gesture

/-- The data of a gesture: the key, or the coordinates that are known. -/
def toFields : Gesture → Fields
  | .key name => [("key", .str name)]
  | .pointer _ x y => Fields.optional "x" (x.map .float) ++ Fields.optional "y" (y.map .float)

end Gesture

namespace Event

/-- **The flat form of an event.**
Source: `encode_event`. -/
def encode (e : Event) : Json :=
  .obj [("timestamp", .int e.timestamp), ("machineName", .str e.machine),
    ("type", .str e.gesture.device), ("event", .str e.text),
    ("chain", .obj e.chain.toFields), ("value", .obj e.gesture.toFields)]

end Event

end Recorder
