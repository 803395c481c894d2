/-
# Interactions

`SPEC_FULL.md` §2, `normalize`.

A release confirms an interaction.  An event is kept if it is a release, if its
locator does not lie on a recorder's surface, and if its chain has an element
that was hit; anything else is dropped.
-/

import Recorder.Event.Basic
import Recorder.Number.Notation
import Recorder.Timeline.Surface

namespace Recorder

/-- A completed interaction, with the endpoint that recorded it. -/
structure Interaction where
  event : Event
  /-- The bounds of the element that was hit. -/
  bounds : Bounds
  /-- The base URL of the recording endpoint, once known. -/
  origin : Option String := none
deriving DecidableEq, Repr

/-- A geometric fingerprint of an element: height, position and width.  Source: `element_id`. -/
def Bounds.fingerprint (b : Bounds) : String :=
  ";".intercalate ([b.height, b.x, b.y, b.width].map Double.briefText)

namespace Interaction

def timestamp (i : Interaction) : Int := i.event.timestamp

def machine (i : Interaction) : String := i.event.machine

def locator (i : Interaction) : String := i.event.chain.locator

/-- Tells elements apart in diagnostics only. -/
def elementId (i : Interaction) : String := i.bounds.fingerprint

def isKeyboard (i : Interaction) : Bool := i.event.gesture.isKey

/-- The interaction of a release on an element that was hit. -/
def ofRelease? (e : Event) : Option Interaction :=
  e.chain.trigger?.map fun node => { event := e, bounds := node.bounds.getD {} }

/-- **Keeping completed interactions.**  A press is dropped before its locator is
looked at.
Source: `normalize`. -/
def ofEvent? (patterns : List String) (e : Event) : Except PatternError (Option Interaction) :=
  if e.phase = some .up then do
    if ← Surface.isRecorder patterns e.chain.locator then .ok none else .ok (ofRelease? e)
  else .ok none

end Interaction
end Recorder
