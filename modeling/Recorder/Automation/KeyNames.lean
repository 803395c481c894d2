/-
# Keys with an action of their own

`SPEC_FULL.md` §5, the allow-list `SPECIAL_KEYS`.

Most keys are typed as text.  Those on this list get a rule of their own, under
the name the engine knows.  Names are compared in lower case.
-/

import Recorder.Entries
import Recorder.Text.LetterCase

namespace Recorder

/-- The engine's name of every key with an action of its own, by lower-case name. -/
structure KeyNames where
  entries : Entries String
deriving DecidableEq, Repr

namespace KeyNames

/-- The list with the given pairs; of names that agree in lower case the last counts. -/
def ofPairs (pairs : List (String × String)) : KeyNames :=
  ⟨Entries.ofPairs (pairs.map fun (k, v) => (Text.lower k, v))⟩

/-- The engine's name of a key. -/
def find? (names : KeyNames) (key : String) : Option String := names.entries.get? (Text.lower key)

/-- The keys of an ordinary keyboard.  Source: `SPECIAL_KEYS`. -/
def standard : KeyNames := ofPairs [
    ("backspace", "Backspace"), ("caps lock", "Caps Lock"), ("delete", "Delete"), ("down", "Down"),
    ("end", "End"), ("enter", "Enter"), ("esc", "Esc"), ("escape", "Esc"),
    ("f1", "F1"), ("f2", "F2"), ("f3", "F3"), ("f4", "F4"), ("f5", "F5"), ("f6", "F6"),
    ("f7", "F7"), ("f8", "F8"), ("f9", "F9"), ("f10", "F10"), ("f11", "F11"), ("f12", "F12"),
    ("home", "Home"), ("insert", "Insert"), ("left", "Left"), ("num del", "Num Del"),
    ("num lock", "Num Lock"), ("page down", "Page Down"), ("page up", "Page Up"),
    ("pause", "Pause"), ("prnt scrn", "Prnt Scrn"), ("right", "Right"),
    ("scroll lock", "Scroll Lock"), ("tab", "Tab"), ("up", "Up")]

end KeyNames
end Recorder
