/-
# Events, written and read back

`decode_event` of what `encode_event` has written (`SPEC_FULL.md` §2), as it happens to
every event of a saved recording.

The flat form of an event reads back as the event, except that an element of which
nothing is known is written as an empty object and so left out when it is read
(`Event.decode?_encode`).  An event survives unchanged just if its path has no such
element (`Event.decode?_encode_eq_iff`).
-/

import Recorder.Event.Reading
import Recorder.Event.Writing
import Recorder.Proofs.Json.Fields
import Recorder.Proofs.Outcome

namespace Recorder

/-! ## Elements -/

/-- Bounds are read back from their fields. -/
theorem Bounds.check_toFields (b : Bounds) : Bounds.check (.obj b.toFields) = .ok b := by
  cases b; rfl

namespace UiNode

/-- An optional text is read back. -/
theorem optionalText_of_get? {fs : Fields} {name : String} {others : List String}
    {v : Option String} (hv : fs.get? name = v.map .str) (ho : ∀ k ∈ others, fs.get? k = none) :
    optionalText fs (name :: others) = .ok v := Fields.read_optional hv ho fun _ => rfl

/-- The fields of a written element, name by name. -/
theorem get?_toFields (n : UiNode) (key : String) :
    Entries.get? n.toFields key =
      if key = "bounds" then n.bounds.map fun b => .obj b.toFields
      else if key = "automationId" then n.automationId.map .str
      else if key = "name" then n.name.map .str
      else if key = "controlType" then n.controlType.map .str
      else if key = "className" then n.className.map .str
      else if key = "isTriggerElement" then n.isTrigger.map .bool
      else none := by
  simp only [toFields, Entries.get?_append, Fields.get?_optional, eq_comm (b := key)]
  grind

/-- **An element is read back** as it was written: what is not known of it is left out, and
what is left out reads as not known. -/
theorem check_toFields (n : UiNode) : UiNode.check (.obj n.toFields) = .ok n := by
  have hb : Fields.read n.toFields ["bounds"] Bounds.checkOptional (.ok none) = .ok n.bounds :=
    Fields.read_optional (get?_toFields n _) (by simp) fun b => by
      simp [Bounds.checkOptional, Bounds.check_toFields, Except.map]
  have ha : optionalText n.toFields ["automationId", "automation_id"] = .ok n.automationId :=
    optionalText_of_get? (get?_toFields n _) (by simp [get?_toFields])
  have hn : optionalText n.toFields ["name"] = .ok n.name :=
    optionalText_of_get? (get?_toFields n _) (by simp)
  have ht : optionalText n.toFields ["controlType", "control_type"] = .ok n.controlType :=
    optionalText_of_get? (get?_toFields n _) (by simp [get?_toFields])
  have hc : optionalText n.toFields ["className", "class_name"] = .ok n.className :=
    optionalText_of_get? (get?_toFields n _) (by simp [get?_toFields])
  have hi : Fields.read n.toFields ["isTriggerElement", "is_trigger_element"]
      (Scalar.checked (Scalar.optional Scalar.bool)) (.ok none) = .ok n.isTrigger :=
    Fields.read_optional (get?_toFields n _) (by simp [get?_toFields]) fun _ => rfl
  rw [UiNode.check, hb, ha, hn, ht, hc, hi]
  rfl

/-- An element is written as an empty object just if nothing is known of it. -/
theorem isTruthy_toFields (n : UiNode) : (Json.obj n.toFields).isTruthy = decide (n ≠ {}) := by
  obtain ⟨b, a, nm, t, c, i⟩ := n
  cases b <;> cases a <;> cases nm <;> cases t <;> cases c <;> cases i <;> rfl

end UiNode

/-! ## Chains -/

namespace UiChain

/-- The chain without the elements of which nothing is known. -/
def known (c : UiChain) : UiChain := { c with path := c.path.filter (· ≠ {}) }

end UiChain

namespace Event

/-- A text is read as it is, the empty one included. -/
@[simp] theorem textOrEmpty?_str (s : String) : textOrEmpty? (some (.str s)) = some s := by
  by_cases hs : s = "" <;> simp [textOrEmpty?, Json.isTruthy, Scalar.text, Except.toOption, hs]

/-- Written elements are read back, one by one. -/
theorem mapM_check_toFields (ns : List UiNode) :
    (ns.map fun n => Json.obj n.toFields).mapM (fun v => (UiNode.check v).toOption) = some ns := by
  induction ns with
  | nil => rfl
  | cons n ns ih => rw [List.map_cons, List.mapM_cons, UiNode.check_toFields, ih]; rfl

/-- **A chain is read back** but for the elements of which nothing is known.  Such an element
is written as an empty object, and the reader passes over everything in a path that counts as
empty. -/
theorem chain?_toFields (c : UiChain) : chain? c.toFields = some c.known := by
  have hl : Entries.get? c.toFields "locator" = some (.str c.locator) := rfl
  have hp : itemsAt c.toFields "path" = c.path.map fun n => .obj n.toFields := rfl
  have hf : (c.path.map fun n => Json.obj n.toFields).filter Json.isTruthy =
      (c.path.filter (· ≠ {})).map fun n => Json.obj n.toFields := by
    rw [List.filter_map]
    congr 1
    exact List.filter_congr fun n _ => UiNode.isTruthy_toFields n
  simp only [chain?, hl, hp, hf, mapM_check_toFields, textOrEmpty?_str]
  rfl

/-! ## Events -/

/-- The event without the elements of which nothing is known. -/
def known (e : Event) : Event := { e with chain := e.chain.known }

/-- **What reading establishes:** the phase and the button are those of the text.  Writing
keeps only the text, so an event that is to be read back must not have others. -/
structure IsRead (e : Event) : Prop where
  phase : e.phase = Phase.ofText e.text
  button : ∀ b x y, e.gesture = .pointer b x y → b = MouseButton.ofText e.text

/-- **Whatever is decoded has been read:** its phase and its button were found in the text
that it holds, and in no other place of the message. -/
theorem isRead_of_decode {payload : Json} {e : Event} (h : decode? payload = some e) :
    e.IsRead := by
  simp only [decode?, ofBody?, Option.bind_eq_bind, Option.bind_eq_some_iff] at h
  obtain ⟨outer, -, d, -, stamp, -, t, -, m, -, c, -, g, hg, he⟩ := h
  obtain rfl := Option.some.inj he
  refine ⟨rfl, fun b x y hb => ?_⟩
  cases d with
  | mouse =>
    simp only [gesture?, Option.bind_eq_bind, Option.bind_eq_some_iff] at hg
    obtain ⟨x', -, y', -, hg⟩ := hg
    obtain rfl := Option.some.inj hg
    exact (Gesture.pointer.inj hb).1.symm
  | keyboard =>
    obtain rfl := Option.some.inj hg
    cases hb

/-- The device that a gesture is written with. -/
def deviceOf : Gesture → Device
  | .key _ => .keyboard
  | .pointer .. => .mouse

/-- The device that is written is the one that is read. -/
theorem device?_encode (g : Gesture) : device? (some (.str g.device)) = some (deviceOf g) := by
  cases g with
  | key name =>
    have : device? (some (.str "keyboard")) = some .keyboard := by decide +kernel
    exact this
  | pointer b x y =>
    have : device? (some (.str "mouse")) = some .mouse := by decide +kernel
    exact this

@[simp] theorem coordinate?_float (x : Option Double) : coordinate? (x.map .float) = some x := by
  cases x <;> rfl

/-- A gesture is read back from its data, if its button is the one of the text. -/
theorem gesture?_toFields {fs : Fields} {g : Gesture} {text : String}
    (hv : objectAt fs "value" = g.toFields) (hx : fs.get? "x" = none) (hy : fs.get? "y" = none)
    (hb : ∀ b x y, g = .pointer b x y → b = MouseButton.ofText text) :
    gesture? fs text (deviceOf g) = some g := by
  cases g with
  | key name => simp [gesture?, deviceOf, hv, Gesture.toFields, Entries.get?]
  | pointer b x y =>
    have hgx : Entries.get? (Gesture.pointer b x y).toFields "x" = x.map .float := by
      simp [Gesture.toFields, Entries.get?_append, Fields.get?_optional]
    have hgy : Entries.get? (Gesture.pointer b x y).toFields "y" = y.map .float := by
      simp [Gesture.toFields, Entries.get?_append, Fields.get?_optional]
    simp [gesture?, deviceOf, hv, hgx, hgy, hx, hy, ← hb b x y rfl]

/-- The fields of the flat form. -/
def toFields (e : Event) : Fields :=
  [("timestamp", .int e.timestamp), ("machineName", .str e.machine),
    ("type", .str e.gesture.device), ("event", .str e.text), ("chain", .obj e.chain.toFields),
    ("value", .obj e.gesture.toFields)]

/-- What is written of an event is an object, the one of these fields. -/
theorem encode_eq (e : Event) : e.encode = .obj e.toFields := rfl

/-- **An event that has been read is read back** but for the elements of which nothing
is known. -/
theorem decode?_encode {e : Event} (h : e.IsRead) : decode? e.encode = some e.known := by
  have hb : body e.toFields = e.toFields := rfl
  have hd : device? (Entries.get? e.toFields "type") = some (deviceOf e.gesture) := device?_encode _
  have ht : Entries.get? e.toFields "timestamp" = some (.int e.timestamp) := rfl
  have hm : textOrEmpty? (Entries.get? e.toFields "machineName") = some e.machine :=
    textOrEmpty?_str _
  have hx : Json.displayOrEmpty (Entries.get? e.toFields "event") = e.text :=
    Json.displayOrEmpty_str _
  have hc : chain? (objectAt e.toFields "chain") = some e.chain.known := chain?_toFields _
  have hv : objectAt e.toFields "value" = e.gesture.toFields := rfl
  have hg : gesture? e.toFields e.text (deviceOf e.gesture) = some e.gesture :=
    gesture?_toFields hv rfl rfl h.button
  simp [decode?, encode_eq, Json.fields?, hb, ofBody?, hd, ht, Scalar.int, Except.toOption, hm, hx,
    hc, hg, known, ← h.phase]

/-- So are events, one by one. -/
theorem filterMap_decode?_encode {es : List Event} (h : ∀ e ∈ es, e.IsRead) :
    (es.map encode).filterMap decode? = es.map known := by
  induction es with
  | nil => rfl
  | cons e es ih =>
    rw [List.map_cons, List.filterMap_cons_some (decode?_encode (h e List.mem_cons_self)),
      ih fun d hd => h d (List.mem_cons_of_mem _ hd), List.map_cons]

/-- **When writing keeps an event.**  A decoded event always reads back without the
elements of which nothing is known, so it reads back as itself just if it has none. -/
theorem decode?_encode_eq_iff {payload : Json} {e : Event} (h : decode? payload = some e) :
    decode? e.encode = some e.known ∧
      (decode? e.encode = some e ↔ ∀ n ∈ e.chain.path, n ≠ {}) := by
  have hd := decode?_encode (isRead_of_decode h)
  refine ⟨hd, ?_⟩
  rw [hd, Option.some.injEq]
  constructor
  · intro hk n hn
    rw [← hk] at hn
    simpa [known, UiChain.known] using (List.mem_filter.1 hn).2
  · intro hn
    have hp : e.chain.path.filter (· ≠ {}) = e.chain.path :=
      List.filter_eq_self.2 fun n hmem => decide_eq_true (hn n hmem)
    rw [known, UiChain.known, hp]

/-- A key in an envelope, with numbers as text, names in either spelling and an element
that is null. -/
def keyInEnvelope : Json :=
  .obj [("timestamp", .int 5), ("value", .obj [("type", .str "KeyboardEvent"),
    ("timestamp", .str " 1_000 "), ("machineName", .str "A"), ("event", .str "KeyUp"),
    ("chain", .obj [("locator", .str "//Edit"), ("path", .arr [.null,
      .obj [("bounds", .obj [("X", .int 3), ("width", .str "2.5")]), ("name", .str ""),
        ("control_type", .str "Edit"), ("is_trigger_element", .str "yes")]])]),
    ("value", .obj [("key", .bool true)])])]

/-- The key reads back: its only element has bounds and more. -/
theorem decode?_encode_keyInEnvelope :
    ∃ e, decode? keyInEnvelope = some e ∧ e.timestamp = 1000 ∧ e.chain.path.length = 1 ∧
      decode? e.encode = some e := by
  have h : (decode? keyInEnvelope).any fun e =>
      e.timestamp = 1000 ∧ e.chain.path.length = 1 ∧ ∀ n ∈ e.chain.path, n ≠ {} := by decide +kernel
  obtain ⟨e, he, hp⟩ := (Option.any_eq_true _ _).1 h
  obtain ⟨ht, hl, hn⟩ := of_decide_eq_true hp
  exact ⟨e, he, ht, hl, (decode?_encode_eq_iff he).2.2 hn⟩

/-- A click on an element that is described by nothing that is known. -/
def clickOnUnknown : Json :=
  .obj [("timestamp", .int 1), ("machineName", .str "A"), ("type", .str "mouse"),
    ("event", .str "left up"),
    ("chain", .obj [("locator", .str "//Pane"), ("path", .arr [.obj [("role", .str "pane")]])]),
    ("value", .obj [("x", .int 1), ("y", .int 2)])]

/-- **Writing can lose an element:** the click is decoded with it and reads back without.  All
that is said of the element is its role, which is not kept. -/
theorem exists_decode?_encode_ne :
    ∃ payload e, decode? payload = some e ∧ decode? e.encode ≠ some e := by
  have h : (decode? clickOnUnknown).any fun e => decode? e.encode ≠ some e := by decide +kernel
  obtain ⟨e, he, hp⟩ := (Option.any_eq_true _ _).1 h
  exact ⟨clickOnUnknown, e, he, of_decide_eq_true hp⟩

end Event
end Recorder
