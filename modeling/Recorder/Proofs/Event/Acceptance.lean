/-
# Which messages are events

`SPEC_FULL.md` §2, `decode_event`: both shapes are accepted, malformed payloads return
nothing, and none raises.

`Event.IsMessage` lists what a message needs to be an event: where its parts are looked
for, and what each of them may be.  A message is decoded just if it has all of it, and gives
nothing otherwise (`Event.exists_decode?_iff`).

Each lemma is an equivalence for one check, in the order of the data: bounds, elements, the
chain, texts that may be empty, the timestamp, the coordinates.  The last ones look a datum
up in the places where it may be, so a field that is present but null hides the other place,
which a check of the values alone would not show.
-/

import Recorder.Event.Reading
import Recorder.Proofs.Json.Fields
import Recorder.Proofs.Schema.Conversions
import Recorder.Proofs.Text.Occurrence

namespace Recorder

/-! ## Elements -/

/-- Bounds: an object whose coordinates, where present, are numbers. -/
def Json.IsBounds (v : Json) : Prop :=
  ∃ fs : Fields, v = .obj fs ∧
    ∀ names ∈ [["x", "X"], ["y", "Y"], ["width", "Width"], ["height", "Height"]],
      fs.Admits names Json.ReadsAsFloat

/-- The fields of an element. -/
structure Fields.IsNode (fs : Fields) : Prop where
  bounds : fs.Admits ["bounds"] (Json.OrNull Json.IsBounds)
  texts : ∀ names ∈ [["automationId", "automation_id"], ["name"], ["controlType", "control_type"],
    ["className", "class_name"]], fs.Admits names (Json.OrNull Json.IsText)
  trigger : fs.Admits ["isTriggerElement", "is_trigger_element"] (Json.OrNull Json.ReadsAsBool)

/-- An element. -/
def Json.IsNode (v : Json) : Prop := ∃ fs : Fields, v = .obj fs ∧ fs.IsNode

/-- **Bounds are accepted** just if they are an object and each of the four numbers that is
present reads as one, under either of its names. -/
theorem Bounds.isOk_check_iff {v : Json} : (Bounds.check v).isOk = true ↔ v.IsBounds := by
  have hread (fs : Fields) (names : List String) :
      (coordinate fs names).isOk = true ↔ fs.Admits names Json.ReadsAsFloat :=
    Fields.isOk_read_iff fun w => by rw [Checked.isOk_checked, Scalar.isOk_float_iff]
  cases v with
  | obj fs => simp [Bounds.check, Json.IsBounds, hread]
  | _ => simp [Bounds.check, Json.IsBounds, Checked.fail]

/-- Bounds that may be null are accepted just if they are null or bounds. -/
theorem Bounds.isOk_checkOptional_iff {v : Json} :
    (Bounds.checkOptional v).isOk = true ↔ v.OrNull Json.IsBounds := by
  by_cases hv : v = .null
  · subst hv
    exact iff_of_true rfl (.inl rfl)
  · rw [Bounds.checkOptional.eq_2 _ hv, Outcome.isOk_map, Bounds.isOk_check_iff, Json.OrNull,
      or_iff_right hv]

/-- An optional text of a node is accepted just if it is absent, null or text. -/
theorem UiNode.isOk_optionalText_iff {fs : Fields} {names : List String} :
    (optionalText fs names).isOk = true ↔ fs.Admits names (Json.OrNull Json.IsText) :=
  Fields.isOk_read_iff fun v => by
    rw [Checked.isOk_checked, Scalar.isOk_optional_iff fun _ => Scalar.isOk_text_iff]

/-- **An element is accepted** just if each of its fields is: the texts, the bounds, and
nothing else, as fields of other names are not looked at.  An element without any field is
accepted as well. -/
theorem UiNode.isOk_check_iff {v : Json} : (UiNode.check v).isOk = true ↔ v.IsNode := by
  have hbounds (fs : Fields) : (Fields.read fs ["bounds"] Bounds.checkOptional (.ok none)).isOk =
      true ↔ fs.Admits ["bounds"] (Json.OrNull Json.IsBounds) :=
    Fields.isOk_read_iff fun _ => Bounds.isOk_checkOptional_iff
  have htrigger (fs : Fields) (names : List String) : (Fields.read fs names
      (Scalar.checked (Scalar.optional Scalar.bool)) (.ok none)).isOk = true ↔
        fs.Admits names (Json.OrNull Json.ReadsAsBool) :=
    Fields.isOk_read_iff fun v => by
      rw [Checked.isOk_checked, Scalar.isOk_optional_iff fun _ => Scalar.isOk_bool_iff]
  cases v with
  | obj fs =>
    simp only [UiNode.check, Outcome.isOk_map, Checked.isOk_and, Bool.and_eq_true, hbounds,
      htrigger, isOk_optionalText_iff]
    constructor
    · rintro ⟨hb, ha, hn, ht, hc, hi⟩
      refine ⟨fs, rfl, hb, ?_, hi⟩
      simp only [List.forall_mem_cons]
      exact ⟨ha, hn, ht, hc, List.forall_mem_nil _⟩
    · rintro ⟨_, ⟨⟩, hb, htexts, hi⟩
      simp only [List.forall_mem_cons] at htexts
      obtain ⟨ha, hn, ht, hc, -⟩ := htexts
      exact ⟨hb, ha, hn, ht, hc, hi⟩
  | _ => simp [UiNode.check, Json.IsNode, Checked.fail]

namespace Event

/-! ## Messages -/

/-- Text, or what counts as empty. -/
def IsTextOrEmpty (field : Option Json) : Prop :=
  ∀ v, field = some v → v.isTruthy = true → v.IsText

/-- A chain of elements.  An item of its path that counts as empty is no element. -/
structure IsChain (fs : Fields) : Prop where
  locator : IsTextOrEmpty (fs.get? "locator")
  path : ∀ items, fs.get? "path" = some (.arr items) →
    ∀ v ∈ items, v.isTruthy = true → v.IsNode

/-- A word occurs in the type of an event, whatever its case and wherever it stands in the
type. -/
def Names (fs : Fields) (word : String) : Prop :=
  word.toList <:+: (Text.lower (Json.displayOrEmpty (fs.get? "type"))).toList

/-- **The fields that describe an event:** those of the value of an envelope, or else those
of the message. -/
inductive Describes : Fields → Fields → Prop where
  | envelope {outer fs : Fields} :
      outer.get? "type" = none → outer.get? "value" = some (.obj fs) → Describes outer fs
  | flat {outer : Fields} :
      (outer.get? "type" = none → ∀ fs, outer.get? "value" ≠ some (.obj fs)) →
        Describes outer outer

/-- A datum of an event stands in its value, if that is an object that has it, or else
beside it. -/
inductive IsDatum (fs : Fields) (name : String) : Json → Prop where
  | inner {data : Fields} {v : Json} :
      fs.get? "value" = some (.obj data) → data.get? name = some v → IsDatum fs name v
  | beside {v : Json} :
      (∀ data : Fields, fs.get? "value" = some (.obj data) → data.get? name = none) →
        fs.get? name = some v → IsDatum fs name v

/-- A timestamp, be it null, hides the one of the envelope. -/
inductive IsStamp (outer fs : Fields) : Json → Prop where
  | own {v : Json} : fs.get? "timestamp" = some v → IsStamp outer fs v
  | outer {v : Json} : fs.get? "timestamp" = none → outer.get? "timestamp" = some v →
      IsStamp outer fs v

/-- **What the parts of an event may be,** each for itself: what the type names, the
timestamp, the machine, the chain, and the coordinates if it is an event of the mouse. -/
structure IsReadable (outer fs : Fields) : Prop where
  device : Names fs "mouse" ∨ Names fs "keyboard"
  timestamp : ∃ v, IsStamp outer fs v ∧ v.ReadsAsInt
  machine : IsTextOrEmpty (fs.get? "machineName")
  chain : ∀ chain : Fields, fs.get? "chain" = some (.obj chain) → IsChain chain
  position : Names fs "mouse" → ∀ name ∈ ["x", "y"], ∀ v, IsDatum fs name v →
    v.OrNull Json.ReadsAsFloat

/-- **A message that is an event:** an object with fields that describe one, of which every
part may be what it is.  Whether a part is looked up in an envelope or in the message itself
is in the description. -/
def IsMessage (payload : Json) : Prop :=
  ∃ outer fs : Fields, payload = .obj outer ∧ Describes outer fs ∧ IsReadable outer fs

/-! ## Where the parts are found -/

/-- A field inside a field is found where both are: the outer one has to be an object. -/
theorem get?_objectAt {fs : Fields} {name key : String} {v : Json} :
    (objectAt fs name).get? key = some v ↔
      ∃ inner : Fields, fs.get? name = some (.obj inner) ∧ inner.get? key = some v := by
  unfold objectAt
  split
  · simp [*]
  · rename_i hother
    constructor
    · intro h
      cases h
    · rintro ⟨inner, hname, -⟩
      exact absurd hname (hother inner)

/-- It is missing where the outer field is no object, and where that object does not have it. -/
theorem get?_objectAt_eq_none {fs : Fields} {name key : String} :
    (objectAt fs name).get? key = none ↔
      ∀ inner : Fields, fs.get? name = some (.obj inner) → inner.get? key = none := by
  simp only [Option.eq_none_iff_forall_ne_some, ne_eq, get?_objectAt, not_exists, not_and]
  exact ⟨fun h inner hname v => h v inner hname, fun h v inner hname => h inner hname v⟩

/-- The items of a field are those of its array; a field of another kind has none. -/
theorem mem_itemsAt {fs : Fields} {name : String} {v : Json} :
    v ∈ itemsAt fs name ↔ ∃ items, fs.get? name = some (.arr items) ∧ v ∈ items := by
  unfold itemsAt
  split
  · simp [*]
  · rename_i hother
    constructor
    · intro h
      cases h
    · rintro ⟨items, hname, -⟩
      exact absurd hname (hother items)

/-- The description that a message has is the one that is read. -/
theorem describes_iff {outer fs : Fields} : Describes outer fs ↔ body outer = fs := by
  by_cases htype : outer.has "type" = true
  · have hbody : body outer = outer := if_pos htype
    rw [hbody]
    constructor
    · rintro (⟨hnone, -⟩ | -)
      · exact absurd (Entries.has_eq_false_iff.2 hnone) (ne_false_of_eq_true htype)
      · rfl
    · rintro rfl
      exact .flat fun hnone =>
        absurd (Entries.has_eq_false_iff.2 hnone) (ne_false_of_eq_true htype)
  · have hnone : outer.get? "type" = none :=
      Entries.has_eq_false_iff.1 (Bool.eq_false_iff.2 htype)
    rw [body, if_neg htype]
    split
    · rename_i inner hvalue
      constructor
      · rintro (⟨-, hfs⟩ | hflat)
        · exact Json.obj.inj (Option.some.inj (hvalue.symm.trans hfs))
        · exact absurd hvalue (hflat hnone inner)
      · rintro rfl
        exact .envelope hnone hvalue
    · rename_i hother
      constructor
      · rintro (⟨-, hfs⟩ | -)
        · exact absurd hfs (hother fs)
        · rfl
      · rintro rfl
        exact .flat fun _ => hother

/-- An object is read through its description, the timestamp of the description going before
that of the object around it. -/
theorem decode?_obj (outer : Fields) : decode? (.obj outer) =
    ofBody? (body outer) (((body outer).get? "timestamp").or (outer.get? "timestamp")) := by
  simp only [decode?, Json.fields?, Option.bind_eq_bind, Option.bind_some]

/-- A datum is looked up in the object under `value` first and in the description next. -/
theorem isDatum_iff {fs : Fields} {name : String} {v : Json} :
    IsDatum fs name v ↔ ((objectAt fs "value").get? name).or (fs.get? name) = some v := by
  rw [Option.or_eq_some_iff, get?_objectAt, get?_objectAt_eq_none]
  constructor
  · rintro (⟨hdata, hv⟩ | ⟨hnone, hv⟩)
    · exact .inl ⟨_, hdata, hv⟩
    · exact .inr ⟨hnone, hv⟩
  · rintro (⟨data, hdata, hv⟩ | ⟨hnone, hv⟩)
    · exact .inner hdata hv
    · exact .beside hnone hv

/-- The timestamp is looked up in the description first and in the object around it next. -/
theorem isStamp_iff {outer fs : Fields} {v : Json} :
    IsStamp outer fs v ↔ (fs.get? "timestamp").or (outer.get? "timestamp") = some v := by
  rw [Option.or_eq_some_iff]
  constructor
  · rintro (hv | ⟨hnone, hv⟩)
    · exact .inl hv
    · exact .inr ⟨hnone, hv⟩
  · rintro (hv | ⟨hnone, hv⟩)
    · exact .own hv
    · exact .outer hnone hv

/-! ## Which parts are accepted -/

/-- A name is read from text and from everything that counts as no name. -/
theorem isSome_textOrEmpty?_iff {field : Option Json} :
    (textOrEmpty? field).isSome = true ↔ IsTextOrEmpty field := by
  cases field with
  | none => simp [textOrEmpty?, IsTextOrEmpty]
  | some v =>
    rw [textOrEmpty?, IsTextOrEmpty]
    split <;> simp [*, Scalar.isOk_text_iff]

/-- Every item of a list gives a value just if the list does.  One item that gives nothing is
enough for the list to give nothing. -/
theorem isSome_mapM_iff {α β : Type} {f : α → Option β} {xs : List α} :
    (xs.mapM f).isSome = true ↔ ∀ x ∈ xs, (f x).isSome = true := by
  induction xs with
  | nil => simp
  | cons x xs ih =>
    rw [List.mapM_cons, List.forall_mem_cons, ← ih]
    cases f x with
    | none => simp
    | some y => cases xs.mapM f <;> simp

/-- **A chain is accepted** just if its locator is text and every item of its path that
counts is an element. -/
theorem isSome_chain?_iff {fs : Fields} : (chain? fs).isSome = true ↔ IsChain fs := by
  have hpath : (((itemsAt fs "path").filter Json.isTruthy).mapM
      fun v => (UiNode.check v).toOption).isSome = true ↔
        ∀ items, fs.get? "path" = some (.arr items) →
          ∀ v ∈ items, v.isTruthy = true → v.IsNode := by
    simp only [isSome_mapM_iff, List.mem_filter, and_imp, Outcome.isSome_toOption,
      UiNode.isOk_check_iff, mem_itemsAt, forall_exists_index]
    exact ⟨fun h items hitems v hv => h v items hitems hv,
      fun h v items hitems hv => h items hitems v hv⟩
  have hboth : (chain? fs).isSome = true ↔ (textOrEmpty? (fs.get? "locator")).isSome = true ∧
      (((itemsAt fs "path").filter Json.isTruthy).mapM
        fun v => (UiNode.check v).toOption).isSome = true := by
    rw [chain?]
    cases textOrEmpty? (fs.get? "locator") <;> simp [Option.isSome_bind]
  rw [hboth, isSome_textOrEmpty?_iff, hpath]
  exact ⟨fun h => ⟨h.1, h.2⟩, fun h => ⟨h.1, h.2⟩⟩

/-- A chain that is no object counts as one without anything in it. -/
theorem isSome_chain?_objectAt_iff {fs : Fields} : (chain? (objectAt fs "chain")).isSome = true ↔
    ∀ chain : Fields, fs.get? "chain" = some (.obj chain) → IsChain chain := by
  unfold objectAt
  split
  · rename_i inner hinner
    rw [isSome_chain?_iff, hinner]
    constructor
    · rintro h _ ⟨⟩
      exact h
    · exact fun h => h inner rfl
  · rename_i hother
    exact iff_of_true rfl fun chain hchain => absurd hchain (hother chain)

/-- A coordinate of the pointer is read unless it is there and neither null nor a number. -/
theorem isSome_coordinate?_iff {field : Option Json} : (coordinate? field).isSome = true ↔
    ∀ v, field = some v → v.OrNull Json.ReadsAsFloat := by
  cases field with
  | none => simp [coordinate?]
  | some v => simp [coordinate?, Scalar.isOk_optional_iff fun _ => Scalar.isOk_float_iff]

/-- **The device** is the mouse if the type names it, and else the keyboard if the type
names that. -/
theorem device?_eq_some_iff {fs : Fields} {device : Device} :
    device? (fs.get? "type") = some device ↔
      (device = .mouse ∧ Names fs "mouse") ∨
        (device = .keyboard ∧ ¬ Names fs "mouse" ∧ Names fs "keyboard") := by
  have hmouse : Names fs "mouse" ↔ Text.occursIn ['m', 'o', 'u', 's', 'e']
      (Text.lower (Json.displayOrEmpty (fs.get? "type"))).toList = true := Text.occursIn_iff.symm
  have hkeyboard : Names fs "keyboard" ↔ Text.occursIn ['k', 'e', 'y', 'b', 'o', 'a', 'r', 'd']
      (Text.lower (Json.displayOrEmpty (fs.get? "type"))).toList = true := Text.occursIn_iff.symm
  rw [device?, hmouse, hkeyboard]
  clear hmouse hkeyboard
  split
  · cases device <;> simp [*]
  · split <;> cases device <;> simp [*]

/-- **A gesture is accepted** unless it is one of the mouse with a position that is no
number. -/
theorem isSome_gesture?_iff {fs : Fields} {text : String} {device : Device} :
    (gesture? fs text device).isSome = true ↔
      (device = .mouse → ∀ name ∈ ["x", "y"], ∀ v, IsDatum fs name v →
        v.OrNull Json.ReadsAsFloat) := by
  cases device with
  | keyboard => simp [gesture?]
  | mouse =>
    simp only [List.forall_mem_cons, isDatum_iff, ← isSome_coordinate?_iff, gesture?]
    generalize coordinate? _ = x
    generalize coordinate? _ = y
    cases x <;> cases y <;> simp

/-- A timestamp is read just if there is one that is a whole number. -/
theorem isSome_stamp_iff {outer fs : Fields} :
    (((fs.get? "timestamp").or (outer.get? "timestamp")).bind
        fun v => (Scalar.int v).toOption).isSome = true ↔
      ∃ v, IsStamp outer fs v ∧ v.ReadsAsInt := by
  simp only [isStamp_iff, Option.isSome_bind, Option.any_eq_true, Outcome.isSome_toOption,
    Scalar.isOk_int_iff]

/-- An event is put together just if there is each of its parts, in the terms of the functions
that read them.  The lemmas before say of each function when it reads something. -/
theorem isSome_ofBody?_iff_parts {fs : Fields} {stamp : Option Json} :
    (ofBody? fs stamp).isSome = true ↔
      ∃ device, device? (fs.get? "type") = some device ∧
        (stamp.bind fun v => (Scalar.int v).toOption).isSome = true ∧
        (textOrEmpty? (fs.get? "machineName")).isSome = true ∧
        (chain? (objectAt fs "chain")).isSome = true ∧
        (gesture? fs (Json.displayOrEmpty (fs.get? "event")) device).isSome = true := by
  simp only [ofBody?, Option.bind_eq_bind, Option.isSome_bind, Option.any_eq_true,
    Option.isSome_some]
  refine exists_congr fun device => and_congr_right fun _ => ?_
  simp only [Option.isSome_iff_exists, and_true, exists_and_right]
  constructor
  · rintro ⟨v, hv, ht, hrest⟩
    exact ⟨⟨v, hv, ht⟩, hrest⟩
  · rintro ⟨⟨v, hv, ht⟩, hrest⟩
    exact ⟨v, hv, ht, hrest⟩

/-- **A description is accepted** just if each of its parts is; no part has a say in how
another one is read, but that only the mouse has coordinates. -/
theorem isSome_ofBody?_iff {outer fs : Fields} :
    (ofBody? fs ((fs.get? "timestamp").or (outer.get? "timestamp"))).isSome = true ↔
      IsReadable outer fs := by
  simp only [isSome_ofBody?_iff_parts, isSome_stamp_iff, isSome_textOrEmpty?_iff,
    isSome_chain?_objectAt_iff, isSome_gesture?_iff, device?_eq_some_iff]
  constructor
  · rintro ⟨device, hdevice, htime, hmachine, hchain, hposition⟩
    rcases hdevice with ⟨hmouse, hnames⟩ | ⟨-, hnot, hnames⟩
    · exact ⟨.inl hnames, htime, hmachine, hchain, fun _ => hposition hmouse⟩
    · exact ⟨.inr hnames, htime, hmachine, hchain, fun h => absurd h hnot⟩
  · rintro ⟨hdevice, htime, hmachine, hchain, hposition⟩
    by_cases hmouse : Names fs "mouse"
    · exact ⟨.mouse, .inl ⟨rfl, hmouse⟩, htime, hmachine, hchain, fun _ => hposition hmouse⟩
    · exact ⟨.keyboard, .inr ⟨rfl, hmouse, hdevice.resolve_left hmouse⟩, htime, hmachine, hchain,
        nofun⟩

/-- **Exactly the events are decoded.**  A message with the parts of an event gives one, and
any other message gives nothing. -/
theorem exists_decode?_iff (payload : Json) :
    ((∃ e, decode? payload = some e) ↔ IsMessage payload) ∧
      (decode? payload = none ↔ ¬ IsMessage payload) := by
  have hsome : (decode? payload).isSome = true ↔ IsMessage payload := by
    unfold IsMessage
    cases payload with
    | obj outer =>
      rw [decode?_obj, isSome_ofBody?_iff]
      simp only [describes_iff]
      constructor
      · exact fun h => ⟨outer, body outer, rfl, rfl, h⟩
      · rintro ⟨_, _, ⟨⟩, rfl, h⟩
        exact h
    | _ => simp [decode?, Json.fields?]
  rw [← hsome, Option.isSome_iff_exists, ← Option.not_isSome_iff_eq_none, Option.isSome_iff_exists]
  exact ⟨.rfl, .rfl⟩

/-- A timestamp that is null hides the one of the envelope. -/
example : decode? (.obj [("timestamp", .int 5), ("value", .obj [("type", .str "keyboard"),
    ("timestamp", .null)])]) = none := by decide +kernel

/-- **The mouse wins:** an event whose type names both devices is one of the mouse.  So an
event is one of the keyboard just if its type does not name the mouse. -/
theorem isKey_iff_of_decode? {outer fs : Fields} {e : Event} (hfs : Describes outer fs)
    (h : decode? (.obj outer) = some e) : e.gesture.isKey = true ↔ ¬ Names fs "mouse" := by
  obtain rfl := describes_iff.1 hfs
  simp only [decode?_obj, ofBody?, Option.bind_eq_bind, Option.bind_eq_some_iff] at h
  obtain ⟨device, hdevice, _, _, t, -, m, -, c, -, g, hg, he⟩ := h
  obtain rfl := Option.some.inj he
  rcases device?_eq_some_iff.1 hdevice with ⟨rfl, hmouse⟩ | ⟨rfl, hmouse, -⟩
  · simp only [gesture?, Option.bind_eq_bind, Option.bind_eq_some_iff] at hg
    obtain ⟨x, -, y, -, hg⟩ := hg
    obtain rfl := Option.some.inj hg
    exact iff_of_false Bool.false_ne_true (not_not_intro hmouse)
  · obtain rfl := Option.some.inj hg
    exact iff_of_true rfl hmouse

end Event
end Recorder
