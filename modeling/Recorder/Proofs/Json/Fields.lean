/-
# Writing fields and reading them back

The writers of `SPEC_FULL.md` §1 leave absent fields out, and its readers try several names.

A field that is left out when its value is absent is read back as absent, and one
that is written is read back as it is, as long as no other field has its name.

Looking up goes through entries in a row one list at a time, so each of these lemmas is
about one field, whatever stands before it.
-/

import Recorder.Event.Writing
import Recorder.Json.Display
import Recorder.Schema.Scalar

namespace Recorder

variable {α : Type}

/-- A key is looked up in the first entries, and in the others only where it is not there. -/
theorem Entries.get?_append (es fs : Entries α) (key : String) :
    Entries.get? (es ++ fs) key = (es.get? key).or (fs.get? key) := by
  induction es with
  | nil => rfl
  | cons p rest ih =>
    obtain ⟨k, v⟩ := p
    by_cases hk : k = key <;> simp [get?, hk, ih]

/-- A key is missing just if looking it up finds nothing. -/
theorem Entries.has_eq_false_iff {es : Entries α} {key : String} :
    es.has key = false ↔ es.get? key = none := by
  rw [has, Option.isSome_eq_false_iff, Option.isNone_iff_eq_none]

namespace Fields

/-- A field that may be left out is found under its own name and no other. -/
theorem get?_optional (name : String) (v : Option Json) (key : String) :
    Entries.get? (Fields.optional name v) key = if name = key then v else none := by
  cases v <;> simp [Fields.optional, Entries.get?]

variable {fs : Fields} {name : String} {others : List String} {check : Json → Checked α}
  {absent : Checked α}

/-- A field that is present under its first name is read from there. -/
theorem read_of_get? {v : Json} (h : fs.get? name = some v) :
    fs.read (name :: others) check absent = (check v).inside (.field name) := by
  simp [Fields.read, Fields.firstOf?, h]

/-- It is read as what its check makes of it. -/
theorem read_of_check {v : Json} {a : α} (h : fs.get? name = some v) (hc : check v = .ok a) :
    fs.read (name :: others) check absent = .ok a := by
  rw [read_of_get? h, hc]
  rfl

/-- Of names none of which is there, none is found. -/
theorem firstOf?_of_absent {names : List String} (h : ∀ k ∈ names, fs.get? k = none) :
    fs.firstOf? names = none := by
  induction names with
  | nil => rfl
  | cons k ks ih =>
    have hk := h k List.mem_cons_self
    simp only [Fields.firstOf?, hk]
    exact ih fun l hl => h l (List.mem_cons_of_mem _ hl)

/-- A field that is present under none of its names gives what an absent one gives. -/
theorem read_of_absent {names : List String} (h : ∀ k ∈ names, fs.get? k = none) :
    fs.read names check absent = absent := by
  simp [Fields.read, firstOf?_of_absent h]

/-- **A field is read through its names only:** two objects that agree at each of them are
read alike, also in the error that an object gives. -/
theorem read_congr {gs : Fields} {names : List String} (h : ∀ k ∈ names, fs.get? k = gs.get? k) :
    fs.read names check absent = gs.read names check absent := by
  have hfirst : fs.firstOf? names = gs.firstOf? names := by
    induction names with
    | nil => rfl
    | cons k ks ih =>
      rw [Fields.firstOf?, Fields.firstOf?, h k List.mem_cons_self]
      cases gs.get? k with
      | some v => rfl
      | none => exact ih fun l hl => h l (List.mem_cons_of_mem _ hl)
  rw [Fields.read, Fields.read, hfirst]

/-- **What a check establishes** holds of what is read, if it holds of what stands in for
an absent field. -/
theorem of_read {P : α → Prop} {names : List String} {a d : α}
    (hc : ∀ v b, check v = .ok b → P b) (hd : P d) (h : fs.read names check (.ok d) = .ok a) :
    P a := by
  unfold Fields.read at h
  split at h
  · exact hc _ _ (Checked.inside_eq_ok.1 h)
  · exact Except.ok.inj h ▸ hd

/-- **An optional field is read back,** present or not, if its check accepts what is
written for it. -/
theorem read_optional {β : Type} {v : Option β} {write : β → Json}
    {check : Json → Checked (Option β)} (hv : fs.get? name = v.map write)
    (ho : ∀ k ∈ others, fs.get? k = none)
    (hc : ∀ b, check (write b) = .ok (some b)) :
    fs.read (name :: others) check (.ok none) = .ok v := by
  cases v with
  | none =>
    refine read_of_absent fun k hk => ?_
    rcases List.mem_cons.1 hk with rfl | hk
    · exact hv
    · exact ho k hk
  | some b => rw [read_of_get? hv, hc b]; rfl

end Fields

/-- A text is shown as it is. -/
@[simp] theorem Json.displayOrEmpty_str (s : String) : Json.displayOrEmpty (some (.str s)) = s := by
  by_cases hs : s = "" <;> simp [Json.displayOrEmpty, Json.isTruthy, Json.display, hs]

end Recorder
