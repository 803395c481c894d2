/-
# The base of a document

`SPEC_FULL.md` §6: `BaseConfig.from_manifest` takes the values of a document that do not
come from the recording, and `assemble` requires at least one job.

A manifest can be used if its authentication, driver parameters and settings are objects
or null wherever they are given, and its token is a text or null.  Such a manifest always
has a base, made of objects and a text (`DocumentBase.exists_ofManifest`), so a document
can be assembled on it as soon as no value is too deep to be copied
(`Automation.assemble_of_text`).
-/

import Recorder.Event.Reading
import Recorder.Proofs.Session.Compilation

namespace Recorder

namespace Fields

/-- Fields as a table: all keys are text. -/
def toTable (fs : Fields) : Table := fs.map fun p => (.str p.1, p.2)

/-- Whether no value is too deep to be copied into a document. -/
def CanCopy (fs : Fields) : Prop := Json.depthOfItems (fs.map Prod.snd) ≤ Automation.maxCopyDepth

/-- Nothing is shallow enough for any limit; manifests without parameters start from here. -/
theorem canCopy_nil : CanCopy [] := Nat.zero_le _

/-- An object has the same values as the table it stands for, since only its names become
keys.  Depths of values can therefore be read off either of the two. -/
theorem map_snd_toTable (fs : Fields) : fs.toTable.map Prod.snd = fs.map Prod.snd := by
  rw [toTable, List.map_map]
  rfl

end Fields

/-- **Keys that are text** pass the check of the document, and the fields come out as they
went in.  An object of the manifest has no other keys, so the check can only fail on a table
that was built from pairs. -/
theorem Automation.checkKeys_toTable (fs : Fields) : checkKeys fs.toTable = .ok fs := by
  induction fs with
  | nil => rfl
  | cons p fs ih =>
    obtain ⟨k, v⟩ := p
    have hcons : checkKeys (Fields.toTable ((k, v) :: fs)) =
        ((Checked.and (.ok k) (checkKeys (Fields.toTable fs))).map fun q => (q.1, v) :: q.2) := rfl
    rw [hcons, ih]
    rfl

namespace DocumentBase

/-- A value that is null or an object. -/
def IsObjectOrNull (v : Json) : Prop := v = .null ∨ ∃ fs, v = .obj fs

/-- **A manifest that can be used:** what the document takes from it is of the kind that it
should be, or null, or not there at all.  Each of these three counts as empty in the end. -/
structure Usable (fs : Fields) : Prop where
  authentication : ∀ v, fs.get? "authentication" = some v → IsObjectOrNull v
  token : ∀ v, Entries.get? (Event.objectAt fs "authentication") "token" = some v →
    v = .null ∨ ∃ t, v = .str t
  driverParameters : ∀ v, fs.get? "driverParameters" = some v → IsObjectOrNull v
  settings : ∀ v, fs.get? "settings" = some v → IsObjectOrNull v

/-- The driver parameters of a document: the given ones, or those of the manifest. -/
def parametersOr (fs given : Fields) : Fields :=
  if given = [] then Event.objectAt fs "driverParameters" else given

/-- An empty object counts as absent, and so does null. -/
theorem orElse_objectAt {fs : Fields} {name : String}
    (h : ∀ v, fs.get? name = some v → IsObjectOrNull v) :
    orElse (fs.get? name) (.obj []) = .obj (Event.objectAt fs name) := by
  unfold Event.objectAt
  cases hv : fs.get? name with
  | none => rfl
  | some v =>
    rcases h v hv with rfl | ⟨gs, rfl⟩
    · rfl
    · cases gs <;> rfl

/-- A token that is null counts as the empty text. -/
theorem exists_orElse_text {v : Option Json} (h : ∀ w, v = some w → w = .null ∨ ∃ t, w = .str t) :
    ∃ t, orElse v (.str "") = .str t := by
  cases v with
  | none => exact ⟨"", rfl⟩
  | some w =>
    rcases h w rfl with rfl | ⟨t, rfl⟩
    · exact ⟨"", rfl⟩
    · by_cases ht : (Json.str t).isTruthy = true
      · exact ⟨t, if_pos ht⟩
      · exact ⟨"", if_neg ht⟩

theorem tableOf_obj (fs : Fields) : tableOf (.obj fs) = .ok fs.toTable := rfl

/-- Given parameters count unless they are empty, in which case those of the manifest do; a
manifest without any has the empty object. -/
theorem orElse_given (fs given : Fields) :
    orElse (some (.obj given)) (.obj (Event.objectAt fs "driverParameters")) =
      .obj (parametersOr fs given) := by
  cases given <;> rfl

/-- **A usable manifest has a base,** and the base says of every value where it comes from.
The token is a text, the driver parameters are the given ones or else those of the manifest,
and the settings are those of the manifest (`SPEC_FULL.md` §6, `BaseConfig.from_manifest`). -/
theorem exists_ofManifest {fs : Fields} (h : Usable fs) (given : Fields) :
    ∃ token, ofManifest (.obj fs) (some (.obj given)) =
      .ok ⟨.str token, (parametersOr fs given).toTable, (Event.objectAt fs "settings").toTable⟩ := by
  obtain ⟨token, ht⟩ := exists_orElse_text h.token
  refine ⟨token, ?_⟩
  simp only [ofManifest, orElse_objectAt h.authentication, orElse_objectAt h.driverParameters,
    orElse_objectAt h.settings, orElse_given, tokenOf, ht, tableOf_obj]
  rfl

/-- **Given parameters** that are not empty are those of the base, whatever the manifest has
in their place.  It matters which connection they are taken from, so the source of a recording
is looked for before its base is put together. -/
theorem driverParameters_ofManifest {manifest : Json} {given : Fields} {base : DocumentBase}
    (h : ofManifest manifest (some (.obj given)) = .ok base) (hne : given ≠ []) :
    base.driverParameters = given.toTable := by
  cases manifest with
  | obj fs =>
    obtain ⟨token, -, h⟩ := Outcome.bind_eq_ok.1 h
    obtain ⟨parameters, hp, h⟩ := Outcome.bind_eq_ok.1 h
    obtain ⟨settings, -, h⟩ := Outcome.bind_eq_ok.1 h
    obtain rfl := Except.ok.inj h
    have hgiven (w : Json) : orElse (some (.obj given)) w = .obj given := by
      cases given with
      | nil => exact absurd rfl hne
      | cons p ps => rfl
    rw [hgiven, tableOf_obj] at hp
    exact (Except.ok.inj hp).symm
  | _ => cases h

/-- No parameters leave those of the manifest. -/
theorem ofManifest_nil (manifest : Json) :
    ofManifest manifest (some (.obj [])) = ofManifest manifest none := by
  cases manifest <;> rfl

end DocumentBase

/-- **Assembling on a base of texts** depends on depths alone.  There is a document if neither
the parameters, the settings nor the parameters of a job are too deep to be copied, and
otherwise the one error there can be is that of the depth. -/
theorem Automation.assemble_of_text {jobs : List Job} (hj : jobs ≠ []) (token : String)
    (parameters settings : Fields) :
    ((parameters.CanCopy ∧ settings.CanCopy ∧ ∀ job ∈ jobs, job.driverParameters.CanCopy) →
      ∃ a, assemble jobs ⟨.str token, parameters.toTable, settings.toTable⟩ = .ok a) ∧
    (¬ (parameters.CanCopy ∧ settings.CanCopy ∧ ∀ job ∈ jobs, job.driverParameters.CanCopy) →
      assemble jobs ⟨.str token, parameters.toTable, settings.toTable⟩ = .error .tooDeep) := by
  have hcopy : canCopy jobs ⟨.str token, parameters.toTable, settings.toTable⟩ = true ↔
      parameters.CanCopy ∧ settings.CanCopy ∧ ∀ job ∈ jobs, job.driverParameters.CanCopy := by
    simp only [canCopy, Fields.map_snd_toTable, Bool.and_eq_true, decide_eq_true_eq,
      List.all_eq_true, and_assoc]
    rfl
  have hne : jobs.isEmpty = false := by simpa using hj
  refine ⟨fun h => ?_, fun h => ?_⟩
  · exact exists_assemble hj (hcopy.2 h) rfl (checkKeys_toTable parameters)
      (checkKeys_toTable settings)
  · have hdeep : canCopy jobs ⟨.str token, parameters.toTable, settings.toTable⟩ = false := by
      rw [← Bool.not_eq_true, hcopy]
      exact h
    simp [assemble, hne, hdeep, checkToken]

end Recorder
