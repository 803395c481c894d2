/-
# What a document hands over

`SPEC_FULL.md` §1, `Automation.to_payload`, which returns a deep copy of the document, and
§7, where that copy is handed to the viewer.

The form of a document that is handed over has no number that is not finite, and
whether it can be handed over depends on depths only.  So two documents assembled of
jobs and bases that are the same but for such numbers hand over the same, or fail for
the same reason (`Automation.handOver_assemble_congr`).
-/

import Recorder.Automation.Assembly
import Recorder.Proofs.Json.Finite
import Recorder.Proofs.Outcome

namespace Recorder

/-- A job whose driver parameters hold no number that is not finite. -/
def Job.finite (j : Job) : Job :=
  { j with driverParameters := Json.finiteFields j.driverParameters }

/-- A table whose values hold no number that is not finite. -/
def Table.finite (t : Table) : Table := t.map fun p => (p.1, p.2.finiteOnly)

/-- A base whose values hold no number that is not finite. -/
def DocumentBase.finite (b : DocumentBase) : DocumentBase :=
  { b with driverParameters := b.driverParameters.finite, settings := b.settings.finite }

/-- Whatever is written of a job is finite already. -/
theorem Job.toJson_finite (j : Job) : j.finite.toJson = j.toJson := by
  rw [Job.toJson, Job.toJson, Job.finite, Json.finiteFields_finiteFields]

/-- The table of an object without its numbers that are not finite. -/
theorem Table.finite_fields (fs : Fields) :
    Table.finite (fs.map fun p => (.str p.1, p.2)) =
      (Json.finiteFields fs).map fun p => (.str p.1, p.2) := by
  simp [finite, Json.finiteFields_eq_map, Function.comp_def]

namespace DocumentBase

/-- A table of an object, or of what stands in for an empty one, is the same but for
numbers that are not finite. -/
theorem tableOf_orElse_finite (fs : Fields) (w : Json) :
    (tableOf (orElse (some (.obj (Json.finiteFields fs))) w)).map Table.finite =
      (tableOf (orElse (some (.obj fs)) w)).map Table.finite := by
  rw [orElse, orElse, Json.isTruthy_obj_finiteFields]
  cases (Json.obj fs).isTruthy with
  | false => rfl
  | true =>
    have htable (gs : Fields) : tableOf (.obj gs) = .ok (gs.map fun p => (.str p.1, p.2)) := rfl
    rw [if_pos rfl, if_pos rfl, htable, htable, Except.map, Except.map, Table.finite_fields,
      Table.finite_fields, Json.finiteFields_finiteFields]

/-- **The base of a document** is the same but for numbers that are not finite, whether they
are taken out of the given parameters before it is put together or out of the base afterwards.
Emptiness is what decides between given parameters and those of the manifest, and no
parameter goes away when it is replaced by null. -/
theorem ofManifest_finite (manifest : Json) (fs : Fields) :
    (ofManifest manifest (some (.obj (Json.finiteFields fs)))).map finite =
      (ofManifest manifest (some (.obj fs))).map finite := by
  cases manifest with
  | obj fields =>
    refine Outcome.map_bind_congr (f := id) rfl fun token token' ht => ?_
    obtain rfl : token = token' := ht
    refine Outcome.map_bind_congr (tableOf_orElse_finite fs _) fun parameters parameters' hp => ?_
    refine Outcome.map_bind_congr (f := id) rfl fun settings settings' hs => ?_
    obtain rfl : settings = settings' := hs
    simp only [Except.map, finite, hp]
  | _ => rfl

end DocumentBase

namespace Automation

/-- A document whose own values hold no number that is not finite. -/
def finite (a : Automation) : Automation :=
  { a with
    driverParameters := Json.finiteFields a.driverParameters
    settings := Json.finiteFields a.settings
    stages := a.stages.map fun s => { s with jobs := s.jobs.map Job.finite } }

/-- Taking numbers that are not finite out of a table leaves it as deep as it was, because
null takes the place of each and neither has a depth. -/
theorem depthOfItems_finite (t : Table) :
    Json.depthOfItems (t.finite.map Prod.snd) = Json.depthOfItems (t.map Prod.snd) := by
  rw [Table.finite, List.map_map, ← Json.depthOfItems_finiteItems (t.map Prod.snd),
    Json.finiteItems_eq_map, List.map_map]
  rfl

/-- **Copying** depends on depths only, so a document can be copied just if the one without
its numbers that are not finite can. -/
theorem canCopy_finite (jobs : List Job) (base : DocumentBase) :
    canCopy (jobs.map Job.finite) base.finite = canCopy jobs base := by
  have hj (j : Job) : Json.depthOfItems (j.finite.driverParameters.map Prod.snd) =
      Json.depthOfItems (j.driverParameters.map Prod.snd) := by
    rw [Job.finite, Json.map_snd_finiteFields, Json.depthOfItems_finiteItems]
  simp [canCopy, DocumentBase.finite, depthOfItems_finite, List.all_map, Function.comp_def, hj]

/-- **Keys** are checked whatever their values are: the same ones fail, and those that pass
keep their values but for the numbers that are not finite. -/
theorem checkKeys_finite (t : Table) :
    checkKeys t.finite = (checkKeys t).map Json.finiteFields := by
  induction t with
  | nil => rfl
  | cons p rest ih =>
    obtain ⟨k, v⟩ := p
    have hstep : Table.finite ((k, v) :: rest) = (k, v.finiteOnly) :: Table.finite rest := rfl
    rw [hstep]
    cases k <;> simp only [checkKeys, ih] <;> cases checkKeys rest <;> rfl

/-- **Assembling** carries the values over as they are.  It looks at the token, at keys and at
depths, none of which change when numbers that are not finite are taken out, so it fails for
the same reason or gives the same document but for these. -/
theorem assemble_finite (jobs : List Job) (base : DocumentBase) :
    assemble (jobs.map Job.finite) base.finite = (assemble jobs base).map finite := by
  have hp : checkKeys base.finite.driverParameters =
      (checkKeys base.driverParameters).map Json.finiteFields := checkKeys_finite _
  have hs : checkKeys base.finite.settings = (checkKeys base.settings).map Json.finiteFields :=
    checkKeys_finite _
  have ht : base.finite.token = base.token := rfl
  unfold assemble
  rw [hp, hs, ht, canCopy_finite, List.isEmpty_map]
  cases jobs.isEmpty with
  | true => rfl
  | false =>
    cases checkToken base.token with
    | error vs => rfl
    | ok token =>
      cases canCopy jobs base with
      | false => rfl
      | true =>
        cases checkKeys base.driverParameters <;> cases checkKeys base.settings <;> rfl

/-- What is handed over holds no number that is not finite. -/
theorem handOver_finite (a : Automation) : a.finite.handOver = a.handOver := by
  have hj : a.finite.jobs = a.jobs.map Job.finite := by
    simp [jobs, finite, List.flatMap_map, List.map_flatMap]
  have hs : a.finite.isShallow = a.isShallow := by
    rw [isShallow, isShallow, hj, List.all_map]
    simp [finite, Job.finite, Function.comp_def]
  have hp : a.finite.payload = a.payload := by
    simp [payload, finite, Stage.toJson, Job.toJson_finite, Function.comp_def]
  rw [handOver, handOver, hs, hp]

/-- **What is handed over** depends on finite values only.  Two lists of jobs and two bases
that agree but for numbers that are not finite give documents that are handed over alike, or
fail alike; that is all that a saved recording has to keep. -/
theorem handOver_assemble_congr {jobs jobs' : List Job} {base base' : DocumentBase}
    (hj : jobs.map Job.finite = jobs'.map Job.finite) (hb : base.finite = base'.finite) :
    (assemble jobs base).map handOver = (assemble jobs' base').map handOver := by
  have hcongr : (assemble jobs base).map finite = (assemble jobs' base').map finite := by
    rw [← assemble_finite, ← assemble_finite, hj, hb]
  have hmap (r : Except AssemblyError Automation) :
      (r.map finite).map handOver = r.map handOver := by
    cases r with
    | error e => rfl
    | ok a => exact congrArg Except.ok (handOver_finite a)
  rw [← hmap, hcongr, hmap]

end Automation
end Recorder
