/-
# Assembling a document

`SPEC_FULL.md` §6: `BaseConfig.from_manifest` and `assemble`.

The values of a document that do not come from the recording come from the
project's manifest: the access token, the driver parameters (unless the
recording endpoint has some of its own), and the settings.  They are looked up
before any job is compiled and checked when the document is put together.
-/

import Recorder.Automation.Document
import Recorder.Json.Display
import Recorder.Json.Table
import Recorder.Schema.Checked

namespace Recorder

/-- Why a document cannot be assembled. -/
inductive AssemblyError where
  /-- The manifest is no object. -/
  | manifestNotObject
  /-- The authentication is no object. -/
  | authenticationNotObject
  /-- The driver parameters or the settings are no table. -/
  | notTable (cause : TableError)
  /-- There are no jobs to assemble. -/
  | noJobs
  /-- Values of the wrong kind. -/
  | invalid (violations : List Violation)
  /-- Values too deep to be copied into a document. -/
  | tooDeep
deriving DecidableEq, Repr

/-- The values of a document that do not come from the recording, unchecked.  Source:
`BaseConfig`. -/
structure DocumentBase where
  token : Json := .str ""
  driverParameters : Table := []
  settings : Table := []
deriving Repr

namespace DocumentBase

/-- A value, or another one where the first is absent or empty. -/
def orElse (v : Option Json) (w : Json) : Json :=
  match v with
  | some u => if u.isTruthy then u else w
  | none => w

def tableOf (v : Json) : Except AssemblyError Table :=
  (Table.ofJson v).mapError .notTable

/-- The token of an authentication. -/
def tokenOf : Json → Except AssemblyError Json
  | .obj fs => .ok (orElse (Entries.get? fs "token") (.str ""))
  | _ => .error .authenticationNotObject

/-- **The base of a document.**  Driver parameters that are not empty replace those
of the manifest.
Source: `BaseConfig.from_manifest`. -/
def ofManifest (manifest : Json) (parameters : Option Json) : Except AssemblyError DocumentBase :=
  match manifest with
  | .obj fs => do
    let fields : Fields := fs
    let token ← tokenOf (orElse (fields.get? "authentication") (.obj []))
    let parameters ← tableOf
      (orElse parameters (orElse (fields.get? "driverParameters") (.obj [])))
    let settings ← tableOf (orElse (fields.get? "settings") (.obj []))
    .ok ⟨token, parameters, settings⟩
  | _ => .error .manifestNotObject

end DocumentBase

namespace Automation

/-- How the only stage is called. -/
def stageReference : Reference :=
  { id := "recorder-stage-01"
    name := "Recorded Actions Stage"
    description := "Stage to execute all actions captured during the recording session." }

/-- The step into a table at a key.  A whole number of more than 64 bits is shown as text. -/
def keyStep (k : Json) : Step :=
  match k with
  | .int n => if -(twoTo 63 : Int) ≤ n ∧ n < twoTo 63 then .item n else .field k.display
  | .bool b => .item (if b then 1 else 0)
  | v => .field v.display

/-- The fields of a table all of whose keys are text. -/
def checkKeys : Table → Checked Fields
  | [] => .ok []
  | (k, v) :: rest =>
    let key : Checked String := match k with
      | .str s => .ok s
      | _ => .error [⟨[keyStep k, .field "[key]"], .stringType⟩]
    (key.and (checkKeys rest)).map fun (s, fs) => (s, v) :: fs

def checkToken : Json → Checked String
  | .str s => .ok s
  | _ => .error [⟨[.field "token"], .stringType⟩]

/-- The greatest depth of a value that is copied into a document. -/
def maxCopyDepth : Nat := 490

/-- Whether no value that is to be copied into a document is too deep for that. -/
def canCopy (jobs : List Job) (base : DocumentBase) : Bool :=
  let fits (values : List Json) : Bool := Json.depthOfItems values ≤ maxCopyDepth
  fits (base.driverParameters.map Prod.snd) && fits (base.settings.map Prod.snd) &&
    jobs.all fun j => fits (j.driverParameters.map Prod.snd)

/-- **Assembling a document** of jobs, which keep their order.
Source: `assemble`. -/
def assemble (jobs : List Job) (base : DocumentBase) : Except AssemblyError Automation :=
  if jobs.isEmpty then .error .noJobs
  else
    match checkToken base.token with
    | .error vs => .error (.invalid vs)
    | .ok token =>
      if !canCopy jobs base then .error .tooDeep
      else match ((checkKeys base.driverParameters).inside (.field "driver_parameters")).and
          ((checkKeys base.settings).inside (.field "settings")) with
      | .error vs => .error (.invalid vs)
      | .ok (parameters, settings) =>
        .ok { token, driverParameters := parameters, settings,
              stages := [{ reference := stageReference, jobs }] }

end Automation
end Recorder
