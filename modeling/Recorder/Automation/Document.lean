/-
# Automation documents

`SPEC_FULL.md` §1, from `Reference` to `Automation.to_payload`.

A document has one stage, the stage has a job for every group of interactions,
and a job has rules.  `Automation.payload` is the form handed to the workflow
viewer: absent parts are left out, and numbers that are not finite become null
wherever the value is the user's own.
-/

import Recorder.Automation.Rule
import Recorder.Event.Writing

namespace Recorder

/-- What a part of the document is called. -/
structure Reference where
  id : String
  name : String
  description : String := ""
deriving DecidableEq, Repr

/-- The rules of one group, with the parameters of the driver that runs them. -/
structure Job where
  reference : Reference
  driverParameters : Fields := []
  rules : List Rule := []
deriving Repr

structure Stage where
  reference : Reference
  jobs : List Job := []
deriving Repr

/-- The document for the workflow viewer. -/
structure Automation where
  token : String := ""
  driverParameters : Fields := []
  settings : Fields := []
  stages : List Stage := []
deriving Repr

def RuleContext.toJson (c : RuleContext) : Json :=
  .obj (Fields.optional "timestamp" (c.timestamp.map .int) ++
    Fields.optional "x" (c.x.map .float) ++ Fields.optional "y" (c.y.map .float))

def Rule.toJson (r : Rule) : Json :=
  .obj ([("$type", .str "Action"), ("pluginName", .str r.plugin.name)] ++
    Fields.optional "onElement" (r.onElement.map .str) ++
    Fields.optional "argument" (r.argument.map .str) ++
    Fields.optional "context" (r.context.map RuleContext.toJson) ++
    Fields.optional "capabilities" (r.displayName.map fun s => .obj [("displayName", .str s)]))

def Reference.toJson (r : Reference) : Json :=
  .obj [("id", .str r.id), ("name", .str r.name), ("description", .str r.description)]

def Job.toJson (j : Job) : Json :=
  .obj [("reference", j.reference.toJson),
    ("driverParameters", .obj (Json.finiteFields j.driverParameters)),
    ("rules", .arr (j.rules.map Rule.toJson))]

def Stage.toJson (s : Stage) : Json :=
  .obj [("reference", s.reference.toJson), ("jobs", .arr (s.jobs.map Job.toJson))]

namespace Automation

/-- The jobs of all stages, in order. -/
def jobs (a : Automation) : List Job := a.stages.flatMap Stage.jobs

/-- How many rules the jobs have. -/
def ruleCount (jobs : List Job) : Nat := (jobs.flatMap Job.rules).length

/-- **The document as the workflow viewer gets it.**
Source: `Automation.to_payload`. -/
def payload (a : Automation) : Json :=
  .obj [("authentication", .obj [("token", .str a.token)]),
    ("driverParameters", .obj (Json.finiteFields a.driverParameters)),
    ("settings", .obj (Json.finiteFields a.settings)),
    ("stages", .arr (a.stages.map Stage.toJson))]

/-- Whether no value of the user's own is too deep. -/
def isShallow (a : Automation) : Bool :=
  a.driverParameters.isShallow && a.settings.isShallow && a.jobs.all (·.driverParameters.isShallow)

/-- **Handing the document over,** which takes values that are not too deep. -/
def handOver (a : Automation) : Except TooDeep Json :=
  if a.isShallow then .ok a.payload else .error {}

end Automation
end Recorder
