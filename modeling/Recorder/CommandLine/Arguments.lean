/-
# Arguments

`SPEC_FULL.md` §12, the sub-commands and their options.

`[--manifest PATH] [--log-level LEVEL] COMMAND …`, where a command is one of

| command | options |
| --- | --- |
| `record` | `--recorders PATH`, `--out DIR`, `--seconds N`, `--save-buffers` |
| `compile` | `--buffers PATH` (required), `--out PATH`, `--mode MODE` |
| `status` | `--recorders PATH` |

An option may be shortened as long as only one option starts with it, and its
value may be joined to it by `=`.  A value must not look like an option: it has
no dash in front, or it is a lone dash, a negative number, or has a space in it.
The last of several equal options counts.  Options of the command follow it,
the others precede it.
-/

import Recorder.Endpoint.Options
import Recorder.Text.Integer

namespace Recorder

/-- What `record` is asked to do. -/
structure RecordRequest where
  recorders : Option String := none
  out : Option String := none
  seconds : Option Int := none
  saveBuffers : Bool := false
deriving DecidableEq, Repr

/-- What `compile` is asked to do. -/
structure CompileRequest where
  buffers : String
  out : Option String := none
  mode : Option CaptureMode := none
deriving DecidableEq, Repr

inductive Command where
  | record (r : RecordRequest)
  | compile (r : CompileRequest)
  | status (recorders : Option String)
deriving DecidableEq, Repr

/-- What the program is asked to do. -/
structure Invocation where
  manifest : Option String := none
  logLevel : Option String := none
  command : Command
deriving DecidableEq, Repr

/-- Why arguments do not ask for anything. -/
inductive UsageError where
  | unknownOption (text : String)
  | ambiguousOption (text : String)
  | valueMissing (option : String)
  /-- A value is given to an option that has none. -/
  | valueUnexpected (option : String)
  | valueInvalid (option value : String)
  | optionMissing (option : String)
  | commandMissing
  | commandUnknown (text : String)
  | extraArgument (text : String)
  /-- Help is asked for. -/
  | help
deriving DecidableEq, Repr

namespace Arguments

/-- An option of a command. -/
structure OptionRule where
  name : String
  hasValue : Bool := true
deriving DecidableEq, Repr

/-- Help is an option of every command. -/
def helpOption : OptionRule := ⟨"--help", false⟩

def mainOptions : List OptionRule := [helpOption, ⟨"--manifest", true⟩, ⟨"--log-level", true⟩]

def recordOptions : List OptionRule :=
  [helpOption, ⟨"--recorders", true⟩, ⟨"--out", true⟩, ⟨"--seconds", true⟩, ⟨"--save-buffers", false⟩]

def compileOptions : List OptionRule :=
  [helpOption, ⟨"--buffers", true⟩, ⟨"--out", true⟩, ⟨"--mode", true⟩]

def statusOptions : List OptionRule := [helpOption, ⟨"--recorders", true⟩]

/-! ## Options and values -/

/-- A run of digits that fills a text but for one line feed at its end. -/
def isDigits (cs : List Char) : Bool :=
  let ds := cs.takeWhile fun c => (Text.digitValue? c).isSome
  let rest := cs.dropWhile fun c => (Text.digitValue? c).isSome
  !ds.isEmpty && (rest.isEmpty || rest == ['\n'])

/-- A number after its minus sign: digits, with a point before or among them. -/
def isUnsignedNumber (cs : List Char) : Bool :=
  isDigits cs ||
    match cs.dropWhile fun c => (Text.digitValue? c).isSome with
    | '.' :: rest => isDigits rest
    | _ => false

/-- **Whether a text can be a value.** -/
def isValue (s : String) : Bool :=
  match s.toList with
  | '-' :: rest => rest.isEmpty || (rest != ['-'] && (isUnsignedNumber rest || rest.contains ' '))
  | _ => true

/-- What an argument is. -/
inductive Argument where
  | value (s : String)
  | option (rule : OptionRule) (joined : Option String)
deriving DecidableEq, Repr

/-- A text before its first `=`, and what follows it. -/
def splitJoined (cs : List Char) : List Char × Option String :=
  match cs.dropWhile (· != '=') with
  | '=' :: rest => (cs.takeWhile (· != '='), some (String.ofList rest))
  | _ => (cs, none)

/-- The options that a shortened name may mean. -/
def candidates (rules : List OptionRule) (name : List Char) : List OptionRule :=
  rules.filter fun r => name.isPrefixOf r.name.toList

/-- **Telling options from values.**  An option written out in full is never ambiguous. -/
def classify (rules : List OptionRule) (s : String) : Except UsageError Argument :=
  match s.toList with
  | '-' :: 'h' :: more =>
    if more.all (· == 'h') then .error .help else .error (.valueUnexpected "-h")
  | '-' :: '-' :: rest =>
    if rest.isEmpty then .error (.extraArgument s)
    else
      let (name, joined) := splitJoined s.toList
      match rules.find? fun r => r.name == s with
      | some r => .ok (.option r none)
      | none =>
        match rules.find? fun r => r.name.toList == name with
        | some r => .ok (.option r joined)
        | none =>
          match candidates rules name with
          | [r] => .ok (.option r joined)
          | [] => if isValue s then .ok (.value s) else .error (.unknownOption s)
          | _ => .error (.ambiguousOption s)
  | _ => if isValue s then .ok (.value s) else .error (.unknownOption s)

/-- Options that were given, with their values, in order. -/
abbrev Given := List (String × String)

/-- The last value of an option. -/
def Given.last? (given : Given) (name : String) : Option String := given.reverse.lookup name

/-- The options at the head of the arguments, and the rest from the first value on. -/
def takeOptions (rules : List OptionRule) : List String → Except UsageError (Given × List String)
  | [] => .ok ([], [])
  | s :: rest => do
    match ← classify rules s with
    | .value _ => .ok ([], s :: rest)
    | .option r (some v) =>
      if r.hasValue then
        let (given, tail) ← takeOptions rules rest
        .ok ((r.name, v) :: given, tail)
      else .error (.valueUnexpected r.name)
    | .option r none =>
      if r = helpOption then .error .help
      else if r.hasValue then
        match rest with
        | [] => .error (.valueMissing r.name)
        | v :: rest' =>
          if (classify rules v).toOption = some (.value v) then
            let (given, tail) ← takeOptions rules rest'
            .ok ((r.name, v) :: given, tail)
          else .error (.valueMissing r.name)
      else
        let (given, tail) ← takeOptions rules rest
        .ok ((r.name, "") :: given, tail)

/-- The options of a command, which takes nothing else. -/
def allOptions (rules : List OptionRule) (args : List String) : Except UsageError Given := do
  match ← takeOptions rules args with
  | (given, []) => .ok given
  | (_, s :: _) => .error (.extraArgument s)

/-! ## Commands -/

/-- The value of an option that has to be a number. -/
def number? (given : Given) (name : String) : Except UsageError (Option Int) := do
  let values ← (given.filter fun g => g.1 == name).mapM fun (_, v) =>
    (Text.readInteger v).mapError fun _ => UsageError.valueInvalid name v
  .ok values.getLast?

/-- The value of an option that has to be a mode. -/
def mode? (given : Given) (name : String) : Except UsageError (Option CaptureMode) := do
  let values ← (given.filter fun g => g.1 == name).mapM fun (_, v) =>
    match CaptureMode.ofName? v with
    | some m => .ok m
    | none => .error (UsageError.valueInvalid name v)
  .ok values.getLast?

/-- The command of a name and its options. -/
def readCommand (name : String) (args : List String) : Except UsageError Command :=
  if name = "record" then do
    let given ← allOptions recordOptions args
    let seconds ← number? given "--seconds"
    .ok (.record {
      recorders := given.last? "--recorders"
      out := given.last? "--out"
      seconds
      saveBuffers := (given.last? "--save-buffers").isSome })
  else if name = "compile" then do
    let given ← allOptions compileOptions args
    let mode ← mode? given "--mode"
    match given.last? "--buffers" with
    | some buffers => .ok (.compile { buffers, out := given.last? "--out", mode })
    | none => .error (.optionMissing "--buffers")
  else if name = "status" then do
    let given ← allOptions statusOptions args
    .ok (.status (given.last? "--recorders"))
  else .error (.commandUnknown name)

/-- **Reading the arguments.** -/
def read (args : List String) : Except UsageError Invocation := do
  match ← takeOptions mainOptions args with
  | (_, []) => .error .commandMissing
  | (given, name :: rest) =>
    let command ← readCommand name rest
    .ok { manifest := given.last? "--manifest", logLevel := given.last? "--log-level", command }

end Arguments
end Recorder
