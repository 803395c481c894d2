/-
# Checked values

`SPEC_FULL.md` §1, the validation of the data model.

Checking a JSON value gives a typed value or the violations found, in order.
`Checked.and` goes on after a violation, so all of them are reported;
`Checked.inside` says where in the document they were found.
-/

import Recorder.Json.Basic

namespace Recorder

/-- What is wrong with a value. -/
inductive ViolationKind where
  | missing
  | stringType
  | modelType
  | dictType
  | literal
  | intParsing
  | intFromFloat
  | intParsingSize
  | finiteNumber
  | intType
  | floatParsing
  | floatType
  | boolParsing
  | boolType
  | greaterThan
  | greaterThanEqual
  | extraForbidden
deriving DecidableEq, Repr

/-- The name under which a violation is reported. -/
def ViolationKind.code : ViolationKind → String
  | .missing => "missing"
  | .stringType => "string_type"
  | .modelType => "model_type"
  | .dictType => "dict_type"
  | .literal => "literal_error"
  | .intParsing => "int_parsing"
  | .intFromFloat => "int_from_float"
  | .intParsingSize => "int_parsing_size"
  | .finiteNumber => "finite_number"
  | .intType => "int_type"
  | .floatParsing => "float_parsing"
  | .floatType => "float_type"
  | .boolParsing => "bool_parsing"
  | .boolType => "bool_type"
  | .greaterThan => "greater_than"
  | .greaterThanEqual => "greater_than_equal"
  | .extraForbidden => "extra_forbidden"

/-- One step into a document. -/
inductive Step where
  | field (name : String)
  | item (index : Int)
deriving DecidableEq, Repr

/-- A violation and where it was found. -/
structure Violation where
  location : List Step
  kind : ViolationKind
deriving DecidableEq, Repr

/-- A value that passed its checks, or what was wrong with it. -/
abbrev Checked (α : Type) := Except (List Violation) α

namespace Checked

variable {α β γ : Type}

/-- A single violation, right here. -/
def fail (kind : ViolationKind) : Checked α := .error [⟨[], kind⟩]

/-- Places all violations one step further in. -/
def inside (step : Step) : Checked α → Checked α
  | .ok a => .ok a
  | .error vs => .error (vs.map fun v => ⟨step :: v.location, v.kind⟩)

/-- **Both of two checks,** with the violations of both. -/
def and : Checked α → Checked β → Checked (α × β)
  | .ok a, .ok b => .ok (a, b)
  | .ok _, .error vs => .error vs
  | .error us, .ok _ => .error us
  | .error us, .error vs => .error (us ++ vs)

/-- A condition on a value that passed. -/
def ensure (p : α → Bool) (kind : ViolationKind) : Checked α → Checked α
  | .ok a => if p a then .ok a else fail kind
  | .error vs => .error vs

@[simp] theorem and_eq_ok {x : Checked α} {y : Checked β} {a : α} {b : β} :
    x.and y = .ok (a, b) ↔ x = .ok a ∧ y = .ok b := by
  cases x <;> cases y <;> simp [and]

@[simp] theorem inside_eq_ok {s : Step} {x : Checked α} {a : α} :
    x.inside s = .ok a ↔ x = .ok a := by
  cases x <;> simp [inside]

/-- All values of a list, with the violations of all; `index` counts from the first. -/
def allFrom (check : α → Checked β) : Nat → List α → Checked (List β)
  | _, [] => .ok []
  | i, a :: as =>
    (((check a).inside (.item i)).and (allFrom check (i + 1) as)).map fun (b, bs) => b :: bs

end Checked

/-- **A field of an object** under the first of its names that is present. -/
def Fields.read {α : Type} (fs : Fields) (names : List String) (check : Json → Checked α)
    (absent : Checked α) : Checked α :=
  match fs.firstOf? names with
  | some (name, v) => (check v).inside (.field name)
  | none => absent

/-- What a field that must be there gives when it is not. -/
def Checked.missing {α : Type} (name : String) : Checked α :=
  .error [⟨[.field name], .missing⟩]

end Recorder
