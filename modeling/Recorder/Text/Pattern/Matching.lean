/-
# Matching search patterns

Two ways to run a pattern over a text.

* `Pattern.first` tries one possibility after the other, in the order in which
  the pattern prefers them, and stops at the first from which the rest succeeds.
* `Pattern.reach` takes a set of spots and gives all spots where a match that
  starts at one of them may end.

`Pattern.search` asks whether anything is reached from any position of a text.
`first` serves the nodes for which the preferred possibility counts: atomic
pieces, repetitions that try no second number of rounds, and what is ahead or
behind.
-/

import Recorder.Text.Pattern.Basic
import Std.Data.HashSet

namespace Recorder

/-- A position in a text and the groups found so far, by number, with their ends. -/
structure Spot where
  position : Nat
  groups : List (Nat × Nat × Nat) := []
deriving DecidableEq, Hashable, Repr

namespace Spot

/-- Groups with the span of one of them set; they stay ordered by number. -/
def setSpan (number start stop : Nat) : List (Nat × Nat × Nat) → List (Nat × Nat × Nat)
  | [] => [(number, start, stop)]
  | (n, span) :: rest =>
    if number < n then (number, start, stop) :: (n, span) :: rest
    else if number = n then (number, start, stop) :: rest
    else (n, span) :: setSpan number start stop rest

/-- A spot at which a group that began at `start` ends. -/
def close (s : Spot) (number start : Nat) : Spot :=
  ⟨s.position, setSpan number start s.position s.groups⟩

/-- The spot after one character that passes a test. -/
def step? (text : Array Char) (test : CharTest) (s : Spot) : Option Spot :=
  match text[s.position]? with
  | some c => if test.holds c then some { s with position := s.position + 1 } else none
  | none => none

/-- The spot after a repetition of what a group has matched; letters that differ
in case agree only if one is the lower case of the other. -/
def stepAgain? (text : Array Char) (rule : CaseRule) (number : Nat) (s : Spot) : Option Spot :=
  match s.groups.lookup number with
  | none => none
  | some (start, stop) =>
    let same (i : Nat) : Bool :=
      match text[start + i]?, text[s.position + i]? with
      | some a, some b => rule.plain a.toNat == rule.plain b.toNat
      | _, _ => false
    if (List.range (stop - start)).all same then
      some { s with position := s.position + (stop - start) }
    else none

def isFound (s : Spot) (number : Nat) : Bool := (s.groups.lookup number).isSome

/-- The same position with the groups of another spot. -/
def withGroupsOf (s t : Spot) : Spot := { s with groups := t.groups }

/-- A list without repeated spots. -/
def distinct (spots : List Spot) : List Spot :=
  let found := spots.foldl (fun (seen, kept) s =>
    if seen.contains s then (seen, kept) else (seen.insert s, s :: kept))
    ((∅ : Std.HashSet Spot), ([] : List Spot))
  found.2.reverse

end Spot

namespace Pattern

/-! ## Rounds of a repetition

No match needs more rounds that are asked for, nor more beyond those, than a
text has positions. -/

/-- A number of rounds, as far as it makes a difference in a text. -/
def capRounds (text : Array Char) (n : Nat) : Nat := min n (text.size + 1)

/-- How many rounds may follow those that are asked for. -/
def extraRounds (text : Array Char) (least : Nat) (most : Option Nat) : Nat :=
  match most with
  | some m => capRounds text (m - least)
  | none => text.size + 1

/-! ## The preferred possibility -/

/-- What follows a piece: where the rest of a match ends, if there is one. -/
abbrev Rest := Spot → Option Spot

/-- Exactly `n` rounds. -/
def firstRounds (step : Spot → Rest → Option Spot) : Nat → Spot → Rest → Option Spot
  | 0, s, rest => rest s
  | n + 1, s, rest => step s fun t => firstRounds step n t rest

/-- Up to `n` rounds; after one that matched nothing there is no other.  `last` is
where the round before began. -/
def firstExtra (step : Spot → Rest → Option Spot) (fewest : Bool) :
    Nat → Option Nat → Spot → Rest → Option Spot
  | 0, _, s, rest => rest s
  | n + 1, last, s, rest =>
    if last = some s.position then rest s
    else if fewest then
      match rest s with
      | some t => some t
      | none => step s fun t => firstExtra step fewest n (some s.position) t rest
    else
      match step s fun t => firstExtra step fewest n (some s.position) t rest with
      | some t => some t
      | none => rest s

/-- Exactly `n` rounds, each as it matches at first. -/
def onlyRounds (step? : Spot → Option Spot) : Nat → Spot → Option Spot
  | 0, s => some s
  | n + 1, s => (step? s).bind (onlyRounds step? n)

/-- As many rounds as there are, up to `n`, each as it matches at first. -/
def onlyExtra (step? : Spot → Option Spot) : Nat → Option Nat → Spot → Spot
  | 0, _, s => s
  | n + 1, last, s =>
    if last = some s.position then s
    else match step? s with
      | some t => onlyExtra step? n (some s.position) t
      | none => s

/-- **The preferred match** of a pattern from a spot on after which the rest succeeds. -/
def first (text : Array Char) : Pattern → Spot → Rest → Option Spot
  | .empty, s, rest => rest s
  | .one test, s, rest => (s.step? text test).bind rest
  | .place p, s, rest => if p.holds text s.position then rest s else none
  | .seq p q, s, rest => p.first text s fun t => q.first text t rest
  | .alt p q, s, rest =>
    match p.first text s rest with
    | some t => some t
    | none => q.first text s rest
  | .rep greed least most p, s, rest =>
    let asked := capRounds text least
    let extra := extraRounds text least most
    match greed with
    | .mostOnly =>
      (onlyRounds (fun t => p.first text t some) asked s).bind fun t =>
        rest (onlyExtra (fun t => p.first text t some) extra none t)
    | _ =>
      firstRounds (p.first text) asked s fun t =>
        firstExtra (p.first text) (greed == .fewest) extra none t rest
  | .group number p, s, rest => p.first text s fun t => rest (t.close number s.position)
  | .again rule number, s, rest => (s.stepAgain? text rule number).bind rest
  | .given number p q, s, rest =>
    if s.isFound number then p.first text s rest else q.first text s rest
  | .atomic p, s, rest => (p.first text s some).bind rest
  | .ahead negated p, s, rest =>
    match p.first text s some with
    | some t => if negated then none else rest (s.withGroupsOf t)
    | none => if negated then rest s else none
  | .behind negated width p, s, rest =>
    let found := if s.position < width then none
      else p.first text { s with position := s.position - width } some
    match found with
    | some t => if negated then none else rest (s.withGroupsOf t)
    | none => if negated then rest s else none

/-! ## All possibilities -/

/-- Exactly `n` rounds from any of some spots. -/
def reachRounds (step : List Spot → List Spot) : Nat → List Spot → List Spot
  | 0, spots => spots
  | n + 1, spots => if spots.isEmpty then [] else reachRounds step n (step spots)

/-- Up to `n` rounds: `found` has been reached, `edge` in the last of the rounds so far. -/
def reachExtra (step : List Spot → List Spot) :
    Nat → Std.HashSet Spot → List Spot → List Spot → List Spot
  | 0, _, _, found => found
  | n + 1, seen, edge, found =>
    let new := (step edge).filter (!seen.contains ·)
    if new.isEmpty then found else reachExtra step n (seen.insertMany new) new (new ++ found)

/-- **The spots where a match that starts at one of some spots may end.** -/
def reach (text : Array Char) : Pattern → List Spot → List Spot
  | .empty, spots => spots
  | .one test, spots => spots.filterMap (·.step? text test)
  | .place p, spots => spots.filter fun s => p.holds text s.position
  | .seq p q, spots => q.reach text (p.reach text spots)
  | .alt p q, spots => Spot.distinct (p.reach text spots ++ q.reach text spots)
  | .rep greed least most p, spots =>
    let asked := capRounds text least
    let extra := extraRounds text least most
    match greed with
    | .mostOnly =>
      Spot.distinct (spots.filterMap fun s =>
        (onlyRounds (fun t => p.first text t some) asked s).map
          (onlyExtra (fun t => p.first text t some) extra none))
    | _ =>
      let start := reachRounds (p.reach text) asked spots
      reachExtra (p.reach text) extra (Std.HashSet.ofList start) start start
  | .group number p, spots =>
    Spot.distinct (spots.flatMap fun s => (p.reach text [s]).map (·.close number s.position))
  | .again rule number, spots => spots.filterMap (·.stepAgain? text rule number)
  | .given number p q, spots =>
    Spot.distinct (p.reach text (spots.filter (·.isFound number)) ++
      q.reach text (spots.filter (!·.isFound number)))
  | .atomic p, spots => Spot.distinct (spots.filterMap fun s => p.first text s some)
  | .ahead negated p, spots =>
    Spot.distinct (spots.filterMap fun s => (Pattern.ahead negated p).first text s some)
  | .behind negated width p, spots =>
    Spot.distinct (spots.filterMap fun s => (Pattern.behind negated width p).first text s some)

/-- **Search.**  Whether a pattern matches somewhere in a text. -/
def search (p : Pattern) (s : String) : Bool :=
  let text := s.toList.toArray
  !(p.reach text ((List.range (text.size + 1)).map fun i => ⟨i, []⟩)).isEmpty

end Pattern
end Recorder
