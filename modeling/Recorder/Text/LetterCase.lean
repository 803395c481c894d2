/-
# Letter case

Full Unicode case mappings: `lower` knows the dotted capital `İ`, which becomes
two characters, and the final sigma; `upper` knows the characters whose upper
case has several.  `fold` picks one representative of all letters that agree
when case is ignored.
-/

import Recorder.Text.CaseTable
import Recorder.Text.Ranges

namespace Recorder
namespace Text

/-- The code point that a table of runs assigns. -/
def shiftBy (runs : List (Nat × Nat × Nat × Int)) (n : Nat) : Nat :=
  match runs.find? fun (first, last, step, _) => first ≤ n && n ≤ last && (n - first) % step == 0 with
  | some (_, _, _, shift) => ((n : Int) + shift).toNat
  | none => n

/-- The lower case of a code point; the dotted capital `İ` goes to `i`. -/
def lowerCode (n : Nat) : Nat :=
  if n < 128 then (if 65 ≤ n ∧ n ≤ 90 then n + 32 else n)
  else if n = 304 then 105
  else shiftBy lowerRuns n

/-- The lower case of a character that has one of a single code point. -/
def lowerChar (c : Char) : Char := Char.ofNat (shiftBy lowerRuns c.toNat)

def isCased (c : Char) : Bool := inRanges casedRanges c.toNat

def isCaseIgnorable (c : Char) : Bool := inRanges caseIgnorableRanges c.toNat

/-- Whether the nearest character that is not ignorable has case. -/
def facesCased (cs : List Char) : Bool :=
  match cs.dropWhile isCaseIgnorable with
  | c :: _ => isCased c
  | [] => false

/-- **Lower case** of a text that follows the reversed text `before`.  A capital
sigma at the end of a word becomes the final sigma. -/
def lowerAfter (before : List Char) : List Char → List Char
  | [] => []
  | c :: cs =>
    let here :=
      if c = 'Σ' then [if facesCased before && !facesCased cs then 'ς' else 'σ']
      else if c = 'İ' then ['i', '\u0307']
      else [lowerChar c]
    here ++ lowerAfter (c :: before) cs

/-- A text in lower case. -/
def lower (s : String) : String := String.ofList (lowerAfter [] s.toList)

/-- The upper case of a character, which may be several. -/
def upperChar (c : Char) : List Char :=
  match upperExpansions.lookup c.toNat with
  | some ns => ns.map Char.ofNat
  | none => [Char.ofNat (shiftBy upperRuns c.toNat)]

/-- A text in upper case. -/
def upper (s : String) : String := String.ofList (s.toList.flatMap upperChar)

/-- The upper case of a code point, or the first of several. -/
def upperCode (n : Nat) : Nat :=
  match upperExpansions.lookup n with
  | some (u :: _) => u
  | _ => shiftBy upperRuns n

/-- The lower-case code points that have the same upper case as `n`, itself among them. -/
def relatives (n : Nat) : List Nat := (foldGroups.find? (·.contains n)).getD [n]

/-- The code points whose lower case is `n`. -/
def lowerOrigins (n : Nat) : List Nat :=
  (if lowerCode n = n then [n] else []) ++ (if n = 105 then [304] else []) ++
    lowerRuns.filterMap fun (first, last, step, shift) =>
      let m := ((n : Int) - shift).toNat
      if first ≤ m && m ≤ last && (m - first) % step == 0 && lowerCode m == n then some m else none

/-- **Folding.**  Two characters agree when case is ignored just if they fold to
the same code point. -/
def fold (c : Char) : Nat :=
  let n := lowerCode c.toNat
  match foldGroups.find? (·.contains n) with
  | some (g :: _) => g
  | _ => n

/-- Whether two characters agree when case is ignored. -/
def agrees (a b : Char) : Bool := fold a == fold b

/-- Whether two texts agree when case is ignored. -/
def agreesText : List Char → List Char → Bool
  | [], [] => true
  | a :: as, b :: bs => agrees a b && agreesText as bs
  | _, _ => false

/-- Whether `word` occurs in a text when case is ignored. -/
def occursFolded (word : List Char) : List Char → Bool
  | [] => word.isEmpty
  | c :: cs => agreesText word ((c :: cs).take word.length) || occursFolded word cs

end Text
end Recorder
