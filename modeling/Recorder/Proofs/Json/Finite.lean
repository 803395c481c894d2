/-
# Values without numbers that are not finite

What `to_payload` (`SPEC_FULL.md` §1) and `dump_buffers` (§0) make of numbers that JSON does
not have.

Saving and handing over turn every number that is not finite into null.  Doing so
twice is doing so once, and neither how deep a value is nor which fields it has
changes; so fields are fit for a document just if what becomes of them is.  A value all of
whose numbers are finite stays as it is (`Json.finiteOnly_of_isAllFinite`).

Values, items and fields are defined by one mutual recursion, and every fact about them is
proved by the same recursion, with a lemma for each of the three.
-/

import Recorder.Json.Basic

namespace Recorder
namespace Json

mutual

/-- **Once is enough:** null has taken the place of every number that is not finite, and null
stays.  The induction is on the value, with the items of its arrays and the fields of its
objects. -/
@[simp] theorem finiteOnly_finiteOnly : ∀ v : Json, finiteOnly (finiteOnly v) = finiteOnly v
  | .null | .bool _ | .int _ | .str _ => rfl
  | .float x => by cases h : x.isFinite <;> simp [finiteOnly, h]
  | .arr xs => by rw [finiteOnly, finiteOnly, finiteItems_finiteItems xs]
  | .obj fs => by rw [finiteOnly, finiteOnly, finiteFields_finiteFields fs]

/-- Items are treated once as well, one by one. -/
@[simp] theorem finiteItems_finiteItems :
    ∀ xs : List Json, finiteItems (finiteItems xs) = finiteItems xs
  | [] => rfl
  | x :: xs => by
    rw [finiteItems, finiteItems, finiteOnly_finiteOnly x, finiteItems_finiteItems xs]

@[simp] theorem finiteFields_finiteFields :
    ∀ fs : Fields, finiteFields (finiteFields fs) = finiteFields fs
  | [] => rfl
  | (k, v) :: rest => by
    rw [finiteFields, finiteFields, finiteOnly_finiteOnly v, finiteFields_finiteFields rest]

end

mutual

/-- **No value gets deeper or less deep,** because only numbers are replaced, and a number is
as deep as null.  Whether a value is fit for saving can thus be asked before or after. -/
@[simp] theorem depth_finiteOnly : ∀ v : Json, depth (finiteOnly v) = depth v
  | .null | .bool _ | .int _ | .str _ => rfl
  | .float x => by cases h : x.isFinite <;> simp [finiteOnly, h, depth]
  | .arr xs => by rw [finiteOnly, depth, depth, depthOfItems_finiteItems xs]
  | .obj fs => by rw [finiteOnly, depth, depth, depthOfFields_finiteFields fs]

/-- Items in a row are as deep as they were. -/
@[simp] theorem depthOfItems_finiteItems :
    ∀ xs : List Json, depthOfItems (finiteItems xs) = depthOfItems xs
  | [] => rfl
  | x :: xs => by
    rw [finiteItems, depthOfItems, depthOfItems, depth_finiteOnly x, depthOfItems_finiteItems xs]

@[simp] theorem depthOfFields_finiteFields :
    ∀ fs : Fields, depthOfFields (finiteFields fs) = depthOfFields fs
  | [] => rfl
  | (k, v) :: rest => by
    rw [finiteFields, depthOfFields, depthOfFields, depth_finiteOnly v,
      depthOfFields_finiteFields rest]

end

mutual

/-- **Whether every number in a value is finite,** at any depth of its arrays and objects.
Whole numbers always are, and so are values that hold no number at all. -/
def isAllFinite : Json → Bool
  | .float x => x.isFinite
  | .arr xs => areAllFinite xs
  | .obj fs => haveAllFinite fs
  | .null | .bool _ | .int _ | .str _ => true

/-- Whether every number in items in a row is finite. -/
def areAllFinite : List Json → Bool
  | [] => true
  | x :: xs => isAllFinite x && areAllFinite xs

def haveAllFinite : List (String × Json) → Bool
  | [] => true
  | (_, v) :: rest => isAllFinite v && haveAllFinite rest

end

mutual

/-- **Finite numbers stay:** a value without any other numbers is saved as it is.  This is
what makes a round trip exact for such values. -/
theorem finiteOnly_of_isAllFinite : ∀ {v : Json}, isAllFinite v = true → finiteOnly v = v
  | .null, _ | .bool _, _ | .int _, _ | .str _, _ => rfl
  | .float x, h => by rw [finiteOnly, if_pos (by simpa [isAllFinite] using h)]
  | .arr xs, h => by
    rw [isAllFinite] at h
    rw [finiteOnly, finiteItems_of_areAllFinite h]
  | .obj fs, h => by
    rw [isAllFinite] at h
    rw [finiteOnly, finiteFields_of_haveAllFinite h]

/-- Items that have finite numbers only stay as they are. -/
theorem finiteItems_of_areAllFinite :
    ∀ {xs : List Json}, areAllFinite xs = true → finiteItems xs = xs
  | [], _ => rfl
  | x :: xs, h => by
    rw [areAllFinite, Bool.and_eq_true] at h
    rw [finiteItems, finiteOnly_of_isAllFinite h.1, finiteItems_of_areAllFinite h.2]

theorem finiteFields_of_haveAllFinite :
    ∀ {fs : Fields}, haveAllFinite fs = true → finiteFields fs = fs
  | [], _ => rfl
  | (k, v) :: rest, h => by
    rw [haveAllFinite, Bool.and_eq_true] at h
    rw [finiteFields, finiteOnly_of_isAllFinite h.1, finiteFields_of_haveAllFinite h.2]

end

/-- The items of an array are treated one by one, so lemmas about `List.map` serve for them. -/
theorem finiteItems_eq_map (xs : List Json) : finiteItems xs = xs.map finiteOnly := by
  induction xs with
  | nil => rfl
  | cons x xs ih => rw [finiteItems, ih, List.map_cons]

/-- The fields of an object are treated one by one, each keeping its name and its place. -/
theorem finiteFields_eq_map (fs : Fields) :
    finiteFields fs = fs.map fun p => (p.1, finiteOnly p.2) := by
  induction fs with
  | nil => rfl
  | cons p rest ih => rw [finiteFields, ih, List.map_cons]

/-- The values of fields are those of the fields before, treated as the items of an array
would be. -/
theorem map_snd_finiteFields (fs : Fields) :
    (finiteFields fs).map Prod.snd = finiteItems (fs.map Prod.snd) := by
  rw [finiteFields_eq_map, finiteItems_eq_map, List.map_map, List.map_map]
  rfl

/-- An object keeps its fields, so it is empty just if it was. -/
@[simp] theorem isTruthy_obj_finiteFields (fs : Fields) :
    (Json.obj (finiteFields fs)).isTruthy = (Json.obj fs).isTruthy := by
  cases fs <;> rfl

end Json

/-- Fields are fit for a document just if what becomes of them is. -/
@[simp] theorem Fields.isShallow_finiteFields (fs : Fields) :
    Fields.isShallow (Json.finiteFields fs) = fs.isShallow := by
  rw [Fields.isShallow, Fields.isShallow, Json.depthOfFields_finiteFields]

end Recorder
