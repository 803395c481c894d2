/-
# Entries: dictionaries in order of insertion

A dictionary is the list of its entries.  A key that is put again keeps its
place and takes the new value, so `Entries.put` never makes two entries of one
key.
-/

namespace Recorder

/-- A dictionary with text keys, in order of insertion. -/
abbrev Entries (α : Type) := List (String × α)

namespace Entries

variable {α : Type}

/-- The value of a key. -/
def get? : Entries α → String → Option α
  | [], _ => none
  | (k, v) :: rest, key => if k = key then some v else get? rest key

def has (es : Entries α) (key : String) : Bool := (es.get? key).isSome

def keys (es : Entries α) : List String := es.map Prod.fst

/-- Sets a key; a known key keeps its place. -/
def put : Entries α → String → α → Entries α
  | [], key, v => [(key, v)]
  | (k, w) :: rest, key, v => if k = key then (k, v) :: rest else (k, w) :: put rest key v

/-- The entries of a list of pairs, the last value of each key winning. -/
def ofPairs (pairs : List (String × α)) : Entries α :=
  pairs.foldl (fun es p => es.put p.1 p.2) []

@[simp] theorem get?_nil (key : String) : get? ([] : Entries α) key = none := rfl

theorem get?_cons (k : String) (v : α) (rest : Entries α) (key : String) :
    get? ((k, v) :: rest) key = if k = key then some v else get? rest key := rfl

/-- **A key that was just put is read back,** and no other one changes. -/
theorem get?_put (es : Entries α) (key other : String) (v : α) :
    get? (es.put key v) other = if key = other then some v else get? es other := by
  induction es with
  | nil => simp [put, get?]
  | cons p rest ih =>
    obtain ⟨k, w⟩ := p
    by_cases hk : k = key
    · subst hk
      by_cases ho : k = other <;> simp [put, get?, ho]
    · by_cases ho : k = other
      · subst ho
        have : key ≠ k := fun h => hk h.symm
        simp [put, get?, hk, this]
      · simp [put, get?, hk, ho, ih]

/-- **A known key keeps its place, a new one comes last.** -/
theorem keys_put (es : Entries α) (key : String) (v : α) :
    keys (es.put key v) = if key ∈ keys es then keys es else keys es ++ [key] := by
  induction es with
  | nil => simp [put, keys]
  | cons p rest ih =>
    obtain ⟨k, w⟩ := p
    by_cases hk : k = key
    · subst hk; simp [put, keys]
    · have hk' : key ≠ k := fun h => hk h.symm
      simp only [put, hk, ↓reduceIte]
      simp only [keys, List.map_cons, List.mem_cons, hk', false_or] at ih ⊢
      rw [ih]
      by_cases hm : key ∈ List.map Prod.fst rest <;> simp [hm]

end Entries
end Recorder
