/-!
# Maps that remember insertion order

A key keeps the position at which it was first inserted; a later insert replaces its value.
-/

namespace ModuleBundler

/-- Pairs in order of first insertion, with distinct keys. -/
structure OrderedMap (κ α : Type) where
  entries : List (κ × α)
  nodup : (entries.map Prod.fst).Nodup

namespace OrderedMap

variable {κ α : Type}

def empty : OrderedMap κ α := ⟨[], by simp⟩

instance : Inhabited (OrderedMap κ α) := ⟨empty⟩

def keys (m : OrderedMap κ α) : List κ := m.entries.map Prod.fst

def values (m : OrderedMap κ α) : List α := m.entries.map Prod.snd

def size (m : OrderedMap κ α) : Nat := m.entries.length

def isEmpty (m : OrderedMap κ α) : Bool := m.entries.isEmpty

variable [DecidableEq κ]

instance [DecidableEq α] : DecidableEq (OrderedMap κ α) := fun a b =>
  decidable_of_iff (a.entries = b.entries) <| by
    cases a; cases b; simp

def get? (m : OrderedMap κ α) (k : κ) : Option α :=
  (m.entries.find? (·.1 == k)).map Prod.snd

def contains (m : OrderedMap κ α) (k : κ) : Bool := decide (k ∈ m.keys)

/-- Replaces the value at `k`, or appends the pair. -/
def insertEntries (k : κ) (a : α) : List (κ × α) → List (κ × α)
  | [] => [(k, a)]
  | e :: es => if e.1 = k then (k, a) :: es else e :: insertEntries k a es

theorem keys_insertEntries (k : κ) (a : α) (es : List (κ × α)) :
    (insertEntries k a es).map Prod.fst =
      if k ∈ es.map Prod.fst then es.map Prod.fst else es.map Prod.fst ++ [k] := by
  induction es with
  | nil => simp [insertEntries]
  | cons e es ih =>
    by_cases h : e.1 = k
    · simp [insertEntries, h]
    · have h' : ¬ k = e.1 := fun he => h he.symm
      simp only [insertEntries, if_neg h, List.map_cons, ih, List.mem_cons, h', false_or]
      split <;> simp

def insert (m : OrderedMap κ α) (k : κ) (a : α) : OrderedMap κ α where
  entries := insertEntries k a m.entries
  nodup := by
    rw [keys_insertEntries]
    split
    · exact m.nodup
    · rename_i h
      refine List.nodup_append.2 ⟨m.nodup, by simp, fun x hx y hy => ?_⟩
      rintro rfl
      simp only [List.mem_singleton] at hy
      exact h (hy ▸ hx)

/-- Appends a pair whose key is new. -/
def push (m : OrderedMap κ α) (k : κ) (a : α) (h : k ∉ m.keys) : OrderedMap κ α where
  entries := m.entries ++ [(k, a)]
  nodup := by
    rw [List.map_append]
    refine List.nodup_append.2 ⟨m.nodup, by simp, fun x hx y hy => ?_⟩
    rintro rfl
    simp only [List.map_cons, List.map_nil, List.mem_singleton] at hy
    exact h (hy ▸ hx)

def ofList (es : List (κ × α)) : OrderedMap κ α :=
  es.foldl (fun m e => m.insert e.1 e.2) empty

end OrderedMap

end ModuleBundler
