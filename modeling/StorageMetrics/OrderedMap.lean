/-
  Ordered maps: one entry per key, in the order in which the present keys were first put in.
  Putting a value under a present key keeps its place; an erased key that comes back goes to the
  end. Beside the operations stand the lemmas that say what each does to look-up and keys.
-/

namespace StorageMetrics

/-- Entries in order of arrival. `insert` keeps the keys distinct. -/
structure OrderedMap (κ υ : Type) where
  entries : List (κ × υ) := []
deriving DecidableEq, Inhabited

namespace OrderedMap

variable {κ υ : Type} [DecidableEq κ]

/-- The value of the first entry with this key. -/
def find (k : κ) : List (κ × υ) → Option υ
  | [] => none
  | (k', v) :: rest => if k' = k then some v else find k rest

/-- Replaces the value of a present key in place; appends an absent key. -/
def put (k : κ) (v : υ) : List (κ × υ) → List (κ × υ)
  | [] => [(k, v)]
  | (k', v') :: rest => if k' = k then (k', v) :: rest else (k', v') :: put k v rest

/-- Leaves out every entry with this key. What comes behind the last of them stays as it is. -/
def drop (k : κ) : List (κ × υ) → List (κ × υ)
  | [] => []
  | x :: rest =>
    if x.1 = k then (if (find k rest).isSome then drop k rest else rest) else x :: drop k rest

def get? (m : OrderedMap κ υ) (k : κ) : Option υ := find k m.entries

def contains (m : OrderedMap κ υ) (k : κ) : Bool := (m.get? k).isSome

/-- Puts a value under a key. An absent key goes to the end without a look at the entries before. -/
def insert (m : OrderedMap κ υ) (k : κ) (v : υ) : OrderedMap κ υ :=
  if m.contains k then ⟨put k v m.entries⟩ else ⟨m.entries ++ [(k, v)]⟩

def erase (m : OrderedMap κ υ) (k : κ) : OrderedMap κ υ := ⟨drop k m.entries⟩

def keys (m : OrderedMap κ υ) : List κ := m.entries.map (·.1)

def values (m : OrderedMap κ υ) : List υ := m.entries.map (·.2)

def size (m : OrderedMap κ υ) : Nat := m.entries.length

/-- The entries in order, a later one with the same key replacing the value of an earlier one. -/
def ofList (xs : List (κ × υ)) : OrderedMap κ υ := xs.foldl (fun m x => m.insert x.1 x.2) ⟨[]⟩

theorem find_put (k k' : κ) (v : υ) (xs : List (κ × υ)) :
    find k' (put k v xs) = if k = k' then some v else find k' xs := by
  induction xs with
  | nil => simp [put, find]
  | cons x xs ih =>
    by_cases h : x.1 = k
    · by_cases h' : k = k' <;> simp [put, find, h, h']
    · by_cases h' : k = k'
      · subst h'; simp [put, find, h, ih]
      · simp [put, find, h, h', ih]

theorem put_of_find_eq_none (k : κ) (v : υ) (xs : List (κ × υ)) (h : find k xs = none) :
    put k v xs = xs ++ [(k, v)] := by
  induction xs with
  | nil => rfl
  | cons x xs ih =>
    by_cases hx : x.1 = k
    · simp [find, hx] at h
    · simp [put, hx, ih (by simpa [find, hx] using h)]

/-- Whether the key is there or not, its entry is put among the others. -/
theorem entries_insert (m : OrderedMap κ υ) (k : κ) (v : υ) :
    (m.insert k v).entries = put k v m.entries := by
  unfold insert
  split
  · rfl
  · rename_i h
    exact (put_of_find_eq_none k v m.entries (by simpa [contains, get?] using h)).symm

theorem get?_insert (m : OrderedMap κ υ) (k k' : κ) (v : υ) :
    (m.insert k v).get? k' = if k = k' then some v else m.get? k' := by
  rw [get?, entries_insert]
  exact find_put k k' v m.entries

theorem find_drop (k k' : κ) (xs : List (κ × υ)) :
    find k' (drop k xs) = if k = k' then none else find k' xs := by
  induction xs with
  | nil => simp [drop, find]
  | cons x xs ih =>
    by_cases h : x.1 = k
    · cases hf : find k xs with
      | none => by_cases h' : k = k' <;> simp_all [drop, find]
      | some v =>
        by_cases h' : k = k'
        · subst h'; simpa [drop, h, hf] using ih
        · simpa [drop, find, h, h', hf] using ih
    · by_cases h' : k = k'
      · subst h'; simpa [drop, find, h] using ih
      · simp [drop, find, h, h', ih]

theorem get?_erase (m : OrderedMap κ υ) (k k' : κ) :
    (m.erase k).get? k' = if k = k' then none else m.get? k' := find_drop k k' m.entries

theorem keys_put_of_mem (k : κ) (v : υ) (xs : List (κ × υ)) (h : k ∈ xs.map (·.1)) :
    (put k v xs).map (·.1) = xs.map (·.1) := by
  induction xs with
  | nil => simp at h
  | cons x xs ih =>
    by_cases hx : x.1 = k
    · simp [put, hx]
    · rcases List.mem_cons.mp h with h | h
      · exact absurd h.symm hx
      · simp [put, hx, ih h]

theorem put_of_not_mem (k : κ) (v : υ) (xs : List (κ × υ)) (h : k ∉ xs.map (·.1)) :
    put k v xs = xs ++ [(k, v)] := by
  induction xs with
  | nil => rfl
  | cons x xs ih =>
    simp only [List.map_cons, List.mem_cons, not_or] at h
    simp [put, Ne.symm h.1, ih h.2]

end OrderedMap

end StorageMetrics
