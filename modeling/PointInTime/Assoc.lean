/-!
# Association lists in key order

Labels, annotations, configuration data and the fields of stored objects are lists of keys and
values.  Setting a key replaces its value in place or puts it before the first greater key, so a
list that starts in the order of its keys stays in it.
-/

namespace PointInTime

/-- Keys with values; in key order wherever order can be seen. -/
abbrev Assoc (α : Type) := List (String × α)

namespace Assoc

variable {α β : Type}

def find? (key : String) : Assoc α → Option α
  | [] => none
  | (k, v) :: rest => if k = key then some v else find? key rest

def has (key : String) (m : Assoc α) : Bool :=
  (m.find? key).isSome

/-- Give a key a value, in place of the one it had or before the first greater key. -/
def set (key : String) (value : α) : Assoc α → Assoc α
  | [] => [(key, value)]
  | (k, v) :: rest =>
      if k = key then (key, value) :: rest
      else if key < k then (key, value) :: (k, v) :: rest
      else (k, v) :: set key value rest

def erase (key : String) (m : Assoc α) : Assoc α :=
  m.filter fun (k, _) => k ≠ key

def modify (key : String) (f : α → α) : Assoc α → Assoc α
  | [] => []
  | (k, v) :: rest => if k = key then (k, f v) :: rest else (k, v) :: modify key f rest

/-- A list of pairs in key order; of two values for one key the later counts. -/
def ofList (pairs : List (String × α)) : Assoc α :=
  pairs.foldl (fun m (k, v) => set k v m) []

/-! ## One view: the value of a key -/

@[simp] theorem find?_nil (key : String) : find? key ([] : Assoc α) = none := rfl

theorem find?_set_self (key : String) (value : α) (m : Assoc α) :
    (set key value m).find? key = some value := by
  induction m with
  | nil => simp [set, find?]
  | cons p rest ih =>
      obtain ⟨k, v⟩ := p
      by_cases h : k = key
      · simp [set, find?, h]
      · by_cases h' : key < k <;> simp [set, find?, h, h', ih]

theorem find?_set_of_ne {key other : String} (h : other ≠ key) (value : α) (m : Assoc α) :
    (set key value m).find? other = m.find? other := by
  induction m with
  | nil => simp [set, find?, Ne.symm h]
  | cons p rest ih =>
      obtain ⟨k, v⟩ := p
      by_cases hk : k = key
      · subst hk; simp [set, find?, Ne.symm h]
      · by_cases h' : key < k
        · simp [set, find?, hk, h', Ne.symm h]
        · simp [set, find?, hk, h', ih]

theorem find?_erase_self (key : String) (m : Assoc α) : (erase key m).find? key = none := by
  induction m with
  | nil => rfl
  | cons p rest ih =>
      obtain ⟨k, v⟩ := p
      by_cases hk : k = key
      · simpa [erase, hk] using ih
      · simpa [erase, find?, hk] using ih

theorem find?_erase_of_ne {key other : String} (h : other ≠ key) (m : Assoc α) :
    (erase key m).find? other = m.find? other := by
  induction m with
  | nil => rfl
  | cons p rest ih =>
      obtain ⟨k, v⟩ := p
      by_cases hk : k = key
      · subst hk; simpa [erase, find?, Ne.symm h] using ih
      · by_cases ho : k = other
        · simp [erase, find?, ho, h]
        · simpa [erase, find?, hk, ho] using ih

theorem find?_modify_self (key : String) (f : α → α) (m : Assoc α) :
    (modify key f m).find? key = (m.find? key).map f := by
  induction m with
  | nil => rfl
  | cons p rest ih =>
      obtain ⟨k, v⟩ := p
      by_cases hk : k = key
      · simp [modify, find?, hk]
      · simp [modify, find?, hk, ih]

theorem find?_modify_of_ne {key other : String} (h : other ≠ key) (f : α → α) (m : Assoc α) :
    (modify key f m).find? other = m.find? other := by
  induction m with
  | nil => rfl
  | cons p rest ih =>
      obtain ⟨k, v⟩ := p
      by_cases hk : k = key
      · subst hk; simp [modify, find?, Ne.symm h]
      · simp [modify, find?, hk, ih]

/-! ## Two changes, one after the other -/

theorem set_set (key : String) (value value' : α) (m : Assoc α) :
    set key value' (set key value m) = set key value' m := by
  induction m with
  | nil => simp [set]
  | cons p rest ih =>
      obtain ⟨k, v⟩ := p
      by_cases hk : k = key
      · simp [set, hk]
      · by_cases hlt : key < k
        · simp [set, hk, hlt]
        · simp [set, hk, hlt, ih]

theorem modify_modify (key : String) (f g : α → α) (m : Assoc α) :
    modify key g (modify key f m) = modify key (g ∘ f) m := by
  induction m with
  | nil => rfl
  | cons p rest ih =>
      obtain ⟨k, v⟩ := p
      by_cases hk : k = key
      · simp [modify, hk]
      · simp [modify, hk, ih]

theorem set_modify_of_ne {key other : String} (h : key ≠ other) (value : α) (f : α → α)
    (m : Assoc α) : set key value (modify other f m) = modify other f (set key value m) := by
  induction m with
  | nil => simp [set, modify, h]
  | cons p rest ih =>
      obtain ⟨k, v⟩ := p
      by_cases hk : k = other
      · subst hk
        by_cases hlt : key < k
        · simp [set, modify, h, Ne.symm h, hlt]
        · simp [set, modify, Ne.symm h, hlt]
      · by_cases hkey : k = key
        · simp [set, modify, hkey, h]
        · by_cases hlt : key < k
          · simp [set, modify, hk, hkey, h, hlt]
          · simp [set, modify, hk, hkey, hlt, ih]

theorem erase_eq_self {key : String} {m : Assoc α} (h : m.find? key = none) :
    erase key m = m := by
  induction m with
  | nil => rfl
  | cons p rest ih =>
      obtain ⟨k, v⟩ := p
      by_cases hk : k = key
      · simp [find?, hk] at h
      · have hrest : find? key rest = none := by simpa [find?, hk] using h
        simpa [erase, hk] using ih hrest

end Assoc
end PointInTime
