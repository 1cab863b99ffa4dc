import PointInTime.Json.Record

/-!
# Laws of records

A record is written as a list of fields, some of which are left out.  When no two of them can have
the same name, reading finds every field that was written, and an optional field is read as the
option that it was written from.
-/

namespace PointInTime

namespace Assoc

variable {α : Type}

theorem find?_append (key : String) (a b : Assoc α) :
    find? key (a ++ b) = (find? key a).or (find? key b) := by
  induction a with
  | nil => rfl
  | cons entry rest ih =>
      obtain ⟨k, v⟩ := entry
      by_cases hk : k = key
      · simp [find?, hk]
      · simp [find?, hk, ih]

end Assoc

namespace Json

variable {α : Type}

/-! ## Fields that may be left out -/

theorem find?_present (key k : String) (v : Option Json) :
    Assoc.find? key (present k v) = if k = key then v else none := by
  cases v with
  | none => simp [present]
  | some j => simp [present, Assoc.find?]

theorem keys_present_sublist (k : String) (v : Option Json) :
    ((present k v).map Prod.fst).Sublist [k] := by
  cases v with
  | none => simp [present]
  | some j => simp [present]

theorem ite_eq_present (k : String) (p : Prop) [Decidable p] (j : Json) :
    (if p then [] else [(k, j)]) = present k (if p then none else some j) := by
  by_cases hp : p
  · simp [hp, present]
  · simp [hp, present]

/-! ## Reading what was written -/

theorem length_filter_key_le_one {fields : Assoc Json} (h : (fields.map Prod.fst).Nodup)
    (name : String) : (fields.filter fun (k, _) => k = name).length ≤ 1 := by
  induction fields with
  | nil => simp
  | cons entry rest ih =>
      obtain ⟨k, v⟩ := entry
      simp only [List.map_cons, List.nodup_cons] at h
      by_cases hk : k = name
      · have hnone : (rest.filter fun (k, _) => k = name) = [] := by
          rw [List.filter_eq_nil_iff]
          intro e he
          have hne : e.1 ≠ k := fun heq => h.1 (heq ▸ List.mem_map_of_mem he)
          simpa [hk] using hne
        simp [hk, hnone]
      · simpa [hk] using ih h.2

theorem record?_obj {names : List String} {fields : Assoc Json}
    (h : (fields.map Prod.fst).Nodup) :
    record? names (.obj fields) = some fun name => Assoc.find? name fields := by
  have hall : (names.all fun name =>
      (fields.filter fun (k, _) => k = name).length ≤ 1) = true := by
    rw [List.all_eq_true]
    intro name _
    simpa using length_filter_key_le_one h name
  simp only [record?, hall, if_true]

theorem record?_obj_eq {names : List String} {fields : Assoc Json} {r : Record}
    (h : record? names (.obj fields) = some r) : r = fun name => Assoc.find? name fields := by
  simp only [record?] at h
  split at h
  · exact (Option.some.inj h).symm
  · cases h

theorem record?_arr_eq {names : List String} {items : List Json} {r : Record}
    (h : record? names (.arr items) = some r) :
    r = fun name => Assoc.find? name (names.zip items) := by
  simp only [record?] at h
  split at h
  · exact (Option.some.inj h).symm
  · cases h

theorem eq_of_optionally_asString? {slot : Option Json} {o : Option String}
    (h : optionally asString? slot = some o) : o = slot.bind asString? := by
  cases slot with
  | none =>
      cases h
      rfl
  | some j =>
      cases j <;> cases h <;> rfl

theorem optionally_some_cases {read? : Json → Option α} {j : Json} {o : Option α}
    (h : optionally read? (some j) = some o) :
    (j = .null ∧ o = none) ∨ ∃ a, read? j = some a ∧ o = some a := by
  cases j with
  | null =>
      cases h
      exact Or.inl ⟨rfl, rfl⟩
  | _ =>
      right
      obtain ⟨a, ha, ho⟩ := Option.map_eq_some_iff.mp h
      exact ⟨a, ha, ho.symm⟩

theorem optionally_map {read? : Json → Option α} {write : α → Json}
    (hread : ∀ a, read? (write a) = some a) (hnull : ∀ a, write a ≠ .null) (o : Option α) :
    optionally read? (o.map write) = some o := by
  cases o with
  | none => rfl
  | some a =>
      have hw := hnull a
      cases hj : write a with
      | null => exact absurd hj hw
      | _ => simp [optionally, hread a]

theorem optionally_text (o : Option String) : optionally asString? (o.map .str) = some o :=
  optionally_map (fun s => show asString? (.str s) = some s from rfl) (fun _ h => by cases h) o

theorem mapOf?_texts (m : Assoc String) : mapOf? asString? (texts m) = some m := by
  simp only [mapOf?, texts]
  induction m with
  | nil => rfl
  | cons entry rest ih =>
      simp only [List.map_cons, List.mapM_cons, ih]
      rfl

theorem optionally_texts (o : Option (Assoc String)) :
    optionally (mapOf? asString?) (o.map texts) = some o :=
  optionally_map mapOf?_texts (fun _ h => by cases h) o

end Json
end PointInTime
