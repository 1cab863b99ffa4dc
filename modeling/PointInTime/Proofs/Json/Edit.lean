import PointInTime.Json.Basic

/-!
# Edits of JSON values

A value is edited at fields that lie somewhere in it.  Whatever lies elsewhere stays as it was, and
what lies around an edited field stays an object.

Main statements: a change of one field of an object inside a value edits no other place, and edits
one after the other edit no place that none of them does.
-/

namespace PointInTime
namespace Json

/-!
## Places in a value
-/

inductive Step where
  | field (key : String)
  | item (index : Nat)

def step? : Step → Json → Option Json
  | .field key, j => j.field? key
  | .item index, .arr items => items[index]?
  | .item _, _ => none

/-- What lies at a place, if there is anything. -/
def at? : List Step → Json → Option Json
  | [], j => some j
  | step :: place, j => (step? step j).bind (at? place)

def place (path : List String) : List Step :=
  path.map Step.field

theorem at?_place (path : List String) (j : Json) : at? (place path) j = path? path j := by
  induction path generalizing j with
  | nil => rfl
  | cons key path ih =>
      show (j.field? key).bind (at? (place path)) = (j.field? key).bind (path? path)
      rw [funext ih]

theorem path?_singleton (key : String) (j : Json) : path? [key] j = j.field? key :=
  Option.bind_fun_some (j.field? key)

theorem place_isPrefix_cons_iff {key : String} {path : List String} {step : Step}
    {rest : List Step} :
    place (key :: path) <+: step :: rest ↔ step = .field key ∧ place path <+: rest := by
  rw [place, List.map_cons, List.cons_prefix_cons, eq_comm]
  rfl

theorem isPrefix_place_cons_iff {key : String} {path : List String} {step : Step}
    {rest : List Step} :
    step :: rest <+: place (key :: path) ↔ step = .field key ∧ rest <+: place path :=
  List.cons_prefix_cons

theorem place_isPrefix_place_iff {path path' : List String} :
    place path <+: place path' ↔ path <+: path' := by
  induction path generalizing path' with
  | nil => simp [place]
  | cons key path ih =>
      cases path' with
      | nil => simp [place]
      | cons key' path' =>
          show Step.field key :: place path <+: Step.field key' :: place path' ↔ _
          rw [List.cons_prefix_cons, List.cons_prefix_cons, ih, Step.field.injEq]

def IsObject (o : Option Json) : Prop :=
  ∃ fields, o = some (.obj fields)

/-!
## Values that differ in some places only
-/

/-- At every place that no edited one contains, two values have the same; or there are objects in
both, around an edited place. -/
def SameBut (edited : List (List String)) (j j' : Json) : Prop :=
  ∀ p : List Step, (∀ e ∈ edited, ¬ place e <+: p) →
    at? p j' = at? p j ∨
      (∃ e ∈ edited, p <+: place e) ∧ IsObject (at? p j) ∧ IsObject (at? p j')

theorem SameBut.trans {edited edited' : List (List String)} {j j' j'' : Json}
    (h : SameBut edited j j') (h' : SameBut edited' j' j'') :
    SameBut (edited ++ edited') j j'' := by
  intro p hp
  have hfirst := h p fun e he => hp e (List.mem_append_left _ he)
  have hsecond := h' p fun e he => hp e (List.mem_append_right _ he)
  rcases hsecond with hsame' | ⟨⟨e', he', hinside'⟩, hobject', hobject''⟩
  · rcases hfirst with hsame | ⟨⟨e, he, hinside⟩, hobject, hobject'⟩
    · exact Or.inl (hsame'.trans hsame)
    · rw [hsame']
      exact Or.inr ⟨⟨e, List.mem_append_left _ he, hinside⟩, hobject, hobject'⟩
  · have hobject : IsObject (at? p j) := by
      rcases hfirst with hsame | ⟨_, hobject, _⟩
      · rwa [hsame] at hobject'
      · exact hobject
    exact Or.inr ⟨⟨e', List.mem_append_right _ he', hinside'⟩, hobject, hobject''⟩

theorem SameBut.mono {edited edited' : List (List String)} {j j' : Json} (h : SameBut edited j j')
    (hsub : edited ⊆ edited') : SameBut edited' j j' := by
  intro p hp
  rcases h p fun e he => hp e (hsub he) with hsame | ⟨⟨e, he, hinside⟩, hobjects⟩
  · exact Or.inl hsame
  · exact Or.inr ⟨⟨e, hsub he, hinside⟩, hobjects⟩

/-- What lies neither in an edited place nor around one is the same. -/
theorem SameBut.path?_eq {edited : List (List String)} {j j' : Json} (h : SameBut edited j j')
    {path : List String} (hpath : ∀ e ∈ edited, ¬ e <+: path ∧ ¬ path <+: e) :
    path? path j' = path? path j := by
  rw [← at?_place, ← at?_place]
  rcases h (place path) fun e he => mt place_isPrefix_place_iff.mp (hpath e he).1 with
    hsame | ⟨⟨e, he, hinside⟩, _, _⟩
  · exact hsame
  · exact absurd (place_isPrefix_place_iff.mp hinside) (hpath e he).2

/-!
## Edits
-/

/-- What changes one field of an object. -/
def Edits (key : String) (f : Assoc Json → Assoc Json) : Prop :=
  ∀ fields other, other ≠ key → Assoc.find? other (f fields) = Assoc.find? other fields

theorem edits_set (key : String) (value : Json) : Edits key (Assoc.set key value) :=
  fun fields _ hother => Assoc.find?_set_of_ne hother value fields

theorem edits_erase (key : String) : Edits key (Assoc.erase key) :=
  fun fields _ hother => Assoc.find?_erase_of_ne hother fields

/-- Two objects with the same other fields differ in as much as this one does. -/
theorem sameBut_obj {key : String} {path : List String} {fields fields' : Assoc Json}
    (hothers : ∀ other, other ≠ key → Assoc.find? other fields' = Assoc.find? other fields)
    (hfield : ∀ rest, ¬ place path <+: rest →
      (Assoc.find? key fields').bind (at? rest) = (Assoc.find? key fields).bind (at? rest) ∨
        rest <+: place path ∧ IsObject ((Assoc.find? key fields).bind (at? rest)) ∧
          IsObject ((Assoc.find? key fields').bind (at? rest))) :
    SameBut [key :: path] (.obj fields) (.obj fields') := by
  intro p hp
  have hp := hp _ (List.mem_singleton_self _)
  match p with
  | [] => exact Or.inr ⟨⟨_, List.mem_singleton_self _, List.nil_prefix⟩, ⟨_, rfl⟩, ⟨_, rfl⟩⟩
  | .item index :: rest => exact Or.inl rfl
  | .field other :: rest =>
      by_cases hother : other = key
      · rw [hother] at hp ⊢
        rcases hfield rest fun hinside => hp (place_isPrefix_cons_iff.mpr ⟨rfl, hinside⟩) with
          hsame | ⟨hinside, hobjects⟩
        · exact Or.inl hsame
        · exact Or.inr
            ⟨⟨_, List.mem_singleton_self _, isPrefix_place_cons_iff.mpr ⟨rfl, hinside⟩⟩, hobjects⟩
      · left
        show (Assoc.find? other fields').bind (at? rest) =
          (Assoc.find? other fields).bind (at? rest)
        rw [hothers other hother]

/-- By induction on the path down to the object whose field is edited. -/
theorem sameBut_mapFieldsAt {key : String} {f : Assoc Json → Assoc Json} (hf : Edits key f)
    (path : List String) (j : Json) : SameBut [path ++ [key]] j (mapFieldsAt path f j) := by
  induction path generalizing j with
  | nil =>
      match j with
      | .obj fields =>
          apply sameBut_obj (hf fields)
          intro rest houtside
          exact absurd List.nil_prefix houtside
      | .null | .bool _ | .num _ | .str _ | .arr _ => exact fun _ _ => Or.inl rfl
  | cons k path ih =>
      match j with
      | .obj fields =>
          apply sameBut_obj
          · intro other hother
            exact Assoc.find?_modify_of_ne hother _ fields
          · intro rest houtside
            rw [Assoc.find?_modify_self]
            cases hv : Assoc.find? k fields with
            | none => exact Or.inl rfl
            | some v =>
                rcases ih v rest fun e he => by rwa [List.mem_singleton.mp he] with
                  hsame | ⟨⟨e, he, hinside⟩, hobjects⟩
                · exact Or.inl hsame
                · rw [List.mem_singleton.mp he] at hinside
                  exact Or.inr ⟨hinside, hobjects⟩
      | .null | .bool _ | .num _ | .str _ | .arr _ => exact fun _ _ => Or.inl rfl

/-- After a change of an object its fields are those of the changed one; where there is no object,
there are none. -/
theorem path?_mapFieldsAt (key : String) (f : Assoc Json → Assoc Json) (path : List String)
    (j : Json) :
    path? (path ++ [key]) (mapFieldsAt path f j) =
      ((path? path j).bind asObject?).bind fun fields => Assoc.find? key (f fields) := by
  induction path generalizing j with
  | nil =>
      match j with
      | .obj fields => exact path?_singleton key (.obj (f fields))
      | .null | .bool _ | .num _ | .str _ | .arr _ => rfl
  | cons k path ih =>
      match j with
      | .obj fields =>
          show (Assoc.find? k (Assoc.modify k (mapFieldsAt path f) fields)).bind
              (path? (path ++ [key])) =
            (((Assoc.find? k fields).bind (path? path)).bind asObject?).bind _
          rw [Assoc.find?_modify_self]
          cases hv : Assoc.find? k fields with
          | none => rfl
          | some v => exact ih v
      | .null | .bool _ | .num _ | .str _ | .arr _ => rfl

theorem mapFieldsAt_nil (f : Assoc Json → Assoc Json) : mapFieldsAt [] f = mapFields f :=
  funext fun _ => rfl

theorem mapFieldsAt_cons (key : String) (path : List String) (f : Assoc Json → Assoc Json) :
    mapFieldsAt (key :: path) f = mapFields (Assoc.modify key (mapFieldsAt path f)) :=
  funext fun _ => rfl

theorem mapFields_mapFields (f g : Assoc Json → Assoc Json) :
    mapFields g ∘ mapFields f = mapFields (g ∘ f) := by
  funext j
  cases j <;> rfl

/-- Two changes of one object make one change. -/
theorem mapFieldsAt_comp (path : List String) (f g : Assoc Json → Assoc Json) :
    mapFieldsAt path (g ∘ f) = mapFieldsAt path g ∘ mapFieldsAt path f := by
  induction path with
  | nil => rw [mapFieldsAt_nil, mapFieldsAt_nil, mapFieldsAt_nil, mapFields_mapFields]
  | cons key path ih =>
      have hmodify : Assoc.modify key (mapFieldsAt path g ∘ mapFieldsAt path f) =
          Assoc.modify key (mapFieldsAt path g) ∘ Assoc.modify key (mapFieldsAt path f) :=
        funext fun fields => (Assoc.modify_modify key _ _ fields).symm
      rw [mapFieldsAt_cons, mapFieldsAt_cons, mapFieldsAt_cons, ih, hmodify, mapFields_mapFields]

end Json
end PointInTime
