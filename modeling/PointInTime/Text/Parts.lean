/-!
# Parts between separators

A list with separators in it falls into parts: one more than there are separators, and any of them
may be empty.
-/

namespace PointInTime
namespace Text

variable {α : Type} [DecidableEq α]

def parts (separator : α) : List α → List (List α)
  | [] => [[]]
  | a :: rest =>
      if a = separator then [] :: parts separator rest
      else
        match parts separator rest with
        | part :: others => (a :: part) :: others
        | [] => [[a]]

theorem parts_eq_splitOn (separator : α) (s : List α) :
    parts separator s = s.splitOn separator := by
  induction s with
  | nil => rfl
  | cons a rest ih =>
      rw [parts, ih, List.splitOn_cons_eq_if_modifyHead]
      by_cases h : a = separator
      · simp [h]
      · cases hrest : rest.splitOn separator with
        | nil => exact absurd hrest (List.splitOn_ne_nil separator rest)
        | cons part others => simp [h]

end Text
end PointInTime
