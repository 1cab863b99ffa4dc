import PointInTime.Text.Blank

/-!
# Trimming

White space at the ends of a text is all that trimming takes away, and it takes all of it: texts
that differ by it are the same once they are trimmed.
-/

namespace PointInTime
namespace Text

variable {s before after : List Char}

theorem trimStart_append (hbefore : ∀ c ∈ before, isBlank c = true) (s : List Char) :
    trimStart (before ++ s) = trimStart s :=
  List.dropWhile_append_of_pos hbefore

theorem trimEnd_append (s : List Char) (hafter : ∀ c ∈ after, isBlank c = true) :
    trimEnd (s ++ after) = trimEnd s := by
  unfold trimEnd
  rw [List.reverse_append, List.dropWhile_append_of_pos]
  intro c hc
  exact hafter c (List.mem_reverse.mp hc)

theorem trimStart_eq_nil (hs : ∀ c ∈ s, isBlank c = true) : trimStart s = [] := by
  have hempty := trimStart_append hs []
  rw [List.append_nil] at hempty
  exact hempty

theorem trim_append (hbefore : ∀ c ∈ before, isBlank c = true) (s : List Char)
    (hafter : ∀ c ∈ after, isBlank c = true) : trim (before ++ s ++ after) = trim s := by
  unfold trim
  rw [List.append_assoc, trimStart_append hbefore]
  show trimEnd ((s ++ after).dropWhile isBlank) = trimEnd (s.dropWhile isBlank)
  rw [List.dropWhile_append]
  split
  · rename_i hempty
    rw [List.isEmpty_iff.mp hempty]
    exact congrArg trimEnd (trimStart_eq_nil hafter)
  · exact trimEnd_append _ hafter

/-- What is taken away at the end is blank. -/
theorem exists_trimEnd_append (s : List Char) :
    ∃ after, (∀ c ∈ after, isBlank c = true) ∧ s = trimEnd s ++ after := by
  refine ⟨(s.reverse.takeWhile isBlank).reverse, ?_, ?_⟩
  · intro c hc
    exact List.all_eq_true.mp List.all_takeWhile c (List.mem_reverse.mp hc)
  · unfold trimEnd
    rw [← List.reverse_append, List.takeWhile_append_dropWhile, List.reverse_reverse]

/-- What is taken away at both ends is blank. -/
theorem exists_append_trim_append (s : List Char) :
    ∃ before after, (∀ c ∈ before, isBlank c = true) ∧ (∀ c ∈ after, isBlank c = true) ∧
      s = before ++ trim s ++ after := by
  have hstart : s.takeWhile isBlank ++ trimStart s = s := List.takeWhile_append_dropWhile
  rcases exists_trimEnd_append (trimStart s) with ⟨after, hafter, hend⟩
  refine ⟨s.takeWhile isBlank, after, List.all_eq_true.mp List.all_takeWhile, hafter, ?_⟩
  rw [List.append_assoc]
  unfold trim
  rw [← hend, hstart]

/-- Nothing that could be taken away is left at the end. -/
theorem isBlank_of_getLast?_trimEnd {c : Char} (hc : (trimEnd s).getLast? = some c) :
    isBlank c = false := by
  unfold trimEnd at hc
  rw [List.getLast?_reverse] at hc
  have hfirst := List.head?_dropWhile_not isBlank s.reverse
  rw [hc] at hfirst
  exact hfirst

theorem trimEnd_append_digits {digits : List Char} (hne : digits ≠ [])
    (hdigits : ∀ c ∈ digits, c.isDigit = true) (s : List Char) :
    trimEnd (s ++ digits) = s ++ digits := by
  have hlast := hdigits _ (List.getLast_mem hne)
  rw [← List.dropLast_concat_getLast hne, ← List.append_assoc]
  exact trimEnd_concat_of_not_blank (isBlank_eq_false_of_isDigit hlast) _

end Text
end PointInTime
