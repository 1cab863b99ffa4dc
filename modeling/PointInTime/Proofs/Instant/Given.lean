import PointInTime.Error
import PointInTime.Proofs.Instant.Rfc3339
import PointInTime.Proofs.Text.Blank

/-!
# Instants as people give them

People give an instant in the plain form that they are shown, or in RFC 3339 as they find it in
stored objects, and with white space around it.

Main statement: what is written in either form is read as it was meant, the plain form to the second
and RFC 3339 exactly, and no text has a meaning in both.
-/

namespace PointInTime
namespace Instant

open Text

theorem parse_format (t : Instant) : Instant.parse t.format = Except.ok t.truncate := by
  unfold Instant.parse
  rw [ofGiven?_format]

/-- The form that is tried first does not take anything from the other one. -/
theorem ofGiven?_of_ofRfc3339? {s : List Char} {t : Instant} (h : ofRfc3339? (trim s) = some t) :
    ofGiven? s = some t := by
  show (ofPlain? (trim s)).or (ofRfc3339? (trim s)) = some t
  rw [ofPlain?_eq_none h, Option.none_or, h]

theorem IsRfc3339Text.ofGiven? {t : Instant} {text before after : List Char}
    (htext : IsRfc3339Text t text) (hbefore : ∀ c ∈ before, isBlank c = true)
    (hafter : ∀ c ∈ after, isBlank c = true) : ofGiven? (before ++ text ++ after) = some t := by
  apply ofGiven?_of_ofRfc3339?
  rw [trim_append hbefore text hafter, htext.trim_eq, htext.ofRfc3339?]

theorem given_instants_read_as_meant {t : Instant} {text before after : List Char}
    (htext : IsRfc3339Text t text) (hbefore : ∀ c ∈ before, isBlank c = true)
    (hafter : ∀ c ∈ after, isBlank c = true) :
    Instant.parse (String.ofList (before ++ text ++ after)) = Except.ok t ∧
      (∀ u : Instant, Instant.parse u.format = Except.ok u.truncate) ∧
      (∀ s, ofPlain? s = none ∨ ofRfc3339? s = none) ∧
      ∀ s u, ofRfc3339? (trim s) = some u → ofGiven? s = some u := by
  refine ⟨?_, parse_format, ?_, fun _ _ => ofGiven?_of_ofRfc3339?⟩
  · unfold Instant.parse
    rw [String.toList_ofList, htext.ofGiven? hbefore hafter]
  · intro s
    cases hs : ofRfc3339? s with
    | none => exact Or.inr rfl
    | some u => exact Or.inl (ofPlain?_eq_none hs)

/-- A quarter into the leap second at the end of 2016, by a clock in India. -/
theorem leap_second_read_as_meant :
    let t : Instant := ⟨1483228799, 1250000000, by decide⟩
    IsRfc3339Text t "2017-01-01T05:29:60.250+05:30".toList ∧
      Instant.parse "\t2017-01-01T05:29:60.250+05:30 \n" = Except.ok t := by
  intro t
  have hshown : clockText (t.wallClock 330) 'T' 3 ++ offsetText '+' 330 =
      "2017-01-01T05:29:60.250+05:30".toList := by
    decide +kernel
  have htext : IsRfc3339Text t "2017-01-01T05:29:60.250+05:30".toList := by
    rw [← hshown]
    exact .shown (by decide) (by decide) (by decide) (by decide) (.ahead (by decide))
  have hbefore : ∀ c ∈ ['\t'], isBlank c = true := List.forall_mem_singleton.mpr (by decide)
  have hafter : ∀ c ∈ [' ', '\n'], isBlank c = true := List.all_eq_true.mp (by decide)
  exact ⟨htext, (given_instants_read_as_meant htext hbefore hafter).1⟩

end Instant
end PointInTime
