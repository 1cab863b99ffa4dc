import PointInTime.Name
import PointInTime.Proofs.Instant.Stamp

/-!
# Generated names

The name of a restored cluster is made from the name of its source and a minute, that of a restore
job from the name of its cluster, a second and a nonce.  Dashes stand in between, and dashes occur
within names as well; what tells the parts apart is that all but the first have a fixed width.

Main statement: generated names are labels within their limits, and two of them are the same only if
they were made from the same parts, to the minute or to the second.
-/

namespace PointInTime
namespace Name

variable {s t : List Char} {c : Char} {name source cluster cluster' nonce nonce' : String}
variable {limit : Nat} {instant instant' : Instant}

/-!
## Characters
-/

/-- The end of a label. -/
def isOuter (c : Char) : Bool :=
  isLower c || c.isDigit

theorem isInner_of_isOuter (h : isOuter c = true) : isInner c = true := by
  unfold isInner
  unfold isOuter at h
  rw [h, Bool.true_or]

theorem isOuter_of_isDigit (h : c.isDigit = true) : isOuter c = true := by
  unfold isOuter
  rw [h, Bool.or_true]

theorem utf8Size_of_isInner (h : isInner c = true) : c.utf8Size = 1 := by
  rw [Char.utf8Size_eq_one_iff]
  show c.toNat ≤ 127
  simp only [isInner, isLower, Char.isDigit, Bool.or_eq_true, Bool.and_eq_true, decide_eq_true_eq,
    beq_iff_eq] at h
  rcases h with (hlower | hdigit) | rfl
  · omega
  · have hlast : c.toNat ≤ 57 := hdigit.2
    omega
  · decide

theorem utf8ByteSize_of_utf8Size_eq_one (h : ∀ c ∈ s, c.utf8Size = 1) :
    (String.ofList s).utf8ByteSize = s.length := by
  induction s with
  | nil => rfl
  | cons c s ih =>
      have hrest : ∀ c' ∈ s, c'.utf8Size = 1 := fun c' hc' => h c' (List.mem_cons_of_mem c hc')
      rw [String.ofList_cons, String.utf8ByteSize_append, String.utf8ByteSize_singleton,
        h c List.mem_cons_self, ih hrest, List.length_cons, Nat.add_comm]

/-!
## Labels
-/

/-- Characters that a label may begin with: a letter stands first. -/
structure Begins (s : List Char) : Prop where
  inner : ∀ c ∈ s, isInner c = true
  first : ∃ c, (∃ rest, s = c :: rest) ∧ isLower c = true

/-- Characters that a label may end with: a letter or a digit stands last. -/
structure Ends (s : List Char) : Prop where
  inner : ∀ c ∈ s, isInner c = true
  last : ∃ c, (∃ rest, s = rest ++ [c]) ∧ isOuter c = true

theorem isLabel_iff : isLabel s = true ↔ Begins s ∧ Ends s := by
  unfold isLabel
  rw [Bool.and_eq_true, Bool.and_eq_true, List.all_eq_true, Option.any_eq_true, Option.any_eq_true]
  simp only [List.head?_eq_some_iff, List.getLast?_eq_some_iff]
  constructor
  · intro h
    exact ⟨⟨h.1.1, h.1.2⟩, ⟨h.1.1, h.2⟩⟩
  · intro h
    exact ⟨⟨h.1.inner, h.1.first⟩, h.2.last⟩

theorem Ends.append (hs : ∀ c ∈ s, isInner c = true) (ht : Ends t) : Ends (s ++ t) := by
  rcases ht.last with ⟨d, ⟨rest, hrest⟩, hlast⟩
  constructor
  · intro c hc
    rcases List.mem_append.mp hc with hc | hc
    · exact hs c hc
    · exact ht.inner c hc
  · exact ⟨d, ⟨s ++ rest, by rw [hrest, List.append_assoc]⟩, hlast⟩

theorem isLabel_append (hs : Begins s) (ht : Ends t) : isLabel (s ++ t) = true := by
  have hends : Ends (s ++ t) := Ends.append hs.inner ht
  rcases hs.first with ⟨c, ⟨rest, hrest⟩, hfirst⟩
  rw [isLabel_iff]
  constructor
  · exact ⟨hends.inner, c, ⟨rest ++ t, by rw [hrest, List.cons_append]⟩, hfirst⟩
  · exact hends

theorem ends_of_isOuter (hne : s ≠ []) (hs : ∀ c ∈ s, isOuter c = true) : Ends s where
  inner := fun c hc => isInner_of_isOuter (hs c hc)
  last := by
    refine ⟨s.getLast hne, ⟨s.dropLast, ?_⟩, hs _ (List.getLast_mem hne)⟩
    rw [List.dropLast_concat_getLast]

/-- A name passes if it is a label and not too long; the characters of a label take a byte each. -/
theorem check_eq_ok_iff :
    check name limit = .ok () ↔ isLabel name.toList = true ∧ name.toList.length ≤ limit := by
  have hempty : isLabel [] = false := rfl
  by_cases hlabel : isLabel name.toList = true
  · have hinner := (isLabel_iff.mp hlabel).1.inner
    have hsize := utf8ByteSize_of_utf8Size_eq_one fun c hc => utf8Size_of_isInner (hinner c hc)
    rw [String.ofList_toList] at hsize
    have hne : name ≠ "" := by
      rintro rfl
      exact absurd hlabel (by decide)
    unfold check
    rw [if_neg hne, hsize]
    by_cases hlong : limit < name.toList.length
    · rw [if_pos hlong]
      simp [Nat.not_le.mpr hlong]
    · rw [if_neg hlong, if_pos hlabel]
      simp [hlabel, Nat.not_lt.mp hlong]
  · unfold check
    by_cases hname : name = ""
    · simp [hname, hempty]
    · by_cases hlong : limit < name.utf8ByteSize
      · simp [hname, hlong, hlabel]
      · simp [hname, hlong, hlabel]

/-!
## Dropping dashes
-/

theorem dropDashes_cons (hc : c ≠ '-') (s : List Char) :
    dropDashes (c :: s) = c :: dropDashes s := by
  have hkept : [c].dropWhile (· == '-') = [c] := by
    simp [hc]
  unfold dropDashes
  rw [List.reverse_cons, List.dropWhile_append, hkept]
  split
  · rename_i hnone
    rw [List.isEmpty_iff.mp hnone]
    rfl
  · rw [List.reverse_append]
    rfl

theorem dropDashes_sublist (s : List Char) : (dropDashes s).Sublist s := by
  have hsuffix := (List.dropWhile_sublist (p := (· == '-')) (l := s.reverse)).reverse
  rw [List.reverse_reverse] at hsuffix
  exact hsuffix

/-- The beginning of a label that is cut off anywhere but before its first letter. -/
theorem begins_dropDashes_take (hs : Begins s) (n : Nat) :
    Begins (dropDashes (s.take (n + 1))) := by
  constructor
  · intro c hc
    exact hs.inner c ((List.take_sublist _ _).subset ((dropDashes_sublist _).subset hc))
  · rcases hs.first with ⟨c, ⟨rest, rfl⟩, hfirst⟩
    have hdash : c ≠ '-' := by
      rintro rfl
      exact absurd hfirst (by decide)
    rw [List.take_succ_cons, dropDashes_cons hdash]
    exact ⟨c, ⟨_, rfl⟩, hfirst⟩

/-!
## The names of clusters
-/

theorem isOuter_of_mem_minuteText (ht : instant.HasPlainYear) (hc : c ∈ instant.minuteText) :
    isOuter c = true :=
  isOuter_of_isDigit (ht.isDigit_of_mem_secondText (List.mem_append_left _ hc))

theorem toList_forCluster (ht : instant.HasPlainYear) (source : String) :
    (forCluster source instant).toList =
      dropDashes (source.toList.take 9) ++ '-' :: instant.minuteText := by
  unfold forCluster
  rw [String.toList_ofList, ht.length_minuteText]
  rfl

/-- The longest stamp of all years leaves room for a dash and more. -/
theorem length_minuteText_lt (t : Instant) : t.minuteText.length + 1 ≤ clusterLimit := by
  have hyear := t.length_yearText_le
  rw [t.length_minuteText]
  unfold clusterLimit
  omega

theorem utf8ByteSize_minuteText (t : Instant) :
    (String.ofList t.minuteText).utf8ByteSize = t.minuteText.length := by
  apply utf8ByteSize_of_utf8Size_eq_one
  intro c hc
  have hdigit (h : c.isDigit = true) : c.utf8Size = 1 :=
    utf8Size_of_isInner (isInner_of_isOuter (isOuter_of_isDigit h))
  rcases Instant.mem_secondText (List.mem_append_left _ hc) with hyear | hdigits
  · rcases Instant.mem_yearText hyear with rfl | rfl | hdigits
    · rfl
    · rfl
    · exact hdigit hdigits
  · exact hdigit hdigits

theorem check_forCluster (hsource : check source limit = .ok ()) (ht : instant.HasPlainYear) :
    check (forCluster source instant) clusterLimit = .ok () := by
  have hlabel := (check_eq_ok_iff.mp hsource).1
  have hstem := begins_dropDashes_take (isLabel_iff.mp hlabel).1 8
  have hlength := (dropDashes_sublist (source.toList.take 9)).length_le
  rw [List.length_take] at hlength
  rw [check_eq_ok_iff, toList_forCluster ht]
  constructor
  · have hdash : ∀ c ∈ ['-'], isInner c = true := List.forall_mem_singleton.mpr (by decide)
    have hne : instant.minuteText ≠ [] := by
      rw [← List.length_pos_iff, ht.length_minuteText]
      decide
    have hstamp := ends_of_isOuter hne fun c hc => isOuter_of_mem_minuteText ht hc
    exact isLabel_append hstem (Ends.append hdash hstamp)
  · rw [List.length_append, List.length_cons, ht.length_minuteText]
    unfold clusterLimit
    omega

theorem forCluster_eq_iff (ht : instant.HasPlainYear) (ht' : instant'.HasPlainYear)
    (source : String) :
    forCluster source instant = forCluster source instant' ↔ instant.SameMinute instant' := by
  rw [← String.toList_inj, toList_forCluster ht, toList_forCluster ht', List.append_cancel_left_eq,
    List.cons_eq_cons, Instant.minuteText_eq_iff]
  exact and_iff_right rfl

/-!
## The names of jobs
-/

/-- A nonce as it is drawn. -/
structure IsNonce (nonce : String) : Prop where
  length_eq : nonce.toList.length = nonceLength
  mem_alphabet : ∀ c ∈ nonce.toList, c ∈ nonceAlphabet

instance (nonce : String) : Decidable (IsNonce nonce) :=
  decidable_of_iff
    (nonce.toList.length = nonceLength ∧ (nonce.toList.all (· ∈ nonceAlphabet)) = true)
    ⟨fun h => ⟨h.1, by simpa using h.2⟩, fun h => ⟨h.length_eq, by simpa using h.mem_alphabet⟩⟩

theorem isOuter_of_mem_nonce (hnonce : IsNonce nonce) (hc : c ∈ nonce.toList) :
    isOuter c = true := by
  have hall : ∀ c ∈ nonceAlphabet, isOuter c = true := List.all_eq_true.mp (by decide)
  exact hall c (hnonce.mem_alphabet c hc)

/-- What stands behind the name of the cluster. -/
def jobSuffix (instant : Instant) (nonce : String) : List Char :=
  '-' :: (instant.secondText ++ '-' :: nonce.toList)

theorem length_jobSuffix (ht : instant.HasPlainYear) (hnonce : IsNonce nonce) :
    (jobSuffix instant nonce).length = 21 := by
  unfold jobSuffix
  rw [List.length_cons, List.length_append, List.length_cons, ht.length_secondText,
    hnonce.length_eq]
  rfl

theorem toList_forJob (cluster : String) (instant : Instant) (nonce : String) :
    (forJob cluster instant nonce).toList =
      "restore-".toList ++ (cluster.toList ++ jobSuffix instant nonce) := by
  unfold forJob Instant.nameSuffix jobSuffix
  simp only [String.toList_append, String.toList_ofList, List.append_assoc]
  rfl

theorem ends_jobSuffix (ht : instant.HasPlainYear) (hnonce : IsNonce nonce) :
    Ends (jobSuffix instant nonce) := by
  have hdash : ∀ c ∈ ['-'], isInner c = true := List.forall_mem_singleton.mpr (by decide)
  have hdigits : ∀ c ∈ instant.secondText, isInner c = true := by
    intro c hc
    exact isInner_of_isOuter (isOuter_of_isDigit (ht.isDigit_of_mem_secondText hc))
  have hne : nonce.toList ≠ [] := by
    rw [← List.length_pos_iff, hnonce.length_eq]
    decide
  have hends := ends_of_isOuter hne fun c hc => isOuter_of_mem_nonce hnonce hc
  exact Ends.append hdash (Ends.append hdigits (Ends.append hdash hends))

theorem check_forJob (hcluster : check cluster clusterLimit = .ok ()) (ht : instant.HasPlainYear)
    (hnonce : IsNonce nonce) : check (forJob cluster instant nonce) 63 = .ok () := by
  have hbegins : Begins "restore-".toList := by
    constructor
    · exact List.all_eq_true.mp (by decide)
    · exact ⟨'r', ⟨_, rfl⟩, by decide⟩
  rcases check_eq_ok_iff.mp hcluster with ⟨hlabel, hlength⟩
  have hinner := (isLabel_iff.mp hlabel).1.inner
  rw [check_eq_ok_iff, toList_forJob]
  constructor
  · exact isLabel_append hbegins (Ends.append hinner (ends_jobSuffix ht hnonce))
  · have hword : "restore-".toList.length = 8 := rfl
    rw [List.length_append, List.length_append, length_jobSuffix ht hnonce, hword]
    unfold clusterLimit at hlength
    omega

theorem jobSuffix_inj (ht : instant.HasPlainYear) (ht' : instant'.HasPlainYear)
    (h : jobSuffix instant nonce = jobSuffix instant' nonce') :
    instant.SameSecond instant' ∧ nonce = nonce' := by
  have hlength : instant.secondText.length = instant'.secondText.length := by
    rw [ht.length_secondText, ht'.length_secondText]
  rcases List.append_inj (List.cons.inj h).2 hlength with ⟨hstamp, hnonce⟩
  exact ⟨Instant.secondText_eq_iff.mp hstamp, String.toList_inj.mp (List.cons.inj hnonce).2⟩

theorem forJob_eq_iff (ht : instant.HasPlainYear) (ht' : instant'.HasPlainYear)
    (hnonce : IsNonce nonce) (hnonce' : IsNonce nonce') (cluster cluster' : String) :
    forJob cluster instant nonce = forJob cluster' instant' nonce' ↔
      cluster = cluster' ∧ instant.SameSecond instant' ∧ nonce = nonce' := by
  constructor
  · intro hname
    rw [← String.toList_inj, toList_forJob, toList_forJob, List.append_cancel_left_eq] at hname
    have hlength : (jobSuffix instant nonce).length = (jobSuffix instant' nonce').length := by
      rw [length_jobSuffix ht hnonce, length_jobSuffix ht' hnonce']
    rcases List.append_inj' hname hlength with ⟨hcluster, hsuffix⟩
    exact ⟨String.toList_inj.mp hcluster, jobSuffix_inj ht ht' hsuffix⟩
  · intro hparts
    unfold forJob Instant.nameSuffix
    rw [hparts.1, Instant.secondText_eq_iff.mpr hparts.2.1, hparts.2.2]

/-!
## Both kinds of names
-/

theorem generated_names_legal_and_distinct (hsource : check source limit = .ok ())
    (ht : instant.HasPlainYear) (hcluster : check cluster clusterLimit = .ok ())
    (hnonce : IsNonce nonce) :
    check (forCluster source instant) clusterLimit = .ok () ∧
      (∀ instant' : Instant, instant'.HasPlainYear →
        (forCluster source instant = forCluster source instant' ↔
          instant.SameMinute instant')) ∧
      (∀ t : Instant, (String.ofList t.minuteText).utf8ByteSize = t.minuteText.length ∧
        t.minuteText.length + 1 ≤ clusterLimit) ∧
      check (forJob cluster instant nonce) 63 = .ok () ∧
      ∀ (cluster' : String) (instant' : Instant) (nonce' : String),
        instant'.HasPlainYear → IsNonce nonce' →
        (forJob cluster instant nonce = forJob cluster' instant' nonce' ↔
          cluster = cluster' ∧ instant.SameSecond instant' ∧ nonce = nonce') := by
  refine ⟨check_forCluster hsource ht, ?_, ?_, check_forJob hcluster ht hnonce, ?_⟩
  · intro instant' ht'
    exact forCluster_eq_iff ht ht' source
  · intro t
    exact ⟨utf8ByteSize_minuteText t, length_minuteText_lt t⟩
  · intro cluster' instant' nonce' ht' hnonce'
    exact forJob_eq_iff ht ht' hnonce hnonce' cluster cluster'

/-!
### A leap second
-/

/-- The last second of 2016, which lasted two. -/
def leapSecond : Instant :=
  ⟨1483228799, 1000000000, by decide⟩

theorem names_of_leap_second :
    check "archive--eu" 253 = .ok () ∧
      leapSecond.HasPlainYear ∧
      forCluster "archive--eu" leapSecond = "archive-201612312359" ∧
      check "archive-201612312359" clusterLimit = .ok () ∧
      IsNonce "bcdfg" ∧
      forJob "archive-201612312359" leapSecond "bcdfg" =
        "restore-archive-201612312359-20161231235960-bcdfg" ∧
      check "restore-archive-201612312359-20161231235960-bcdfg" 63 = .ok () ∧
      forJob "archive-201612312359" leapSecond "bcdfg" ≠
        forJob "archive-201612312359" leapSecond "bcdfh" := by
  have hsource : check "archive--eu" 253 = .ok () := check_eq_ok_iff.mpr (by decide)
  have ht : leapSecond.HasPlainYear := by
    unfold Instant.HasPlainYear
    decide
  have hname : forCluster "archive--eu" leapSecond = "archive-201612312359" := by decide +kernel
  have hcluster : check "archive-201612312359" clusterLimit = .ok () :=
    check_eq_ok_iff.mpr (by decide)
  have hnonce : IsNonce "bcdfg" := by decide
  have hnonce' : IsNonce "bcdfh" := by decide
  have hjob : forJob "archive-201612312359" leapSecond "bcdfg" =
      "restore-archive-201612312359-20161231235960-bcdfg" := by
    decide +kernel
  rcases generated_names_legal_and_distinct hsource ht hcluster hnonce with
    ⟨hcheck, _, _, hcheck', hdistinct⟩
  rw [hname] at hcheck
  rw [hjob] at hcheck'
  refine ⟨hsource, ht, hname, hcheck, hnonce, hjob, hcheck', ?_⟩
  intro hsame
  rcases (hdistinct _ _ _ ht hnonce').mp hsame with ⟨_, _, hdraw⟩
  exact absurd hdraw (by decide)

end Name
end PointInTime
