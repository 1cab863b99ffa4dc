import Mathlib.Algebra.GroupWithZero.Nat
import Mathlib.Algebra.Order.BigOperators.Group.List
import Mathlib.Algebra.Order.Group.Nat
import Mathlib.Data.List.Forall2
import Mathlib.Data.List.TakeWhile
import PointInTime.Proofs.Text.Decimal
import PointInTime.Workflow.Summary

/-!
# Reading a summary

The answer to the query for tables stands between line feeds.  White space at the end of a line says
nothing; what is left of a line is nothing at all, or it tells of one database: its name up to the
first tab, and behind the tab the count.

Main statement: an answer is read if each line of it that is not blank tells of a database, and as
these databases in their order.  Rows that are laid out in an answer are read as they are, with
their number and their sum.
-/

namespace PointInTime
namespace DatabaseSummary

open Text

variable {d : DatabaseTables} {line : List Char}

/-!
## What a line tells
-/

/-- A count, which white space may surround. -/
def IsCount (n : Nat) (s : List Char) : Prop :=
  ∃ before numeral after, s = before ++ numeral ++ after ∧ IsNumeral n numeral ∧ n < 2 ^ 64 ∧
    (∀ c ∈ before, isBlank c = true) ∧ ∀ c ∈ after, isBlank c = true

/-- A line tells of a database: its name stands before the first tab, the count behind it. -/
def Tells (line : List Char) (d : DatabaseTables) : Prop :=
  ∃ count, line = d.name.toList ++ '\t' :: count ∧ '\t' ∉ d.name.toList ∧ IsCount d.tables count

theorem isCount_iff {n : Nat} {s : List Char} :
    IsCount n s ↔ numeral? countBound (trim s) = some n := by
  rw [numeral?_eq_some_iff]
  constructor
  · intro h
    rcases h with ⟨before, numeral, after, rfl, hn, hbound, hbefore, hafter⟩
    rw [trim_append hbefore numeral hafter, hn.trim_eq]
    exact ⟨hn, hbound⟩
  · intro h
    rcases h with ⟨hn, hbound⟩
    rcases exists_append_trim_append s with ⟨before, after, hbefore, hafter, hs⟩
    exact ⟨before, trim s, after, hs, hn, hbound, hbefore, hafter⟩

theorem ne_tab_of_notMem {s : List Char} (h : '\t' ∉ s) : ∀ c ∈ s, decide (c ≠ '\t') = true := by
  intro c hc
  apply decide_eq_true
  intro htab
  exact h (htab ▸ hc)

theorem readLine_append_eq_ok_iff {name : String} (hname : '\t' ∉ name.toList)
    (count : List Char) :
    readLine (name.toList ++ '\t' :: count) = .ok d ↔ d.name = name ∧ IsCount d.tables count := by
  have hbefore := ne_tab_of_notMem hname
  have hrest : (name.toList ++ '\t' :: count).dropWhile (· ≠ '\t') = '\t' :: count := by
    rw [List.dropWhile_append_of_pos hbefore]
    exact List.dropWhile_cons_of_neg (by decide)
  have hfirst : (name.toList ++ '\t' :: count).takeWhile (· ≠ '\t') = name.toList := by
    rw [List.takeWhile_append_of_pos hbefore, List.takeWhile_cons_of_neg (by decide),
      List.append_nil]
  simp only [readLine, hrest, hfirst, String.ofList_toList, isCount_iff]
  cases d with
  | mk dname tables =>
      cases numeral? countBound (trim count) with
      | none => simp
      | some n => simp [eq_comm]

theorem readLine_of_no_tab (h : '\t' ∉ line) : ∃ e, readLine line = .error e := by
  have hrest : line.dropWhile (· ≠ '\t') = [] :=
    List.dropWhile_eq_nil_iff.mpr (ne_tab_of_notMem h)
  unfold readLine
  rw [hrest]
  exact ⟨_, rfl⟩

theorem readLine_eq_ok_iff : readLine line = .ok d ↔ Tells line d := by
  constructor
  · intro h
    by_cases htab : '\t' ∈ line
    · rcases List.eq_append_cons_of_mem htab with ⟨name, count, hline, hname⟩
      rw [← String.toList_ofList (l := name)] at hline hname
      rw [hline, readLine_append_eq_ok_iff hname] at h
      rcases h with ⟨hd, hcount⟩
      rw [← hd] at hline hname
      exact ⟨count, hline, hname, hcount⟩
    · rcases readLine_of_no_tab htab with ⟨e, he⟩
      rw [he] at h
      cases h
  · intro h
    rcases h with ⟨count, rfl, hname, hcount⟩
    exact (readLine_append_eq_ok_iff hname count).mpr ⟨rfl, hcount⟩

/-!
## Lines that are not blank
-/

def nonblank (lines : List (List Char)) : List (List Char) :=
  (lines.map trimEnd).filter (· ≠ [])

/-- What stands between the line feeds of a text and is not blank. -/
def nonblankLines (s : List Char) : List (List Char) :=
  nonblank (s.splitOn '\n')

theorem nonblank_append (lines more : List (List Char)) :
    nonblank (lines ++ more) = nonblank lines ++ nonblank more := by
  unfold nonblank
  rw [List.map_append, List.filter_append]

theorem nonblank_congr {line' : List Char} (h : trimEnd line = trimEnd line') :
    nonblank [line] = nonblank [line'] := by
  unfold nonblank
  rw [List.map_singleton, List.map_singleton, h]

theorem nonblankLines_append_cons (s rest : List Char) :
    nonblankLines (s ++ '\n' :: rest) = nonblankLines s ++ nonblankLines rest := by
  unfold nonblankLines
  rw [List.splitOn_append_cons_self, nonblank_append]

theorem nonblankLines_line (hline : '\n' ∉ line) : nonblankLines line = nonblank [line] := by
  unfold nonblankLines
  rw [List.splitOn_eq_singleton hline]

theorem trimEnd_append_carriage_return (s : List Char) : trimEnd (s ++ ['\r']) = trimEnd s :=
  trimEnd_append s (List.forall_mem_singleton.mpr (by decide))

/-- A carriage return before a line feed is blank, and at the end of its line. -/
theorem linesFrom_line_feed (line rest : List Char) :
    ∃ ended, lines.linesFrom line ('\n' :: rest) = ended :: lines.linesFrom [] rest ∧
      trimEnd ended = trimEnd line.reverse := by
  by_cases hline : ∃ before, line = '\r' :: before
  · rcases hline with ⟨before, rfl⟩
    refine ⟨before.reverse, rfl, ?_⟩
    rw [List.reverse_cons, trimEnd_append_carriage_return]
  · refine ⟨line.reverse, ?_, rfl⟩
    rw [lines.linesFrom]
    intro before hbefore
    exact hline ⟨before, hbefore⟩

/-- Lines are collected from their beginnings; `line` is, in reverse, what the current one has so
far. -/
theorem nonblank_linesFrom (s : List Char) (hline : '\n' ∉ line) :
    nonblank (lines.linesFrom line s) = nonblankLines (line.reverse ++ s) := by
  induction s generalizing line with
  | nil =>
      rw [List.append_nil, nonblankLines_line (mt List.mem_reverse.mp hline)]
      unfold lines.linesFrom
      cases line with
      | nil => rfl
      | cons c line => rw [if_neg (List.cons_ne_nil c line)]
  | cons c rest ih =>
      by_cases hc : c = '\n'
      · subst hc
        rcases linesFrom_line_feed line rest with ⟨ended, hended, htrim⟩
        have hrest : nonblank (lines.linesFrom [] rest) = nonblankLines rest :=
          ih List.not_mem_nil
        rw [hended, nonblankLines_append_cons, nonblankLines_line (mt List.mem_reverse.mp hline),
          ← hrest, ← nonblank_congr htrim, ← nonblank_append]
        rfl
      · have hlonger : '\n' ∉ c :: line := by
          intro h
          rcases List.mem_cons.mp h with h | h
          · exact hc h.symm
          · exact hline h
        have hstep : lines.linesFrom line (c :: rest) = lines.linesFrom (c :: line) rest := by
          simp [lines.linesFrom]
        rw [hstep, ih hlonger, List.reverse_cons, List.append_assoc, List.singleton_append]

theorem filledLines_eq (s : List Char) : filledLines s = nonblankLines s :=
  nonblank_linesFrom s List.not_mem_nil

/-!
## Rows laid out
-/

def rowText (d : DatabaseTables) : List Char :=
  d.name.toList ++ '\t' :: Nat.toDigits 10 d.tables

def IsBlankLine (line : List Char) : Prop :=
  ∀ c ∈ line, isBlank c = true ∧ c ≠ '\n'

instance (line : List Char) : Decidable (IsBlankLine line) :=
  decidable_of_iff ((line.all fun c => isBlank c && c ≠ '\n') = true) (by simp [IsBlankLine])

theorem IsBlankLine.line_feed_notMem (hline : IsBlankLine line) : '\n' ∉ line :=
  fun h => (hline _ h).2 rfl

theorem nonblankLines_blank (hline : IsBlankLine line) : nonblankLines line = [] := by
  have hend : trimEnd line = [] := by
    rw [← List.nil_append line, trimEnd_append [] fun c hc => (hline c hc).1]
    rfl
  rw [nonblankLines_line hline.line_feed_notMem, nonblank, List.map_singleton, hend]
  rfl

theorem line_feed_notMem_rowText (hname : '\n' ∉ d.name.toList) : '\n' ∉ rowText d := by
  intro h
  rcases List.mem_append.mp h with h | h
  · exact hname h
  · rcases List.mem_cons.mp h with h | h
    · exact absurd h (by decide)
    · exact absurd ((isDecimal_toDigits d.tables).2.1 _ h) (by decide)

theorem nonblankLines_rowText (hname : '\n' ∉ d.name.toList) :
    nonblankLines (rowText d) = [rowText d] := by
  have hend : trimEnd (rowText d) = rowText d := by
    have h := (isDecimal_toDigits d.tables).trimEnd_append (d.name.toList ++ ['\t'])
    rw [List.append_assoc] at h
    exact h
  have hne : rowText d ≠ [] := List.append_ne_nil_of_right_ne_nil _ (List.cons_ne_nil _ _)
  rw [nonblankLines_line (line_feed_notMem_rowText hname), nonblank, List.map_singleton, hend]
  exact List.filter_cons_of_pos (decide_eq_true hne)

theorem tells_rowText (hname : '\t' ∉ d.name.toList) (hbound : d.tables < 2 ^ 64) :
    Tells (rowText d) d := by
  have hcount : IsCount d.tables (Nat.toDigits 10 d.tables) := by
    refine ⟨[], Nat.toDigits 10 d.tables, [], ?_, ?_, hbound, ?_, ?_⟩
    · exact (List.append_nil _).symm
    · exact ⟨_, Or.inl rfl, isDecimal_toDigits d.tables⟩
    · exact List.forall_mem_nil _
    · exact List.forall_mem_nil _
  exact ⟨Nat.toDigits 10 d.tables, rfl, hname, hcount⟩

def lineEnds : List (List Char) :=
  [['\n'], ['\r', '\n']]

/-- Rows in order, each on a line of its own, with blank lines anywhere.  The last line may do
without an end. -/
inductive Lays : List DatabaseTables → List Char → Prop
  | blank {rows : List DatabaseTables} {line ending rest : List Char} :
      IsBlankLine line → ending ∈ lineEnds → Lays rows rest → Lays rows (line ++ (ending ++ rest))
  | row {rows : List DatabaseTables} {ending rest : List Char} (d : DatabaseTables) :
      ending ∈ lineEnds → Lays rows rest → Lays (d :: rows) (rowText d ++ (ending ++ rest))
  | lastBlank {line : List Char} : IsBlankLine line → Lays [] line
  | lastRow (d : DatabaseTables) : Lays [d] (rowText d)

theorem nonblankLines_ended {ending : List Char} (hending : ending ∈ lineEnds)
    (hline : '\n' ∉ line) (rest : List Char) :
    nonblankLines (line ++ (ending ++ rest)) = nonblankLines line ++ nonblankLines rest := by
  rcases List.mem_cons.mp hending with rfl | hending
  · exact nonblankLines_append_cons line rest
  · cases List.mem_singleton.mp hending
    have hlonger : '\n' ∉ line ++ ['\r'] := by
      intro h
      rcases List.mem_append.mp h with h | h
      · exact hline h
      · exact absurd (List.mem_singleton.mp h) (by decide)
    have hsame : nonblankLines (line ++ ['\r']) = nonblankLines line := by
      rw [nonblankLines_line hlonger, nonblankLines_line hline]
      exact nonblank_congr (trimEnd_append_carriage_return line)
    rw [← hsame, ← nonblankLines_append_cons, List.append_assoc]
    rfl

theorem Lays.nonblankLines_eq {rows : List DatabaseTables} {s : List Char} (h : Lays rows s)
    (hnames : ∀ d ∈ rows, '\n' ∉ d.name.toList) : nonblankLines s = rows.map rowText := by
  induction h with
  | blank hline hending _ ih =>
      rw [nonblankLines_ended hending hline.line_feed_notMem, nonblankLines_blank hline, ih hnames,
        List.nil_append]
  | row d hending _ ih =>
      rcases List.forall_mem_cons.mp hnames with ⟨hd, hrows⟩
      rw [nonblankLines_ended hending (line_feed_notMem_rowText hd), nonblankLines_rowText hd,
        ih hrows]
      rfl
  | lastBlank hline => exact nonblankLines_blank hline
  | lastRow d => exact nonblankLines_rowText (hnames d List.mem_cons_self)

/-!
## Reading an answer
-/

theorem mapM_eq_ok_iff {α β ε : Type} {f : α → Except ε β} {xs : List α} {ys : List β} :
    xs.mapM f = .ok ys ↔ List.Forall₂ (fun x y => f x = .ok y) xs ys := by
  induction xs generalizing ys with
  | nil =>
      rw [List.mapM_nil, List.forall₂_nil_left_iff]
      constructor
      · intro h
        cases h
        rfl
      · intro h
        rw [h]
        rfl
  | cons x xs ih =>
      rw [List.mapM_cons, List.forall₂_cons_left_iff]
      constructor
      · intro h
        cases hx : f x with
        | error e =>
            rw [hx] at h
            cases h
        | ok y =>
            cases hxs : xs.mapM f with
            | error e =>
                rw [hx, hxs] at h
                cases h
            | ok rest =>
                rw [hx, hxs] at h
                cases h
                exact ⟨y, rest, rfl, ih.mp hxs, rfl⟩
      · intro h
        rcases h with ⟨y, rest, hx, hrest, rfl⟩
        rw [hx, ih.mpr hrest]
        rfl

theorem parse_eq_ok_iff {cluster output : String} {s : DatabaseSummary} :
    parse cluster output = .ok s ↔
      s.cluster = cluster ∧ List.Forall₂ Tells (nonblankLines output.toList) s.databases := by
  have hlines : ∀ databases, (nonblankLines output.toList).mapM readLine = .ok databases ↔
      List.Forall₂ Tells (nonblankLines output.toList) databases := by
    intro databases
    simp only [mapM_eq_ok_iff, readLine_eq_ok_iff]
  unfold parse
  rw [filledLines_eq, ← hlines]
  cases hread : (nonblankLines output.toList).mapM readLine with
  | error e =>
      constructor
      · intro h
        cases h
      · intro h
        cases h.2
  | ok databases =>
      constructor
      · intro h
        cases h
        exact ⟨rfl, rfl⟩
      · intro h
        rcases h with ⟨rfl, hdatabases⟩
        cases hdatabases
        rfl

theorem totalTables_eq {s : DatabaseSummary} (h : (s.databases.map (·.tables)).sum < 2 ^ 64) :
    s.totalTables = (s.databases.map (·.tables)).sum :=
  Nat.mod_eq_of_lt h

/-- An answer is read if each line of it that is not blank tells of a database, and then as these
databases, one for each line; rows laid out in an answer are read as they are, and counted. -/
theorem summary_read_exactly (cluster output : String) :
    (∀ s, parse cluster output = .ok s ↔
      s.cluster = cluster ∧ List.Forall₂ Tells (nonblankLines output.toList) s.databases) ∧
    (∀ s, parse cluster output = .ok s →
      s.totalDatabases = (nonblankLines output.toList).length) ∧
    ∀ rows : List DatabaseTables,
      (∀ d ∈ rows, '\t' ∉ d.name.toList ∧ '\n' ∉ d.name.toList) →
      (rows.map (·.tables)).sum < 2 ^ 64 → Lays rows output.toList →
      ∃ s, parse cluster output = .ok s ∧ s.databases = rows ∧ s.totalDatabases = rows.length ∧
        s.totalTables = (rows.map (·.tables)).sum := by
  refine ⟨fun s => parse_eq_ok_iff, ?_, ?_⟩
  · intro s hs
    exact (parse_eq_ok_iff.mp hs).2.length_eq.symm
  · intro rows hnames hsum hrows
    have hlines := hrows.nonblankLines_eq fun d hd => (hnames d hd).2
    have htells : List.Forall₂ Tells (rows.map rowText) rows := by
      rw [List.forall₂_map_left_iff, List.forall₂_same]
      intro d hd
      have hcount : d.tables ≤ (rows.map (·.tables)).sum :=
        List.le_sum_of_mem (List.mem_map_of_mem hd)
      exact tells_rowText (hnames d hd).1 (Nat.lt_of_le_of_lt hcount hsum)
    have hread : parse cluster output = .ok ⟨cluster, rows⟩ := by
      rw [parse_eq_ok_iff, hlines]
      exact ⟨rfl, htells⟩
    exact ⟨⟨cluster, rows⟩, hread, rfl, rfl, totalTables_eq hsum⟩

def mixedRows : List DatabaseTables :=
  [⟨"orders", 12⟩, ⟨"", 0⟩, ⟨"\u2003old stock ", 4⟩]

def mixedAnswer : String :=
  "orders\t12\r\n \u00a0\r\n\t0\n\u2003old stock \t4"

theorem summary_of_mixed_lines :
    (∀ d ∈ mixedRows, '\t' ∉ d.name.toList ∧ '\n' ∉ d.name.toList) ∧
    (mixedRows.map (·.tables)).sum < 2 ^ 64 ∧ Lays mixedRows mixedAnswer.toList ∧
    ∃ s, parse "staging" mixedAnswer = .ok s ∧ s.databases = mixedRows ∧ s.totalDatabases = 3 ∧
      s.totalTables = 16 := by
  have hnames : ∀ d ∈ mixedRows, '\t' ∉ d.name.toList ∧ '\n' ∉ d.name.toList := by decide
  have hsum : (mixedRows.map (·.tables)).sum < 2 ^ 64 := by decide
  have hlast : Lays [⟨"\u2003old stock ", 4⟩] "\u2003old stock \t4".toList := Lays.lastRow _
  have hrows : Lays mixedRows mixedAnswer.toList := by
    have hlf : ['\n'] ∈ lineEnds := by decide
    have hcrlf : ['\r', '\n'] ∈ lineEnds := by decide
    have hblank : IsBlankLine [' ', '\u00a0'] := by decide
    exact Lays.row ⟨"orders", 12⟩ hcrlf (Lays.blank hblank hcrlf (Lays.row ⟨"", 0⟩ hlf hlast))
  exact ⟨hnames, hsum, hrows,
    (summary_read_exactly "staging" mixedAnswer).2.2 mixedRows hnames hsum hrows⟩

end DatabaseSummary
end PointInTime
