import CodeIndex.Proofs.LaidOut
import CodeIndex.Proofs.VisitorCalls
/-!
# Ranges of lines

A range is given by its first line and how many lines it has. In memory a visitor of a range is
shown those occurrences of the record that stand on one of its lines, in their order and with all
that belongs to them. The end of a range is kept as a number of 32 bits and is not part of the
range, so the last line that has a number is in none: an occurrence there is shown only to visitors
of the whole record. Ranges that meet share out the range they make up, whatever lines they have.
-/
namespace CodeIndex

/-- The last line that has a number. -/
def lastNumbered : UInt32 := 4294967295

theorem eq_lastNumbered_iff {line : UInt32} :
    line = lastNumbered ↔ line.toNat = UInt32.size - 1 :=
  UInt32.toNat_inj.symm

/-- A line of a range is any that the range counts but the last numbered one. -/
theorem Tables.inLines_eq (start count line : UInt32) :
    Tables.inLines start count line = (lineWithin start count line && line != lastNumbered) := by
  have small : line.toNat ≤ UInt32.size - 1 := Nat.le_sub_one_of_lt line.toNat_lt
  have bound : line.toNat < Tables.lastLine start count ↔
      line.toNat < start.toNat + count.toNat ∧ line ≠ lastNumbered := by
    rw [ne_eq, eq_lastNumbered_iff, Tables.lastLine, Nat.lt_min]
    omega
  rw [Bool.eq_iff_iff]
  simp only [Tables.inLines, lineWithin, Bool.and_eq_true, decide_eq_true_eq, bne_iff_ne, bound,
    and_assoc]

section Adjacent

variable {start a b line : UInt32} (middle : start.toNat + a.toNat < UInt32.size)
include middle

theorem toNat_meeting : (start + a).toNat = start.toNat + a.toNat := by
  rw [UInt32.toNat_add]
  exact Nat.mod_eq_of_lt middle

/-- The first of two ranges that meet has the lines before the place where they do. -/
theorem inLines_before (both : a.toNat + b.toNat < UInt32.size) :
    Tables.inLines start a line =
      (Tables.inLines start (a + b) line && decide (line < start + a)) := by
  have size : (a + b).toNat = a.toNat + b.toNat := toNat_meeting both
  rw [Bool.eq_iff_iff]
  simp only [Tables.inLines, Tables.lastLine, Bool.and_eq_true, decide_eq_true_eq,
    UInt32.lt_iff_toNat_lt, toNat_meeting middle, size, Nat.lt_min]
  omega

/-- The second has the others. -/
theorem inLines_behind (both : a.toNat + b.toNat < UInt32.size) :
    Tables.inLines (start + a) b line =
      (Tables.inLines start (a + b) line && !decide (line < start + a)) := by
  have size : (a + b).toNat = a.toNat + b.toNat := toNat_meeting both
  rw [Bool.eq_iff_iff]
  simp only [Tables.inLines, Tables.lastLine, Bool.and_eq_true, Bool.not_eq_true',
    decide_eq_true_eq, decide_eq_false_iff_not, UInt32.lt_iff_toNat_lt, toNat_meeting middle, size,
    Nat.lt_min]
  omega

end Adjacent

namespace OpenRecord

variable (e : Engine) (r : OpenRecord)

@[simp] theorem items_occurrences : (r.occurrences e none).items = r.reader.occurrences := rfl

@[simp] theorem items_inLines (start count : UInt32) :
    (r.occurrences e (some (start, count))).items = r.reader.inLines start count := rfl

end OpenRecord

/-- A record of which a range of lines lends a part of what the record lends, item for item. -/
structure FiltersLines (e : Engine) (r : OpenRecord) : Prop where
  /-- What visitors of a range are shown. -/
  shown (start count : UInt32) : ReadsAsList e.conduct.heedsStop
    ((r.occurrences e none).items.filter fun o =>
      lineWithin start count o.line && o.line != lastNumbered)
    (r.occurrences e (some (start, count)))
  /-- A range has all that stands on its lines just when none of it stands on the last one that has
  a number. -/
  whole_iff (start count : UInt32) : (r.occurrences e (some (start, count))).items =
      (r.occurrences e none).items.filter (fun o => lineWithin start count o.line) ↔
    ∀ o ∈ (r.occurrences e none).items, o.line = lastNumbered →
      lineWithin start count o.line = false
  /-- A range that ends at a line with a number has all. -/
  whole (start count : UInt32) : start.toNat + count.toNat < UInt32.size →
    (r.occurrences e (some (start, count))).items =
      (r.occurrences e none).items.filter fun o => lineWithin start count o.line
  /-- The items of two ranges that meet are those of the range they make up, each once. -/
  adjacent (start a b : UInt32) : start.toNat + a.toNat < UInt32.size →
    a.toNat + b.toNat < UInt32.size →
    let both := (r.occurrences e (some (start, a + b))).items
    let before := (r.occurrences e (some (start, a))).items
    let behind := (r.occurrences e (some (start + a, b))).items
    before = both.filter (fun o => o.line < start + a) ∧
      behind = both.filter (fun o => !decide (o.line < start + a)) ∧
      (before ++ behind).Perm both

/-- Two filters keep the same of a list just when none of its items tells them apart. -/
theorem filter_eq_filter_iff {α : Type} {p q : α → Bool} {items : List α} :
    items.filter p = items.filter q ↔ ∀ item ∈ items, p item = q item := by
  constructor
  · intro same item among
    have kept : item ∈ items.filter p ↔ item ∈ items.filter q := by rw [same]
    simpa [List.mem_filter, among, ← Bool.eq_iff_iff] using kept
  · exact List.filter_congr

section Filtering

variable {r : OpenRecord} (filters : ∀ start count, r.reader.inLines start count =
  r.reader.occurrences.filter fun o => Tables.inLines start count o.line)
include filters

theorem inLines_eq_filter (start count : UInt32) : r.reader.inLines start count =
    r.reader.occurrences.filter fun o =>
      lineWithin start count o.line && o.line != lastNumbered := by
  rw [filters]
  exact List.filter_congr fun o _ => Tables.inLines_eq start count o.line

theorem inLines_whole_iff (start count : UInt32) : r.reader.inLines start count =
      r.reader.occurrences.filter (fun o => lineWithin start count o.line) ↔
    ∀ o ∈ r.reader.occurrences, o.line = lastNumbered → lineWithin start count o.line = false := by
  rw [inLines_eq_filter filters, filter_eq_filter_iff]
  refine forall₂_congr fun o _ => ?_
  cases lineWithin start count o.line <;> simp

theorem inLines_adjacent {start a b : UInt32} (middle : start.toNat + a.toNat < UInt32.size)
    (both : a.toNat + b.toNat < UInt32.size) :
    r.reader.inLines start a =
        (r.reader.inLines start (a + b)).filter (fun o => o.line < start + a) ∧
      r.reader.inLines (start + a) b =
        (r.reader.inLines start (a + b)).filter fun o => !decide (o.line < start + a) := by
  rw [filters, filters, filters, List.filter_filter, List.filter_filter]
  constructor
  · refine List.filter_congr fun o _ => ?_
    rw [inLines_before middle both, Bool.and_comm]
  · refine List.filter_congr fun o _ => ?_
    rw [inLines_behind middle both, Bool.and_comm]

theorem filtersLines (e : Engine) : FiltersLines e r where
  shown start count := Lending.readsAsList_of rfl (inLines_eq_filter filters start count)
  whole_iff := inLines_whole_iff filters
  whole start count fits := by
    refine (inLines_whole_iff filters start count).mpr fun o _ last => ?_
    have number := eq_lastNumbered_iff.mp last
    simp only [lineWithin, Bool.and_eq_false_iff, decide_eq_false_iff_not]
    omega
  adjacent start a b middle both := by
    obtain ⟨before, behind⟩ := inLines_adjacent filters middle both
    refine ⟨before, behind, ?_⟩
    rw [OpenRecord.items_inLines, OpenRecord.items_inLines, before, behind]
    exact List.filter_append_perm _ _

end Filtering

/-- In memory a range of lines lends what the record lends on its lines but the last numbered one,
to any visitor of any record. -/
theorem line_ranges_filter (t : Tables) (settings : MemorySettings) (name : String)
    (handle : Handle) (file : Option Path) :
    FiltersLines (t.engine settings) ⟨name, handle, file, t.recordReader handle⟩ :=
  filtersLines (t.inLines_recordReader handle) _

/-- An occurrence on the last line that has a number is left out of the range of this line. -/
theorem last_line_in_no_range :
    let c : Contents String String :=
      ⟨[], [⟨"r", [.bare "f"], [⟨0, 1, lastNumbered, 1, []⟩], none⟩]⟩
    let e := (Tables.ofContents c).engine {}
    let r : OpenRecord := ⟨"r", token 0, none, (Tables.ofContents c).recordReader (token 0)⟩
    (e.openRecord "r" none {}).1 = .ok r ∧
      ((r.occurrences e none).items.filter fun o => lineWithin lastNumbered 1 o.line).map (·.line) =
        [lastNumbered] ∧
      (r.occurrences e (some (lastNumbered, 1))).items = [] :=
  ⟨rfl, by decide, by decide⟩

end CodeIndex
