import CodeIndex.Proofs.LineRanges
import CodeIndex.Proofs.ReadBack
/-!
# Where positions lead

The symbols of all records stand in one table, those of each record behind those of the records
declared before it. An occurrence or a relation names a symbol by a position in its record, and the
end of the record does not stop the counting. A position within the record leads to a symbol of its
own. One behind its end leads on into the records that follow and, behind the last of them, to the
empty symbol; none leads back. So a record shows its own symbols alone when the positions it names
are its own or lie behind all symbols, as any do in the last record.
-/
namespace CodeIndex

namespace Contents

variable (c : Contents String String)

/-- The symbols declared from a record on: its own, and behind them those of the later records. -/
def symbolsFrom (j : Nat) : List (SymbolEntry String) := (c.records.drop j).flatMap (·.symbols)

/-- What a position leads to when it is counted on from the first symbol of a record. -/
def symbolFrom (j position : Nat) : Symbol :=
  match (c.symbolsFrom j)[position]? with
  | some s => s.view Utf8.encode
  | none => .empty

variable {c} {j position : Nat} {r : RecordEntry String String}

theorem symbolsFrom_eq (declared : c.records[j]? = some r) :
    c.symbolsFrom j = r.symbols ++ c.symbolsFrom (j + 1) := by
  obtain ⟨inside, rfl⟩ := List.getElem?_eq_some_iff.mp declared
  rw [symbolsFrom, List.drop_eq_getElem_cons inside, List.flatMap_cons, symbolsFrom]

/-- Within the record it is the record's own. -/
theorem symbolFrom_own (declared : c.records[j]? = some r) (own : position < r.symbols.length) :
    c.symbolFrom j position = r.symbolAt Utf8.encode position := by
  rw [symbolFrom, symbolsFrom_eq declared, List.getElem?_append_left own, RecordEntry.symbolAt]
  cases r.symbols[position]? <;> rfl

/-- Behind the end of the record it is counted on in the next. -/
theorem symbolFrom_next (declared : c.records[j]? = some r) (position : Nat) :
    c.symbolFrom j (r.symbols.length + position) = c.symbolFrom (j + 1) position := by
  rw [symbolFrom, symbolsFrom_eq declared, List.getElem?_append_right (Nat.le_add_right _ _),
    Nat.add_sub_cancel_left]
  rfl

/-- Behind all records it is empty. -/
theorem symbolFrom_empty (behind : (c.symbolsFrom j).length ≤ position) :
    c.symbolFrom j position = .empty := by
  rw [symbolFrom, List.getElem?_eq_none behind]

/-- It is never a symbol of a record declared before. -/
theorem symbolFrom_onward (c : Contents String String) (j position : Nat) :
    c.symbolFrom j position = .empty ∨ ∃ i later s, j ≤ i ∧ c.records[i]? = some later ∧
      s ∈ later.symbols ∧ c.symbolFrom j position = s.view Utf8.encode := by
  cases found : (c.symbolsFrom j)[position]? with
  | none => exact .inl (by rw [symbolFrom, found])
  | some s =>
    have leads : c.symbolFrom j position = s.view Utf8.encode := by rw [symbolFrom, found]
    obtain ⟨later, among, declares⟩ := List.mem_flatMap.mp (List.mem_of_getElem? found)
    obtain ⟨i, stands⟩ := List.getElem?_of_mem among
    rw [List.getElem?_drop] at stands
    exact .inr ⟨j + i, later, s, Nat.le_add_right _ _, stands, declares, leads⟩

end Contents

namespace Tables

/-- Tables of which the symbols go on, from the first one of each record, as they are declared. -/
structure InSequence (t : Tables) (rs : List (RecordEntry String String)) : Prop where
  length : t.records.length = rs.length
  begins : ∀ row ∈ t.records, row.symbols.start ≤ t.symbols.length
  onward : ∀ (j : Nat) row, t.records[j]? = some row →
    t.symbols.drop row.symbols.start = (rs.drop j).flatMap (·.symbols)

variable {t : Tables} {rs : List (RecordEntry String String)}

theorem symbols_addRecord (t : Tables) (r : RecordEntry String String) :
    (t.addRecord r).symbols = t.symbols ++ r.symbols :=
  (filled_addOccurrences { t with symbols := t.symbols ++ r.symbols } _ r.occurrences).symbols

/-- A record that is added follows on the symbols of those before. -/
theorem InSequence.addRecord (h : t.InSequence rs) (r : RecordEntry String String) :
    (t.addRecord r).InSequence (rs ++ [r]) where
  length := by
    rw [Tables.addRecord, List.length_append, List.length_append, h.length]
    rfl
  begins row among := by
    rw [symbols_addRecord, List.length_append]
    rcases List.mem_append.mp among with earlier | added
    · exact Nat.le_add_right_of_le (h.begins row earlier)
    · rw [List.mem_singleton.mp added]
      exact Nat.le_add_right _ _
  onward j row stands := by
    rw [symbols_addRecord]
    change (t.records ++ [_])[j]? = some row at stands
    rcases Nat.lt_or_ge j t.records.length with earlier | later
    · rw [List.getElem?_append_left earlier] at stands
      rw [List.drop_append_of_le_length (h.begins row (List.mem_of_getElem? stands)),
        h.onward j row stands, List.drop_append_of_le_length (h.length ▸ Nat.le_of_lt earlier),
        List.flatMap_append]
      simp
    · -- The row that was added: its symbols begin where the table ended before.
      rw [List.getElem?_append_right later] at stands
      cases gap : j - t.records.length with
      | zero =>
        obtain rfl : j = rs.length := by rw [← h.length]; omega
        rw [gap, List.getElem?_cons_zero, Option.some.injEq] at stands
        simp [← stands, spanBehind]
      | succ n => simp [gap] at stands

theorem InSequence.addRecords (h : t.InSequence rs) (more : List (RecordEntry String String)) :
    (more.foldl Tables.addRecord t).InSequence (rs ++ more) := by
  induction more generalizing t rs with
  | nil => simpa using h
  | cons r rest ih => simpa using ih (h.addRecord r)

theorem records_addUnits (t : Tables) (us : List (UnitEntry String String)) :
    (us.foldl Tables.addUnit t).records = t.records := by
  induction us generalizing t with
  | nil => rfl
  | cons u rest ih => exact ih (t.addUnit u)

/-- The tables of declared contents go on as the records are declared. -/
theorem ofContents_inSequence (c : Contents String String) :
    (ofContents c).InSequence c.records := by
  have none : (c.units.foldl Tables.addUnit {}).records = [] := records_addUnits {} c.units
  have start : (c.units.foldl Tables.addUnit {}).InSequence [] :=
    ⟨congrArg List.length none, by simp [none], by simp [none]⟩
  exact start.addRecords c.records

variable {c : Contents String String} {j : Nat} {r : RecordEntry String String}

/-- A position of a record leads on from the record's first symbol. -/
theorem symbolAt_ofContents {row : RecordRow} (stands : (ofContents c).records[j]? = some row)
    (position : Nat) :
    (ofContents c).accessors.symbol (token (row.symbols.start + position)) =
      c.symbolFrom j position := by
  rw [symbol_eq, lookUp_token, ← List.getElem?_drop, (ofContents_inSequence c).onward j row stands]
  rfl

/-- The occurrences of a record, each with what its positions lead to. -/
theorem occurrences_ofContents (declared : c.records[j]? = some r) :
    ((ofContents c).recordReader (token j)).occurrences =
      r.occurrences.map (·.view (c.symbolFrom j)) := by
  obtain ⟨row, found, held⟩ := (ofContents_holds c).lookUp_record declared
  have leads : (fun position =>
      (ofContents c).accessors.symbol (token (row.symbols.start + position))) = c.symbolFrom j :=
    funext (symbolAt_ofContents found)
  rw [held.reader_occurrences found, leads]

end Tables

def OccurrenceEntry.positions (o : OccurrenceEntry) : List Nat := o.symbol :: o.relations.map (·.2)

/-- Whether a line is one of those asked for; all are when no range is. -/
def lineAsked (lines : Option (UInt32 × UInt32)) (line : UInt32) : Bool :=
  lines.all fun range => Tables.inLines range.1 range.2 line

/-- Contents in memory where the positions of a record are counted on behind its end. -/
structure LeadsOnward (c : Contents String String) (settings : MemorySettings) : Prop where
  /-- A visitor of a record is shown the declared occurrences that are asked for, each with what its
  positions lead to. -/
  shown : ∀ (j : Nat) r name file lines, c.records[j]? = some r → ReadsAsList true
    ((r.occurrences.filter fun o => lineAsked lines o.line).map (·.view (c.symbolFrom j)))
    ((OpenRecord.mk name (token j) file ((Tables.ofContents c).recordReader (token j))).occurrences
      ((Tables.ofContents c).engine settings) lines)
  related : ∀ (j : Nat) (o : OccurrenceEntry), ReadsAsList true
    (o.relations.map fun relation => ⟨⟨relation.1⟩, c.symbolFrom j relation.2⟩)
    ((o.view (c.symbolFrom j)).lendRelations ((Tables.ofContents c).engine settings))
  /-- Positions within the record lead to its own symbols. -/
  own : ∀ (j : Nat) r position, c.records[j]? = some r → position < r.symbols.length →
    ∃ s, r.symbols[position]? = some s ∧ c.symbolFrom j position = s.view Utf8.encode
  /-- Positions behind its end are those of the next record. -/
  next : ∀ (j : Nat) r position, c.records[j]? = some r →
    c.symbolFrom j (r.symbols.length + position) = c.symbolFrom (j + 1) position
  /-- Positions behind all symbols lead to the empty one. -/
  empty : ∀ (j : Nat) position, (c.symbolsFrom j).length ≤ position →
    c.symbolFrom j position = .empty
  /-- No position leads to a record declared before. -/
  onward : ∀ (j : Nat) position, c.symbolFrom j position = .empty ∨
    ∃ i later s, j ≤ i ∧ c.records[i]? = some later ∧ s ∈ later.symbols ∧
      c.symbolFrom j position = s.view Utf8.encode
  /-- A record whose positions are its own or lie behind all symbols shows its own symbols and the
  empty one only. -/
  apart : ∀ (j : Nat) r, c.records[j]? = some r →
    (∀ o ∈ r.occurrences, ∀ position ∈ o.positions,
      position < r.symbols.length ∨ (c.symbolsFrom j).length ≤ position) →
    ∀ name file lines, ReadsAsList true
      ((r.occurrences.filter fun o => lineAsked lines o.line).map (r.occurrenceView Utf8.encode))
      ((OpenRecord.mk name (token j) file
        ((Tables.ofContents c).recordReader (token j))).occurrences
        ((Tables.ofContents c).engine settings) lines)

section Leading

variable {c : Contents String String} {j : Nat} {r : RecordEntry String String}

/-- Behind all symbols the record has none either. -/
theorem symbolFrom_apart (declared : c.records[j]? = some r) {position : Nat}
    (clear : position < r.symbols.length ∨ (c.symbolsFrom j).length ≤ position) :
    c.symbolFrom j position = r.symbolAt Utf8.encode position := by
  rcases clear with own | behind
  · exact Contents.symbolFrom_own declared own
  · have past : r.symbols.length ≤ position := by
      rw [Contents.symbolsFrom_eq declared, List.length_append] at behind
      omega
    rw [Contents.symbolFrom_empty behind, RecordEntry.symbolAt, List.getElem?_eq_none past]

theorem view_apart (declared : c.records[j]? = some r) {o : OccurrenceEntry}
    (clear : ∀ position ∈ o.positions,
      position < r.symbols.length ∨ (c.symbolsFrom j).length ≤ position) :
    o.view (c.symbolFrom j) = r.occurrenceView Utf8.encode o := by
  refine OccurrenceEntry.view_congr (symbolFrom_apart declared (clear _ List.mem_cons_self)) ?_
  intro relation named
  exact symbolFrom_apart declared
    (clear _ (List.mem_cons_of_mem _ (List.mem_map_of_mem named)))

/-- What a record in memory lends. -/
theorem items_ofContents (declared : c.records[j]? = some r) (e : Engine) (name : String)
    (file : Option Path) (lines : Option (UInt32 × UInt32)) :
    ((OpenRecord.mk name (token j) file
      ((Tables.ofContents c).recordReader (token j))).occurrences e lines).items =
      (r.occurrences.filter fun o => lineAsked lines o.line).map (·.view (c.symbolFrom j)) := by
  have whole := Tables.occurrences_ofContents declared
  cases lines with
  | none =>
    rw [OpenRecord.items_occurrences, whole]
    simp [lineAsked]
  | some range =>
    obtain ⟨start, count⟩ := range
    rw [OpenRecord.items_inLines, Tables.inLines_recordReader, whole, List.filter_map]
    rfl

end Leading

/-- In memory the end of a record does not stop the counting of its positions. -/
theorem positions_lead_onward (c : Contents String String) (settings : MemorySettings) :
    LeadsOnward c settings where
  shown j r name file lines declared :=
    Lending.readsAsList_of rfl (items_ofContents declared _ name file lines)
  related j o := Lending.readsAsList_of rfl rfl
  own j r position declared own := by
    rw [Contents.symbolFrom_own declared own]
    exact RecordEntry.symbolAt_view own
  next j r position declared := Contents.symbolFrom_next declared position
  empty j position behind := Contents.symbolFrom_empty behind
  onward := c.symbolFrom_onward
  apart j r declared clear name file lines := by
    refine Lending.readsAsList_of rfl ((items_ofContents declared _ name file lines).trans ?_)
    exact List.map_congr_left fun o among =>
      view_apart declared (clear o (List.mem_of_mem_filter among))

/-- An occurrence and a relation of a record lead to a symbol that the next record declares. -/
theorem positions_lead_to_next_record :
    let c : Contents String String := ⟨[], [⟨"r", [.bare "f"], [⟨1, 1, 3, 1, [(8, 1)]⟩], none⟩,
      ⟨"s", [.bare "g"], [], none⟩]⟩
    let e := (Tables.ofContents c).engine {}
    let r : OpenRecord := ⟨"r", token 0, none, (Tables.ofContents c).recordReader (token 0)⟩
    let other := (SymbolEntry.bare "g").view Utf8.encode
    (e.openRecord "r" none {}).1 = .ok r ∧
      (r.symbols e).items = [(SymbolEntry.bare "f").view Utf8.encode] ∧
      (r.occurrences e none).items.map (·.symbol) = [other] ∧
      (r.occurrences e none).items.flatMap (·.relations.map (·.symbol)) = [other] ∧
      other ≠ .empty ∧ other ≠ (SymbolEntry.bare "f").view Utf8.encode :=
  ⟨rfl, by decide, by decide, by decide, by decide, by decide⟩

end CodeIndex
