import CodeIndex.Path
/-!
# Components of joined paths

What a path means is told by its components. The components of a path seen from another follow from
those of the two: an absolute path stands for itself, and so does any path seen from the empty one.
Otherwise the components of the one come behind those of the other, where a leading `.` says nothing
any more.
-/
namespace CodeIndex

namespace Path

theorem innerParts_fst (start : Nat) (segments : List String) :
    (innerParts start segments).map Prod.fst = segments.filterMap innerComponent := by
  induction segments generalizing start with
  | nil => rfl
  | cons segment rest ih =>
    rw [innerParts, List.filterMap_cons]
    cases innerComponent segment with
    | none => exact ih _
    | some c => exact congrArg (c :: ·) (ih _)

/-- The components of a path by its stretches. -/
theorem components_of_segments {p : Path} {segment : String} {rest : List String}
    (h : p.segments = segment :: rest) :
    p.components =
      (firstComponent segment rest.isEmpty).toList ++ rest.filterMap innerComponent := by
  rw [components, parts, h]
  dsimp only
  cases firstComponent segment rest.isEmpty with
  | none => exact innerParts_fst _ _
  | some c => exact congrArg (c :: ·) (innerParts_fst _ _)

theorem segments_ne_nil (p : Path) : p.segments ≠ [] :=
  mt List.map_eq_nil_iff.mp (Text.pieces_ne_nil '/' p.text.toList)

/-- A path is the stretches before one of its slashes and those behind it. -/
theorem segments_slash {p : Path} {a b : List Char} (h : p.text.toList = a ++ '/' :: b) :
    p.segments = segments ⟨String.ofList a⟩ ++ segments ⟨String.ofList b⟩ := by
  simp only [segments, h, Text.pieces_append, List.map_append, String.toList_ofList]

/-- The components of stretches, the first of which is not the last unless something stands in
it. -/
def leading (segments : List String) : List Component :=
  (segments.head?.bind (firstComponent · false)).toList ++ segments.tail.filterMap innerComponent

theorem leading_append {front : List String} (some : front ≠ []) (back : List String) :
    leading (front ++ back) = leading front ++ back.filterMap innerComponent := by
  obtain ⟨segment, rest, rfl⟩ := List.exists_cons_of_ne_nil some
  simp [leading]

theorem components_eq_leading {p : Path} (h : p.text ≠ "") : p.components = leading p.segments := by
  obtain ⟨segment, rest, found⟩ := List.exists_cons_of_ne_nil p.segments_ne_nil
  rw [components_of_segments found, found, leading]
  cases rest with
  | cons next rest => rfl
  | nil =>
    -- A single stretch is the whole text.
    have whole : segment = p.text := by
      obtain ⟨piece, single, rfl⟩ := List.map_eq_singleton_iff.mp found
      have joined := Text.intercalate_pieces '/' p.text.toList
      rw [single, List.intercalate_singleton] at joined
      rw [joined, String.ofList_toList]
    simp [firstComponent, whole, h]

theorem innerComponent_ne_here (segment : String) : innerComponent segment ≠ some .here := by
  unfold innerComponent
  split
  · nofun
  · split <;> nofun

/-- Only a path that begins with a slash has an empty stretch in front of others. -/
theorem isAbsolute_of_segments {q : Path} {next : String} {rest : List String}
    (h : q.segments = "" :: next :: rest) : q.isAbsolute = true := by
  rw [segments] at h
  rw [isAbsolute]
  cases text : q.text.toList with
  | nil => simp [text] at h
  | cons c more =>
    by_cases slash : c = '/'
    · simp [slash]
    · obtain ⟨piece, pieces, found⟩ := List.exists_cons_of_ne_nil (Text.pieces_ne_nil '/' more)
      simp [text, Text.pieces, slash, found] at h

/-- Within a path a leading `.` says nothing. -/
theorem filterMap_segments {q : Path} (relative : q.isAbsolute = false) :
    q.segments.filterMap innerComponent = q.components.filter (· ≠ .here) := by
  obtain ⟨segment, rest, found⟩ := List.exists_cons_of_ne_nil q.segments_ne_nil
  have inner : (rest.filterMap innerComponent).filter (· ≠ .here) =
      rest.filterMap innerComponent := by
    rw [List.filter_eq_self]
    intro c among
    obtain ⟨stretch, -, stands⟩ := List.mem_filterMap.mp among
    have other := innerComponent_ne_here stretch
    rw [stands] at other
    simpa using other
  have first : (innerComponent segment).toList =
      (firstComponent segment rest.isEmpty).toList.filter (· ≠ .here) := by
    unfold firstComponent
    split
    · rename_i empty
      cases rest with
      | nil => simp [innerComponent, empty]
      | cons next rest =>
        rw [isAbsolute_of_segments (empty ▸ found)] at relative
        cases relative
    · split
      · rename_i dot
        simp [innerComponent, dot]
      · have other := innerComponent_ne_here segment
        cases stands : innerComponent segment with
        | none => rfl
        | some c =>
          have other : c ≠ .here := by simpa [stands] using other
          simp [other]
  rw [components_of_segments found, found, List.filter_append, inner, ← first]
  cases h : innerComponent segment <;> simp [h]

/-- The components of a path seen from another. -/
theorem components_join (p q : Path) :
    (p.join q).components = if q.isAbsolute ∨ p.text = "" then q.components
      else p.components ++ q.components.filter (· ≠ .here) := by
  by_cases itself : q.isAbsolute ∨ p.text = ""
  · rw [if_pos itself, join, if_pos (by simpa using itself)]
  · obtain ⟨relative, base⟩ := not_or.mp itself
    rw [if_neg itself, join, if_neg (by simpa using itself),
      ← filterMap_segments (by simpa using relative), components_eq_leading base]
    split
    · -- A slash at the end is not repeated: behind it an empty stretch makes way.
      rename_i closed
      obtain ⟨front, text⟩ := List.getLast?_eq_some_iff.mp (beq_iff_eq.mp closed)
      have joined : (Path.mk (p.text ++ q.text)).segments =
          segments ⟨String.ofList front⟩ ++ q.segments := by
        rw [segments_slash (a := front) (b := q.text.toList) (by simp [text]), String.ofList_toList]
      rw [components_eq_leading (by simp [base]), joined, segments_slash text,
        leading_append (segments_ne_nil _), leading_append (segments_ne_nil _)]
      have nothing : (segments ⟨String.ofList []⟩).filterMap innerComponent = [] := by decide
      rw [nothing, List.append_nil]
    · have joined : (Path.mk (p.text ++ "/" ++ q.text)).segments = p.segments ++ q.segments := by
        rw [segments_slash (a := p.text.toList) (b := q.text.toList) (by simp),
          String.ofList_toList, String.ofList_toList]
      rw [components_eq_leading (by simp), joined, leading_append p.segments_ne_nil]

end Path

end CodeIndex
