import CodeIndex.Proofs.PathComponents
/-!
# Parents of paths

The parent of a path is a beginning of its text, the one that ends with the component before the
last. It has the components of the path but for the last. A path without components has no parent,
nor has the root.
-/
namespace CodeIndex

namespace Text

variable {separator : Char}

theorem pieces_eq_splitOn (separator : Char) (text : List Char) :
    pieces separator text = text.splitOn separator := by
  induction text with
  | nil => rfl
  | cons c rest ih =>
    obtain ⟨piece, more, found⟩ := List.exists_cons_of_ne_nil (pieces_ne_nil separator rest)
    rw [pieces, List.splitOn_cons_eq_if_modifyHead, ← ih, found]
    simp

theorem intercalate_append {front back : List (List Char)} (some : front ≠ []) (more : back ≠ []) :
    [separator].intercalate (front ++ back) =
      [separator].intercalate front ++ separator :: [separator].intercalate back := by
  induction front with
  | nil => exact absurd rfl some
  | cons piece front ih =>
    cases front with
    | nil =>
      obtain ⟨next, rest, rfl⟩ := List.exists_cons_of_ne_nil more
      simp [List.intercalate_cons_cons]
    | cons next front =>
      simp only [List.cons_append, List.intercalate_cons_cons] at ih ⊢
      rw [ih (List.cons_ne_nil _ _)]
      simp

/-- A text that is cut off behind one of its pieces has the pieces up to there. -/
theorem pieces_take {text : List Char} {front back : List (List Char)}
    (cut : pieces separator text = front ++ back) (some : front ≠ []) :
    pieces separator (text.take ([separator].intercalate front).length) = front := by
  have whole := intercalate_pieces separator text
  have begins : text.take ([separator].intercalate front).length =
      [separator].intercalate front := by
    rw [← whole, cut]
    by_cases more : back = []
    · rw [more, List.append_nil, List.take_length]
    · rw [intercalate_append some more, List.take_left]
  have free : ∀ piece ∈ front, separator ∉ piece := fun piece among =>
    not_mem_of_mem_pieces (cut ▸ List.mem_append_left back among)
  rw [begins, pieces_eq_splitOn, List.splitOn_intercalate separator free some]

end Text

namespace Path

/-- The place where the last of some stretches ends, which follow on a place one after the other. -/
def endOf (start : Nat) : List String → Nat
  | [] => start
  | segment :: near => endOf (start + 1 + segment.length) near

theorem add_endOf (before start : Nat) (near : List String) :
    before + endOf start near = endOf (before + start) near := by
  induction near generalizing start with
  | nil => rfl
  | cons segment near ih =>
    have same : before + (start + 1 + segment.length) = before + start + 1 + segment.length := by
      omega
    rw [endOf, endOf, ih, same]

theorem length_stretches (segment : String) (near : List String) :
    (['/'].intercalate ((segment :: near).map String.toList)).length =
      endOf segment.length near := by
  induction near generalizing segment with
  | nil => simp [endOf, String.length_toList]
  | cons next near ih =>
    rw [List.map_cons, List.map_cons, List.intercalate_cons_cons, ← List.map_cons,
      List.length_append, List.length_append, ih, add_endOf, String.length_toList]
    rfl

/-- A text that is cut off behind one of its stretches has the stretches up to there. -/
theorem segments_take {p : Path} {segment : String} {near far : List String}
    (cut : p.segments = segment :: (near ++ far)) :
    segments ⟨String.ofList (p.text.toList.take (endOf segment.length near))⟩ =
      segment :: near := by
  have pieced : Text.pieces '/' p.text.toList =
      (segment :: near).map String.toList ++ far.map String.toList := by
    rw [← List.map_append, List.cons_append, ← cut, segments, List.map_map]
    simp [Function.comp_def]
  rw [segments, String.toList_ofList, ← length_stretches, Text.pieces_take pieced (by simp),
    List.map_map]
  simp [Function.comp_def]

/-- Behind the components up to one of them are the stretches up to its end. -/
theorem innerParts_cut {start stop : Nat} {segments : List String} {c : Component}
    {front behind : List (Component × Nat)}
    (parted : innerParts start segments = front ++ (c, stop) :: behind) :
    ∃ near far, segments = near ++ far ∧ near ≠ [] ∧ stop = endOf start near ∧
      near.filterMap innerComponent = front.map Prod.fst ++ [c] := by
  induction segments generalizing start front with
  | nil => simp [innerParts] at parted
  | cons segment rest ih =>
    have later {front' : List (Component × Nat)}
        (parted : innerParts (start + 1 + segment.length) rest = front' ++ (c, stop) :: behind)
        (first : (innerComponent segment).toList ++ front'.map Prod.fst = front.map Prod.fst) :
        ∃ near far, segment :: rest = near ++ far ∧ near ≠ [] ∧ stop = endOf start near ∧
          near.filterMap innerComponent = front.map Prod.fst ++ [c] := by
      obtain ⟨near, far, rfl, -, stops, steps⟩ := ih parted
      refine ⟨segment :: near, far, rfl, List.cons_ne_nil _ _, stops, ?_⟩
      rw [List.filterMap_cons, ← first, List.append_assoc, ← steps]
      cases innerComponent segment <;> rfl
    rw [innerParts] at parted
    cases stands : innerComponent segment with
    | none =>
      simp only [stands] at parted
      exact later parted (by simp [stands])
    | some d =>
      simp only [stands] at parted
      cases front with
      | nil =>
        cases parted
        exact ⟨[segment], rest, rfl, List.cons_ne_nil _ _, rfl, by simp [stands]⟩
      | cons first front =>
        obtain ⟨rfl, following⟩ := List.cons.inj parted
        exact later following (by simp [stands])

/-- Only the first component may be the root, which ends behind the slash that the text begins
with. -/
theorem parts_root {p : Path} {front behind : List (Component × Nat)} {stop : Nat}
    (parted : p.parts = front ++ (.root, stop) :: behind) :
    front = [] ∧ stop = 1 ∧ p.text.toList.head? = some '/' := by
  have inner (segment : String) : innerComponent segment ≠ some .root := by
    unfold innerComponent
    split
    · nofun
    · split <;> nofun
  have noneLater {start : Nat} {segments : List String} {front : List (Component × Nat)} :
      innerParts start segments ≠ front ++ (.root, stop) :: behind := by
    intro parted
    obtain ⟨near, -, -, -, -, steps⟩ := innerParts_cut parted
    have among : Component.root ∈ near.filterMap innerComponent := by simp [steps]
    obtain ⟨segment, -, stands⟩ := List.mem_filterMap.mp among
    exact inner segment stands
  obtain ⟨segment, rest, found⟩ := List.exists_cons_of_ne_nil p.segments_ne_nil
  rw [parts, found] at parted
  dsimp only at parted
  cases first : firstComponent segment rest.isEmpty with
  | none =>
    simp only [first] at parted
    exact absurd parted noneLater
  | some d =>
    simp only [first] at parted
    cases front with
    | cons before front =>
      obtain ⟨-, following⟩ := List.cons.inj parted
      exact absurd following noneLater
    | nil =>
      obtain ⟨same, -⟩ := List.cons.inj parted
      cases same
      refine ⟨rfl, if_pos rfl, ?_⟩
      -- The root stands for an empty stretch in front of others.
      unfold firstComponent at first
      split at first
      · rename_i empty
        cases rest with
        | nil => simp at first
        | cons next rest => simpa [isAbsolute] using isAbsolute_of_segments (empty ▸ found)
      · split at first
        · simp at first
        · exact absurd first (inner segment)

/-- A stretch that is not empty stands for the same component whether others follow or not. -/
theorem firstComponent_eq {segment : String} {last : Bool} {c : Component}
    (stands : firstComponent segment last = some c) (inner : c ≠ .root) (last' : Bool) :
    firstComponent segment last' = some c := by
  unfold firstComponent at stands ⊢
  split at stands
  · cases last with
    | true => simp at stands
    | false => exact absurd (Option.some.inj stands).symm inner
  · rename_i some
    rw [if_neg some]
    exact stands

/-- A path that is cut off behind one of its components has the components up to there. -/
theorem components_take {p : Path} {front behind : List (Component × Nat)} {c : Component}
    {stop : Nat} (parted : p.parts = front ++ (c, stop) :: behind) :
    components ⟨String.ofList (p.text.toList.take stop)⟩ = front.map Prod.fst ++ [c] := by
  by_cases root : c = .root
  · subst root
    obtain ⟨rfl, rfl, slash⟩ := parts_root parted
    obtain ⟨more, text⟩ := List.head?_eq_some_iff.mp slash
    rw [text, List.take_succ_cons, List.take_zero]
    decide
  · obtain ⟨segment, rest, found⟩ := List.exists_cons_of_ne_nil p.segments_ne_nil
    rw [parts, found] at parted
    dsimp only at parted
    -- The stretches up to the one that stands for the component, if that is not the first.
    have later {front' : List (Component × Nat)}
        (following : innerParts segment.length rest = front' ++ (c, stop) :: behind)
        (first : (firstComponent segment rest.isEmpty).toList ++ front'.map Prod.fst =
          front.map Prod.fst) :
        components ⟨String.ofList (p.text.toList.take stop)⟩ = front.map Prod.fst ++ [c] := by
      obtain ⟨near, far, rfl, some, rfl, steps⟩ := innerParts_cut following
      obtain ⟨next, near, rfl⟩ := List.exists_cons_of_ne_nil some
      rw [components_of_segments (segments_take found), steps, ← List.append_assoc, ← first]
      rfl
    cases first : firstComponent segment rest.isEmpty with
    | none =>
      simp only [first] at parted
      exact later parted (by simp [first])
    | some d =>
      simp only [first] at parted
      cases front with
      | cons before front =>
        obtain ⟨rfl, following⟩ := List.cons.inj parted
        exact later following (by simp [first])
      | nil =>
        obtain ⟨same, -⟩ := List.cons.inj parted
        cases same
        have whole := @segments_take p segment [] rest found
        rw [if_neg root]
        rw [endOf] at whole
        rw [components_of_segments whole, firstComponent_eq first root]
        rfl

/-- The parent of a path is a beginning of its text, with the components but for the last. -/
theorem of_parent? {p q : Path} (h : p.parent? = some q) :
    q.text.toList <+: p.text.toList ∧
      ∃ last, last ≠ .root ∧ p.components = q.components ++ [last] := by
  unfold parent? at h
  split at h
  · cases h
  · cases h
  · rename_i last other parted
    cases h
    refine ⟨List.nil_prefix, last.1, fun root => other last.2 (Prod.ext root rfl), ?_⟩
    rw [components, List.reverse_eq_iff.mp parted]
    rfl
  · rename_i last c stop before other parted
    cases h
    have cut : p.parts = before.reverse ++ (c, stop) :: [last] := by
      rw [List.reverse_eq_iff.mp parted]
      simp
    refine ⟨?_, last.1, fun root => other last.2 (Prod.ext root rfl), ?_⟩
    · rw [String.toList_ofList]
      exact List.take_prefix stop _
    · rw [components_take cut, components, cut]
      simp

/-- A path has no parent if it has no components or is the root. -/
theorem parent?_eq_none_iff {p : Path} :
    p.parent? = none ↔ p.components = [] ∨ p.components = [.root] := by
  constructor
  · intro h
    unfold parent? at h
    split at h
    · rename_i parted
      left
      rw [components, List.reverse_eq_nil_iff.mp parted]
      rfl
    · rename_i stop before parted
      right
      have cut : p.parts = before.reverse ++ (.root, stop) :: [] := by
        rw [List.reverse_eq_iff.mp parted]
        simp
      obtain ⟨first, -, -⟩ := parts_root cut
      rw [components, cut, first]
      rfl
    · cases h
    · cases h
  · intro few
    cases above : p.parent? with
    | none => rfl
    | some q =>
      obtain ⟨-, last, inner, steps⟩ := of_parent? above
      rcases few with none | root
      · rw [none] at steps
        simp at steps
      · rw [root] at steps
        have same := congrArg List.getLast? steps
        rw [List.getLast?_append] at same
        exact absurd (Option.some.inj same).symm inner

end Path

end CodeIndex
