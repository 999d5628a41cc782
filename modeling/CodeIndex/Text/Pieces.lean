/-!
# Pieces of a text

A separator cuts a text into pieces, empty ones included. The pieces hold no separator, and joined
by it they are the text again.
-/
namespace CodeIndex.Text

def pieces (separator : Char) : List Char → List (List Char)
  | [] => [[]]
  | c :: rest =>
    if c = separator then [] :: pieces separator rest
    else match pieces separator rest with
      | [] => [[c]]
      | piece :: more => (c :: piece) :: more

@[simp] theorem pieces_nil (separator : Char) : pieces separator [] = [[]] := rfl

theorem pieces_ne_nil (separator : Char) (text : List Char) : pieces separator text ≠ [] := by
  cases text with
  | nil => simp
  | cons c rest =>
    simp only [pieces]
    split
    · simp
    · split <;> simp

theorem intercalate_pieces (separator : Char) (text : List Char) :
    [separator].intercalate (pieces separator text) = text := by
  induction text with
  | nil => rfl
  | cons c rest ih =>
    simp only [pieces]
    split
    · next h =>
      obtain ⟨piece, more, hp⟩ := List.exists_cons_of_ne_nil (pieces_ne_nil separator rest)
      rw [hp] at ih ⊢
      simp only [List.intercalate, List.intersperse_cons_cons] at ih ⊢
      simpa [h] using ih
    · split
      · next hp => exact absurd hp (pieces_ne_nil separator rest)
      · next piece more hp =>
        rw [hp] at ih
        cases more with
        | nil => simpa [List.intercalate] using ih
        | cons next more => simpa [List.intercalate] using ih

theorem not_mem_of_mem_pieces {separator : Char} {text piece : List Char}
    (h : piece ∈ pieces separator text) : separator ∉ piece := by
  induction text generalizing piece with
  | nil => simp at h; simp [h]
  | cons c rest ih =>
    simp only [pieces] at h
    split at h
    · cases h with
      | head => simp
      | tail _ h => exact ih h
    · next hc =>
      split at h
      · simp at h
        simp [h, Ne.symm hc]
      · next first more hp =>
        cases h with
        | head =>
          have := ih (hp ▸ List.mem_cons_self)
          simp [Ne.symm hc, this]
        | tail _ h => exact ih (hp ▸ List.mem_cons_of_mem _ h)

/-- A separator between two texts cuts them apart. -/
theorem pieces_append (separator : Char) (a b : List Char) :
    pieces separator (a ++ separator :: b) = pieces separator a ++ pieces separator b := by
  induction a with
  | nil => simp [pieces]
  | cons c a ih =>
    rw [List.cons_append, pieces, pieces, ih]
    split
    · rfl
    · obtain ⟨piece, more, found⟩ := List.exists_cons_of_ne_nil (pieces_ne_nil separator a)
      rw [found]
      rfl

theorem pieces_of_not_mem {separator : Char} {text : List Char} (whole : separator ∉ text) :
    pieces separator text = [text] := by
  induction text with
  | nil => rfl
  | cons c rest ih =>
    obtain ⟨apart, behind⟩ : ¬ separator = c ∧ separator ∉ rest := by simpa using whole
    rw [pieces, if_neg (Ne.symm apart), ih behind]

/-- Texts without the separator are the pieces of what they make up when joined by it. -/
theorem pieces_intercalate {separator : Char} {parts : List (List Char)} (some : parts ≠ [])
    (whole : ∀ part ∈ parts, separator ∉ part) :
    pieces separator ([separator].intercalate parts) = parts := by
  induction parts with
  | nil => exact absurd rfl some
  | cons part rest ih =>
    have first := pieces_of_not_mem (whole part List.mem_cons_self)
    cases rest with
    | nil => simpa using first
    | cons next more =>
      have further := ih (List.cons_ne_nil _ _) fun part among =>
        whole part (List.mem_cons_of_mem _ among)
      rw [List.intercalate_cons_cons, List.append_assoc, List.singleton_append, pieces_append,
        first, further]
      rfl

/-- A character of joined texts is one of a text or the separator. -/
theorem mem_intercalate {c separator : Char} {parts : List (List Char)}
    (among : c ∈ [separator].intercalate parts) : c = separator ∨ ∃ part ∈ parts, c ∈ part := by
  induction parts with
  | nil => simp at among
  | cons part rest ih =>
    cases rest with
    | nil => exact .inr ⟨part, List.mem_cons_self, by simpa using among⟩
    | cons next more =>
      rw [List.intercalate_cons_cons, List.append_assoc] at among
      simp only [List.mem_append, List.mem_singleton] at among
      rcases among with here | rfl | behind
      · exact .inr ⟨part, List.mem_cons_self, here⟩
      · exact .inl rfl
      · obtain sep | ⟨other, listed, here⟩ := ih behind
        · exact .inl sep
        · exact .inr ⟨other, List.mem_cons_of_mem _ listed, here⟩

end CodeIndex.Text
