/-! # Splitting text

    A text splits at a separator into pieces, one more than there are
    separators; the pieces may be empty.
-/

namespace MiniLisp.Text

/-- The pieces of a text between a separator. -/
def split (separator : Char) (text : List Char) : List (List Char) :=
  match text with
  | [] => [[]]
  | c :: rest =>
      match split separator rest with
      | [] => [[c]]
      | piece :: pieces => if c = separator then [] :: piece :: pieces else (c :: piece) :: pieces

theorem split_ne_nil (separator : Char) (text : List Char) : split separator text ≠ [] := by
  cases text with
  | nil => simp [split]
  | cons c rest =>
    unfold split
    split
    · simp
    · split <;> simp

/-- The pieces of a text hold all of it except the separators. -/
theorem flatten_split (separator : Char) (text : List Char) :
    (split separator text).flatten = text.filter (· != separator) := by
  induction text with
  | nil => rfl
  | cons c rest ih =>
    obtain ⟨piece, pieces, hsplit⟩ := List.exists_cons_of_ne_nil (split_ne_nil separator rest)
    rw [hsplit] at ih
    by_cases hc : c = separator
    · subst hc
      simpa [split, hsplit] using ih
    · simp [split, hsplit, hc, ← ih]

/-- A text without a separator is one piece. -/
theorem split_of_not_mem {separator : Char} {piece : List Char} (h : separator ∉ piece) :
    split separator piece = [piece] := by
  induction piece with
  | nil => rfl
  | cons c piece ih =>
    rw [split, ih (List.not_mem_of_not_mem_cons h)]
    exact if_neg (List.ne_of_not_mem_cons h).symm

/-- The first piece ends at the first separator. -/
theorem split_append {separator : Char} {piece : List Char} (rest : List Char)
    (h : separator ∉ piece) :
    split separator (piece ++ separator :: rest) = piece :: split separator rest := by
  induction piece with
  | nil =>
    obtain ⟨first, others, hsplit⟩ := List.exists_cons_of_ne_nil (split_ne_nil separator rest)
    simp [split, hsplit]
  | cons c piece ih =>
    rw [List.cons_append, split, ih (List.not_mem_of_not_mem_cons h)]
    exact if_neg (List.ne_of_not_mem_cons h).symm

end MiniLisp.Text
