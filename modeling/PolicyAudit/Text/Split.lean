/-
Module: PolicyAudit.Text.Split
Purpose: Cutting a text at every occurrence of one character.
Trusted boundary: none
Main exports: splitAt, splitAt_append, splitAt_of_not_mem, splitAt_cases,
  exists_append_of_splitAt_eq, splitAt_flatMap, IsPiece, mem_splitAt_iff
-/
namespace PolicyAudit.Text

/-- The pieces between the separators; there is always one piece more than separators. -/
def splitAt (separator : Char) : List Char → List (List Char)
  | [] => [[]]
  | c :: cs =>
      if c = separator then
        [] :: splitAt separator cs
      else
        match splitAt separator cs with
        | [] => [[c]]
        | piece :: pieces => (c :: piece) :: pieces

theorem splitAt_ne_nil (separator : Char) (cs : List Char) : splitAt separator cs ≠ [] := by
  cases cs with
  | nil => simp [splitAt]
  | cons c cs =>
      rw [splitAt]
      split
      · simp
      · split <;> simp

/-- Cutting at a separator splits the pieces: those on its left come first. -/
theorem splitAt_append (separator : Char) (left right : List Char) :
    splitAt separator (left ++ separator :: right) =
      splitAt separator left ++ splitAt separator right := by
  induction left with
  | nil => simp [splitAt]
  | cons c left inductionHypothesis =>
      simp only [List.cons_append, splitAt, inductionHypothesis]
      split
      · rfl
      · cases pieces : splitAt separator left with
        | nil => exact absurd pieces (splitAt_ne_nil separator left)
        | cons piece rest => rfl

/-- Without a separator a text is one piece. -/
theorem splitAt_of_not_mem {separator : Char} {cs : List Char} (absent : separator ∉ cs) :
    splitAt separator cs = [cs] := by
  induction cs with
  | nil => rfl
  | cons c cs inductionHypothesis =>
      rw [List.mem_cons, not_or] at absent
      rw [splitAt, if_neg (Ne.symm absent.1), inductionHypothesis absent.2]

/-- A part without separators that ends at one is the first piece. -/
theorem splitAt_append_of_not_mem {separator : Char} {before : List Char}
    (clean : separator ∉ before) (after : List Char) :
    splitAt separator (before ++ separator :: after) = before :: splitAt separator after := by
  rw [splitAt_append, splitAt_of_not_mem clean, List.singleton_append]

/-- A text is one piece, or is cut at its first separator. -/
theorem splitAt_cases (separator : Char) (cs : List Char) :
    (separator ∉ cs ∧ splitAt separator cs = [cs]) ∨
      ∃ before after, cs = before ++ separator :: after ∧ separator ∉ before ∧
        splitAt separator cs = before :: splitAt separator after := by
  by_cases absent : separator ∉ cs
  · exact .inl ⟨absent, splitAt_of_not_mem absent⟩
  · obtain ⟨before, after, rfl, clean⟩ :=
      List.eq_append_cons_of_mem (Decidable.not_not.mp absent)
    exact .inr ⟨before, after, rfl, clean, splitAt_append_of_not_mem clean after⟩

theorem eq_of_splitAt_eq_singleton {separator : Char} {cs piece : List Char}
    (cut : splitAt separator cs = [piece]) : cs = piece := by
  rcases splitAt_cases separator cs with ⟨-, whole⟩ | ⟨before, after, -, -, further⟩
  · exact (List.cons.inj (whole.symm.trans cut)).1
  · exact absurd (List.cons.inj (further.symm.trans cut)).2 (splitAt_ne_nil separator after)

/-- The first of several pieces ends at a separator, and the others are the pieces of what comes
after it. -/
theorem exists_append_of_splitAt_eq {separator : Char} {cs piece next : List Char}
    {pieces : List (List Char)} (cut : splitAt separator cs = piece :: next :: pieces) :
    ∃ after, cs = piece ++ separator :: after ∧ splitAt separator after = next :: pieces := by
  rcases splitAt_cases separator cs with ⟨-, whole⟩ | ⟨before, after, equal, -, further⟩
  · cases whole.symm.trans cut
  · obtain ⟨rfl, rest⟩ := List.cons.inj (further.symm.trans cut)
    exact ⟨after, equal, rest⟩

/-- Parts without separators, each ended by one, are the pieces, and after them an empty one. -/
theorem splitAt_flatMap {α : Type} {separator : Char} (part : α → List Char) {xs : List α}
    (clean : ∀ x ∈ xs, separator ∉ part x) :
    splitAt separator (xs.flatMap fun x => part x ++ [separator]) = xs.map part ++ [[]] := by
  induction xs with
  | nil => rfl
  | cons x xs inductionHypothesis =>
      obtain ⟨here, further⟩ := List.forall_mem_cons.mp clean
      rw [List.flatMap_cons, List.append_assoc, List.singleton_append,
        splitAt_append_of_not_mem here, inductionHypothesis further]
      rfl

/-- A part of a text without separators that reaches from its start or a separator to its end or a
separator. -/
inductive IsPiece (separator : Char) (piece : List Char) : List Char → Prop where
  | whole (clean : separator ∉ piece) : IsPiece separator piece piece
  | first (clean : separator ∉ piece) (after : List Char) :
      IsPiece separator piece (piece ++ separator :: after)
  | last (clean : separator ∉ piece) (before : List Char) :
      IsPiece separator piece (before ++ separator :: piece)
  | inner (clean : separator ∉ piece) (before after : List Char) :
      IsPiece separator piece (before ++ separator :: (piece ++ separator :: after))

/-- A piece is one as well with more text before it, up to a separator. -/
theorem IsPiece.behind {separator : Char} {piece cs : List Char}
    (stands : IsPiece separator piece cs) (before : List Char) :
    IsPiece separator piece (before ++ separator :: cs) := by
  cases stands with
  | whole clean => exact .last clean before
  | first clean after => exact .inner clean before after
  | last clean further =>
      rw [← List.cons_append, ← List.append_assoc]
      exact .last clean (before ++ separator :: further)
  | inner clean further after =>
      rw [← List.cons_append, ← List.append_assoc]
      exact .inner clean (before ++ separator :: further) after

theorem IsPiece.mem_splitAt {separator : Char} {piece cs : List Char}
    (stands : IsPiece separator piece cs) : piece ∈ splitAt separator cs := by
  cases stands with
  | whole clean => simp [splitAt_of_not_mem clean]
  | first clean after => simp [splitAt_append, splitAt_of_not_mem clean]
  | last clean before => simp [splitAt_append, splitAt_of_not_mem clean]
  | inner clean before after => simp [splitAt_append, splitAt_of_not_mem clean]

/-- What a text is cut into stands in it between separators.  The cuts are taken from the left, at
the first separator of what remains. -/
theorem isPiece_of_mem_splitAt {separator : Char} {piece cs : List Char}
    (member : piece ∈ splitAt separator cs) : IsPiece separator piece cs := by
  rcases splitAt_cases separator cs with ⟨clean, whole⟩ | ⟨before, after, equal, clean, cut⟩
  · rw [whole, List.mem_singleton] at member
    subst member
    exact .whole clean
  · rw [cut, List.mem_cons] at member
    rw [equal]
    rcases member with rfl | further
    · exact .first clean after
    · exact (isPiece_of_mem_splitAt further).behind before
termination_by cs.length
decreasing_by simp [equal]; omega

theorem mem_splitAt_iff {separator : Char} {piece cs : List Char} :
    piece ∈ splitAt separator cs ↔ IsPiece separator piece cs :=
  ⟨isPiece_of_mem_splitAt, IsPiece.mem_splitAt⟩

end PolicyAudit.Text
