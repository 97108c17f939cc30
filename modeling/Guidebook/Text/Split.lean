/-!
# Cutting a text

Three cuts of a text: into the pieces between the occurrences of a separator, in
two at the first occurrence of a separator, and in two at the first occurrence
of a longer delimiter.  Nothing of the text is lost in any of them.
-/

namespace Guidebook.Text

/-- The pieces between the occurrences of `separator`: one more than there are
occurrences, so always at least one. -/
def pieces (separator : Char) : List Char → List (List Char)
  | [] => [[]]
  | c :: rest =>
      if c = separator then [] :: pieces separator rest
      else
        match pieces separator rest with
        | [] => [[c]]
        | piece :: others => (c :: piece) :: others

theorem pieces_ne_nil (separator : Char) (text : List Char) :
    pieces separator text ≠ [] := by
  induction text with
  | nil => simp [pieces]
  | cons c rest ih =>
      unfold pieces
      split
      · simp
      · split <;> simp

/-- The pieces of a text that does not hold the separator. -/
theorem pieces_of_not_mem {separator : Char} {text : List Char}
    (absent : separator ∉ text) : pieces separator text = [text] := by
  induction text with
  | nil => rfl
  | cons c rest ih =>
      have other : c ≠ separator := fun h => absent (by simp [h])
      rw [pieces, if_neg other, ih (fun member => absent (by simp [member]))]

/-- Characters before a text belong to its first piece, if none is the separator. -/
theorem pieces_append_of_not_mem {separator : Char} {before text first : List Char}
    {others : List (List Char)} (absent : separator ∉ before)
    (cut : pieces separator text = first :: others) :
    pieces separator (before ++ text) = (before ++ first) :: others := by
  induction before with
  | nil => exact cut
  | cons c before ih =>
      have other : c ≠ separator := fun h => absent (by simp [h])
      rw [List.cons_append, pieces, if_neg other,
        ih (fun member => absent (by simp [member]))]
      rfl

/-- A separator ends a piece. -/
theorem pieces_append_separator (separator : Char) (left right : List Char) :
    pieces separator (left ++ separator :: right) =
      pieces separator left ++ pieces separator right := by
  induction left with
  | nil => simp [pieces]
  | cons c left ih =>
      obtain ⟨first, others, cut⟩ := List.exists_cons_of_ne_nil (pieces_ne_nil separator left)
      rw [cut] at ih
      simp only [List.cons_append, pieces, ih, cut]
      split <;> rfl

/-- A piece ends at the first separator. -/
theorem pieces_append {separator : Char} {piece : List Char}
    (absent : separator ∉ piece) (rest : List Char) :
    pieces separator (piece ++ separator :: rest) = piece :: pieces separator rest := by
  rw [pieces_append_separator, pieces_of_not_mem absent]
  rfl

/-- No piece holds the separator. -/
theorem not_mem_of_mem_pieces {separator : Char} {text piece : List Char}
    (member : piece ∈ pieces separator text) : separator ∉ piece := by
  induction text generalizing piece with
  | nil => simp_all [pieces]
  | cons c rest ih =>
      obtain ⟨first, others, cut⟩ := List.exists_cons_of_ne_nil (pieces_ne_nil separator rest)
      rw [cut] at ih
      rw [pieces, cut] at member
      split at member
      · rcases List.mem_cons.1 member with rfl | later
        · exact List.not_mem_nil
        · exact ih later
      · next other =>
          rcases List.mem_cons.1 member with rfl | later
          · rw [List.mem_cons, not_or]
            exact ⟨Ne.symm other, ih List.mem_cons_self⟩
          · exact ih (List.mem_cons_of_mem first later)

/-- Cut in two at the first `separator`, which neither part keeps. -/
def cutAt? (separator : Char) : List Char → Option (List Char × List Char)
  | [] => none
  | c :: rest =>
      if c = separator then some ([], rest)
      else (cutAt? separator rest).map fun (before, after) => (c :: before, after)

/-- A cut reads as the first part, the separator and the second part. -/
theorem eq_of_cutAt? {separator : Char} {text before after : List Char}
    (cut : cutAt? separator text = some (before, after)) :
    text = before ++ separator :: after ∧ separator ∉ before := by
  induction text generalizing before after with
  | nil => simp [cutAt?] at cut
  | cons c rest ih =>
      rw [cutAt?] at cut
      split at cut
      · next same =>
          cases cut
          exact ⟨by simp [same], by simp⟩
      · next other =>
          obtain ⟨⟨first, second⟩, found, shape⟩ := Option.map_eq_some_iff.1 cut
          cases shape
          obtain ⟨text, absent⟩ := ih found
          refine ⟨by simp [text], ?_⟩
          intro member
          rcases List.mem_cons.1 member with same | later
          · exact other same.symm
          · exact absent later

/-- A text is cut at its first separator. -/
theorem cutAt?_append {separator : Char} {before : List Char} (absent : separator ∉ before)
    (after : List Char) :
    cutAt? separator (before ++ separator :: after) = some (before, after) := by
  induction before with
  | nil => simp [cutAt?]
  | cons c before ih =>
      have other : c ≠ separator := fun h => absent (by simp [h])
      rw [List.cons_append, cutAt?, if_neg other, ih (fun member => absent (by simp [member]))]
      rfl

/-- A cut exists exactly when the separator occurs. -/
theorem cutAt?_eq_none_iff {separator : Char} {text : List Char} :
    cutAt? separator text = none ↔ separator ∉ text := by
  induction text with
  | nil => simp [cutAt?]
  | cons c rest ih =>
      rw [cutAt?]
      split
      · next same => simp [same]
      · next other =>
          rw [Option.map_eq_none_iff, ih]
          simp [Ne.symm other]

/-- The text after `delimiter`, when the text starts with it. -/
def dropPrefix? : (delimiter text : List Char) → Option (List Char)
  | [], text => some text
  | _ :: _, [] => none
  | d :: delimiter, c :: text => if c = d then dropPrefix? delimiter text else none

theorem eq_of_dropPrefix? {delimiter text rest : List Char}
    (found : dropPrefix? delimiter text = some rest) : text = delimiter ++ rest := by
  induction delimiter generalizing text with
  | nil => simpa [dropPrefix?] using found
  | cons d delimiter ih =>
      cases text with
      | nil => simp [dropPrefix?] at found
      | cons c text =>
          rw [dropPrefix?] at found
          split at found
          · next same => simp [same, ih found]
          · cases found

/-- Cut in two at the first occurrence of a longer `delimiter`. -/
def cutAround? (delimiter : List Char) : List Char → Option (List Char × List Char)
  | [] => (dropPrefix? delimiter []).map fun rest => ([], rest)
  | c :: rest =>
      match dropPrefix? delimiter (c :: rest) with
      | some after => some ([], after)
      | none =>
          (cutAround? delimiter rest).map fun (before, after) => (c :: before, after)

/-- A cut reads as the first part, the delimiter and the second part. -/
theorem eq_of_cutAround? {delimiter text before after : List Char}
    (cut : cutAround? delimiter text = some (before, after)) :
    text = before ++ delimiter ++ after := by
  induction text generalizing before after with
  | nil =>
      rw [cutAround?] at cut
      obtain ⟨rest, found, shape⟩ := Option.map_eq_some_iff.1 cut
      cases shape
      simpa using eq_of_dropPrefix? found
  | cons c text ih =>
      rw [cutAround?] at cut
      split at cut
      · next found =>
          cases cut
          simpa using eq_of_dropPrefix? found
      · obtain ⟨⟨first, second⟩, found, shape⟩ := Option.map_eq_some_iff.1 cut
        cases shape
        simp [ih found]

end Guidebook.Text
