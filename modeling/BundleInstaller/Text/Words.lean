/-!
# Words

`splitOn` takes a text apart at each occurrence of a character; joining the words with that
character between them gives the text back.
-/

namespace BundleInstaller.Text

/-- The words between the occurrences of a character. -/
def splitOn (sep : Char) : List Char → List (List Char)
  | [] => [[]]
  | c :: rest =>
    match splitOn sep rest with
    | [] => [[c]]
    | word :: words => if c = sep then [] :: word :: words else (c :: word) :: words

theorem splitOn_ne_nil (sep : Char) (s : List Char) : splitOn sep s ≠ [] := by
  cases s with
  | nil => simp [splitOn]
  | cons c rest =>
    unfold splitOn
    split
    · simp
    · split <;> simp

theorem intercalate_splitOn (sep : Char) (s : List Char) :
    List.intercalate [sep] (splitOn sep s) = s := by
  induction s with
  | nil => rfl
  | cons c rest ih =>
    unfold splitOn
    split
    · next h => exact absurd h (splitOn_ne_nil sep rest)
    · next word words h =>
      rw [h] at ih
      split
      · next hc =>
        subst hc
        simpa [List.intercalate] using ih
      · cases words <;> simpa [List.intercalate] using ih

/-! ## Words of joined texts -/

theorem splitOn_cons_self (sep : Char) (s : List Char) :
    splitOn sep (sep :: s) = [] :: splitOn sep s := by
  cases h : splitOn sep s with
  | nil => exact absurd h (splitOn_ne_nil sep s)
  | cons word words => simp [splitOn, h]

theorem splitOn_cons_of_ne {sep c : Char} {s word : List Char} {words : List (List Char)}
    (hc : c ≠ sep) (h : splitOn sep s = word :: words) :
    splitOn sep (c :: s) = (c :: word) :: words := by
  simp [splitOn, h, hc]

theorem splitOn_append (sep : Char) (a b : List Char) :
    splitOn sep (a ++ sep :: b) = splitOn sep a ++ splitOn sep b := by
  induction a with
  | nil => exact splitOn_cons_self sep b
  | cons c a ih =>
    rw [List.cons_append]
    by_cases hc : c = sep
    · subst hc
      rw [splitOn_cons_self, splitOn_cons_self, ih, List.cons_append]
    · obtain ⟨word, words, ha⟩ := List.exists_cons_of_ne_nil (splitOn_ne_nil sep a)
      rw [ha, List.cons_append] at ih
      rw [splitOn_cons_of_ne hc ih, splitOn_cons_of_ne hc ha, List.cons_append]

theorem splitOn_of_not_mem {sep : Char} {s : List Char} (h : sep ∉ s) : splitOn sep s = [s] := by
  induction s with
  | nil => rfl
  | cons c s ih =>
    rw [List.mem_cons, not_or] at h
    exact splitOn_cons_of_ne (Ne.symm h.1) (ih h.2)

theorem splitOn_inj {sep : Char} {a b : List Char} : splitOn sep a = splitOn sep b ↔ a = b := by
  refine ⟨fun h => ?_, congrArg _⟩
  rw [← intercalate_splitOn sep a, h, intercalate_splitOn]

end BundleInstaller.Text
