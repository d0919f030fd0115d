import DataAccess.Text.Basic

/-!
# Parts of a text

A text is split at a separator wherever the separator stands (`splitAt_append`), into parts of its
own characters (`mem_of_mem_splitAt`). Where a stretch of characters of a class is split off, it
goes up to the first character that is not in the class (`takeWhile_append`).
-/

namespace DataAccess.Text

theorem splitAt_ne_nil (separator : Char) (text : List Char) :
    splitAt separator text ≠ [] := by
  cases text with
  | nil => exact List.cons_ne_nil _ _
  | cons c rest =>
      rw [splitAt]
      split
      · exact List.cons_ne_nil _ _
      · split <;> exact List.cons_ne_nil _ _

theorem splitAt_append (separator : Char) (front back : List Char) :
    splitAt separator (front ++ separator :: back) =
      splitAt separator front ++ splitAt separator back := by
  induction front with
  | nil => simp [splitAt]
  | cons c front ih =>
      rw [List.cons_append, splitAt, splitAt]
      split
      · rw [ih, List.cons_append]
      · rw [ih]
        cases parts : splitAt separator front with
        | nil => exact absurd parts (splitAt_ne_nil separator front)
        | cons part parts => rfl

theorem splitAt_of_notMem {separator : Char} {text : List Char} (notMem : separator ∉ text) :
    splitAt separator text = [text] := by
  induction text with
  | nil => rfl
  | cons c rest ih =>
      rw [List.mem_cons, not_or] at notMem
      rw [splitAt, if_neg (Ne.symm notMem.1), ih notMem.2]

theorem mem_of_mem_splitAt {separator c : Char} {part text : List Char}
    (member : part ∈ splitAt separator text) (inside : c ∈ part) : c ∈ text := by
  induction text generalizing part with
  | nil =>
      cases List.mem_singleton.mp member
      cases inside
  | cons d rest ih =>
      rw [splitAt] at member
      split at member
      · rcases List.mem_cons.mp member with rfl | later
        · cases inside
        · exact List.mem_cons_of_mem _ (ih later inside)
      · cases parts : splitAt separator rest with
        | nil => exact absurd parts (splitAt_ne_nil separator rest)
        | cons first others =>
            rw [parts] at member ih
            rcases List.mem_cons.mp member with rfl | later
            · rcases List.mem_cons.mp inside with rfl | inFirst
              · exact List.mem_cons_self
              · exact List.mem_cons_of_mem _ (ih List.mem_cons_self inFirst)
            · exact List.mem_cons_of_mem _ (ih (List.mem_cons_of_mem _ later) inside)

/-- Characters of a class are split off up to the first character behind them that is not in it. -/
theorem takeWhile_append {holds : Char → Bool} {front rest : List Char}
    (all : ∀ c ∈ front, holds c = true) (ends : ∀ c ∈ rest.head?, holds c = false) :
    (front ++ rest).takeWhile holds = front ∧ (front ++ rest).dropWhile holds = rest := by
  have stops : rest.takeWhile holds = [] ∧ rest.dropWhile holds = rest := by
    cases rest with
    | nil => exact ⟨rfl, rfl⟩
    | cons c rest =>
        have no : ¬ holds c = true := by simp [ends c rfl]
        exact ⟨List.takeWhile_cons_of_neg no, List.dropWhile_cons_of_neg no⟩
  rw [List.takeWhile_append_of_pos all, List.dropWhile_append_of_pos all, stops.1, stops.2,
    List.append_nil]
  exact ⟨rfl, rfl⟩

theorem head?_dropWhile {holds : Char → Bool} {text : List Char} :
    ∀ c ∈ (text.dropWhile holds).head?, holds c = false := by
  intro c first
  have ends := List.head?_dropWhile_not holds text
  rw [Option.mem_def.mp first] at ends
  exact ends

end DataAccess.Text
