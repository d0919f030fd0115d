import DataAccess.Text.Blank

/-!
# Trimming

Trimming leaves a text as it is if there is no white space at its ends (`trimChars_of_ends`), and
takes away whatever white space is put around a text (`trimChars_surrounded`).
-/

namespace DataAccess.Text

theorem dropBlanks_of_head {text : List Char} (first : ∀ c ∈ text.head?, isBlank c = false) :
    dropBlanks text = text := by
  cases text with
  | nil => rfl
  | cons c rest => exact List.dropWhile_cons_of_neg (by simp [first c rfl])

theorem dropLastWhile_of_getLast? {inClass : Char → Bool} {text : List Char}
    (last : ∀ c ∈ text.getLast?, inClass c = false) : dropLastWhile inClass text = text := by
  induction text with
  | nil => rfl
  | cons c rest ih =>
      cases rest with
      | nil =>
          have other : inClass c = false := last c rfl
          simp [dropLastWhile, other]
      | cons d rest =>
          have kept : dropLastWhile inClass (d :: rest) = d :: rest :=
            ih fun e final => last e (by rwa [List.getLast?_cons_cons])
          rw [dropLastWhile, kept]

theorem dropLastWhile_of_all {inClass : Char → Bool} {text : List Char}
    (all : ∀ c ∈ text, inClass c = true) : dropLastWhile inClass text = [] := by
  induction text with
  | nil => rfl
  | cons c rest ih =>
      have later : dropLastWhile inClass rest = [] :=
        ih fun d member => all d (List.mem_cons_of_mem _ member)
      rw [dropLastWhile, later]
      exact if_pos (all c List.mem_cons_self)

theorem dropLastWhile_append {inClass : Char → Bool} (text : List Char) {after : List Char}
    (all : ∀ c ∈ after, inClass c = true) :
    dropLastWhile inClass (text ++ after) = dropLastWhile inClass text := by
  induction text with
  | nil => exact dropLastWhile_of_all all
  | cons c rest ih => rw [List.cons_append, dropLastWhile, dropLastWhile, ih]

/-- What is dropped at the end is of the class. -/
theorem exists_append_dropLastWhile (inClass : Char → Bool) (text : List Char) :
    ∃ dropped, text = dropLastWhile inClass text ++ dropped ∧ ∀ c ∈ dropped, inClass c = true := by
  induction text with
  | nil => exact ⟨[], rfl, nofun⟩
  | cons c rest ih =>
      obtain ⟨dropped, whole, all⟩ := ih
      rw [dropLastWhile]
      cases kept : dropLastWhile inClass rest with
      | nil =>
          obtain rfl : rest = dropped := by rwa [kept, List.nil_append] at whole
          cases last : inClass c with
          | true => exact ⟨c :: rest, rfl, List.forall_mem_cons.mpr ⟨last, all⟩⟩
          | false => exact ⟨rest, rfl, all⟩
      | cons d others =>
          rw [kept] at whole
          exact ⟨dropped, congrArg (c :: ·) whole, all⟩

theorem trimChars_of_ends {text : List Char} (first : ∀ c ∈ text.head?, isBlank c = false)
    (last : ∀ c ∈ text.getLast?, isBlank c = false) : trimChars text = text := by
  rw [trimChars, dropBlanks_of_head first, dropLastWhile_of_getLast? last]

/-- White space around a text makes no difference to trimming it. -/
theorem trimChars_surrounded {before after : List Char} (text : List Char)
    (blankBefore : ∀ c ∈ before, isBlank c = true) (blankAfter : ∀ c ∈ after, isBlank c = true) :
    trimChars (before ++ text ++ after) = trimChars text := by
  unfold trimChars dropBlanks
  rw [List.append_assoc, List.dropWhile_append_of_pos blankBefore, List.dropWhile_append]
  by_cases blank : (text.dropWhile isBlank).isEmpty = true
  · -- Nothing is left of a blank text, and nothing of the white space behind it.
    have dropped : (after ++ []).dropWhile isBlank = [] := List.dropWhile_append_of_pos blankAfter
    rw [List.append_nil] at dropped
    rw [if_pos blank, dropped, List.isEmpty_iff.mp blank]
  · rw [if_neg blank, dropLastWhile_append _ blankAfter]

theorem trim_of_ends {text : String} (first : ∀ c ∈ text.toList.head?, isBlank c = false)
    (last : ∀ c ∈ text.toList.getLast?, isBlank c = false) : trim text = text := by
  rw [trim, trimChars_of_ends first last, String.ofList_toList]

end DataAccess.Text
