import DataAccess.Members.Plan
import DataAccess.Proofs.Naming.WordEnds
import DataAccess.TypeScript.Binding
import Mathlib.Data.List.Nodup

/-!
# Names that are moved aside

A name that is taken gets an underscore behind it, whatever other names there are. Distinct names
stay distinct exactly where no moved name is one of the others (`nodup_map_moved_iff`). Identifiers
in a style always leave room in this way, for no style writes an underscore at the end
(`leavesRoom_of_style`).
-/

namespace DataAccess.Members

open Naming

/-- The name, moved aside where it is taken. -/
def moved (taken : String → Bool) (name : String) : String :=
  aside (taken name) name

/-- Names are taken by words: each ends, and not with an underscore. -/
def AreWords (taken : String → Bool) : Prop :=
  ∀ name, taken name = true → ∃ c ≠ '_', name.toList.getLast? = some c

/-- No name is what a taken name becomes. -/
def LeavesRoom (taken : String → Bool) (names : List String) : Prop :=
  ∀ name ∈ names, taken name = true → name ++ "_" ∉ names

instance (taken : String → Bool) (names : List String) : Decidable (LeavesRoom taken names) :=
  inferInstanceAs (Decidable (∀ _ ∈ _, _ → _))

theorem areWords_contains {words : List String}
    (each : ∀ word ∈ words, word.toList.getLast?.any (· != '_') = true) :
    AreWords words.contains := by
  intro name taken
  obtain ⟨c, last, plain⟩ :=
    Option.any_eq_true _ _ |>.mp (each name (List.contains_iff_mem.mp taken))
  exact ⟨c, bne_iff_ne.mp plain, last⟩

section Moved

variable {taken : String → Bool} {name other : String}

theorem moved_of_taken (isTaken : taken name = true) : moved taken name = name ++ "_" := by
  rw [moved, aside, if_pos isTaken]

theorem moved_of_free (free : taken name = false) : moved taken name = name := by
  rw [moved, aside, free]
  rfl

theorem AreWords.free_underscore (words : AreWords taken) (name : String) :
    taken (name ++ "_") = false := by
  by_contra isTaken
  obtain ⟨c, plain, last⟩ := words _ (Bool.not_eq_false _ |>.mp isTaken)
  rw [String.toList_append] at last
  exact plain (Option.some.inj (last.symm.trans List.getLast?_concat))

/-- A name that was moved aside is free. -/
theorem AreWords.free_moved (words : AreWords taken) (name : String) :
    taken (moved taken name) = false := by
  cases isTaken : taken name with
  | true => rw [moved_of_taken isTaken, words.free_underscore]
  | false => rw [moved_of_free isTaken, isTaken]

/-- A name is moved once at most, although it is looked up twice. -/
theorem AreWords.moved_moved (words : AreWords taken) (before : String → Bool) (name : String) :
    moved taken (moved before name) = moved (fun name => before name || taken name) name := by
  cases first : before name with
  | true =>
      have either : (before name || taken name) = true := by rw [first, Bool.true_or]
      rw [moved_of_taken first, moved_of_free (words.free_underscore name),
        @moved_of_taken (fun name => before name || taken name) name either]
  | false =>
      rw [moved_of_free first, moved, moved, first, Bool.false_or]

end Moved

variable {taken : String → Bool} {names : List String}

/-- **Distinct names stay distinct exactly where the moved ones find room.** -/
theorem nodup_map_moved_iff (words : AreWords taken) (distinct : names.Nodup) :
    (names.map (moved taken)).Nodup ↔ LeavesRoom taken names := by
  rw [List.nodup_map_iff_inj_on distinct]
  constructor
  · intro apart name member isTaken occupied
    have meet : moved taken name = moved taken (name ++ "_") := by
      rw [moved_of_taken isTaken, moved_of_free (words.free_underscore name)]
    have same := apart name member (name ++ "_") occupied meet
    rw [same, words.free_underscore] at isTaken
    cases isTaken
  · intro room first firstMember second secondMember meet
    cases firstTaken : taken first <;> cases secondTaken : taken second
    · rwa [moved_of_free firstTaken, moved_of_free secondTaken] at meet
    · rw [moved_of_free firstTaken, moved_of_taken secondTaken] at meet
      exact absurd (meet ▸ firstMember) (room second secondMember secondTaken)
    · rw [moved_of_taken firstTaken, moved_of_free secondTaken] at meet
      exact absurd (meet ▸ secondMember) (room first firstMember firstTaken)
    · rw [moved_of_taken firstTaken, moved_of_taken secondTaken] at meet
      exact (String.append_left_inj "_").mp meet

/-- Identifiers in a style leave room for whatever is moved aside. -/
theorem leavesRoom_of_style (words : AreWords taken) (style : CaseStyle)
    (each : ∀ name ∈ names, ∃ source, name = identifier (some style) source) :
    LeavesRoom taken names := by
  intro name member isTaken occupied
  obtain ⟨source, same⟩ := each _ occupied
  have underscore : (name ++ "_").toList.getLast? = some '_' := by
    rw [String.toList_append]
    exact List.getLast?_concat
  rcases endsPlain_identifier style source with plain | blank
  · rw [← same] at plain
    exact plain underscore
  · -- a name of underscores only is none of the words
    obtain ⟨c, plain, last⟩ := words name isTaken
    rw [← same, String.toList_append] at blank
    exact plain (blank c (List.mem_append_left _ (List.mem_of_getLast? last)))

end DataAccess.Members
