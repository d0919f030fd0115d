import Mathlib.Data.List.Infix

/-!
# Texts that can be read in one way

When items are written one after another without their lengths, a reader has to find where each one
ends. `TellsApart write follows` says that this can be done for the items that `write` writes, as
long as what stands behind an item is as `follows` says. Items can then be put together: one behind
the other, with an optional one at the end, and in lists with a separator. What may stand behind an
item is mostly the end or one of a few fixed texts (`Ends`).
-/

namespace DataAccess.Text

variable {α β : Type}

/-- Of two written items with something behind each, the items are the same and what stands behind
them is the same, if the whole texts are. -/
def TellsApart (write : α → List Char) (follows : List Char → Prop) : Prop :=
  ∀ ⦃first second : α⦄ ⦃rest more : List Char⦄, follows rest → follows more →
    write first ++ rest = write second ++ more → first = second ∧ rest = more

/-- The text is at its end, or it goes on with one of the texts. -/
def Ends (texts : List String) (rest : List Char) : Prop :=
  rest = [] ∨ ∃ text ∈ texts, text.toList <+: rest

/-- The text is not empty, and it differs somewhere from each of the texts. -/
def Differs (lead : String) (texts : List String) : Prop :=
  lead.toList ≠ [] ∧
    ∀ text ∈ texts, ¬ lead.toList <+: text.toList ∧ ¬ text.toList <+: lead.toList

instance (lead : String) (texts : List String) : Decidable (Differs lead texts) :=
  inferInstanceAs (Decidable (_ ∧ _))

section Ends

variable {texts : List String} {rest : List Char}

theorem ends_append {text : String} (listed : text ∈ texts) (rest : List Char) :
    Ends texts (text.toList ++ rest) :=
  Or.inr ⟨text, listed, List.prefix_append _ _⟩

/-- What goes on with a text goes on with the beginnings of it. -/
theorem Ends.imp {more : List String} (ends : Ends texts rest)
    (within : ∀ text ∈ texts, ∃ start ∈ more, start.toList <+: text.toList) : Ends more rest := by
  rcases ends with done | ⟨text, listed, starts⟩
  · exact Or.inl done
  · obtain ⟨start, inMore, shorter⟩ := within text listed
    exact Or.inr ⟨start, inMore, shorter.trans starts⟩

theorem Ends.not_prefix {lead : String} (ends : Ends texts rest) (differs : Differs lead texts) :
    ¬ lead.toList <+: rest := by
  obtain ⟨present, apart⟩ := differs
  intro starts
  rcases ends with rfl | ⟨text, listed, other⟩
  · exact present (List.prefix_nil.mp starts)
  · rcases List.prefix_or_prefix_of_prefix starts other with shorter | longer
    · exact (apart text listed).1 shorter
    · exact (apart text listed).2 longer

end Ends

namespace TellsApart

variable {write : α → List Char} {follows : List Char → Prop}

theorem imp {allows : List Char → Prop} (apart : TellsApart write follows)
    (fewer : ∀ rest, allows rest → follows rest) : TellsApart write allows :=
  fun _ _ rest more here there same => apart (fewer rest here) (fewer more there) same

theorem congr {other : α → List Char} (apart : TellsApart write follows)
    (same : ∀ item, other item = write item) : TellsApart other follows := by
  have functions : other = write := funext same
  rw [functions]
  exact apart

/-- Items can be told apart by a written form of what determines them. -/
theorem comap (apart : TellsApart write follows) {view : β → α}
    (determined : ∀ first second, view first = view second → first = second) :
    TellsApart (fun item => write (view item)) follows := by
  intro first second rest more here there same
  obtain ⟨views, rests⟩ := apart here there same
  exact ⟨determined first second views, rests⟩

theorem lead (apart : TellsApart write follows) (text : List Char) :
    TellsApart (fun item => text ++ write item) follows := by
  intro first second rest more here there same
  rw [List.append_assoc, List.append_assoc] at same
  exact apart here there (List.append_cancel_left same)

/-- An item with a text behind it. -/
theorem ended {allows : List Char → Prop} (apart : TellsApart write follows) (text : List Char)
    (link : ∀ rest, allows rest → follows (text ++ rest)) :
    TellsApart (fun item => write item ++ text) allows := by
  intro first second rest more here there same
  rw [List.append_assoc, List.append_assoc] at same
  obtain ⟨items, behind⟩ := apart (link rest here) (link more there) same
  exact ⟨items, List.append_cancel_left behind⟩

/-- One item behind another. -/
theorem append {writeNext : β → List Char} {allows : List Char → Prop}
    (apart : TellsApart write follows) (next : TellsApart writeNext allows)
    (link : ∀ item rest, allows rest → follows (writeNext item ++ rest)) :
    TellsApart (fun pair : α × β => write pair.1 ++ writeNext pair.2) allows := by
  rintro ⟨first, firstNext⟩ ⟨second, secondNext⟩ rest more here there same
  rw [List.append_assoc, List.append_assoc] at same
  obtain ⟨rfl, behind⟩ := apart (link firstNext rest here) (link secondNext more there) same
  obtain ⟨rfl, rests⟩ := next here there behind
  exact ⟨rfl, rests⟩

/-- An item that may be missing, and that has a text in front of it otherwise. -/
theorem optional {texts : List String} {lead : String} (apart : TellsApart write (Ends texts))
    (differs : Differs lead texts) :
    TellsApart (fun item : Option α => item.elim [] fun item => lead.toList ++ write item)
      (Ends texts) := by
  intro first second rest more here there same
  cases first with
  | none =>
      cases second with
      | none => exact ⟨rfl, same⟩
      | some second =>
          refine absurd ?_ (here.not_prefix differs)
          have whole : rest = lead.toList ++ (write second ++ more) := by
            simpa using same
          rw [whole]
          exact List.prefix_append _ _
  | some first =>
      cases second with
      | none =>
          refine absurd ?_ (there.not_prefix differs)
          have whole : more = lead.toList ++ (write first ++ rest) := by
            simpa using same.symm
          rw [whole]
          exact List.prefix_append _ _
      | some second =>
          obtain ⟨rfl, rests⟩ := apart.lead lead.toList here there same
          exact ⟨rfl, rests⟩

/-- With nothing behind them, items with the same written form are the same. -/
theorem injective {texts : List String} (apart : TellsApart write (Ends texts)) :
    Function.Injective write := by
  intro first second same
  exact (apart (Or.inl rfl) (Or.inl rfl) (congrArg (· ++ []) same)).1

end TellsApart

/-- Fixed texts can be told apart if none of them is the beginning of another. -/
theorem tellsApart_texts {text : α → String}
    (differ : ∀ first second, (text first).toList <+: (text second).toList → first = second)
    (follows : List Char → Prop) : TellsApart (fun item => (text item).toList) follows := by
  intro first second rest more _ _ same
  have starts : (text first).toList <+: (text second).toList ++ more :=
    same ▸ List.prefix_append _ _
  have items : first = second := by
    rcases List.prefix_or_prefix_of_prefix starts (List.prefix_append _ _) with shorter | longer
    · exact differ first second shorter
    · exact (differ second first longer).symm
  subst items
  exact ⟨rfl, List.append_cancel_left same⟩

/-- What stands behind an item in front of an optional one. -/
theorem ends_optional {texts : List String} {lead : String} {rest : List Char}
    (item : Option α) (write : α → List Char) (ends : Ends texts rest) :
    Ends (lead :: texts) (item.elim [] (fun item => lead.toList ++ write item) ++ rest) := by
  cases item with
  | none => exact ends.imp fun text listed => ⟨text, List.mem_cons_of_mem _ listed, List.prefix_rfl⟩
  | some item =>
      rw [Option.elim_some, List.append_assoc]
      exact ends_append List.mem_cons_self _

/-- Items with a separator in front of each. -/
def trailing (separator : String) (write : α → List Char) : List α → List Char
  | [] => []
  | item :: items => separator.toList ++ (write item ++ trailing separator write items)

/-- Items with a separator between neighbours. -/
def separated (separator : String) (write : α → List Char) : List α → List Char
  | [] => []
  | item :: items => write item ++ trailing separator write items

section Lists

variable {write : α → List Char} {texts : List String} {separator : String}

/-- What stands behind an item of a list: what stands behind the list, or a separator. -/
theorem ends_trailing (items : List α) {rest : List Char} (ends : Ends texts rest) :
    Ends (separator :: texts) (trailing separator write items ++ rest) := by
  cases items with
  | nil => exact ends.imp fun text listed => ⟨text, List.mem_cons_of_mem _ listed, List.prefix_rfl⟩
  | cons item items =>
      rw [trailing, List.append_assoc]
      exact ends_append List.mem_cons_self _

theorem TellsApart.trailing (apart : TellsApart write (Ends (separator :: texts)))
    (differs : Differs separator texts) :
    TellsApart (trailing separator write) (Ends texts) := by
  intro first
  induction first with
  | nil =>
      intro second rest more here there same
      cases second with
      | nil => exact ⟨rfl, same⟩
      | cons item items =>
          rw [Text.trailing, Text.trailing, List.nil_append, List.append_assoc] at same
          exact absurd (same ▸ List.prefix_append _ _) (here.not_prefix differs)
  | cons item items ih =>
      intro second rest more here there same
      cases second with
      | nil =>
          rw [Text.trailing, Text.trailing, List.nil_append, List.append_assoc] at same
          exact absurd (same ▸ List.prefix_append _ _) (there.not_prefix differs)
      | cons other others =>
          rw [Text.trailing, Text.trailing, List.append_assoc, List.append_assoc,
            List.append_assoc, List.append_assoc] at same
          obtain ⟨rfl, later⟩ := apart (ends_trailing items here)
            (ends_trailing others there) (List.append_cancel_left same)
          obtain ⟨rfl, rests⟩ := ih here there later
          exact ⟨rfl, rests⟩

/-- Lists can be told apart if no item starts as something behind a list does. -/
theorem TellsApart.separated (apart : TellsApart write (Ends (separator :: texts)))
    (differs : Differs separator texts)
    (starts : ∀ item rest more, Ends texts more → write item ++ rest ≠ more) :
    TellsApart (separated separator write) (Ends texts) := by
  intro first second rest more here there same
  cases first with
  | nil =>
      cases second with
      | nil => exact ⟨rfl, same⟩
      | cons item items =>
          rw [Text.separated, Text.separated, List.append_assoc] at same
          exact absurd same.symm (starts item _ rest here)
  | cons item items =>
      cases second with
      | nil =>
          rw [Text.separated, Text.separated, List.append_assoc] at same
          exact absurd same (starts item _ more there)
      | cons other others =>
          rw [Text.separated, Text.separated, List.append_assoc, List.append_assoc] at same
          obtain ⟨rfl, later⟩ :=
            apart (ends_trailing items here) (ends_trailing others there) same
          obtain ⟨rfl, rests⟩ := apart.trailing differs here there later
          exact ⟨rfl, rests⟩

/-- The list, unless it is empty. -/
def filled? : List α → Option (List α)
  | [] => none
  | item :: items => some (item :: items)

theorem filled?_injective {first second : List α} (same : filled? first = filled? second) :
    first = second := by
  cases first with
  | nil =>
      cases second with
      | nil => rfl
      | cons item items => cases same
  | cons item items =>
      cases second with
      | nil => cases same
      | cons other others => exact Option.some.inj same

/-- A list that is left out, with the text in front of it, where it is empty. -/
theorem TellsApart.filled {lead : String} {write : List α → List Char}
    (apart : TellsApart write (Ends texts)) (differs : Differs lead texts) :
    TellsApart
      (fun items : List α => (filled? items).elim [] fun items => lead.toList ++ write items)
      (Ends texts) :=
  (apart.optional differs).comap fun _ _ => filled?_injective

end Lists

end DataAccess.Text
