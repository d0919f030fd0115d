import DataAccess.Catalog.SnapshotServer
import DataAccess.Proofs.Text.ByteOrder
import Mathlib.Data.List.Pairwise

/-!
# Stable sorting

Sorting keeps the order of the items that are level (`filter_mergeSort`). Where no two items are
level, the sorted order is the only one (`mergeSort_eq_of_perm`).
-/

namespace DataAccess.Catalog

open Text

section Sorting

variable {α : Type _} {le : α → α → Bool}

/-- What a sort needs to know of an order. -/
structure IsOrder (le : α → α → Bool) : Prop where
  trans : ∀ first second third, le first second = true → le second third = true →
    le first third = true
  total : ∀ left right, (le left right || le right left) = true

/-- **Sorting is stable.** Items that are all level with each other keep their order. -/
theorem filter_mergeSort (order : IsOrder le) (items : List α) {keeps : α → Bool}
    (level : ∀ left right, keeps left = true → keeps right = true → le left right = true) :
    (items.mergeSort le).filter keeps = items.filter keeps := by
  have sorted : (items.filter keeps).Pairwise fun left right => le left right = true := by
    refine List.pairwise_of_forall_mem_list fun left inLeft right inRight => ?_
    exact level left right (List.mem_filter.mp inLeft).2 (List.mem_filter.mp inRight).2
  have kept : (items.filter keeps).Sublist (items.mergeSort le) :=
    List.sublist_mergeSort order.trans order.total sorted List.filter_sublist
  have within : (items.filter keeps).Sublist ((items.mergeSort le).filter keeps) := by
    simpa using kept.filter keeps
  have lengths := ((List.mergeSort_perm items le).filter keeps).length_eq
  exact (within.eq_of_length lengths.symm).symm

/-- Items of a strictly increasing list that are level with each other are the same. -/
theorem eq_of_level {items : List α}
    (increasing : items.Pairwise fun left right => le left right = true ∧ le right left = false)
    {left right : α} (inLeft : left ∈ items) (inRight : right ∈ items)
    (upTo : le left right = true) (downTo : le right left = true) : left = right := by
  let level (left right : α) : Prop :=
    le left right = true → le right left = true → left = right
  have symmetric : Std.Symm level := ⟨fun _ _ same downTo upTo => (same upTo downTo).symm⟩
  have reflexive : ∀ item ∈ items, level item item := fun _ _ _ _ => rfl
  have apart : items.Pairwise level := increasing.imp fun before _ downTo => by
    rw [before.2] at downTo
    cases downTo
  exact List.Pairwise.forall_of_forall reflexive apart inLeft inRight upTo downTo

/-- What stands in strictly increasing order is the sorted form of each of its rearrangements. -/
theorem mergeSort_eq_of_perm (order : IsOrder le) {items sorted : List α}
    (perm : items.Perm sorted)
    (increasing : sorted.Pairwise fun left right => le left right = true ∧ le right left = false) :
    items.mergeSort le = sorted := by
  have same : (items.mergeSort le).Perm sorted := (List.mergeSort_perm items le).trans perm
  refine same.eq_of_pairwise ?_ (List.pairwise_mergeSort order.trans order.total items)
    (increasing.imp fun before => before.1)
  intro left right inLeft inRight upTo downTo
  exact eq_of_level increasing (same.mem_iff.mp inLeft) inRight upTo downTo

end Sorting

namespace SnapshotServer

variable {α : Type _} (name : α → String) (items : List α)

theorem isOrder_byBytes : IsOrder fun left right : α => byBytes (name left) (name right) :=
  ⟨fun _ _ _ => byBytes_trans, fun _ _ => byBytes_total _ _⟩

theorem perm_sortedBy : (sortedBy name items).Perm items :=
  List.mergeSort_perm _ _

theorem pairwise_sortedBy :
    (sortedBy name items).Pairwise fun left right => byBytes (name left) (name right) = true :=
  List.pairwise_mergeSort (isOrder_byBytes name).trans (isOrder_byBytes name).total items

/-- Items of one name keep their order. -/
theorem filter_sortedBy (text : String) :
    (sortedBy name items).filter (fun item => name item = text) =
      items.filter fun item => name item = text := by
  refine filter_mergeSort (isOrder_byBytes name) items fun left right lefts rights => ?_
  rw [of_decide_eq_true lefts, of_decide_eq_true rights]
  exact byBytes_refl text

end SnapshotServer

end DataAccess.Catalog
