import Mathlib.Data.List.Basic

/-! # Lists with one item changed or added

A change of one item is invisible to whatever does not look at that item, and an
item of a longer list is an earlier one or the last. Items in the order of their
ranks are a sublist of every such list that has them.
-/

namespace Foundation

open List

variable {α β : Type} {items : List α} {last : α}

theorem filter_modify {accepted : α → Bool} {change : α → α} (index : Nat)
    (h : ∀ item, items[index]? = some item → accepted item = false ∧ accepted (change item) = false)
    : (items.modify index change).filter accepted = items.filter accepted := by
  induction items generalizing index with
  | nil => simp
  | cons first rest ih =>
    cases index with
    | zero =>
      obtain ⟨hbefore, hafter⟩ := h first rfl
      simp [hbefore, hafter]
    | succ index =>
      have hrest := ih index fun item hitem => h item (by simpa using hitem)
      simp only [modify_succ_cons, filter_cons, hrest]

theorem map_modify {image : α → β} {change : α → α} (h : ∀ item, image (change item) = image item)
    (items : List α) (index : Nat) : (items.modify index change).map image = items.map image := by
  induction items generalizing index with
  | nil => simp
  | cons first rest ih =>
    cases index with
    | zero => simp [h]
    | succ index => simp [ih]

/-- What holds of all items and of one more. -/
theorem forall_mem_snoc {p : α → Prop} (hitems : ∀ item ∈ items, p item) (hlast : p last) :
    ∀ item ∈ items ++ [last], p item :=
  forall_mem_append.mpr ⟨hitems, forall_mem_singleton.mpr hlast⟩

theorem pairwise_snoc {r : α → α → Prop} (h : items.Pairwise r)
    (hlast : ∀ item ∈ items, r item last) : (items ++ [last]).Pairwise r := by
  rw [pairwise_append]
  refine ⟨h, pairwise_singleton _ _, fun item hitem => ?_⟩
  exact forall_mem_singleton.mpr (hlast item hitem)

theorem getElem?_snoc_cases {found : α} {index : Nat} (h : (items ++ [last])[index]? = some found) :
    items[index]? = some found ∨ index = items.length ∧ found = last := by
  by_cases hindex : index < items.length
  · rw [getElem?_append_left hindex] at h
    exact .inl h
  · obtain ⟨hbound, -⟩ := List.getElem?_eq_some_iff.mp h
    have hlast : index = items.length := by
      simp only [length_append, length_singleton] at hbound
      omega
    subst hlast
    simp only [getElem?_concat_length, Option.some.injEq] at h
    exact .inr ⟨rfl, h.symm⟩

/-- An item of a list with one more is the last one or stands before it. -/
theorem snoc_split {before after : List α} {found : α}
    (h : items ++ [last] = before ++ found :: after) :
    before = items ∧ found = last ∨ ∃ rest, items = before ++ found :: rest := by
  rcases eq_nil_or_concat after with rfl | ⟨rest, final, rfl⟩
  · obtain ⟨hitems, hlast⟩ := append_inj' h rfl
    cases hlast
    exact .inl ⟨hitems.symm, rfl⟩
  · rw [concat_eq_append, ← cons_append, ← append_assoc] at h
    exact .inr ⟨rest, (append_inj' h rfl).1⟩

theorem sublist_of_ranked {rank : α → Nat} {some all : List α}
    (hsome : some.Pairwise (rank · < rank ·)) (hall : all.Pairwise (rank · < rank ·))
    (h : some ⊆ all) : some.Sublist all := by
  induction all generalizing some with
  | nil =>
    rw [subset_nil.mp h]
  | cons first rest ih =>
    rw [pairwise_cons] at hall
    cases some with
    | nil => exact nil_sublist _
    | cons item others =>
      rw [pairwise_cons] at hsome
      -- No later item is the first one: that has the lowest rank of all.
      have hothers : ∀ other ∈ others, other ∈ rest := by
        intro other hother
        rcases mem_cons.mp (h (mem_cons_of_mem item hother)) with rfl | hrest
        · have hitem := hsome.1 other hother
          rcases mem_cons.mp (h mem_cons_self) with rfl | hlater
          · exact absurd hitem (Nat.lt_irrefl _)
          · exact absurd (hall.1 item hlater) (Nat.lt_asymm hitem)
        · exact hrest
      rcases mem_cons.mp (h mem_cons_self) with rfl | hitem
      · exact (ih hsome.2 hall.2 hothers).cons_cons item
      · refine (ih (pairwise_cons.mpr hsome) hall.2 ?_).cons first
        exact forall_mem_cons.mpr ⟨hitem, hothers⟩

/-! ## Neighbours in a list

The pairs of neighbouring items of a list, and the few lemmas a search over
them needs: where a pair of neighbours stands, and that a bounded tail of the
list keeps the neighbours it holds.
-/

section Neighbours

/-- Each item with the one behind it. -/
def adjacent (items : List α) : List (α × α) := items.zip items.tail

variable {items : List α} {pair : α × α} {count : Nat}

theorem mem_adjacent : pair ∈ adjacent items ↔
    ∃ index, items[index]? = some pair.1 ∧ items[index + 1]? = some pair.2 := by
  simp only [adjacent, mem_iff_getElem?, getElem?_zip_eq_some, getElem?_tail]

/-- The last `count` items. -/
def lastItems (count : Nat) (items : List α) : List α := items.drop (items.length - count)

theorem getElem?_lastItems (count : Nat) (items : List α) (index : Nat) :
    (lastItems count items)[index]? = items[items.length - count + index]? := by
  rw [lastItems, getElem?_drop]

theorem length_lastItems (count : Nat) (items : List α) :
    (lastItems count items).length = min items.length count := by
  rw [lastItems, length_drop]
  omega

theorem getLast?_lastItems (hcount : 0 < count) (items : List α) :
    (lastItems count items).getLast? = items.getLast? := by
  rw [getLast?_eq_getElem?, getLast?_eq_getElem?, getElem?_lastItems, length_lastItems]
  cases items with
  | nil => rfl
  | cons item items =>
    congr 1
    omega

/-- One more item pushes out the oldest of the last `count`. -/
theorem lastItems_snoc (hcount : 0 < count) (items : List α) (item : α) :
    lastItems count (items ++ [item]) = if count < (lastItems count items ++ [item]).length
        then (lastItems count items ++ [item]).tail else lastItems count items ++ [item] := by
  rw [length_append, length_lastItems]
  unfold lastItems
  rw [length_append, length_singleton]
  split
  next hfull =>
    rw [show items.length + 1 - count = items.length - count + 1 by omega, ← tail_drop,
      drop_append_of_le_length (by omega)]
  next hroom =>
    rw [show items.length + 1 - count = items.length - count by omega,
      drop_append_of_le_length (by omega)]

/-- Neighbours among the last items are neighbours in the list. -/
theorem mem_adjacent_of_lastItems (h : pair ∈ adjacent (lastItems count items)) :
    pair ∈ adjacent items := by
  obtain ⟨index, hleft, hright⟩ := mem_adjacent.mp h
  rw [getElem?_lastItems] at hleft hright
  exact mem_adjacent.mpr ⟨_, hleft, hright⟩

theorem mem_adjacent_of_append {more : List α} (h : pair ∈ adjacent items) :
    pair ∈ adjacent (items ++ more) := by
  obtain ⟨index, hleft, hright⟩ := mem_adjacent.mp h
  have hgrows : ∀ {position : Nat} {item : α}, items[position]? = some item →
      (items ++ more)[position]? = some item := by
    intro position item hitem
    rw [List.getElem?_append_left (List.getElem?_eq_some_iff.mp hitem).1, hitem]
  exact mem_adjacent.mpr ⟨index, hgrows hleft, hgrows hright⟩

/-- A search that can only succeed in one place finds that place. -/
theorem find?_eq_some_of_unique {holds : α → Bool} {item : α} (hmem : item ∈ items)
    (hitem : holds item = true) (hunique : ∀ other ∈ items, holds other = true → other = item) :
    items.find? holds = some item := by
  cases hfound : items.find? holds with
  | none => exact absurd hitem (find?_eq_none.mp hfound item hmem)
  | some other =>
    rw [hunique other (mem_of_find?_eq_some hfound) (find?_some hfound)]

end Neighbours

end Foundation
