import Mathlib.Data.List.DropRight
import Mathlib.Data.List.Forall2
import OpGraph.Proofs.Text.Trim

/-!
# Items between separators

A text that is split at a separator is the list of its items, and joining them gives the text again.
Blanks around the text get into its first and its last item, where trimming removes them.
-/

namespace OpGraph.Text

variable {c separator : Char} {cs core run : List Char} {items : List (List Char)}

/-- The text is the items, at least one, with the separator between them and in none of them. -/
def Separated (separator : Char) (items : List (List Char)) (cs : List Char) : Prop :=
  items ≠ [] ∧ (∀ item ∈ items, separator ∉ item) ∧ cs = [separator].intercalate items

/-- What is true of the separator and of all characters of the items is true of all of the text. -/
theorem forall_mem_intercalate {P : Char → Prop} (hseparator : P separator)
    (hitems : ∀ item ∈ items, ∀ c ∈ item, P c) : ∀ c ∈ [separator].intercalate items, P c := by
  induction items with
  | nil => exact List.forall_mem_nil _
  | cons first rest ih =>
    obtain ⟨hfirst, hrest⟩ := List.forall_mem_cons.1 hitems
    cases rest with
    | nil =>
      rw [List.intercalate_singleton]
      exact hfirst
    | cons next rest =>
      rw [List.intercalate_cons_cons, List.append_assoc, List.forall_mem_append,
        List.forall_mem_append, List.forall_mem_singleton]
      exact ⟨hfirst, hseparator, ih hrest⟩

/-- The items between separators have none in them. -/
theorem not_mem_of_mem_splitOn {item : List Char} (hitem : item ∈ cs.splitOn separator) :
    separator ∉ item := by
  induction cs generalizing item with
  | nil =>
    obtain rfl := List.mem_singleton.1 hitem
    exact List.not_mem_nil
  | cons c cs ih =>
    rw [List.splitOn_cons_eq_if_modifyHead] at hitem
    split at hitem
    next hc =>
      rcases List.mem_cons.1 hitem with rfl | hitem
      · exact List.not_mem_nil
      · exact ih hitem
    next hc =>
      generalize cs.splitOn separator = items at hitem ih
      cases items with
      | nil => cases hitem
      | cons first rest =>
        rcases List.mem_cons.1 hitem with rfl | hitem
        · intro hmem
          rcases List.mem_cons.1 hmem with rfl | hmem
          · exact hc (beq_self_eq_true _)
          · exact ih List.mem_cons_self hmem
        · exact ih (List.mem_cons_of_mem first hitem)

/-- Splitting finds the items, and no other list of items without separators makes the text. -/
theorem separated_iff : Separated separator items cs ↔ cs.splitOn separator = items := by
  constructor
  · rintro ⟨hne, hitems, rfl⟩
    exact List.splitOn_intercalate separator hitems hne
  · rintro rfl
    refine ⟨List.splitOn_ne_nil _ _, fun item => not_mem_of_mem_splitOn, ?_⟩
    exact (List.intercalate_splitOn separator).symm

/-- Items that are not empty can be told from the text in which they are joined. -/
theorem items_eq (hne : [] ∉ items) (hitems : ∀ item ∈ items, separator ∉ item) : items =
    if [separator].intercalate items = [] then []
    else ([separator].intercalate items).splitOn separator := by
  by_cases hempty : items = []
  · subst hempty
    rfl
  · have hsplit := List.splitOn_intercalate separator hitems hempty
    rw [if_neg, hsplit]
    -- an empty text would be a single empty item
    intro hnil
    rw [hnil] at hsplit
    exact hne (hsplit ▸ List.mem_singleton_self [])

/-- A text in which every item has a separator behind it is split into the items, with an empty
rest. -/
theorem splitOn_flatMap_terminated (hitems : ∀ item ∈ items, separator ∉ item) :
    (items.flatMap fun item => item ++ [separator]).splitOn separator = items ++ [[]] := by
  induction items with
  | nil => rfl
  | cons first rest ih =>
    obtain ⟨hfirst, hrest⟩ := List.forall_mem_cons.1 hitems
    rw [List.flatMap_cons, List.append_assoc, List.singleton_append,
      List.splitOn_append_cons_self_of_not_mem hfirst, ih hrest, List.cons_append]

/-- Whatever stands before the items, they are the last pieces of the text. -/
theorem rtake_splitOn_append (before : List Char) (hitems : ∀ item ∈ items, separator ∉ item) :
    ((before ++ separator :: [separator].intercalate items).splitOn separator).rtake items.length =
      items := by
  rw [List.splitOn_append_cons_self]
  by_cases hempty : items = []
  · subst hempty
    exact List.rtake_zero _
  · rw [List.splitOn_intercalate separator hitems hempty, List.rtake, List.length_append,
      Nat.add_sub_cancel, List.drop_left]

theorem beq_separator_of_isBlank (hseparator : isBlank separator = false) (hc : isBlank c = true) :
    (c == separator) = false := by
  apply beq_false_of_ne
  rintro rfl
  rw [hseparator] at hc
  cases hc

/-- Blanks before a text do not change its trimmed items: the first item gets them. -/
theorem map_trim_splitOn_append_left (hrun : ∀ c ∈ run, isBlank c = true)
    (hseparator : isBlank separator = false) (cs : List Char) :
    ((run ++ cs).splitOn separator).map trim = (cs.splitOn separator).map trim := by
  induction run with
  | nil => rfl
  | cons c run ih =>
    obtain ⟨hc, hrun⟩ := List.forall_mem_cons.1 hrun
    have htrim : ∀ item, trim (c :: item) = trim item := by
      intro item
      rw [trim, List.dropWhile_cons_of_pos hc, trim]
    rw [List.cons_append, List.splitOn_cons_eq_if_modifyHead,
      beq_separator_of_isBlank hseparator hc, ← ih hrun]
    cases (run ++ cs).splitOn separator with
    | nil => rfl
    | cons first items => simp [htrim]

/-- Blanks behind a text stand behind its last item. -/
theorem forall₂_splitOn_append_right (hrun : ∀ c ∈ run, isBlank c = true)
    (hseparator : isBlank separator = false) (cs : List Char) :
    List.Forall₂ (fun item item' => ∃ run, (∀ c ∈ run, isBlank c = true) ∧ item' = item ++ run)
      (cs.splitOn separator) ((cs ++ run).splitOn separator) := by
  induction cs with
  | nil =>
    have hsingle : run.splitOn separator = [run] := by
      apply List.splitOn_eq_singleton
      intro hmem
      rw [hrun separator hmem] at hseparator
      cases hseparator
    rw [List.nil_append, hsingle]
    exact .cons ⟨run, hrun, rfl⟩ .nil
  | cons c cs ih =>
    rw [List.cons_append, List.splitOn_cons_eq_if_modifyHead, List.splitOn_cons_eq_if_modifyHead]
    split
    · exact .cons ⟨[], List.forall_mem_nil _, by rw [List.append_nil]⟩ ih
    · generalize cs.splitOn separator = items at ih ⊢
      generalize (cs ++ run).splitOn separator = items' at ih ⊢
      cases ih with
      | nil => exact .nil
      | cons hfirst hitems =>
        obtain ⟨run', hrun', rfl⟩ := hfirst
        exact .cons ⟨run', hrun', rfl⟩ hitems

/-- Blanks around a text do not change its trimmed items. -/
theorem Padded.map_trim_splitOn (h : Padded core cs) (hseparator : isBlank separator = false) :
    (cs.splitOn separator).map trim = (core.splitOn separator).map trim := by
  obtain ⟨before, after, hbefore, hafter, rfl⟩ := h
  rw [List.append_assoc, map_trim_splitOn_append_left hbefore hseparator]
  have hitems := forall₂_splitOn_append_right hafter hseparator core
  rw [← List.forall₂_eq_eq_eq, List.forall₂_map_left_iff, List.forall₂_map_right_iff]
  refine hitems.flip.imp ?_
  rintro item' item ⟨run, hrun, rfl⟩
  exact Padded.trim_eq ⟨[], run, List.forall_mem_nil _, hrun, rfl⟩

end OpGraph.Text
