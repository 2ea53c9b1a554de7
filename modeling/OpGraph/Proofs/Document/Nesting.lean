import OpGraph.Proofs.Binary64
import OpGraph.Proofs.Document.Leaves

/-!
# Nested lists in attribute texts

The text of a datum shows its leaves and nothing of how they are nested. Where no list is empty, the
leaves are all the data in it that are no lists, and only a string may have a comma in its text;
where none has, splitting the text at commas finds the texts of the leaves.
-/

namespace OpGraph.Datum

mutual

/-- No list in the datum is empty, however deep it is. -/
def IsFilled : Datum → Prop
  | list items => items ≠ [] ∧ AllFilled items
  | _ => True

/-- Several data in which no list is empty. -/
def AllFilled : List Datum → Prop
  | [] => True
  | d :: ds => d.IsFilled ∧ AllFilled ds

end

mutual

/-- Where no list is empty, no leaf is a list. The recursion goes through a datum and the items of a
list together. -/
theorem list_not_mem_leaves : ∀ d : Datum, d.IsFilled → ∀ items, list items ∉ d.leaves
  | bool _, _, _ | int _, _, _ | float _, _, _ | text _, _, _ => by simp [leaves]
  | list [], h, _ => absurd rfl h.1
  | list (item :: rest), h, items => by
    rw [leaves, List.mem_append, not_or]
    exact ⟨list_not_mem_leaves item h.2.1 items, list_not_mem_leavesAll rest h.2.2 items⟩

theorem list_not_mem_leavesAll :
    ∀ ds : List Datum, AllFilled ds → ∀ items, list items ∉ leavesAll ds
  | [], _, _ => List.not_mem_nil
  | d :: ds, h, items => by
    rw [leavesAll, List.mem_append, not_or]
    exact ⟨list_not_mem_leaves d h.1 items, list_not_mem_leavesAll ds h.2 items⟩

end

/-- Only strings and lists may have commas in their texts. -/
theorem comma_not_mem_render {d : Datum} (htext : ∀ s, d = text s → ',' ∉ s.toList)
    (hlist : ∀ items, d ≠ list items) : ',' ∉ d.render.toList := by
  cases d with
  | bool value => cases value <;> decide
  | int value =>
    intro hcomma
    exact absurd ((Numeral.denotes_repr value.toInt).sign_or_isDigit hcomma) (by decide)
  | float value =>
    intro hcomma
    exact absurd (value.isTextChar_of_mem_text ',' hcomma) (by decide)
  | text value => exact htext value rfl
  | list items => exact absurd rfl (hlist items)

/-- Splitting a text at commas finds the texts of the leaves, if these have no commas in them. -/
theorem splitOn_render {d : Datum} (hleaves : ∀ leaf ∈ d.leaves, ',' ∉ leaf.render.toList) :
    d.render.toList.splitOn ',' = d.leaves.map fun leaf => leaf.render.toList := by
  have htext : d.render.toList =
      [','].intercalate (d.leaves.map fun leaf => leaf.render.toList) := by
    rw [render_eq_intercalate]
    simp [Function.comp_def]
  rw [htext]
  refine List.splitOn_intercalate ',' ?_ (by simp [leaves_ne_nil])
  intro item hitem
  obtain ⟨leaf, hleaf, rfl⟩ := List.mem_map.1 hitem
  exact hleaves leaf hleaf

/-- Let no list in a datum be empty. Then its leaves are no lists, and its text is made of their
texts, from left to right, with one comma between any two. So a datum with the same leaves has the
same text, however they are nested in it. If no string among the leaves has a comma in it, then
splitting the text at commas gives the list of their texts. -/
theorem render_joins_leaves {d : Datum} (hd : d.IsFilled) :
    (∀ leaf ∈ d.leaves, ∀ items, leaf ≠ list items) ∧
    d.render = String.intercalate "," (d.leaves.map render) ∧
    (∀ e : Datum, e.IsFilled → e.leaves = d.leaves → e.render = d.render) ∧
    ((∀ s, text s ∈ d.leaves → ',' ∉ s.toList) →
      (d.render.toList.splitOn ',').map String.ofList = d.leaves.map render) := by
  have hlists : ∀ leaf ∈ d.leaves, ∀ items, leaf ≠ list items := by
    rintro leaf hleaf items rfl
    exact list_not_mem_leaves d hd items hleaf
  refine ⟨hlists, render_eq_intercalate d, ?_, ?_⟩
  · intro e _ hleaves
    rw [render_eq_intercalate e, hleaves, ← render_eq_intercalate d]
  · intro htexts
    rw [splitOn_render, List.map_map]
    · simp [Function.comp_def]
    · intro leaf hleaf
      refine comma_not_mem_render ?_ (hlists leaf hleaf)
      rintro s rfl
      exact htexts s hleaf

/-- Leaves of every kind at four depths, among them an empty string. -/
def nested : Datum :=
  list [text "a b", list [int (-3), list [list [float (.finite true 0)]], bool true], text ""]

/-- The leaves of the nested datum in a list without any nesting. -/
def flat : Datum := list [text "a b", int (-3), float (.finite true 0), bool true, text ""]

/-- Two data with the same leaves, nested differently, have the same text, and splitting it finds
the leaves of both. -/
theorem render_joins_leaves_nested : nested.IsFilled ∧ flat.IsFilled ∧ flat.leaves = nested.leaves ∧
    (∀ s, text s ∈ nested.leaves → ',' ∉ s.toList) ∧ flat.render = nested.render ∧
    (nested.render.toList.splitOn ',').map String.ofList = ["a b", "-3", "-0.0", "true", ""] := by
  have hnested : nested.IsFilled := by simp [nested, IsFilled, AllFilled]
  have hflat : flat.IsFilled := by simp [flat, IsFilled, AllFilled]
  have hleaves : flat.leaves = nested.leaves := rfl
  have htexts : ∀ s, text s ∈ nested.leaves → ',' ∉ s.toList := by
    intro s hs
    have hcases : s = "a b" ∨ s = "" := by simpa [nested, leaves, leavesAll] using hs
    rcases hcases with rfl | rfl <;> decide
  obtain ⟨-, -, halike, hsplit⟩ := render_joins_leaves hnested
  exact ⟨hnested, hflat, hleaves, htexts, halike flat hflat hleaves, hsplit htexts⟩

end OpGraph.Datum
