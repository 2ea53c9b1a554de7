import OpGraph.Document.Decode
import OpGraph.Proofs.Traversal

/-!
# Leaves of data

The attribute text of a list has the texts of its items between commas, and so has the text of an
item that is a list itself. All in all the leaves of the datum stand between commas, however deep
they are. An empty list is a leaf without text.
-/

namespace OpGraph

open Yaml (Fault Value)

mutual

/-- The values that are no lists with items, from left to right. -/
def Yaml.Value.leaves : Value → List Value
  | .sequence tag [] => [.sequence tag []]
  | .sequence _ (item :: items) => leaves item ++ leavesAll items
  | v => [v]

/-- The leaves of several values, from left to right. -/
def Yaml.Value.leavesAll : List Value → List Value
  | [] => []
  | v :: vs => leaves v ++ leavesAll vs

end

namespace Datum

mutual

/-- The data that are no lists with items, from left to right. -/
def leaves : Datum → List Datum
  | list [] => [list []]
  | list (item :: items) => leaves item ++ leavesAll items
  | d => [d]

/-- The leaves of several data, from left to right. -/
def leavesAll : List Datum → List Datum
  | [] => []
  | d :: ds => leaves d ++ leavesAll ds

end

/-- Every datum has a leaf, since an empty list is one. -/
theorem leaves_ne_nil : ∀ d : Datum, d.leaves ≠ []
  | bool _ | int _ | float _ | text _ => List.cons_ne_nil _ _
  | list [] => List.cons_ne_nil _ _
  | list (item :: items) => by
    rw [leaves]
    exact List.append_ne_nil_of_left_ne_nil (leaves_ne_nil item) _

mutual

/-- The text of a datum is made of the texts of its leaves, with a comma between any two of them. -/
theorem render_eq_intercalate : ∀ d : Datum, d.render = String.intercalate "," (d.leaves.map render)
  | bool _ | int _ | float _ | text _ => by simp [leaves]
  | list [] => by simp [leaves]
  | list (item :: items) => by
    rw [render, intercalate_renderAll (item :: items) (List.cons_ne_nil _ _)]
    rfl

/-- The texts of the items between commas are the texts of all their leaves between commas. -/
theorem intercalate_renderAll : ∀ ds : List Datum, ds ≠ [] →
    String.intercalate "," (renderAll ds) = String.intercalate "," ((leavesAll ds).map render)
  | [], h => absurd rfl h
  | [d], _ => by simp [renderAll, leavesAll, render_eq_intercalate d]
  | d :: d' :: ds, _ => by
    have hd : d.leaves.map render ≠ [] := by simp [leaves_ne_nil]
    have hds : (leavesAll (d' :: ds)).map render ≠ [] := by simp [leavesAll, leaves_ne_nil]
    calc String.intercalate "," (renderAll (d :: d' :: ds))
        = d.render ++ "," ++ String.intercalate "," (renderAll (d' :: ds)) :=
          String.intercalate_cons_cons
      _ = String.intercalate "," (d.leaves.map render) ++ "," ++
            String.intercalate "," ((leavesAll (d' :: ds)).map render) := by
          rw [render_eq_intercalate d, intercalate_renderAll (d' :: ds) (List.cons_ne_nil _ _)]
      _ = String.intercalate "," ((leavesAll (d :: d' :: ds)).map render) := by
          rw [← String.intercalate_append_of_ne_nil hd hds, ← List.map_append]
          rfl

end

example : (list [text "a", list [], list [bool true, list [text "b"]]]).render = "a,,true,b" := by
  decide

theorem leaves_of_ofMeaning {m : Yaml.Meaning} {d : Datum} (h : ofMeaning m = .ok (some d)) :
    d.leaves = [d] := by
  cases m with
  | unsigned value =>
    rw [ofMeaning] at h
    split at h <;> cases h <;> rfl
  | _ => cases h <;> rfl

theorem readItems?_cons_eq_some_iff {v : Value} {vs : List Value} {ds : List Datum} :
    readItems? (v :: vs) = .ok (some ds) ↔
      ∃ d ds', read? v = .ok (some d) ∧ readItems? vs = .ok (some ds') ∧ ds = d :: ds' := by
  rw [readItems?]
  simp only [bind_eq_ok_iff, pure_eq_ok_iff, Option.bind_eq_some_iff, Option.map_eq_some_iff]
  constructor
  · rintro ⟨_, hv, _, hvs, d, rfl, ds', rfl, rfl⟩
    exact ⟨d, ds', hv, hvs, rfl⟩
  · rintro ⟨d, ds', hv, hvs, rfl⟩
    exact ⟨_, hv, _, hvs, d, rfl, ds', rfl, rfl⟩

/-- A sequence is read as the list of what is read from its items. -/
theorem read?_sequence_eq_some_iff {tag : Option Yaml.Tag} {items : List Value} {d : Datum} :
    read? (.sequence tag items) = .ok (some d) ↔
      isForeign tag = false ∧ ∃ ds, readItems? items = .ok (some ds) ∧ d = list ds := by
  rw [read?]
  cases isForeign tag with
  | true => simp
  | false =>
    simp only [Bool.false_eq_true, if_false, true_and, bind_eq_ok_iff, pure_eq_ok_iff,
      Option.map_eq_some_iff]
    constructor
    · rintro ⟨_, hitems, ds, rfl, rfl⟩
      exact ⟨ds, hitems, rfl⟩
    · rintro ⟨ds, hitems, rfl⟩
      exact ⟨_, hitems, ds, rfl, rfl⟩

/-- No datum is read from a mapping. -/
theorem read?_mapping_ne_some (tag : Option Yaml.Tag) (entries : List (Value × Value)) (d : Datum) :
    read? (.mapping tag entries) ≠ .ok (some d) := by
  intro h
  rw [read?] at h
  split at h
  · cases h
  · obtain ⟨_, -, hnone⟩ := bind_eq_ok_iff.1 h
    cases hnone

theorem leaves_of_read?_scalar {s : Yaml.Scalar} {d : Datum}
    (h : read? (.scalar s) = .ok (some d)) :
    d.leaves = [d] := by
  rw [read?] at h
  split at h
  · cases h
  · obtain ⟨m, -, hm⟩ := bind_eq_ok_iff.1 h
    exact leaves_of_ofMeaning hm

mutual

/-- The leaves of a datum are read, one by one, from the leaves of its value. -/
theorem forall₂_leaves_of_read? : ∀ (v : Value) (d : Datum), read? v = .ok (some d) →
    List.Forall₂ (fun v d => read? v = .ok (some d)) v.leaves d.leaves
  | .unreadable, _, h => by cases h
  | .scalar s, d, h => by
    rw [leaves_of_read?_scalar h]
    exact .cons h .nil
  | .sequence tag [], d, h => by
    obtain ⟨-, ds, hds, rfl⟩ := read?_sequence_eq_some_iff.1 h
    cases hds
    exact .cons h .nil
  | .sequence tag (v :: vs), d, h => by
    obtain ⟨-, ds, hds, rfl⟩ := read?_sequence_eq_some_iff.1 h
    have hall := forall₂_leavesAll_of_readItems? (v :: vs) ds hds
    obtain ⟨d, ds', -, -, rfl⟩ := readItems?_cons_eq_some_iff.1 hds
    exact hall
  | .mapping tag entries, d, h => absurd h (read?_mapping_ne_some tag entries d)

/-- The same of several values, by recursion on them together with the theorem on one. -/
theorem forall₂_leavesAll_of_readItems? : ∀ (vs : List Value) (ds : List Datum),
    readItems? vs = .ok (some ds) →
    List.Forall₂ (fun v d => read? v = .ok (some d)) (Value.leavesAll vs) (leavesAll ds)
  | [], ds, h => by
    cases h
    exact .nil
  | v :: vs, ds, h => by
    obtain ⟨d, ds', hd, hds', rfl⟩ := readItems?_cons_eq_some_iff.1 h
    exact List.rel_append (forall₂_leaves_of_read? v d hd)
      (forall₂_leavesAll_of_readItems? vs ds' hds')

end

end Datum

end OpGraph
