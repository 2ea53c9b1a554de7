import OpGraph.Proofs.Binary64
import OpGraph.Proofs.Document.Decode
import OpGraph.Proofs.Document.Leaves
import OpGraph.Proofs.Document.OwnTypes
import OpGraph.Proofs.Yaml.Integer

/-!
# Integers in the data of layers

An integer among the data of a layer becomes part of an attribute text. As long as it fits into a
signed 64-bit integer its decimal text stands there, alone or in the place of the integer among the
leaves of a list. The integers behind these, which fit into an unsigned integer only, become
floating-point numbers, and what is written for such a number is never the text of an integer.
-/

namespace OpGraph

open Yaml (Fault Value)

/-- The value is a plain scalar without a tag that spells the integer. -/
def Yaml.Value.SpellsInteger (v : Value) (z : Int) : Prop :=
  ∃ text, v.scalar? = some ⟨text, .plain, none⟩ ∧ Yaml.Spells text z

/-- Extending leaves the attribute of a node as it is, if the node has it. -/
def Registry.KeepsAttribute (r : Registry) (key : String) : Prop :=
  ∀ n value, n.attribute? key = some value → (r.extend n).attribute? key = some value

/-- The builtin extenders only add attributes. -/
theorem Registry.keepsAttribute_builtin (key : String) : builtin.KeepsAttribute key :=
  fun _ _ => attribute?_extend_builtin_of_some

namespace Datum

variable {v w : Value} {d : Datum} {z : Int} {text : String}

/-- A value is decoded as the datum that is read from it, if one is. -/
theorem decode_eq_ok_iff : decode v = .ok d ↔ read? v = .ok (some d) := by
  rw [decode, bind_eq_ok_iff]
  constructor
  · rintro ⟨o, ho, h⟩
    cases o with
    | none => cases h
    | some d' =>
      obtain rfl := pure_eq_ok_iff.1 h
      exact ho
  · intro h
    exact ⟨some d, h, rfl⟩

theorem read?_plain (text : String) :
    read? (.scalar ⟨text, .plain, none⟩) = ofMeaning (Yaml.plainMeaning text) := by
  simp [read?, isForeign, Yaml.Scalar.meaningOrFault, Yaml.Scalar.meaning, bind, Except.bind]

/-- An unsigned integer below `2 ^ 63` becomes a signed one of the same value. -/
theorem exists_int_of_unsigned {u : UInt64} (hu : u.toNat < 2 ^ 63) :
    ∃ x : Int64, ofMeaning (.unsigned u) = .ok (some (.int x)) ∧ x.toInt = u.toNat := by
  have hx : (Int64.ofInt u.toNat).toInt = u.toNat := Int64.toInt_ofInt_of_le (by omega) (by omega)
  refine ⟨_, ?_, hx⟩
  rw [ofMeaning, Numeral.toInt64?_eq_some_iff.2 hx.symm]

/-- An unsigned integer from `2 ^ 63` on becomes a floating-point number. -/
theorem ofMeaning_unsigned_of_le {u : UInt64} (hu : 2 ^ 63 ≤ u.toNat) :
    ofMeaning (.unsigned u) = .ok (some (.float (Binary64.ofNat u.toNat))) := by
  have hnone : Numeral.toInt64? u.toNat = none := by
    rw [Option.eq_none_iff_forall_ne_some]
    intro x hx
    have hvalue : (u.toNat : Int) = x.toInt := Numeral.toInt64?_eq_some_iff.1 hx
    have hlt : x.toInt < 2 ^ 63 := x.toInt_lt
    omega
  rw [ofMeaning, hnone]

/-- The text of a floating-point number is not that of an integer. -/
theorem render_float_ne_repr (x : Binary64) (k : Int) : (float x).render ≠ Int.repr k := by
  intro h
  have hdenotes : Numeral.Denotes (float x).render.toList k := h ▸ Numeral.denotes_repr k
  exact x.not_denotes_text k hdenotes

/-- An integer is read as itself if it fits into a signed 64-bit integer, and otherwise as a
floating-point number. -/
theorem read?_of_spellsInteger (hv : v.SpellsInteger z) (hmin : -2 ^ 63 ≤ z) (hmax : z < 2 ^ 64) :
    (∃ x : Int64, x.toInt = z ∧ read? v = .ok (some (.int x))) ∨
      2 ^ 63 ≤ z ∧ read? v = .ok (some (.float (Binary64.ofNat z.toNat))) := by
  obtain ⟨text, hscalar, hspells⟩ := hv
  obtain rfl := Value.eq_scalar_of_scalar? hscalar
  rw [read?_plain]
  rcases Yaml.integer?_of_denotes hspells.denotes hspells.no_leading_zero hmin hmax with
    ⟨u, hu, rfl⟩ | ⟨x, hx, rfl⟩
  · rw [Yaml.plainMeaning_of_denotes hspells.denotes hu]
    by_cases hfits : u.toNat < 2 ^ 63
    · obtain ⟨x, hx, hvalue⟩ := exists_int_of_unsigned hfits
      exact Or.inl ⟨x, hvalue, hx⟩
    · exact Or.inr ⟨by omega, ofMeaning_unsigned_of_le (Nat.le_of_not_lt hfits)⟩
  · rw [Yaml.plainMeaning_of_denotes hspells.denotes hx]
    exact Or.inl ⟨x, rfl, rfl⟩

/-- The cell of an attribute text is that of the leaf. If the leaf is an integer that fits into a
signed 64-bit integer, then the cell is its decimal text. -/
structure StoredAs (leaf : Value) (cell : String) : Prop where
  exists_datum : ∃ d, decode leaf = .ok d ∧ cell = d.render
  of_lt : ∀ z, leaf.SpellsInteger z → -2 ^ 63 ≤ z → z < 2 ^ 63 → cell = Int.repr z
  -- a greater integer is rounded, and the cell is not even the decimal text of another integer
  of_le : ∀ z, leaf.SpellsInteger z → 2 ^ 63 ≤ z → z < 2 ^ 64 →
    cell = (Binary64.ofNat z.toNat).text ∧ ∀ k, cell ≠ Int.repr k

/-- The attribute text of a datum has a cell for each leaf of the value that it was read from. -/
theorem storedAs_of_read? (hd : read? v = .ok (some d)) : StoredAs v d.render where
  exists_datum := ⟨d, decode_eq_ok_iff.2 hd, rfl⟩
  of_lt z hz hmin hmax := by
    rcases read?_of_spellsInteger hz hmin (by omega) with ⟨x, rfl, hx⟩ | ⟨hle, -⟩
    · obtain rfl := Option.some.inj (Except.ok.inj (hx.symm.trans hd))
      rfl
    · omega
  of_le z hz hmin hmax := by
    rcases read?_of_spellsInteger hz (by omega) hmax with ⟨x, rfl, -⟩ | ⟨-, hfloat⟩
    · have hlt : x.toInt < 2 ^ 63 := x.toInt_lt
      omega
    · obtain rfl := Option.some.inj (Except.ok.inj (hfloat.symm.trans hd))
      exact ⟨rfl, render_float_ne_repr _⟩

end Datum

namespace Document

variable {registry : Registry} {text key : String} {g : Graph} {i : Nat} {w : Value}

/-- A registry that keeps an attribute leaves the text of the datum in it. -/
theorem exists_attribute?_of_build {d : Document} {l : Layer} {datum : Datum}
    (hg : d.build registry = .ok g) (hl : l ∈ d.layers) (hkeeps : registry.KeepsAttribute key)
    (hdatum : l.data.get? key = some datum) :
    ∃ n, g.node? l.id = some n ∧ n.attribute? key = some datum.render := by
  obtain ⟨m, hm, hn⟩ := exists_extend_of_build hg hl
  refine ⟨_, hn, hkeeps m _ ?_⟩
  rw [(Layer.node_eq_ok_iff_describes.1 hm).attribute?_eq, hdatum]
  rfl

/-- What stands under a key in the data of a layer becomes, in the graph that is read, the attribute
of the layer's node with this key: the cells of its leaves from left to right, with a comma between
any two, which is a single cell if it is no list. The cell of a plain integer is its decimal text if
the integer fits into a signed 64-bit integer. If it fits into an unsigned one only, then it is
rounded to a floating-point number, and the cell is the text of that and so no decimal text of an
integer. -/
theorem readGraph_keeps_integers (hg : readGraph registry text = .ok g)
    (hkeeps : registry.KeepsAttribute key)
    (hw : dataValue? (Yaml.Parsed.ofText text).root.value i key = some w) :
    ∃ d l n cells, Document.decode text = .ok d ∧ d.layers[i]? = some l ∧ g.node? l.id = some n ∧
      n.attribute? key = some (String.intercalate "," cells) ∧
      List.Forall₂ Datum.StoredAs w.leaves cells := by
  obtain ⟨d, hd, hbuild⟩ := bind_eq_ok_iff.1 hg
  rw [mapError_eq_ok_iff] at hd hbuild
  obtain ⟨l, datum, hl, hdatum, hread⟩ := exists_datum_of_decode hd hw
  obtain ⟨n, hn, hattribute⟩ :=
    exists_attribute?_of_build hbuild (List.mem_of_getElem? hl) hkeeps hdatum
  refine ⟨d, l, n, datum.leaves.map Datum.render, hd, hl, hn, ?_, ?_⟩
  · rw [hattribute, Datum.render_eq_intercalate]
  · rw [List.forall₂_map_right_iff]
    have hleaves := Datum.forall₂_leaves_of_read? w datum (Datum.decode_eq_ok_iff.1 hread)
    exact hleaves.imp fun _ _ => Datum.storedAs_of_read?

/-- A text with the least and the greatest integer that are kept, among the items of nested
lists. -/
def boundaryText : String :=
  "name: n\nlayers:\n- id: 8\n  name: b\n  type: Parameter\n"
    ++ "  data:\n    w: [x, [-9223372036854775808, []], 9223372036854775807]\n"

/-- Four leaves, among them the least and the greatest integer that are kept. The other two are no
integers of this kind, and what stands for them is left open. -/
theorem readGraph_keeps_integers_boundary : ∃ g d l n first third,
    readGraph .builtin boundaryText = .ok g ∧ Registry.builtin.KeepsAttribute "w" ∧
      Document.decode boundaryText = .ok d ∧ d.layers[0]? = some l ∧ g.node? l.id = some n ∧
      n.attribute? "w" = some (String.intercalate ","
        [first, Int.repr (-9223372036854775808), third, Int.repr 9223372036854775807]) := by
  have hkeeps : Registry.builtin.KeepsAttribute "w" := Registry.keepsAttribute_builtin "w"
  have hread : (readGraph .builtin boundaryText).toOption.isSome := by decide +kernel
  have hleaves : (dataValue? (Yaml.Parsed.ofText boundaryText).root.value 0 "w").map
      (fun w => w.leaves.map Value.scalar?) =
        some [some ⟨"x", .plain, none⟩, some ⟨Int.repr (-9223372036854775808), .plain, none⟩, none,
          some ⟨Int.repr 9223372036854775807, .plain, none⟩] := by decide +kernel
  obtain ⟨g, hg⟩ := Option.isSome_iff_exists.1 hread
  rw [toOption_eq_some_iff] at hg
  obtain ⟨w, hw, hleaves⟩ := Option.map_eq_some_iff.1 hleaves
  obtain ⟨d, l, n, cells, hd, hl, hn, htext, hcells⟩ := readGraph_keeps_integers hg hkeeps hw
  simp only [List.map_eq_cons_iff, List.map_eq_nil_iff] at hleaves
  obtain ⟨_, _, heq, -, least, _, rfl, hleast, _, _, rfl, -, greatest, _, rfl, hgreatest, rfl⟩ :=
    hleaves
  rw [heq] at hcells
  simp only [List.forall₂_cons_left_iff, List.forall₂_nil_left_iff] at hcells
  obtain ⟨first, _, -, ⟨_, _, hleast', ⟨third, _, -,
    ⟨_, _, hgreatest', rfl, rfl⟩, rfl⟩, rfl⟩, rfl⟩ :=
    hcells
  rw [hleast'.of_lt _ ⟨_, hleast, Yaml.spells_repr _⟩ (by decide) (by decide),
    hgreatest'.of_lt _ ⟨_, hgreatest, Yaml.spells_repr _⟩ (by decide) (by decide)] at htext
  exact ⟨g, d, l, n, first, third, hg, hkeeps, hd, hl, hn, htext⟩

/-- A text with the least integer that is not kept. -/
def beyondText : String :=
  "name: n\nlayers:\n  - id: 0\n    name: a\n    type: Foo\n    data:\n      v: 9223372036854775808\n"

/-- The least integer beyond the signed ones fits into 64 bits, but its decimal text is not kept. -/
theorem not_keeps_integer_beyond_signed :
    (∃ w, dataValue? (Yaml.Parsed.ofText beyondText).root.value 0 "v" = some w ∧
      w.SpellsInteger 9223372036854775808) ∧
    ∃ g n, readGraph .builtin beyondText = .ok g ∧ g.node? 0 = some n ∧
      n.attribute? "v" = some "9.223372036854776e18" ∧
      n.attribute? "v" ≠ some (Int.repr 9223372036854775808) := by
  have hscalar : (dataValue? (Yaml.Parsed.ofText beyondText).root.value 0 "v").bind Value.scalar? =
      some ⟨Int.repr 9223372036854775808, .plain, none⟩ := by decide +kernel
  have hattribute : (readGraph .builtin beyondText).toOption.bind (fun g => (g.node? 0).bind
      fun n => n.attribute? "v") = some "9.223372036854776e18" := by decide +kernel
  obtain ⟨w, hw, hscalar⟩ := Option.bind_eq_some_iff.1 hscalar
  obtain ⟨g, hg, hattribute⟩ := Option.bind_eq_some_iff.1 hattribute
  obtain ⟨n, hn, hattribute⟩ := Option.bind_eq_some_iff.1 hattribute
  refine ⟨⟨w, hw, _, hscalar, Yaml.spells_repr _⟩, g, n, toOption_eq_some_iff.1 hg, hn, hattribute,
    ?_⟩
  rw [hattribute]
  decide

end Document

end OpGraph
