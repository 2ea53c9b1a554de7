import OpGraph.Document.Decode
import OpGraph.Proofs.Yaml.Entry

/-!
# What a document is decoded from

Layers are decoded from the items under `layers`, in their order, and the data of a layer from the
entries under `data`.
-/

namespace OpGraph

open Yaml (Fault Value)

namespace Document

variable {d : Document} {l : Layer} {v w : Value} {text key : String} {i : Nat}

/-- The value under a key in the data of a layer, in the document with a given root. -/
def dataValue? (root : Value) (i : Nat) (key : String) : Option Value := do
  let layers ← root.entry? "layers"
  let layer ← layers.item? i
  let data ← layer.entry? "data"
  data.entry? key

/-- The data of a layer are filled by the field `data` and by no other. -/
theorem Layer.fills_data :
    Value.Fills layerFields "data" PartialLayer.data (Value.dictionary Datum.decode) where
  of_eq := by
    simp only [layerFields, Value.RecordField.of, List.forall_mem_cons]
    simp [map_eq_ok_iff]
  of_ne := by
    simp only [layerFields, Value.RecordField.of, List.forall_mem_cons]
    simp [map_eq_ok_iff]

/-- The layers of a document are filled by the field `layers` and by no other. -/
theorem fills_layers : Value.Fills fields "layers" Partial.layers (Value.list Layer.decode) where
  of_eq := by
    simp only [fields, Value.RecordField.of, List.forall_mem_cons]
    simp [map_eq_ok_iff]
  of_ne := by
    simp only [fields, Value.RecordField.of, List.forall_mem_cons]
    simp [map_eq_ok_iff]

/-- The data of a layer are decoded from the value under `data`. -/
theorem Layer.dictionary_of_decode (h : Layer.decode v = .ok l) (hw : v.entry? "data" = some w) :
    w.dictionary Datum.decode = .ok l.data := by
  obtain ⟨p, hp, h⟩ := bind_eq_ok_iff.1 h
  have hrel := Value.rel_entry?_of_record fills_data rfl hp
  rw [hw, rel_some_left_iff] at hrel
  obtain ⟨data, hdata, hread⟩ := hrel
  obtain ⟨_, -, h⟩ := bind_eq_ok_iff.1 h
  obtain ⟨_, -, h⟩ := bind_eq_ok_iff.1 h
  obtain ⟨_, -, h⟩ := bind_eq_ok_iff.1 h
  obtain rfl := pure_eq_ok_iff.1 h
  rw [hread, hdata, Option.getD_some]

theorem list_of_ofValue (h : ofValue v = .ok d) (hw : v.entry? "layers" = some w) :
    w.list Layer.decode = .ok d.layers := by
  obtain ⟨p, hp, h⟩ := bind_eq_ok_iff.1 h
  have hrel := Value.rel_entry?_of_record fills_layers rfl hp
  rw [hw, rel_some_left_iff] at hrel
  obtain ⟨layers, hlayers, hread⟩ := hrel
  obtain ⟨_, -, h⟩ := bind_eq_ok_iff.1 h
  obtain rfl := pure_eq_ok_iff.1 h
  rw [hread, hlayers, Option.getD_some]

theorem ofValue_of_decode (h : Document.decode text = .ok d) :
    ofValue (Yaml.Parsed.ofText text).root.value = .ok d := by
  obtain ⟨d', hd', h⟩ := bind_eq_ok_iff.1 h
  split at h
  · obtain rfl := pure_eq_ok_iff.1 h
    exact hd'
  · cases h

/-- What stands under a key in the data of a layer is decoded to the datum of the layer that comes
at the same place in the document. -/
theorem exists_datum_of_decode (h : Document.decode text = .ok d)
    (hw : dataValue? (Yaml.Parsed.ofText text).root.value i key = some w) :
    ∃ l datum, d.layers[i]? = some l ∧ l.data.get? key = some datum ∧
      Datum.decode w = .ok datum := by
  simp only [dataValue?, Option.bind_eq_bind, Option.bind_eq_some_iff] at hw
  obtain ⟨layers, hlayers, layer, hlayer, data, hdata, hw⟩ := hw
  obtain ⟨l, hl, hdecode⟩ :=
    Value.getElem?_of_list (list_of_ofValue (ofValue_of_decode h) hlayers) hlayer
  have hrel := Value.rel_entry?_of_dictionary (Layer.dictionary_of_decode hdecode hdata) key
  rw [hw, rel_some_left_iff] at hrel
  obtain ⟨datum, hdatum, hread⟩ := hrel
  exact ⟨l, datum, hl, hdatum, hread⟩

end Document

end OpGraph
