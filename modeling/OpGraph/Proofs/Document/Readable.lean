import OpGraph.Proofs.Document.Restoration
import OpGraph.Proofs.Inference.Closure
import OpGraph.Proofs.Shape.Text

/-!
# The shapes of restored documents can be read back

Extents come into a restored graph from recorded dimensions and from attributes, and both give them
as signed numbers. Inference makes no others. So the text of each shape that a document is restored
to is read as this shape.
-/

namespace OpGraph

namespace Document

variable {d : Document} {registry : Registry} {options : InferOptions} {h : Graph}
  {report : InferReport}

/-- Shapes recorded at outputs of a restored graph are those of recorded dimensions. -/
theorem Restores.fitsSigned_of_recorded (hd : d.Restores registry options h report) {id : NodeId}
    {n : Node} (hn : h.node? id = some n) :
    ∀ p ∈ n.outputs, ∀ s, p.recorded = some s → s.FitsSigned := by
  intro p hp s hs
  obtain ⟨l, -, changes, hdescribes⟩ := hd.exists_layer hn
  obtain ⟨q, -, hqp⟩ := exists_mem_of_forall₂ hdescribes.outputs_of_withoutShapes.flip p hp
  obtain ⟨dims, -, hrecords⟩ := Port.DescribesOutput.exists_dims hqp hs
  exact hrecords.fitsSigned

/-- Every output of a restored graph has a shape, and its extents fit. -/
theorem Restores.exists_fitsSigned (hd : d.Restores registry options h report)
    {id : NodeId} {n : Node}
    (hn : h.node? id = some n) : ∀ p ∈ n.outputs, ∃ s, p.shape = some s ∧ s.FitsSigned := by
  have ⟨g, hg, hrun⟩ := hd
  exact Graph.inferShapes_closed (fun _ _ => Shape.fitsSigned_of_parse)
    (fun _ _ _ => Shape.FitsSigned.broadcast?) (wellFormed_of_buildWith hg) hrun
    (fun id n hn => hd.fitsSigned_of_recorded hn) id n hn

/-- Let a document be restored, with any registry of extenders and any options. Then every output of
the graph has a shape, no fixed extent of this is greater than the greatest signed 64-bit number,
and the text of the shape is read as the shape. -/
theorem restores_readable (hd : d.Restores registry options h report) :
    ∀ id n, h.node? id = some n → ∀ p ∈ n.outputs, ∃ s, p.shape = some s ∧
      (∀ extent, Dim.fixed extent ∈ s.dims → (extent.toNat : Int) ≤ Int64.maxValue.toInt) ∧
      Shape.parse s.toString = .ok s := by
  intro id n hn p hp
  obtain ⟨s, hs, hfits⟩ := hd.exists_fitsSigned hn p hp
  exact ⟨s, hs, fun extent hextent => hfits _ hextent, hfits.parse_toString⟩

/-- The greatest extent that a text can give meets recorded dimensions that stretch. -/
def measured : Document where
  name := "measured"
  layers :=
    [⟨1, "x", "Parameter", none, .ofList [("shape", .text "[9223372036854775807,?]")], [],
        [⟨0, none, none⟩]⟩,
      ⟨2, "y", "GRUSequence", none, .empty, [], [⟨0, none, some [1, -1]⟩]⟩,
      ⟨3, "z", "Add", none, .empty, [⟨0, none, none⟩, ⟨1, none, none⟩], [⟨2, none, none⟩]⟩]
  edges := [⟨⟨1, 0⟩, ⟨3, 0⟩⟩, ⟨⟨2, 0⟩, ⟨3, 1⟩⟩]

/-- A restored graph with the greatest extent that can be read back, beside a dynamic dimension. -/
theorem restores_measured_readable :
    ∃ h n p s, measured.Restores .builtin ⟨false, false⟩ h ⟨3, 1, 2, 0⟩ ∧ h.node? 3 = some n ∧
      p ∈ n.outputs ∧ p.shape = some s ∧ s.dims = [.fixed 9223372036854775807, .dynamic] ∧
      Shape.parse s.toString = .ok s := by
  obtain ⟨h, hd, n, p, hn, hp, hshape⟩ :
      ∃ h, measured.Restores .builtin ⟨false, false⟩ h ⟨3, 1, 2, 0⟩ ∧
        ∃ n p, h.node? 3 = some n ∧ p ∈ n.outputs ∧
          p.shape = some ⟨[.fixed 9223372036854775807, .dynamic]⟩ :=
    ⟨_, ⟨_, rfl, rfl⟩, _, _, rfl, List.mem_singleton_self _, rfl⟩
  obtain ⟨s, hs, -, hparse⟩ := restores_readable hd 3 n hn p hp
  obtain rfl := Option.some.inj (hshape.symm.trans hs)
  exact ⟨h, n, p, _, hd, hn, hp, hs, rfl, hparse⟩

end Document

end OpGraph
