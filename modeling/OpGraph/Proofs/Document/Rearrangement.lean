import OpGraph.Proofs.Document.Build
import OpGraph.Proofs.Inference.Agreement

/-!
# Documents listed in another order

A document may list its layers and its edges in any order. The graphs that are built have the same
nodes, and every port has the same producer in them; so they sort alike and runs on them go alike,
up to the errors and to the shapes that a failing run leaves.
-/

namespace OpGraph

namespace Document

variable {d d' : Document} {extend : Node → Node} {g g' : Graph}

/-- The same document with its layers and its edges listed in another order. -/
structure Rearranges (d' d : Document) : Prop where
  name_eq : d'.name = d.name
  version_eq : d'.version = d.version
  layers : d'.layers.Perm d.layers
  edges : d'.edges.Perm d.edges

/-- To rearrange is to put the edges in some other order, so it can be undone. -/
theorem Rearranges.symm (h : d'.Rearranges d) : d.Rearranges d' :=
  ⟨h.name_eq.symm, h.version_eq.symm, h.layers.symm, h.edges.symm⟩

/-- The rearranged document builds the same nodes. Each edge finds the ports that it found before,
and none is taken by another. -/
theorem Rearranges.exists_buildWith (h : d'.Rearranges d) (hg : d.buildWith extend = .ok g) :
    ∃ g', d'.buildWith extend = .ok g' ∧ g'.nodes = g.nodes := by
  obtain ⟨ns, hmakes, hids, rfl, hwf⟩ := buildWith_eq_ok_iff.1 hg
  obtain ⟨ns', hmakes', hns⟩ := List.perm_comp_forall₂ h.layers hmakes
  have hids' : (ns'.map Node.id).Nodup := (hns.map Node.id).nodup_iff.2 hids
  rw [← h.name_eq, ← h.version_eq] at hwf ⊢
  refine ⟨_, buildWith_eq_ok_iff.2 ⟨ns', hmakes', hids', rfl, ?_⟩,
    Graph.nodes_ofNodes_perm hids' hns⟩
  exact hwf.ofNodes_perm hids hns.symm h.edges.symm

/-- A document with its layers and edges in another order builds a graph exactly if the document
does, whatever extenders make of a node. The two graphs have the same nodes in the same order, the
same producer at every port, and the same edges up to their order. With any options, runs on them
have the same result, be it a report or an error, and leave the same nodes. -/
theorem buildWith_inferShapes_rearranges (h : d'.Rearranges d) (extend : Node → Node) :
    ((∃ g', d'.buildWith extend = .ok g') ↔ ∃ g, d.buildWith extend = .ok g) ∧
    ∀ g g', d.buildWith extend = .ok g → d'.buildWith extend = .ok g' →
      g'.nodes = g.nodes ∧
      (∀ node port, g'.producer? node port = g.producer? node port) ∧
      g'.edges.Perm g.edges ∧
      ∀ options, (g'.inferShapes options).result = (g.inferShapes options).result ∧
        (g'.inferShapes options).graph.nodes = (g.inferShapes options).graph.nodes := by
  constructor
  · constructor
    · rintro ⟨g', hg'⟩
      obtain ⟨g, hg, -⟩ := h.symm.exists_buildWith hg'
      exact ⟨g, hg⟩
    · rintro ⟨g, hg⟩
      obtain ⟨g', hg', -⟩ := h.exists_buildWith hg
      exact ⟨g', hg'⟩
  · intro g g' hg hg'
    have hwf : g.WellFormed := wellFormed_of_buildWith hg
    have hwf' : g'.WellFormed := wellFormed_of_buildWith hg'
    -- a document has one build at most, so that which is there is the one given
    have hnodes : g'.nodes = g.nodes := by
      obtain ⟨k, hk, hnodes⟩ := h.exists_buildWith hg
      rw [hk] at hg'
      exact Except.ok.inj hg' ▸ hnodes
    have hedges : g'.edges.Perm g.edges := by
      rw [edges_eq_of_buildWith hg', edges_eq_of_buildWith hg]
      exact h.edges
    refine ⟨hnodes, fun node port => ?_, hedges, fun options => ?_⟩
    · rw [hwf'.producer?_eq_of_perm hwf hedges]
    · exact Graph.inferShapes_eq_of_perm hwf' hwf hnodes hedges options

/-- Two recurrent layers whose outputs are added. -/
def summed : Document where
  name := "summed"
  layers :=
    [⟨4, "x", "GRUSequence", none, .empty, [], [⟨0, none, some [2, -1]⟩]⟩,
      ⟨2, "y", "LSTMSequence", none, .empty, [], [⟨0, none, some [2, 3]⟩]⟩,
      ⟨3, "z", "Add", none, .empty, [⟨0, none, none⟩, ⟨1, none, none⟩], [⟨2, none, none⟩]⟩]
  edges := [⟨⟨4, 0⟩, ⟨3, 0⟩⟩, ⟨⟨2, 0⟩, ⟨3, 1⟩⟩]

/-- The same document with its edges in the reverse order. -/
def summedBackwards : Document :=
  { summed with layers := summed.layers.reverse, edges := summed.edges.reverse }

/-- Both documents build the same nodes, and both runs count the same. -/
theorem build_inferShapes_summed_rearranges :
    summedBackwards.Rearranges summed ∧ summedBackwards.edges ≠ summed.edges ∧
    ∃ g g', summed.build .builtin = .ok g ∧ summedBackwards.build .builtin = .ok g' ∧
      g'.nodes = g.nodes ∧ (g.inferShapes {}).result = .ok ⟨3, 2, 1, 0⟩ ∧
      (g'.inferShapes {}).result = .ok ⟨3, 2, 1, 0⟩ := by
  have hrearranges : summedBackwards.Rearranges summed :=
    ⟨rfl, rfl, List.reverse_perm _, List.reverse_perm _⟩
  obtain ⟨hbuilds, hsame⟩ := buildWith_inferShapes_rearranges hrearranges Registry.builtin.extend
  obtain ⟨g, hg, hrun⟩ : ∃ g, summed.build .builtin = .ok g ∧
      (g.inferShapes {}).result = .ok ⟨3, 2, 1, 0⟩ := ⟨_, rfl, by decide⟩
  obtain ⟨g', hg'⟩ := hbuilds.2 ⟨g, hg⟩
  obtain ⟨hnodes, -, -, hruns⟩ := hsame g g' hg hg'
  exact ⟨hrearranges, by decide, g, g', hg, hg', hnodes, hrun, (hruns {}).1.trans hrun⟩

end Document

end OpGraph
