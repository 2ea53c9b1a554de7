import OpGraph.Proofs.Document.Build
import OpGraph.Proofs.Extender
import OpGraph.Proofs.Inference.Renaming

/-!
# Documents with other numbers

The numbers of layers and ports are names, and a document means the same under other names: it can
be restored, with the builtin extenders, exactly if it could before, the run counts the same, and
each layer gets the shapes that it got under its old number.
-/

namespace OpGraph

namespace Document

variable {ρ : Renaming} {d : Document} {extend : Node → Node} {registry : Registry}
  {options : InferOptions} {g h h' : Graph} {report report' : InferReport}

/-- The layer with new numbers for itself and its ports. -/
def Layer.rename (ρ : Renaming) (l : Layer) : Layer :=
  { l with
    id := ρ.node l.id
    inputs := l.inputs.map fun p => { p with id := ρ.input l.id p.id }
    outputs := l.outputs.map fun p => { p with id := ρ.output l.id p.id } }

/-- The document with new numbers in its layers and edges, which stay in their order. -/
def rename (ρ : Renaming) (d : Document) : Document :=
  { d with layers := d.layers.map (Layer.rename ρ), edges := d.edges.map (Edge.rename ρ) }

theorem Layer.rename_symm (ρ : Renaming) (l : Layer) : (l.rename ρ).rename ρ.symm = l := by
  simp [Layer.rename, Renaming.symm, Function.comp_def]

theorem rename_symm (ρ : Renaming) (d : Document) : (d.rename ρ).rename ρ.symm = d := by
  simp [rename, Function.comp_def, Layer.rename_symm]

section Build

/-- A layer with new numbers is read as the node with new numbers. -/
theorem Layer.node_rename {l : Layer} {n : Node} (hn : l.node = .ok n) :
    (l.rename ρ).node = .ok (n.rename ρ) := by
  obtain ⟨inputs, outputs, hinputs, houtputs, rfl⟩ := node_eq_ok_iff.1 hn
  refine node_eq_ok_iff.2 ⟨_, _, ?_, ?_, rfl⟩
  · rw [Layer.rename, List.forall₂_map_left_iff, List.forall₂_map_right_iff]
    refine hinputs.imp fun p q hpq => ?_
    obtain ⟨hid, hrecorded⟩ := Port.inputPort_eq_ok_iff.1 hpq
    exact Port.inputPort_eq_ok_iff.2 ⟨congrArg (ρ.input l.id) hid, hrecorded⟩
  · rw [Layer.rename, List.forall₂_map_left_iff, List.forall₂_map_right_iff]
    refine houtputs.imp fun p q hpq => ?_
    obtain ⟨hid, hrest⟩ := Port.outputPort_eq_ok_iff.1 hpq
    exact Port.outputPort_eq_ok_iff.2 ⟨congrArg (ρ.output l.id) hid, hrest⟩

variable (hextend : ∀ n : Node, extend (n.rename ρ) = (extend n).rename ρ)
include hextend

/-- The layer with new numbers makes the node with new numbers, provided that extending has no part
in them. -/
theorem Layer.Makes.rename {l : Layer} {n : Node} (hmakes : l.Makes extend n) :
    (l.rename ρ).Makes extend (n.rename ρ) := by
  obtain ⟨m, hm, rfl⟩ := hmakes
  exact ⟨m.rename ρ, Layer.node_rename hm, hextend m⟩

/-- With extenders that do not look at numbers, a document with new numbers builds the graph with
new numbers. -/
theorem exists_buildWith_rename (hg : d.buildWith extend = .ok g) :
    ∃ g', (d.rename ρ).buildWith extend = .ok g' ∧ Graph.Renames ρ g' g := by
  obtain ⟨ns, hmakes, hids, rfl, hwf⟩ := buildWith_eq_ok_iff.1 hg
  have hrenames : Graph.Renames ρ
      (Graph.ofNodes d.name d.version (ns.map (Node.rename ρ)) (d.edges.map (Edge.rename ρ)))
      (Graph.ofNodes d.name d.version ns d.edges) := Graph.renames_ofNodes hids
  refine ⟨_, buildWith_eq_ok_iff.2 ⟨ns.map (Node.rename ρ), ?_, Graph.nodup_ids_rename hids, rfl,
    hrenames.wellFormed hwf rfl⟩, hrenames⟩
  rw [rename, List.forall₂_map_left_iff, List.forall₂_map_right_iff]
  exact hmakes.imp fun l n hn => hn.rename hextend

end Build

section Restore

/-- The document builds a graph, and the run of inference on it succeeds and leaves the graph
`h`. -/
def Restores (d : Document) (registry : Registry) (options : InferOptions) (h : Graph)
    (report : InferReport) : Prop :=
  ∃ g, d.build registry = .ok g ∧ g.inferShapes options = ⟨h, .ok report⟩

/-- What a document restores is determined. -/
theorem Restores.unique (hd : d.Restores registry options h report)
    (hd' : d.Restores registry options h' report') : h' = h ∧ report' = report := by
  obtain ⟨g, hg, hrun⟩ := hd
  obtain ⟨g', hg', hrun'⟩ := hd'
  obtain rfl : g = g' := Except.ok.inj (hg.symm.trans hg')
  obtain ⟨hgraph, hresult⟩ := InferOutcome.mk.inj (hrun'.symm.trans hrun)
  exact ⟨hgraph, Except.ok.inj hresult⟩

/-- What a document restores, it restores with new numbers: the same report, and the same shapes for
each layer in the order of its ports. -/
theorem Restores.rename (ρ : Renaming) (hd : d.Restores .builtin options h report) :
    ∃ h', (d.rename ρ).Restores .builtin options h' report ∧ ∀ id,
      (h'.node? (ρ.node id)).map Node.outputShapes = (h.node? id).map Node.outputShapes := by
  obtain ⟨g, hg, hrun⟩ := hd
  obtain ⟨g', hg', hrenames⟩ := exists_buildWith_rename (Registry.extend_builtin_rename ρ) hg
  obtain ⟨hrun', hshapes⟩ := hrenames.inferShapes (wellFormed_of_buildWith hg')
    (wellFormed_of_buildWith hg) (congrArg InferOutcome.result hrun)
  rw [hrun] at hshapes
  exact ⟨_, ⟨g', hg', InferOutcome.ext rfl hrun'⟩, hshapes⟩

/-- With the builtin extenders, a document under new numbers can be restored exactly if it can be
under the old ones. The runs count the same then, and the outputs of each layer have the same shapes
in port order. -/
theorem restores_rename (d : Document) (ρ : Renaming) (options : InferOptions) :
    ((∃ h' report', (d.rename ρ).Restores .builtin options h' report') ↔
      ∃ h report, d.Restores .builtin options h report) ∧
    ∀ h report h' report', d.Restores .builtin options h report →
      (d.rename ρ).Restores .builtin options h' report' →
      report' = report ∧ ∀ id,
        (h'.node? (ρ.node id)).map Node.outputShapes = (h.node? id).map Node.outputShapes := by
  constructor
  · constructor
    · rintro ⟨h', report, hd'⟩
      obtain ⟨h, hd, -⟩ := hd'.rename ρ.symm
      rw [rename_symm] at hd
      exact ⟨h, report, hd⟩
    · rintro ⟨h, report, hd⟩
      obtain ⟨h', hd', -⟩ := hd.rename ρ
      exact ⟨h', report, hd'⟩
  · intro h report h' report' hd hd'
    obtain ⟨k', hk', hshapes⟩ := hd.rename ρ
    obtain ⟨rfl, rfl⟩ := hk'.unique hd'
    exact ⟨rfl, hshapes⟩

/-- A recurrent layer and a layer that copies its shape. -/
def relayed : Document where
  name := "relayed"
  layers :=
    [⟨1, "x", "GRUSequence", none, .empty, [], [⟨0, none, some [2, -1]⟩]⟩,
      ⟨2, "y", "Relu", none, .empty, [⟨0, none, none⟩], [⟨1, none, none⟩]⟩]
  edges := [⟨⟨1, 0⟩, ⟨2, 0⟩⟩]

/-- The layers change their numbers, and so do the ports. -/
def exchange : Renaming :=
  ⟨Equiv.swap 1 2, fun _ => Equiv.swap 0 5, fun _ => Equiv.swap 0 1⟩

/-- Two layers that exchange their numbers, with other numbers for their ports. -/
theorem restores_relayed_exchange :
    (relayed.rename exchange).edges = [⟨⟨2, 1⟩, ⟨1, 5⟩⟩] ∧
    ∃ h h', relayed.Restores .builtin {} h ⟨2, 1, 1, 0⟩ ∧
      (relayed.rename exchange).Restores .builtin {} h' ⟨2, 1, 1, 0⟩ ∧
      (h'.node? 2).map Node.outputShapes = (h.node? 1).map Node.outputShapes := by
  obtain ⟨hiff, hsame⟩ := restores_rename relayed exchange {}
  obtain ⟨h, hd⟩ : ∃ h, relayed.Restores .builtin {} h ⟨2, 1, 1, 0⟩ := ⟨_, _, rfl, rfl⟩
  obtain ⟨h', report', hd'⟩ := hiff.2 ⟨h, _, hd⟩
  obtain ⟨rfl, hshapes⟩ := hsame h _ h' report' hd hd'
  exact ⟨by decide, h, h', hd, hd', hshapes 1⟩

end Restore

end Document

end OpGraph
