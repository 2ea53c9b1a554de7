import OpGraph.Proofs.Document.Readable
import OpGraph.Proofs.Graph.Table

/-!
# The table of a restored document

A restored graph has its name from the document and its nodes from the layers, so the newlines in
its table are those between the lines, if the document has none in the names and operator types. All
outputs have shapes whose texts are read as these shapes. So from the lines of the table the shapes
of every node can be read, whatever the names and operator types are.
-/

namespace OpGraph

namespace Document

variable {d : Document} {registry : Registry} {options : InferOptions} {h : Graph}
  {report : InferReport} {id : NodeId} {n : Node}

theorem Restores.name_eq (hd : d.Restores registry options h report) : h.name = d.name := by
  obtain ⟨g, hg, hframe, -⟩ := hd.exists_settled
  obtain ⟨ns, -, -, rfl, -⟩ := buildWith_eq_ok_iff.1 hg
  exact hframe.symm.name_eq

theorem Restores.wellFormed (hd : d.Restores registry options h report) : h.WellFormed := by
  obtain ⟨g, hg, hframe, -⟩ := hd.exists_settled
  exact (wellFormed_of_buildWith hg).of_sameFrame hframe

/-- Nothing is said in more than one line: neither the name of the document nor a name or an
operator type of a layer has a newline in it. -/
structure OneLined (d : Document) : Prop where
  name : '\n' ∉ d.name.toList
  layers : ∀ l ∈ d.layers, '\n' ∉ l.opType.toList ∧ '\n' ∉ l.name.toList

instance (d : Document) : Decidable d.OneLined :=
  decidable_of_iff ('\n' ∉ d.name.toList ∧
      ∀ l ∈ d.layers, '\n' ∉ l.opType.toList ∧ '\n' ∉ l.name.toList)
    ⟨fun ⟨hname, hlayers⟩ => ⟨hname, hlayers⟩, fun ⟨hname, hlayers⟩ => ⟨hname, hlayers⟩⟩

/-- The lines of the table are the header and one for each node, in ascending order of numbers, and
nothing is behind the last line end. -/
theorem Restores.splitOn_render (hd : d.Restores registry options h report) (hlines : d.OneLined) :
    h.render.toList.splitOn '\n' = h.header.toList :: h.nodes.values.map Node.line ++ [[]] := by
  refine Graph.splitOn_render (hd.name_eq ▸ hlines.name) fun n hn => ?_
  obtain ⟨id, hid⟩ := Dictionary.mem_values_iff.1 hn
  obtain ⟨l, hl, changes, hdescribes⟩ := hd.exists_layer hid
  have htype : n.opType = l.opType := hdescribes.opType_eq
  have hname : n.name = l.name := hdescribes.name_eq
  rw [htype, hname]
  exact hlines.layers l hl

/-- Let a document be restored, with any registry of extenders and any options, and let it have no
newlines in its name nor in the names and operator types of its layers. Then the table of the graph,
split at newlines, is a header and one line for each node in ascending order of their numbers, with
nothing behind them. Each line begins with the number of its node, after leading spaces, and ends
with as many fields as the node has outputs, which are read as their shapes in port order. -/
theorem restores_table (hd : d.Restores registry options h report) (hlines : d.OneLined) :
    ∃ header lines, h.render.toList.splitOn '\n' = header :: lines ++ [[]] ∧
      h.nodeIds.Pairwise (· < ·) ∧ (∀ id, id ∈ h.nodeIds ↔ ∃ n, h.node? id = some n) ∧
      List.Forall₂ (fun id line => ∃ n, h.node? id = some n ∧ n.id = id ∧ n.ShownBy line)
        h.nodeIds lines := by
  refine ⟨_, _, hd.splitOn_render hlines, Dictionary.pairwise_keys _,
    fun id => Dictionary.mem_keys_iff, ?_⟩
  rw [Graph.nodeIds, Dictionary.keys, Dictionary.values, List.map_map, List.forall₂_map_left_iff,
    List.forall₂_map_right_iff, List.forall₂_same]
  rintro ⟨id, n⟩ hentry
  have hn : h.node? id = some n := Dictionary.mem_entries_iff.1 hentry
  exact ⟨n, hn, hd.wellFormed.id_eq id n hn, Node.shownBy_line (hd.exists_fitsSigned hn)⟩

/-- A graph input whose name has blanks in it, a layer of two outputs with a blank in its operator
type and a name wider than its column, and a layer without outputs. -/
def labelled : Document where
  name := "labelled graph"
  layers :=
    [⟨12, " in  put ", "Parameter", none, .ofList [("shape", .text "?,3")], [], [⟨0, none, none⟩]⟩,
      ⟨7, "a name that is wider than its column", "Two Outputs", none, .empty, [],
        [⟨1, none, some [5, -1]⟩, ⟨0, none, some []⟩]⟩,
      ⟨9, "y", "Result", none, .empty, [⟨0, none, none⟩], []⟩]
  edges := [⟨⟨12, 0⟩, ⟨9, 0⟩⟩]

/-- The table of three layers, and the shapes in the line of one of them. -/
theorem restores_labelled_table :
    labelled.OneLined ∧ ∃ h, labelled.Restores .builtin ⟨true, false⟩ h ⟨3, 1, 2, 1⟩ ∧
      ∃ header line₇ line₉ line₁₂ n,
        h.render.toList.splitOn '\n' = [header, line₇, line₉, line₁₂, []] ∧
        h.node? 7 = some n ∧ n.outputShapes = [some ⟨[.fixed 5, .dynamic]⟩, some ⟨[]⟩] ∧
        n.ShownBy line₇ := by
  have hlines : labelled.OneLined := by decide +kernel
  obtain ⟨h, hd, hids, n, hn, houtputs⟩ : ∃ h,
      labelled.Restores .builtin ⟨true, false⟩ h ⟨3, 1, 2, 1⟩ ∧ h.nodeIds = [7, 9, 12] ∧
        ∃ n, h.node? 7 = some n ∧ n.outputShapes = [some ⟨[.fixed 5, .dynamic]⟩, some ⟨[]⟩] :=
    ⟨_, ⟨_, rfl, rfl⟩, rfl, _, rfl, rfl⟩
  obtain ⟨header, lines, hsplit, -, -, hshown⟩ := restores_table hd hlines
  rw [hids] at hshown
  cases hshown with
  | cons h₇ hshown =>
    cases hshown with
    | cons h₉ hshown =>
      cases hshown with
      | cons h₁₂ hshown =>
        cases hshown
        obtain ⟨n', hn', -, hline⟩ := h₇
        obtain rfl := Option.some.inj (hn.symm.trans hn')
        exact ⟨hlines, h, hd, header, _, _, _, n, hsplit, hn, houtputs, hline⟩

end Document

end OpGraph
