import OpGraph.Graph.Basic
import OpGraph.Proofs.Graph.WellFormed
import OpGraph.Proofs.Shape.Text
import OpGraph.Proofs.Text.Items

/-!
# What can be read from a table

The table of a graph is one text, in which fields follow each other without quotes. Operator types
and names may have blanks in them and may be wider than their columns, but they stand in the middle
of a line. Before them is the number of the node and behind them are the shapes, which have no
blanks. So these can be told from the two ends of a line, and the lines from each other if there is
no newline in what they show.
-/

namespace OpGraph

variable {n : Node} {g : Graph}

/-- The text of a shape has no blanks in it, nor has the dash. -/
theorem isBlank_of_mem_shapeCell {cell : Option Shape} {c : Char}
    (hc : c ∈ (shapeCell cell).toList) :
    Text.isBlank c = false := by
  cases cell with
  | none =>
    obtain rfl : c = '-' := by simpa [shapeCell] using hc
    decide
  | some s =>
    rw [shapeCell, Shape.toList_toString, List.mem_cons, List.mem_append, List.mem_singleton] at hc
    rcases hc with rfl | hc | rfl
    · decide
    · have hcomma : Text.isBlank ',' = false := by decide
      exact Text.forall_mem_intercalate hcomma
        (fun item hitem c hc => (Shape.isPlain_of_mem_items item hitem c hc).1) c hc
    · decide

theorem not_mem_shapeCell {cell : Option Shape} {c : Char} (hc : Text.isBlank c) :
    c ∉ (shapeCell cell).toList := by
  intro hmem
  rw [isBlank_of_mem_shapeCell hmem] at hc
  cases hc

theorem newline_not_mem_repr (k : Nat) : '\n' ∉ (Nat.repr k).toList := by
  intro hmem
  exact absurd (Numeral.isDigit_of_mem_repr hmem) (by decide)

theorem toList_padLeft (width : Nat) (text : String) : (padLeft width text).toList =
    List.replicate (width - text.length) ' ' ++ text.toList := by
  simp [padLeft]

theorem toList_padRight (width : Nat) (text : String) : (padRight width text).toList =
    text.toList ++ List.replicate (width - text.length) ' ' := by
  simp [padRight]

namespace Node

/-- The cells of a node's shapes, in port order. -/
def cells (n : Node) : List (List Char) := n.outputShapes.map fun s => (shapeCell s).toList

/-- What stands between the number of a node and its shapes. -/
def middle (n : Node) : List Char :=
  ' ' :: (padRight 14 n.opType).toList ++ ' ' :: (padRight 16 n.name).toList
    ++ ' ' :: (padRight 14 n.strategy.name).toList

/-- The line of a node. -/
def line (n : Node) : List Char :=
  (padLeft 4 (Nat.repr n.id.toNat)).toList ++ ' ' :: n.middle ++ ' ' :: [' '].intercalate n.cells

/-- A row is a line and its end. -/
theorem toList_row (n : Node) : n.row.toList = n.line ++ ['\n'] := by
  simp [row, line, middle, cells, Function.comp_def]

/-- A line has a newline only if the operator type or the name of its node has one. -/
theorem newline_not_mem_line (htype : '\n' ∉ n.opType.toList) (hname : '\n' ∉ n.name.toList) :
    '\n' ∉ n.line := by
  have hnumber := newline_not_mem_repr n.id.toNat
  have hstrategy : '\n' ∉ n.strategy.name.toList := by
    cases n.strategy <;> decide
  have hcells : '\n' ∉ [' '].intercalate n.cells := by
    intro hmem
    refine Text.forall_mem_intercalate (P := (· ≠ '\n')) (by decide) ?_ '\n' hmem rfl
    rintro cell hcell c hc rfl
    obtain ⟨s, -, rfl⟩ := List.mem_map.1 hcell
    exact not_mem_shapeCell (by decide) hc
  simp [line, middle, toList_padLeft, toList_padRight, htype, hname, hnumber, hstrategy, hcells,
    -Nat.toList_repr]

/-- What can be read from a line about its node. -/
structure ShownBy (n : Node) (line : List Char) : Prop where
  -- behind leading spaces is the number
  number : ∃ rest, line.dropWhile (· == ' ') = (Nat.repr n.id.toNat).toList ++ ' ' :: rest
  -- the last fields, as many as there are outputs, are read as their shapes
  shapes : List.Forall₂ (fun field p =>
      ∃ s, Shape.parse (String.ofList field) = .ok s ∧ p.shape = some s)
    ((line.splitOn ' ').rtake n.outputs.length) n.outputs

/-- What stands behind the blanks of a line is the number of the node, up to the next blank. -/
theorem dropWhile_line (n : Node) : n.line.dropWhile (· == ' ') =
    (Nat.repr n.id.toNat).toList ++ ' ' :: (n.middle ++ ' ' :: [' '].intercalate n.cells) := by
  obtain ⟨hne, hdigits⟩ := Numeral.isDigits_repr n.id.toNat
  obtain ⟨digit, digits, hnumber⟩ := List.exists_cons_of_ne_nil hne
  have hdigit : (digit == ' ') = false := by
    refine beq_false_of_ne ?_
    rintro rfl
    exact absurd (hdigits ' ' (hnumber ▸ List.mem_cons_self)) (by decide)
  rw [line, toList_padLeft, hnumber]
  simp [List.dropWhile_append_of_pos, hdigit]

/-- The last fields of a line are the shapes, one for each output. Names and types may have blanks
in them, but they stand before. -/
theorem rtake_line (n : Node) : (n.line.splitOn ' ').rtake n.outputs.length = n.cells := by
  have hlength : n.cells.length = n.outputs.length := by simp [cells, outputShapes]
  rw [← hlength, line]
  refine Text.rtake_splitOn_append _ fun cell hcell => ?_
  obtain ⟨s, -, rfl⟩ := List.mem_map.1 hcell
  exact not_mem_shapeCell (by decide)

/-- The number of a node can be read from its line, and so can the shapes, if all outputs have one
and the extents fit. -/
theorem shownBy_line (hshapes : ∀ p ∈ n.outputs, ∃ s, p.shape = some s ∧ s.FitsSigned) :
    n.ShownBy n.line where
  number := ⟨_, n.dropWhile_line⟩
  shapes := by
    rw [rtake_line, cells, outputShapes, List.map_map, List.forall₂_map_left_iff, List.forall₂_same]
    intro p hp
    obtain ⟨s, hs, hfits⟩ := hshapes p hp
    refine ⟨s, ?_, hs⟩
    show Shape.parse (String.ofList (shapeCell p.shape).toList) = .ok s
    rw [hs, shapeCell, String.ofList_toList, hfits.parse_toString]

end Node

namespace Graph

/-- The first line of a table. -/
def header (g : Graph) : String := g.name ++ " (IR v" ++ Nat.repr g.version.toNat ++ ")"

/-- The table is a header and the lines of the nodes, each with its end. -/
theorem toList_render (g : Graph) : g.render.toList =
    g.header.toList ++
      '\n' :: (g.nodes.values.map Node.line).flatMap fun line => line ++ ['\n'] := by
  simp [render, header, String.toList_join, List.flatMap_map, Node.toList_row]

/-- A table is split into its header and the lines of its nodes, with nothing behind the last of
them. -/
theorem splitOn_render (hname : '\n' ∉ g.name.toList)
    (hnodes : ∀ n ∈ g.nodes.values, '\n' ∉ n.opType.toList ∧ '\n' ∉ n.name.toList) :
    g.render.toList.splitOn '\n' = g.header.toList :: g.nodes.values.map Node.line ++ [[]] := by
  have hversion := newline_not_mem_repr g.version.toNat
  have hheader : '\n' ∉ g.header.toList := by simp [header, hname, hversion, -Nat.toList_repr]
  rw [toList_render, List.splitOn_append_cons_self_of_not_mem hheader,
    Text.splitOn_flatMap_terminated, List.cons_append]
  intro line hline
  obtain ⟨n, hn, rfl⟩ := List.mem_map.1 hline
  exact Node.newline_not_mem_line (hnodes n hn).1 (hnodes n hn).2

end Graph

end OpGraph
