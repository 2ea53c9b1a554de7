import OpGraph.Proofs.FirstOffence
import OpGraph.Proofs.Graph.WellFormed

/-!
# Why nodes and edges are refused

Adding a node or an edge makes several demands, one after the other, and the first that is not met
is the error. The order of the demands does not hang on how a graph stores its nodes and edges: it
is said here for anything that knows some numbers and ports as in use, so that it can be said of a
graph and of the description of one alike.
-/

namespace OpGraph

/-- The number stands among those before it. -/
def Repeats (before : List PortId) (port : PortId) (named : PortId) : Prop :=
  port ∈ before ∧ named = port

/-- What is wrong with a node of the given number and ports, where some numbers are in use. -/
@[mk_iff]
inductive NodeFault (inUse : NodeId → Prop) (id : NodeId) (inputs outputs : List PortId) :
    GraphError → Prop
  | inUse (hid : inUse id) : NodeFault inUse id inputs outputs (.duplicateNode id)
  | repeatedInput {port : PortId} (hnew : ¬ inUse id) (hport : FirstOffence Repeats inputs port) :
      NodeFault inUse id inputs outputs (.duplicatePort id port .input)
  | repeatedOutput {port : PortId} (hnew : ¬ inUse id) (hinputs : inputs.Nodup)
      (hport : FirstOffence Repeats outputs port) :
      NodeFault inUse id inputs outputs (.duplicatePort id port .output)

/-- What is wrong with an edge, where there are some nodes and ports and something feeds some of
them. -/
@[mk_iff]
inductive EdgeFault (isNode : NodeId → Prop) (isOutput isInput isFed : Terminal → Prop) (e : Edge) :
    GraphError → Prop
  | unknownSource (hnode : ¬ isNode e.source.node) :
      EdgeFault isNode isOutput isInput isFed e (.unknownNode e.source.node)
  | missingOutput (hnode : isNode e.source.node) (hport : ¬ isOutput e.source) :
      EdgeFault isNode isOutput isInput isFed e (.unknownPort e.source.node e.source.port .output)
  | unknownTarget (hsource : isOutput e.source) (hnode : ¬ isNode e.target.node) :
      EdgeFault isNode isOutput isInput isFed e (.unknownNode e.target.node)
  | missingInput (hsource : isOutput e.source) (hnode : isNode e.target.node)
      (hport : ¬ isInput e.target) :
      EdgeFault isNode isOutput isInput isFed e (.unknownPort e.target.node e.target.port .input)
  | alreadyFed (hsource : isOutput e.source) (htarget : isInput e.target) (hfed : isFed e.target) :
      EdgeFault isNode isOutput isInput isFed e
        (.inputAlreadyConnected e.target.node e.target.port)

section Repetition

variable {ports seen : List PortId} {port : PortId}

/-- Among distinct numbers none is repeated, and the other way round. -/
theorem noneOffends_repeats_iff : NoneOffends Repeats ports ↔ ports.Nodup := by
  induction ports with
  | nil => simp
  | cons p ports ih =>
    rw [List.nodup_cons, ← ih]
    constructor
    · intro h
      refine ⟨fun hmem => ?_, ?_⟩
      · obtain ⟨before, after, rfl⟩ := List.append_of_mem hmem
        exact h (p :: before) p after rfl p ⟨List.mem_cons_self, rfl⟩
      · rintro before q after rfl named ⟨hmem, hq⟩
        exact h (p :: before) q after rfl named ⟨List.mem_cons_of_mem p hmem, hq⟩
    · rintro ⟨hnew, hrest⟩ before q after hsplit named ⟨hmem, hq⟩
      cases before with
      | nil => cases hmem
      | cons _ before =>
        obtain ⟨rfl, rfl⟩ := List.cons.inj hsplit
        rcases List.mem_cons.1 hmem with rfl | hmem
        · exact hnew (by simp)
        · exact hrest before q after rfl named ⟨hmem, hq⟩

/-- The scan finds the first number that was seen before or is repeated. -/
theorem firstRepeat?_eq_some_iff : Graph.firstRepeat? seen ports = some port ↔
    ∃ before p after, ports = before ++ p :: after ∧ (before.Nodup ∧ ∀ q ∈ before, q ∉ seen) ∧
      (p ∈ seen ∨ p ∈ before) ∧ port = p := by
  induction ports generalizing seen with
  | nil => simp [Graph.firstRepeat?]
  | cons p ports ih =>
    rw [exists_split_cons_iff, Graph.firstRepeat?]
    split
    next hseen => simp [hseen, eq_comm]
    next hnew =>
      -- the head is not the repeated number, and the rest is scanned with the head as seen
      have hhead : ¬ ((([] : List PortId).Nodup ∧ ∀ q ∈ ([] : List PortId), q ∉ seen) ∧
          (p ∈ seen ∨ p ∈ ([] : List PortId)) ∧ port = p) := by
        simp [hnew]
      rw [ih, or_iff_right hhead]
      refine exists₃_congr fun before q after => and_congr_right fun _ => ?_
      rw [← and_assoc, ← and_assoc]
      refine and_congr_left fun _ => ?_
      simp only [List.nodup_cons, List.mem_cons, forall_eq_or_imp, not_or]
      grind

/-- Ports are refused for the first number that was there before. -/
theorem checkPorts_eq_error_iff {id : NodeId} {side : PortSide} {err : GraphError} :
    Graph.checkPorts id side ports = .error err ↔
      ∃ port, FirstOffence Repeats ports port ∧ err = .duplicatePort id port side := by
  have hfirst : ∀ port, FirstOffence Repeats ports port ↔
      Graph.firstRepeat? [] ports = some port := by
    intro port
    simp only [FirstOffence, noneOffends_repeats_iff, firstRepeat?_eq_some_iff, Repeats]
    simp
  simp only [hfirst, Graph.checkPorts]
  cases Graph.firstRepeat? [] ports <;> simp [eq_comm]

end Repetition

namespace Graph

variable {g : Graph} {n : Node} {e : Edge} {err : GraphError}

/-- A node is refused for its number, its inputs or its outputs, in this order. -/
theorem addNode_eq_error_iff : g.addNode n = .error err ↔
    NodeFault (fun id => ∃ m, g.node? id = some m) n.id (n.inputs.map InputPort.id)
      (n.outputs.map OutputPort.id) err := by
  have hused : (∃ m, g.node? n.id = some m) ↔ g.nodes.contains n.id = true :=
    Option.isSome_iff_exists.symm
  simp only [nodeFault_iff, hused, exists_and_left, ← checkPorts_eq_error_iff,
    ← checkPorts_eq_ok_iff n.id .input]
  simp only [addNode, bind, Except.bind, throw, throwThe, MonadExceptOf.throw, pure, Except.pure]
  cases g.nodes.contains n.id with
  | true => simp [@eq_comm _ err]
  | false =>
    cases checkPorts n.id .input (n.inputs.map InputPort.id) with
    | error err => simp
    | ok _ => cases checkPorts n.id .output (n.outputs.map OutputPort.id) <;> simp

/-- An edge is refused for its source, its target or an edge that is there, in this order. -/
theorem addEdge_eq_error_iff : g.addEdge e = .error err ↔
    EdgeFault (fun id => ∃ m, g.node? id = some m) g.IsOutput g.IsInput
      (fun t => g.feeds.lookup t ≠ none) e err := by
  simp only [edgeFault_iff]
  simp only [addEdge, bind, Except.bind, throw, throwThe, MonadExceptOf.throw, pure, Except.pure]
  cases hsource : g.node? e.source.node with
  | none => simp [IsOutput, hsource, @eq_comm _ err]
  | some source =>
    rw [isOutput_iff_of_node? hsource]
    dsimp only
    cases source.output? e.source.port with
    | none => simp [@eq_comm _ err]
    | some _ =>
      cases htarget : g.node? e.target.node with
      | none => simp [IsInput, htarget, @eq_comm _ err]
      | some target =>
        rw [isInput_iff_of_node? htarget]
        dsimp only
        cases target.input? e.target.port with
        | none => simp [@eq_comm _ err]
        | some _ => cases g.feeds.lookup e.target <;> simp [@eq_comm _ err]

end Graph

end OpGraph
