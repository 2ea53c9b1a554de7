import OpGraph.Proofs.Graph.Order
import OpGraph.Proofs.Traversal

/-!
# Graphs of given nodes and edges

Adding nodes to an empty graph and then edges succeeds exactly if the numbers of the nodes are
distinct and the nodes and edges make a well-formed graph; and it is that graph that comes out. The
order in which the nodes are listed is of no influence on the graph, that of the edges only on the
list of edges and its index.
-/

namespace OpGraph

namespace Graph

variable {g h : Graph} {name : String} {version : UInt32} {ns ns' : List Node} {es es' : List Edge}

/-- The graph of given nodes and edges. -/
def ofNodes (name : String) (version : UInt32) (ns : List Node) (es : List Edge) : Graph where
  name
  version
  nodes := .ofList (ns.map fun n => (n.id, n))
  edges := es
  feeds := es.mapIdx fun i e => (e.target, i)

/-- In the graph of nodes with distinct numbers each of them stands under its number. -/
theorem node?_ofNodes_eq_some_iff (hids : (ns.map Node.id).Nodup) {id : NodeId} {n : Node} :
    (ofNodes name version ns es).node? id = some n ↔ n ∈ ns ∧ n.id = id := by
  have hkeys : ((ns.map fun n => (n.id, n)).map Prod.fst).Nodup := by
    rwa [List.map_map]
  rw [node?, ofNodes, Dictionary.get?_ofList_eq_some_iff hkeys]
  simp [and_comm]

theorem nodeIds_ofNodes_perm (hids : (ns.map Node.id).Nodup) :
    (ofNodes name version ns es).nodeIds.Perm (ns.map Node.id) := by
  refine (List.perm_ext_iff_of_nodup (Dictionary.nodup_keys _) hids).2 fun id => ?_
  rw [← nodeIds, mem_nodeIds_iff, List.mem_map]
  exact exists_congr fun n => node?_ofNodes_eq_some_iff hids

section Adding

theorem node?_setNode_eq_none_iff {id id' : NodeId} {n : Node} :
    (g.setNode id n).node? id' = none ↔ id' ≠ id ∧ g.node? id' = none := by
  rw [node?_setNode]
  by_cases hid : id' = id <;> simp [hid]

/-- Nodes are added one after the other exactly if their numbers are new and distinct and each has
distinct ports. -/
theorem foldlM_addNode_eq_ok_iff : ns.foldlM addNode g = .ok h ↔
    (ns.map Node.id).Nodup ∧
    (∀ n ∈ ns, g.node? n.id = none ∧ (n.inputs.map InputPort.id).Nodup ∧
      (n.outputs.map OutputPort.id).Nodup) ∧
    h = ns.foldl (fun g n => g.setNode n.id n) g := by
  induction ns generalizing g with
  | nil => simp [pure, Except.pure, eq_comm]
  | cons n ns ih =>
    simp only [List.foldlM_cons, bind_eq_ok_iff, addNode_eq_ok_iff, ih, List.map_cons,
      List.nodup_cons, List.forall_mem_cons, List.foldl_cons]
    constructor
    · rintro ⟨_, ⟨hnew, hinputs, houtputs, rfl⟩, hids, hall, rfl⟩
      -- a later node meets the graph with this one stored, so its number is another
      simp only [node?_setNode_eq_none_iff] at hall
      refine ⟨⟨?_, hids⟩, ⟨⟨hnew, hinputs, houtputs⟩, fun m hm => ?_⟩, rfl⟩
      · intro hmem
        obtain ⟨m, hm, heq⟩ := List.mem_map.1 hmem
        exact (hall m hm).1.1 heq
      · obtain ⟨⟨-, hm'⟩, hports⟩ := hall m hm
        exact ⟨hm', hports⟩
    · rintro ⟨⟨hid, hids⟩, ⟨⟨hnew, hinputs, houtputs⟩, hall⟩, rfl⟩
      refine ⟨_, ⟨hnew, hinputs, houtputs, rfl⟩, hids, fun m hm => ?_, rfl⟩
      obtain ⟨hm', hports⟩ := hall m hm
      refine ⟨node?_setNode_eq_none_iff.2 ⟨?_, hm'⟩, hports⟩
      intro heq
      exact hid (heq ▸ List.mem_map_of_mem hm)

/-- Storing nodes one after the other in an empty graph makes the graph of these nodes. -/
theorem foldl_setNode_empty (name : String) (version : UInt32) (ns : List Node) :
    ns.foldl (fun g n => g.setNode n.id n) (empty name version) = ofNodes name version ns [] := by
  have hfold : ∀ (ns : List Node) (g : Graph), ns.foldl (fun g n => g.setNode n.id n) g =
      { g with nodes := ns.foldl (fun d n => d.set n.id n) g.nodes } := by
    intro ns
    induction ns with
    | nil => intro g; rfl
    | cons n ns ih => intro g; rw [List.foldl_cons, ih]; rfl
  rw [hfold, ofNodes, Dictionary.ofList, List.foldl_map]
  rfl

/-- The graph with further edges behind those it has. -/
def appendEdges (g : Graph) (es : List Edge) : Graph :=
  { g with
    edges := g.edges ++ es
    feeds := g.feeds ++ es.mapIdx fun i e => (e.target, g.edges.length + i) }

theorem appendEdges_cons (g : Graph) (e : Edge) (es : List Edge) :
    g.appendEdges (e :: es) = (g.appendEdges [e]).appendEdges es := by
  have hposition : ∀ i, g.edges.length + 1 + i = g.edges.length + (i + 1) := by
    intro i
    omega
  simp only [appendEdges, List.mapIdx_cons, List.mapIdx_nil, List.append_assoc, List.cons_append,
    List.nil_append, List.length_append, List.length_singleton, hposition]

theorem lookup_feeds_appendEdges_eq_none_iff {e : Edge} {t : Terminal} :
    (g.appendEdges [e]).feeds.lookup t = none ↔ t ≠ e.target ∧ g.feeds.lookup t = none := by
  simp only [List.lookup_eq_none_iff, appendEdges, List.mem_append]
  constructor
  · intro h
    refine ⟨?_, fun p hp => h p (Or.inl hp)⟩
    simpa using h (e.target, g.edges.length) (by simp)
  · rintro ⟨hne, h⟩ p (hp | hp)
    · exact h p hp
    · obtain rfl : p = (e.target, g.edges.length) := by simpa using hp
      simpa using hne

/-- Edges are added one after the other exactly if they join existing ports and enter distinct ports
that nothing feeds yet. -/
theorem foldlM_addEdge_eq_ok_iff : es.foldlM addEdge g = .ok h ↔
    (es.map Edge.target).Nodup ∧
    (∀ e ∈ es, g.IsOutput e.source ∧ g.IsInput e.target ∧ g.feeds.lookup e.target = none) ∧
    h = g.appendEdges es := by
  induction es generalizing g with
  | nil =>
    have hnone : g.appendEdges [] = g := by simp [appendEdges]
    rw [List.foldlM_nil, pure_eq_ok_iff, hnone, eq_comm]
    simp
  | cons e es ih =>
    have hfirst : ∀ u, g.addEdge e = .ok u ↔ g.IsOutput e.source ∧ g.IsInput e.target ∧
        g.feeds.lookup e.target = none ∧ u = g.appendEdges [e] := by
      intro u
      exact addEdge_eq_ok_iff
    simp only [List.foldlM_cons, bind_eq_ok_iff, hfirst, ih, List.map_cons, List.nodup_cons,
      List.forall_mem_cons, appendEdges_cons g e es]
    constructor
    · rintro ⟨_, ⟨hsource, htarget, hfree, rfl⟩, htargets, hall, rfl⟩
      -- a later edge meets the graph with this one added, so its target is another
      simp only [lookup_feeds_appendEdges_eq_none_iff] at hall
      refine ⟨⟨?_, htargets⟩, ⟨⟨hsource, htarget, hfree⟩, fun e' he' => ?_⟩, rfl⟩
      · intro hmem
        obtain ⟨e', he', heq⟩ := List.mem_map.1 hmem
        exact (hall e' he').2.2.1 heq
      · obtain ⟨hsource', htarget', -, hfree'⟩ := hall e' he'
        exact ⟨hsource', htarget', hfree'⟩
    · rintro ⟨⟨hnew, htargets⟩, ⟨⟨hsource, htarget, hfree⟩, hall⟩, rfl⟩
      refine ⟨_, ⟨hsource, htarget, hfree, rfl⟩, htargets, fun e' he' => ?_, rfl⟩
      obtain ⟨hsource', htarget', hfree'⟩ := hall e' he'
      refine ⟨hsource', htarget', lookup_feeds_appendEdges_eq_none_iff.2 ⟨?_, hfree'⟩⟩
      intro heq
      exact hnew (heq ▸ List.mem_map_of_mem he')

/-- Nodes and then edges can be added to an empty graph exactly if the numbers of the nodes are
distinct and the graph of these nodes and edges is well formed. It is the graph that results. -/
theorem construct_eq_ok_iff :
    (ns.foldlM addNode (empty name version) >>= fun g => es.foldlM addEdge g) = .ok h ↔
      (ns.map Node.id).Nodup ∧ h = ofNodes name version ns es ∧ h.WellFormed := by
  have happend : (ofNodes name version ns []).appendEdges es = ofNodes name version ns es := by
    simp [appendEdges, ofNodes]
  simp only [bind_eq_ok_iff, foldlM_addNode_eq_ok_iff, foldlM_addEdge_eq_ok_iff,
    foldl_setNode_empty]
  constructor
  · rintro ⟨_, ⟨hids, hports, rfl⟩, htargets, hends, rfl⟩
    refine ⟨hids, happend, ?_⟩
    rw [happend]
    refine ⟨?_, ?_, ?_, ?_, ?_, htargets, rfl⟩
    · intro id n hn
      exact ((node?_ofNodes_eq_some_iff hids).1 hn).2
    · intro id n hn
      exact (hports n ((node?_ofNodes_eq_some_iff hids).1 hn).1).2.1
    · intro id n hn
      exact (hports n ((node?_ofNodes_eq_some_iff hids).1 hn).1).2.2
    · exact fun e he => (hends e he).1
    · exact fun e he => (hends e he).2.1
  · rintro ⟨hids, rfl, hwf⟩
    refine ⟨_, ⟨hids, fun n hn => ?_, rfl⟩, hwf.nodup_targets, fun e he => ?_, happend.symm⟩
    · have hstored : (ofNodes name version ns es).node? n.id = some n :=
        (node?_ofNodes_eq_some_iff hids).2 ⟨hn, rfl⟩
      exact ⟨rfl, hwf.nodup_inputs _ n hstored, hwf.nodup_outputs _ n hstored⟩
    · exact ⟨hwf.isOutput_source e he, hwf.isInput_target e he, rfl⟩

end Adding

section Listing

/-- The listing of the nodes is of no influence on what is stored. -/
theorem nodes_ofNodes_perm (hids : (ns.map Node.id).Nodup) (hns : ns.Perm ns') :
    (ofNodes name version ns es).nodes = (ofNodes name version ns' es').nodes := by
  have hids' : (ns'.map Node.id).Nodup := (hns.map Node.id).nodup_iff.1 hids
  refine Dictionary.ext_get? fun id => Option.ext fun n => ?_
  rw [← node?, ← node?, node?_ofNodes_eq_some_iff hids,
    node?_ofNodes_eq_some_iff hids', hns.mem_iff]

/-- Nodes and edges listed in another order make a well-formed graph too. -/
theorem WellFormed.ofNodes_perm (hids : (ns.map Node.id).Nodup) (hns : ns.Perm ns')
    (hes : es.Perm es') (hwf : (ofNodes name version ns es).WellFormed) :
    (ofNodes name version ns' es').WellFormed := by
  have hnode : ∀ id,
      (ofNodes name version ns' es').node? id = (ofNodes name version ns es).node? id := by
    intro id
    rw [node?, node?, nodes_ofNodes_perm hids hns]
  constructor
  case id_eq => exact fun id n hn => hwf.id_eq id n (hnode id ▸ hn)
  case nodup_inputs => exact fun id n hn => hwf.nodup_inputs id n (hnode id ▸ hn)
  case nodup_outputs => exact fun id n hn => hwf.nodup_outputs id n (hnode id ▸ hn)
  case isOutput_source =>
    intro e he
    obtain ⟨n, hn, hport⟩ := hwf.isOutput_source e (hes.mem_iff.2 he)
    exact ⟨n, (hnode _).trans hn, hport⟩
  case isInput_target =>
    intro e he
    obtain ⟨n, hn, hport⟩ := hwf.isInput_target e (hes.mem_iff.2 he)
    exact ⟨n, (hnode _).trans hn, hport⟩
  case nodup_targets => exact (hes.map Edge.target).nodup_iff.1 hwf.nodup_targets
  case feeds_eq => rfl

end Listing

end Graph

end OpGraph
