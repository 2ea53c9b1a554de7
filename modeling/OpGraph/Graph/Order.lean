import OpGraph.Node

/-!
# Topological order

Nodes are put out one by one, always the smallest node whose predecessors are all out. The state of
the process holds, for every node, the number of links into it whose source is not out yet, and the
ascending list of nodes that are ready. Nodes that never become ready lie on a cycle or behind one.
-/

namespace OpGraph

/-- The state of the process: links that are still pending, nodes that are ready, and nodes that are
out. -/
structure SortState where
  -- for every node, the number of links into it whose source is not out yet
  inDegree : Dictionary NodeId Nat
  ready : List NodeId
  order : List NodeId

namespace SortState

/-- Insert a node into an ascending list. -/
def insertAscending (n : NodeId) : List NodeId → List NodeId
  | [] => [n]
  | m :: rest => if n ≤ m then n :: m :: rest else m :: insertAscending n rest

/-- Count a link whose target is `n` and, unless it is known already, register its source. -/
def countLink (degrees : Dictionary NodeId Nat) (link : NodeId × NodeId) : Dictionary NodeId Nat :=
  let degrees := degrees.set link.2 ((degrees.get? link.2).getD 0 + 1)
  if degrees.contains link.1 then degrees else degrees.set link.1 0

/-- The number of links into each listed node and each end of a link. -/
def countLinks (ids : List NodeId) (links : List (NodeId × NodeId)) : Dictionary NodeId Nat :=
  links.foldl countLink (Dictionary.ofList (ids.map fun n => (n, 0)))

/-- The state before any node is out. -/
def start (ids : List NodeId) (links : List (NodeId × NodeId)) : SortState :=
  let degrees := countLinks ids links
  ⟨degrees, (degrees.entries.filter fun e => e.2 = 0).map Prod.fst, []⟩

/-- Take note that the source of one link into `target` is out. -/
def release (s : SortState) (target : NodeId) : SortState :=
  match s.inDegree.get? target with
  | none => s
  | some count =>
    { s with
      inDegree := s.inDegree.set target (count - 1)
      ready := if count - 1 = 0 then insertAscending target s.ready else s.ready }

/-- Put out the smallest ready node and release the targets of its links. -/
def step? (links : List (NodeId × NodeId)) (s : SortState) : Option SortState :=
  match s.ready with
  | [] => none
  | n :: rest =>
    let targets := (links.filter fun link => link.1 = n).map Prod.snd
    some (targets.foldl release { s with ready := rest, order := s.order ++ [n] })

/-- Take steps until no node is ready, at most `fuel` of them. -/
def run (links : List (NodeId × NodeId)) : Nat → SortState → SortState
  | 0, s => s
  | fuel + 1, s =>
    match s.step? links with
    | none => s
    | some s' => run links fuel s'

/-- The nodes with links from nodes that are not out, ascending. -/
def stuck (s : SortState) : List NodeId :=
  (s.inDegree.entries.filter fun e => 0 < e.2).map Prod.fst

end SortState

/-- The listed nodes and all ends of links, each once and sources before targets, with the smallest
ready node first; or the nodes on cycles and behind them. Each step puts out one node, so as many
steps as there are nodes suffice. -/
def topologicalSort (ids : List NodeId) (links : List (NodeId × NodeId)) :
    Except (List NodeId) (List NodeId) :=
  let start := SortState.start ids links
  let final := start.run links start.inDegree.size
  if final.order.length = final.inDegree.size then .ok final.order else .error final.stuck

end OpGraph
