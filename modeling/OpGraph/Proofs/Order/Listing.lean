import OpGraph.Graph.Order
import Mathlib.Data.List.Basic
import Mathlib.Data.Fintype.Card
import Mathlib.Data.Set.Finite.Basic
import Mathlib.Logic.Relation
import Mathlib.Order.WellFounded

/-!
# Listings of linked nodes

The specification of a topological sort, said without its algorithm: which nodes take part, what a
cycle is, and what a list of nodes must satisfy to be an answer. The nodes have such a listing only
if their links form no cycle; conversely, nodes of which each has a source among them do form one,
and each of them lies on a cycle or behind one.

## Main definitions

- `IsVertex`: the listed nodes and the ends of links
- `HasCycle`: a node reaches itself along links
- `BehindCycle`: a node lies on a cycle or can be reached from one
- `IsListing`: all vertices, once each, sources first

## Main statements

- `IsListing.not_hasCycle`: a listing excludes cycles
- `SourcesFirst.not_behindCycle`: it excludes nodes behind cycles even when it is not complete
- `behindCycle_of_forall_source`: finitely many nodes without a first one are all behind cycles
-/

namespace OpGraph

variable {ids : List NodeId} {links : List (NodeId × NodeId)}

/-- One link leads from `u` to `v`. -/
def Linked (links : List (NodeId × NodeId)) (u v : NodeId) : Prop := (u, v) ∈ links

/-- The nodes of a sort: those listed, and both ends of every link. -/
def IsVertex (ids : List NodeId) (links : List (NodeId × NodeId)) (v : NodeId) : Prop :=
  v ∈ ids ∨ ∃ u, (u, v) ∈ links ∨ (v, u) ∈ links

/-- Some node reaches itself along one or more links; a link from a node to itself is enough. -/
def HasCycle (links : List (NodeId × NodeId)) : Prop :=
  ∃ v, Relation.TransGen (Linked links) v v

/-- Whenever a node is listed, the sources of all links into it are listed before. -/
def SourcesFirst (links : List (NodeId × NodeId)) (order : List NodeId) : Prop :=
  ∀ before v after, order = before ++ v :: after → ∀ u, (u, v) ∈ links → u ∈ before

/-- A list of all vertices, each once, in which every link points forward. -/
structure IsListing (ids : List NodeId) (links : List (NodeId × NodeId)) (order : List NodeId) :
    Prop where
  nodup : order.Nodup
  mem_iff : ∀ v, v ∈ order ↔ IsVertex ids links v
  idxOf_lt : ∀ u v, (u, v) ∈ links → order.idxOf u < order.idxOf v

/-- An ascending list is determined by its members. -/
theorem eq_of_ascending {ns ns' : List NodeId} (h : ns.Pairwise (· < ·)) (h' : ns'.Pairwise (· < ·))
    (hmem : ∀ v, v ∈ ns ↔ v ∈ ns') : ns = ns' := by
  have hirrefl : Std.Irrefl (fun a b : NodeId => a < b) := ⟨UInt64.lt_irrefl⟩
  have hasymm : Std.Antisymm (fun a b : NodeId => a < b) :=
    ⟨fun a b hab hba => absurd hba (UInt64.lt_asymm hab)⟩
  exact h.eq_of_mem_iff h' fun {v} => hmem v

/-- A map that takes links to links takes cycles to cycles. -/
theorem HasCycle.map {links' : List (NodeId × NodeId)} {f : NodeId → NodeId}
    (hf : ∀ u v, (u, v) ∈ links → (f u, f v) ∈ links') (h : HasCycle links) : HasCycle links' := by
  obtain ⟨v, hv⟩ := h
  exact ⟨f v, hv.lift f hf⟩

theorem IsVertex.of_source {u v : NodeId} (h : (u, v) ∈ links) : IsVertex ids links u :=
  Or.inr ⟨v, Or.inr h⟩

theorem IsVertex.of_target {u v : NodeId} (h : (u, v) ∈ links) : IsVertex ids links v :=
  Or.inr ⟨u, Or.inl h⟩

/-- A node of a list with one more node at the end is that node or one of the list. -/
theorem split_snoc {order before after : List NodeId} {n v : NodeId}
    (h : order ++ [n] = before ++ v :: after) :
    (order = before ∧ n = v) ∨ ∃ init, order = before ++ v :: init := by
  rcases List.eq_nil_or_concat after with rfl | ⟨init, last, rfl⟩
  · obtain ⟨hbefore, hlast⟩ := List.append_inj' h rfl
    exact Or.inl ⟨hbefore, by simpa using hlast⟩
  · have hsplit : order ++ [n] = (before ++ v :: init) ++ [last] := by simpa using h
    obtain ⟨hinit, -⟩ := List.append_inj' hsplit rfl
    exact Or.inr ⟨init, hinit⟩

/-- A node may follow as soon as all its sources are listed. -/
theorem SourcesFirst.snoc {order : List NodeId} {n : NodeId} (h : SourcesFirst links order)
    (hn : ∀ u, (u, n) ∈ links → u ∈ order) : SourcesFirst links (order ++ [n]) := by
  intro before v after heq u hu
  rcases split_snoc heq with ⟨rfl, rfl⟩ | ⟨init, hinit⟩
  · exact hn u hu
  · exact h before v init hinit u hu

/-- In a list without repetition a member is not in front of itself. -/
theorem not_mem_of_nodup_split {before after : List NodeId} {v : NodeId}
    (h : (before ++ v :: after).Nodup) : v ∉ before := by
  intro hmem
  exact (List.nodup_middle.1 h).notMem (List.mem_append_left after hmem)

/-- The source of a link stands before its target. -/
theorem SourcesFirst.idxOf_lt {order : List NodeId} (h : SourcesFirst links order)
    (hnodup : order.Nodup) {u v : NodeId} (hv : v ∈ order) (huv : (u, v) ∈ links) :
    order.idxOf u < order.idxOf v := by
  obtain ⟨before, after, rfl⟩ := List.append_of_mem hv
  have hu : u ∈ before := h before v after rfl u huv
  have hvb : v ∉ before := not_mem_of_nodup_split hnodup
  rw [List.idxOf_append_of_mem hu, List.idxOf_append_of_notMem hvb, List.idxOf_cons_self,
    Nat.add_zero]
  exact List.idxOf_lt_length_of_mem hu

/-- A listing has sources first. -/
theorem IsListing.sourcesFirst {order : List NodeId} (h : IsListing ids links order) :
    SourcesFirst links order := by
  rintro before v after rfl u huv
  have hvb : v ∉ before := not_mem_of_nodup_split h.nodup
  have hlt := h.idxOf_lt u v huv
  rw [List.idxOf_append_of_notMem hvb, List.idxOf_cons_self, Nat.add_zero] at hlt
  by_contra hu
  rw [List.idxOf_append_of_notMem hu] at hlt
  omega

/-- Along a path places in a listing ascend. -/
theorem IsListing.idxOf_lt_of_transGen {order : List NodeId} (h : IsListing ids links order)
    {u v : NodeId} (huv : Relation.TransGen (Linked links) u v) :
    order.idxOf u < order.idxOf v := by
  induction huv with
  | single hlink => exact h.idxOf_lt _ _ hlink
  | tail _ hlink ih => exact ih.trans (h.idxOf_lt _ _ hlink)

/-- A listing excludes cycles: places would ascend along a cycle and return to where they began. -/
theorem IsListing.not_hasCycle {order : List NodeId} (h : IsListing ids links order) :
    ¬ HasCycle links := by
  rintro ⟨v, hv⟩
  exact Nat.lt_irrefl _ (h.idxOf_lt_of_transGen hv)

/-- Finitely many nodes, each with a source among them, have a cycle through one of them: otherwise
being linked would order them strictly, and one of them would come first. -/
theorem exists_cycle_of_forall_source (nodes : List NodeId) (hne : nodes ≠ [])
    (hsource : ∀ v ∈ nodes, ∃ u ∈ nodes, (u, v) ∈ links) :
    ∃ v ∈ nodes, Relation.TransGen (Linked links) v v := by
  by_contra hcycle
  let before : {v // v ∈ nodes} → {v // v ∈ nodes} → Prop :=
    fun u v => Relation.TransGen (Linked links) u.1 v.1
  have hfinite : Finite {v // v ∈ nodes} := nodes.finite_toSet.to_subtype
  have htrans : IsTrans _ before := ⟨fun _ _ _ huv hvw => huv.trans hvw⟩
  have hirrefl : Std.Irrefl before := ⟨fun v hv => hcycle ⟨v.1, v.2, hv⟩⟩
  have hwf : WellFounded before := Finite.wellFounded_of_trans_of_irrefl before
  obtain ⟨v, hv⟩ := List.exists_mem_of_ne_nil nodes hne
  obtain ⟨m, -, hmin⟩ := hwf.has_min Set.univ ⟨⟨v, hv⟩, trivial⟩
  obtain ⟨u, hu, hlink⟩ := hsource m.1 m.2
  exact hmin ⟨u, hu⟩ trivial (Relation.TransGen.single hlink)

section Behind

/-- The node lies on a cycle or can be reached from one along links. -/
def BehindCycle (links : List (NodeId × NodeId)) (v : NodeId) : Prop :=
  ∃ u, Relation.TransGen (Linked links) u u ∧ Relation.ReflTransGen (Linked links) u v

/-- Where there is a vertex behind a cycle there is a cycle. -/
theorem BehindCycle.hasCycle {v : NodeId} (h : BehindCycle links v) : HasCycle links := by
  obtain ⟨u, hu, -⟩ := h
  exact ⟨u, hu⟩

theorem HasCycle.exists_behindCycle (h : HasCycle links) : ∃ v, BehindCycle links v := by
  obtain ⟨v, hv⟩ := h
  exact ⟨v, v, hv, .refl⟩

/-- What is linked from a vertex behind a cycle is behind it, too. -/
theorem BehindCycle.step {u v : NodeId} (h : BehindCycle links u) (huv : (u, v) ∈ links) :
    BehindCycle links v := by
  obtain ⟨w, hw, hwu⟩ := h
  exact ⟨w, hw, hwu.tail huv⟩

/-- Behind a cycle, one comes to each node from another one behind it. -/
theorem BehindCycle.exists_source {v : NodeId} (h : BehindCycle links v) :
    ∃ u, (u, v) ∈ links ∧ BehindCycle links u := by
  obtain ⟨w, hw, hwv⟩ := h
  cases hwv with
  | refl =>
    -- the node is on the cycle, and so is the one before it there
    obtain ⟨u, hwu, huw⟩ := Relation.TransGen.tail'_iff.1 hw
    exact ⟨u, huw, _, hw, hwu⟩
  | tail hwu huv => exact ⟨_, huv, _, hw, hwu⟩

/-- Finitely many nodes, each with a source among them, are all behind cycles. -/
theorem behindCycle_of_forall_source {nodes : List NodeId}
    (hsource : ∀ v ∈ nodes, ∃ u ∈ nodes, (u, v) ∈ links) {v : NodeId} (hv : v ∈ nodes) :
    BehindCycle links v := by
  classical
  -- those from which one comes to the node have their sources among them as well
  let reaching : List NodeId :=
    nodes.filter fun u => decide (Relation.ReflTransGen (Linked links) u v)
  have hmem : ∀ u, u ∈ reaching ↔ u ∈ nodes ∧ Relation.ReflTransGen (Linked links) u v := by
    intro u
    rw [List.mem_filter, decide_eq_true_eq]
  have hne : reaching ≠ [] := List.ne_nil_of_mem ((hmem v).2 ⟨hv, .refl⟩)
  have hclosed : ∀ u ∈ reaching, ∃ w ∈ reaching, (w, u) ∈ links := by
    intro u hu
    obtain ⟨hnode, huv⟩ := (hmem u).1 hu
    obtain ⟨w, hw, hwu⟩ := hsource u hnode
    exact ⟨w, (hmem w).2 ⟨hw, huv.head hwu⟩, hwu⟩
  obtain ⟨c, hc, hcycle⟩ := exists_cycle_of_forall_source reaching hne hclosed
  exact ⟨c, hcycle, ((hmem c).1 hc).2⟩

/-- In a list with sources first stands no node behind a cycle. -/
theorem SourcesFirst.not_behindCycle {order : List NodeId} (h : SourcesFirst links order)
    (hnodup : order.Nodup) {v : NodeId} (hv : v ∈ order) : ¬ BehindCycle links v := by
  -- by induction on the place of the node: a source of it stands before it
  induction hplace : order.idxOf v using Nat.strong_induction_on generalizing v with
  | _ place ih =>
    intro hbehind
    obtain ⟨u, huv, hu⟩ := hbehind.exists_source
    have hlt : order.idxOf u < place := hplace ▸ h.idxOf_lt hnodup hv huv
    have hmem : u ∈ order := by
      apply List.idxOf_lt_length_iff.1
      exact hlt.trans (hplace ▸ List.idxOf_lt_length_of_mem hv)
    exact ih _ hlt hmem rfl hu

end Behind

end OpGraph
