import OpGraph.Proofs.Inference.Rule
import OpGraph.Proofs.Shape.Alignment

/-!
# Broadcasting as a join

Dimensions stand on three levels: the extent one at the bottom, dynamic above it, and above that all
other extents, of which no two have anything above them. To broadcast is to take the join in this
order, if there is one, and it is the same for shapes, place by place. A node that broadcasts takes
the join of all its inputs, so it matters which shapes arrive, but neither in which order nor how
often.

## Main definitions

- `Shape.BroadcastsTo`: the order
- `Shape.IsJoin`: the least shape to which all of a list broadcast

## Main statements

- `Shape.broadcast?_self`, `Shape.broadcast?_comm`, `Shape.broadcast?_assoc`: the laws of a join
- `Shape.foldlM_broadcast?_eq_some_iff_isJoin`: broadcasting from left to right finds the join
- `Shape.broadcast_semilattice`: the laws, and what they mean for a node
-/

namespace OpGraph

namespace Dim

variable {a b c d ab : Dim}

/-- What two dimensions broadcast to broadcasts with a third one as the first does with what the
other two broadcast to. -/
theorem exists_broadcast?_of_assoc (hab : a.broadcast? b = some ab) (h : ab.broadcast? c = some d) :
    ∃ bc, b.broadcast? c = some bc ∧ a.broadcast? bc = some d := by
  by_cases ha : a = fixed 1
  · subst ha
    obtain rfl : b = ab := by simpa using hab
    exact ⟨d, h, one_broadcast? d⟩
  · by_cases hc : c = fixed 1
    · subst hc
      obtain rfl : ab = d := by simpa using h
      exact ⟨b, broadcast?_one b, hab⟩
    · -- a dynamic one gives way to the others, and two extents that broadcast are the same
      grind [broadcast?_eq]

end Dim

namespace Shape

variable {a b c s t ab : Shape}

section Laws

theorem broadcast?_self (a : Shape) : a.broadcast? a = some a := by
  rw [broadcast?_eq_some_iff_fromEnd, Nat.max_self]
  exact ⟨rfl, fun i => Dim.broadcast?_self _⟩

theorem broadcast?_comm (a b : Shape) : a.broadcast? b = b.broadcast? a := by
  ext s
  simp only [broadcast?_eq_some_iff_fromEnd, Nat.max_comm a.rank, Dim.broadcast?_comm (a.fromEnd _)]

/-- The scalar shape adds nothing. -/
theorem scalar_broadcast? (a : Shape) : scalar.broadcast? a = some a := by
  rw [broadcast?_eq_some_iff_fromEnd]
  refine ⟨(Nat.zero_max a.rank).symm, fun i => ?_⟩
  rw [fromEnd_of_le (Nat.zero_le i)]
  exact Dim.one_broadcast? _

theorem exists_broadcast?_of_assoc (hab : a.broadcast? b = some ab) (h : ab.broadcast? c = some s) :
    ∃ bc, b.broadcast? c = some bc ∧ a.broadcast? bc = some s := by
  obtain ⟨hrankab, hab⟩ := broadcast?_eq_some_iff_fromEnd.1 hab
  obtain ⟨hrank, h⟩ := broadcast?_eq_some_iff_fromEnd.1 h
  have hplace : ∀ i, ∃ d, (b.fromEnd i).broadcast? (c.fromEnd i) = some d ∧
      (a.fromEnd i).broadcast? d = some (s.fromEnd i) :=
    fun i => Dim.exists_broadcast?_of_assoc (hab i) (h i)
  obtain ⟨bc, hbc⟩ := exists_broadcast?_iff.2 fun i => (hplace i).imp fun _ => And.left
  obtain ⟨hrankbc, hbcplace⟩ := broadcast?_eq_some_iff_fromEnd.1 hbc
  refine ⟨bc, hbc, broadcast?_eq_some_iff_fromEnd.2 ⟨by omega, fun i => ?_⟩⟩
  obtain ⟨d, hd, hs⟩ := hplace i
  rw [hbcplace i] at hd
  exact Option.some.inj hd ▸ hs

/-- It does not matter which two of three shapes are taken first, neither for the result nor for
whether there is one. -/
theorem broadcast?_assoc (a b c : Shape) :
    ((a.broadcast? b).bind fun ab => ab.broadcast? c) =
      (b.broadcast? c).bind fun bc => a.broadcast? bc := by
  ext s
  simp only [Option.bind_eq_some_iff]
  constructor
  · rintro ⟨ab, hab, hs⟩
    exact exists_broadcast?_of_assoc hab hs
  · -- the same law, with all three the other way round
    rintro ⟨bc, hbc, hs⟩
    rw [broadcast?_comm] at hbc hs
    obtain ⟨ba, hba, hs⟩ := exists_broadcast?_of_assoc hbc hs
    rw [broadcast?_comm] at hba hs
    exact ⟨ba, hba, hs⟩

end Laws

section Order

/-- A shape broadcasts to another one if that is what the two of them broadcast to. -/
def BroadcastsTo (a t : Shape) : Prop := a.broadcast? t = some t

theorem BroadcastsTo.refl (a : Shape) : a.BroadcastsTo a := broadcast?_self a

/-- Shapes that broadcast to each other are the same. -/
theorem BroadcastsTo.antisymm (hab : a.BroadcastsTo b) (hba : b.BroadcastsTo a) : a = b := by
  rw [BroadcastsTo, broadcast?_comm, hab] at hba
  exact (Option.some.inj hba).symm

/-- What broadcasts to a shape broadcasts to all above it. -/
theorem BroadcastsTo.trans (hab : a.BroadcastsTo b) (hbt : b.BroadcastsTo t) :
    a.BroadcastsTo t := by
  have hassoc := broadcast?_assoc a b t
  rw [show a.broadcast? b = some b from hab, show b.broadcast? t = some t from hbt] at hassoc
  exact hassoc.symm.trans hbt

theorem broadcastsTo_left (h : a.broadcast? b = some s) : a.BroadcastsTo s := by
  have hassoc := broadcast?_assoc a a b
  rw [broadcast?_self, h] at hassoc
  exact hassoc.symm.trans h

theorem broadcastsTo_right (h : a.broadcast? b = some s) : b.BroadcastsTo s := by
  rw [broadcast?_comm] at h
  exact broadcastsTo_left h

/-- Shapes that broadcast to a common one broadcast with each other, and the result does so too. -/
theorem BroadcastsTo.exists_broadcast? (ha : a.BroadcastsTo t) (hb : b.BroadcastsTo t) :
    ∃ s, a.broadcast? b = some s ∧ s.BroadcastsTo t := by
  have hassoc := broadcast?_assoc a b t
  rw [show b.broadcast? t = some t from hb] at hassoc
  exact Option.bind_eq_some_iff.1 (hassoc.trans ha)

/-- What two shapes broadcast to is the least to which both do. -/
theorem broadcastsTo_iff_of_broadcast? (h : a.broadcast? b = some s) (t : Shape) :
    s.BroadcastsTo t ↔ a.BroadcastsTo t ∧ b.BroadcastsTo t := by
  constructor
  · intro hs
    exact ⟨(broadcastsTo_left h).trans hs, (broadcastsTo_right h).trans hs⟩
  · rintro ⟨hat, hbt⟩
    obtain ⟨s', hs', hs't⟩ := hat.exists_broadcast? hbt
    rw [h] at hs'
    exact Option.some.inj hs' ▸ hs't

end Order

section Joins

variable {first : Shape} {rest inputs inputs' : List Shape}

/-- The shape broadcasts to exactly those shapes to which all the listed ones do. -/
def IsJoin (inputs : List Shape) (s : Shape) : Prop :=
  ∀ t, s.BroadcastsTo t ↔ ∀ a ∈ inputs, a.BroadcastsTo t

theorem IsJoin.unique (hs : IsJoin inputs s) (ht : IsJoin inputs t) : s = t := by
  have hst : s.BroadcastsTo t := (hs t).2 ((ht t).1 (.refl t))
  have hts : t.BroadcastsTo s := (ht s).2 ((hs s).1 (.refl s))
  exact hst.antisymm hts

/-- A join depends on which shapes are in the list, not on how often or in which order. -/
theorem isJoin_congr (hmem : ∀ a, a ∈ inputs ↔ a ∈ inputs') :
    IsJoin inputs s ↔ IsJoin inputs' s := by
  simp only [IsJoin, hmem]

theorem isJoin_singleton : IsJoin [a] s ↔ a = s := by
  have hself : IsJoin [a] a := fun t => by rw [List.forall_mem_singleton]
  constructor
  · exact fun h => hself.unique h
  · rintro rfl
    exact hself

/-- The first two shapes may be replaced by what they broadcast to. -/
theorem isJoin_cons_cons_iff (h : first.broadcast? b = some ab) :
    IsJoin (first :: b :: rest) s ↔ IsJoin (ab :: rest) s := by
  simp only [IsJoin, List.forall_mem_cons, broadcastsTo_iff_of_broadcast? h, and_assoc]

/-- From left to right, shapes broadcast to their join, if they have one. -/
theorem foldlM_broadcast?_eq_some_iff_isJoin :
    rest.foldlM Shape.broadcast? first = some s ↔ IsJoin (first :: rest) s := by
  induction rest generalizing first with
  | nil => rw [isJoin_singleton, List.foldlM_nil, Option.pure_def, Option.some.injEq]
  | cons b rest ih =>
    rw [List.foldlM_cons]
    cases hjoin : first.broadcast? b with
    | some ab => exact ih.trans (isJoin_cons_cons_iff hjoin).symm
    | none =>
      refine iff_of_false (by simp) fun hs => ?_
      -- both would broadcast to the join
      have hall := (hs s).1 (.refl s)
      obtain ⟨ab, hab, -⟩ := (hall first (by simp)).exists_broadcast? (hall b (by simp))
      rw [hjoin] at hab
      cases hab

end Joins

end Shape

namespace Node

variable {n : Node} {inputs inputs' : List Shape}

/-- A node that broadcasts gives all its outputs the join of its inputs, or blames two shapes if
there is none. -/
theorem broadcastShapes_cases (n : Node) (hne : inputs ≠ []) :
    (∃ s, Shape.IsJoin inputs s ∧ n.broadcastShapes inputs = .ok (n.onAllOutputs s)) ∨
      ((∀ s, ¬ Shape.IsJoin inputs s) ∧ ∃ left right,
        n.broadcastShapes inputs = .error (.incompatibleBroadcast n.id left right)) := by
  cases inputs with
  | nil => exact absurd rfl hne
  | cons first rest =>
    simp only [← Shape.foldlM_broadcast?_eq_some_iff_isJoin, ← Shape.broadcastAll_eq_ok_iff,
      broadcastShapes]
    cases hs : first.broadcastAll rest with
    | ok s => exact Or.inl ⟨s, rfl, rfl⟩
    | error blamed => exact Or.inr ⟨by simp, blamed.1, blamed.2, rfl⟩

end Node

/-- Broadcasting is a partial join: idempotent, commutative and associative, failures included, with
the scalar shape at the bottom. So a node that broadcasts does alike for any two lists of inputs
with the same members, in whatever order and however often these occur: either there is one shape
that both give to all outputs, or both fail. -/
theorem Shape.broadcast_semilattice :
    (∀ a : Shape, a.broadcast? a = some a) ∧
    (∀ a b : Shape, a.broadcast? b = b.broadcast? a) ∧
    (∀ a : Shape, scalar.broadcast? a = some a) ∧
    (∀ a b c : Shape, ((a.broadcast? b).bind fun ab => ab.broadcast? c) =
      (b.broadcast? c).bind fun bc => a.broadcast? bc) ∧
    ∀ (n : Node) (inputs inputs' : List Shape), inputs ≠ [] → (∀ s, s ∈ inputs ↔ s ∈ inputs') →
      (∃ s, n.inferShapes .broadcast inputs = .ok (n.onAllOutputs s) ∧
        n.inferShapes .broadcast inputs' = .ok (n.onAllOutputs s)) ∨
      ∃ left right left' right',
        n.inferShapes .broadcast inputs = .error (.incompatibleBroadcast n.id left right) ∧
        n.inferShapes .broadcast inputs' = .error (.incompatibleBroadcast n.id left' right') := by
  refine ⟨broadcast?_self, broadcast?_comm, scalar_broadcast?, broadcast?_assoc, ?_⟩
  intro n inputs inputs' hne hmem
  have hne' : inputs' ≠ [] := by
    obtain ⟨s, hs⟩ := List.exists_mem_of_ne_nil inputs hne
    exact List.ne_nil_of_mem ((hmem s).1 hs)
  rcases n.broadcastShapes_cases hne with ⟨s, hs, hrun⟩ | ⟨hnone, left, right, hrun⟩
  · rcases n.broadcastShapes_cases hne' with ⟨s', hs', hrun'⟩ | ⟨hnone', -⟩
    · obtain rfl := ((isJoin_congr hmem).1 hs).unique hs'
      exact Or.inl ⟨s, hrun, hrun'⟩
    · exact absurd ((isJoin_congr hmem).1 hs) (hnone' s)
  · rcases n.broadcastShapes_cases hne' with ⟨s', hs', -⟩ | ⟨-, left', right', hrun'⟩
    · exact absurd ((isJoin_congr hmem).2 hs') (hnone s')
    · exact Or.inr ⟨left, right, left', right', hrun, hrun'⟩

/-- A node with one output, of two inputs. -/
def Node.sum : Node :=
  ⟨4, "sum", "Add", none, .empty, [⟨0, none⟩, ⟨1, none⟩], [⟨0, none, none, none⟩], .broadcast⟩

/-- The same two shapes, the second of them first and again at the end, broadcast to the same
shape. -/
theorem Shape.broadcast_semilattice_repeated :
    Node.sum.inferShapes .broadcast [⟨[.dynamic, .fixed 1]⟩, ⟨[.fixed 5]⟩] =
      .ok [⟨[.dynamic, .fixed 5]⟩] ∧
    Node.sum.inferShapes .broadcast [⟨[.fixed 5]⟩, ⟨[.dynamic, .fixed 1]⟩, ⟨[.fixed 5]⟩] =
      .ok [⟨[.dynamic, .fixed 5]⟩] := by
  have hfirst : Node.sum.inferShapes .broadcast [⟨[.dynamic, .fixed 1]⟩, ⟨[.fixed 5]⟩] =
      .ok [⟨[.dynamic, .fixed 5]⟩] := by decide
  obtain ⟨-, -, -, -, halike⟩ := Shape.broadcast_semilattice
  have hmem : ∀ s : Shape, s ∈ [⟨[.dynamic, .fixed 1]⟩, ⟨[.fixed 5]⟩] ↔
      s ∈ [⟨[.fixed 5]⟩, ⟨[.dynamic, .fixed 1]⟩, ⟨[.fixed 5]⟩] := by
    intro s
    simp only [List.mem_cons, List.not_mem_nil, or_false]
    tauto
  rcases halike Node.sum _ _ (by decide) hmem with ⟨s, hs, hs'⟩ | ⟨_, _, _, _, hfail, -⟩
  · rw [hfirst] at hs
    exact ⟨hfirst, hs'.trans hs.symm⟩
  · rw [hfirst] at hfail
    cases hfail

end OpGraph
