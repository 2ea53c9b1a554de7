import OpGraph.Proofs.Shape.Semilattice
import Mathlib.Data.List.Pairwise

/-!
# Which inputs clash

What two dimensions broadcast to is one of them, so nothing is at odds with it that is not at odds
with one of the two. A list of shapes therefore broadcasts as soon as any two of them do, and where
it does not, the first shape that is at odds with all those before it together is at odds with a
single one of them.
-/

namespace OpGraph

/-- Two dimensions broadcast to one of them. -/
theorem Dim.eq_or_eq_of_broadcast? {a b c : Dim} (h : a.broadcast? b = some c) : c = a ∨ c = b := by
  rw [broadcast?_eq] at h
  split at h
  · exact Or.inl (Option.some.inj h).symm
  · split at h
    · exact Or.inr (Option.some.inj h).symm
    · cases h

namespace Shape

variable {a b c s ab left right first : Shape} {rest before : List Shape}

/-- There is a shape that the two shapes broadcast to. -/
def BroadcastsWith (a b : Shape) : Prop := (a.broadcast? b).isSome

instance (a b : Shape) : Decidable (a.BroadcastsWith b) :=
  inferInstanceAs (Decidable ((a.broadcast? b).isSome = true))

theorem broadcastsWith_iff : a.BroadcastsWith b ↔ ∃ s, a.broadcast? b = some s :=
  Option.isSome_iff_exists

theorem not_broadcastsWith_iff : ¬ a.BroadcastsWith b ↔ a.broadcast? b = none := by
  rw [BroadcastsWith, Bool.not_eq_true, Option.isSome_eq_false_iff, Option.isNone_iff_eq_none]

theorem BroadcastsWith.refl (a : Shape) : a.BroadcastsWith a :=
  broadcastsWith_iff.2 ⟨a, broadcast?_self a⟩

theorem BroadcastsWith.symm (h : a.BroadcastsWith b) : b.BroadcastsWith a := by
  rw [BroadcastsWith, broadcast?_comm]
  exact h

/-- What broadcasts with both of two shapes broadcasts with what the two broadcast to. -/
theorem BroadcastsWith.of_broadcast? (hab : a.broadcast? b = some ab) (ha : a.BroadcastsWith c)
    (hb : b.BroadcastsWith c) : ab.BroadcastsWith c := by
  apply broadcastsWith_iff.2
  apply exists_broadcast?_iff.2
  intro i
  -- at each place one of the two has the dimension of both together
  rcases Dim.eq_or_eq_of_broadcast? ((broadcast?_eq_some_iff_fromEnd.1 hab).2 i) with hi | hi
  · rw [hi]
    exact exists_broadcast?_iff.1 (broadcastsWith_iff.1 ha) i
  · rw [hi]
    exact exists_broadcast?_iff.1 (broadcastsWith_iff.1 hb) i

/-- What two shapes broadcast to is at odds with nothing that is not at odds with one of the two. -/
theorem broadcastsWith_iff_of_broadcast? (hab : a.broadcast? b = some ab) :
    ab.BroadcastsWith c ↔ a.BroadcastsWith c ∧ b.BroadcastsWith c := by
  constructor
  · intro h
    obtain ⟨s, hs⟩ := broadcastsWith_iff.1 h
    have hc : c.BroadcastsTo s := broadcastsTo_right hs
    obtain ⟨ha, hb⟩ := (broadcastsTo_iff_of_broadcast? hab s).1 (broadcastsTo_left hs)
    -- all three broadcast to the common shape
    obtain ⟨ac, hac, -⟩ := ha.exists_broadcast? hc
    obtain ⟨bc, hbc, -⟩ := hb.exists_broadcast? hc
    exact ⟨broadcastsWith_iff.2 ⟨ac, hac⟩, broadcastsWith_iff.2 ⟨bc, hbc⟩⟩
  · rintro ⟨ha, hb⟩
    exact .of_broadcast? hab ha hb

/-- What a list broadcasts to broadcasts with exactly those shapes with which all its members do. -/
theorem broadcastsWith_iff_of_foldlM (h : before.foldlM Shape.broadcast? first = some left) :
    left.BroadcastsWith right ↔ ∀ a ∈ first :: before, a.BroadcastsWith right := by
  induction before generalizing first with
  | nil =>
    obtain rfl := Option.some.inj h
    rw [List.forall_mem_singleton]
  | cons b before ih =>
    rw [List.foldlM_cons, Option.bind_eq_bind, Option.bind_eq_some_iff] at h
    obtain ⟨ab, hab, hrest⟩ := h
    rw [ih hrest, List.forall_mem_cons, List.forall_mem_cons, List.forall_mem_cons,
      broadcastsWith_iff_of_broadcast? hab, and_assoc]

/-- A list broadcasts if any two of its members do. The induction takes the first two together into
one. -/
theorem exists_foldlM_broadcast?_iff_pairwise :
    (∃ s, rest.foldlM Shape.broadcast? first = some s) ↔
      (first :: rest).Pairwise BroadcastsWith := by
  induction rest generalizing first with
  | nil => simp
  | cons b rest ih =>
    rw [List.foldlM_cons, List.pairwise_cons, List.forall_mem_cons]
    cases hab : first.broadcast? b with
    | none =>
      have hclash : ¬ first.BroadcastsWith b := not_broadcastsWith_iff.2 hab
      simp [hclash]
    | some ab =>
      have hmeet : first.BroadcastsWith b := broadcastsWith_iff.2 ⟨ab, hab⟩
      rw [Option.bind_eq_bind, Option.bind_some, ih, List.pairwise_cons, List.pairwise_cons]
      simp only [broadcastsWith_iff_of_broadcast? hab, hmeet, true_and]
      constructor
      · rintro ⟨hboth, hrest⟩
        exact ⟨fun c hc => (hboth c hc).1, fun c hc => (hboth c hc).2, hrest⟩
      · rintro ⟨hfirst, hb, hrest⟩
        exact ⟨fun c hc => ⟨hfirst c hc, hb c hc⟩, hrest⟩

/-- With any two members of a list that broadcast, so do any two at different places, and back. -/
theorem pairwise_broadcastsWith_iff {inputs : List Shape} :
    inputs.Pairwise BroadcastsWith ↔ ∀ a ∈ inputs, ∀ b ∈ inputs, a.BroadcastsWith b := by
  constructor
  · intro h
    have hsymm : Std.Symm BroadcastsWith := ⟨fun _ _ => BroadcastsWith.symm⟩
    exact h.forall_of_forall fun a _ => BroadcastsWith.refl a
  · exact List.pairwise_of_forall_mem_list

/-- Broadcasting from left to right fails at the first shape that does not broadcast with what those
before it broadcast to. -/
theorem broadcastAll_eq_error_iff {blamed : Shape × Shape} :
    first.broadcastAll rest = .error blamed ↔
      ∃ before right after, rest = before ++ right :: after ∧
        ∃ left, before.foldlM Shape.broadcast? first = some left ∧ ¬ left.BroadcastsWith right ∧
          blamed = (left, right) := by
  induction rest generalizing first with
  | nil => simp [broadcastAll]
  | cons b rest ih =>
    rw [broadcastAll, exists_split_cons_iff]
    cases hab : first.broadcast? b with
    | none =>
      have hclash : ¬ first.BroadcastsWith b := not_broadcastsWith_iff.2 hab
      simp [hab, hclash, eq_comm]
    | some ab =>
      have hmeet : first.BroadcastsWith b := broadcastsWith_iff.2 ⟨ab, hab⟩
      show ab.broadcastAll rest = .error blamed ↔ _
      rw [ih]
      simp [hab, hmeet]

end Shape

namespace Node

variable {n : Node} {first : Shape} {rest : List Shape} {err : InferError}

/-- The rule has shapes for a node if those that arrive broadcast. -/
theorem exists_broadcastShapes_iff : (∃ shapes, n.broadcastShapes (first :: rest) = .ok shapes) ↔
    ∃ s, rest.foldlM Shape.broadcast? first = some s := by
  simp only [broadcastShapes_eq_ok_iff]
  constructor
  · rintro ⟨-, first', rest', s, hcons, hs, -⟩
    obtain ⟨rfl, rfl⟩ := List.cons.inj hcons
    exact ⟨s, hs⟩
  · rintro ⟨s, hs⟩
    exact ⟨_, first, rest, s, rfl, hs, rfl⟩

/-- The rule blames the two shapes at which broadcasting stops. -/
theorem broadcastShapes_eq_error_iff : n.broadcastShapes (first :: rest) = .error err ↔
    ∃ left right, first.broadcastAll rest = .error (left, right) ∧
      err = .incompatibleBroadcast n.id left right := by
  rw [broadcastShapes]
  cases first.broadcastAll rest with
  | ok s => simp
  | error blamed => simp [Prod.ext_iff, eq_comm]

/-- A node that broadcasts succeeds on its inputs exactly if any two of them broadcast. If it fails,
it blames the first input that does not broadcast with one of those before it, and beside this what
all those before it broadcast to from left to right. -/
theorem inferShapes_broadcast_pairwise (n : Node) {inputs : List Shape} (hne : inputs ≠ []) :
    ((∃ shapes, n.inferShapes .broadcast inputs = .ok shapes) ↔
      ∀ a ∈ inputs, ∀ b ∈ inputs, a.BroadcastsWith b) ∧
    ∀ err, n.inferShapes .broadcast inputs = .error err ↔
      ∃ first before right after left, inputs = first :: before ++ right :: after ∧
        (first :: before).Pairwise Shape.BroadcastsWith ∧
        (∃ a ∈ first :: before, ¬ a.BroadcastsWith right) ∧
        before.foldlM Shape.broadcast? first = some left ∧
        err = .incompatibleBroadcast n.id left right := by
  obtain ⟨first, rest, rfl⟩ := List.exists_cons_of_ne_nil hne
  constructor
  · show (∃ shapes, n.broadcastShapes (first :: rest) = .ok shapes) ↔ _
    rw [exists_broadcastShapes_iff, Shape.exists_foldlM_broadcast?_iff_pairwise,
      Shape.pairwise_broadcastsWith_iff]
  · intro err
    show n.broadcastShapes (first :: rest) = .error err ↔ _
    simp only [broadcastShapes_eq_error_iff, Shape.broadcastAll_eq_error_iff]
    constructor
    · rintro ⟨left, right, ⟨before, _, after, rfl, _, hleft, hclash, hblamed⟩, rfl⟩
      obtain ⟨rfl, rfl⟩ := Prod.mk.inj hblamed
      -- those before broadcast together, so any two of them do, but not all of them with this one
      have hbefore := Shape.exists_foldlM_broadcast?_iff_pairwise.1 ⟨left, hleft⟩
      rw [Shape.broadcastsWith_iff_of_foldlM hleft] at hclash
      obtain ⟨a, ha, hclash⟩ := not_forall₂.1 hclash
      exact ⟨first, before, right, after, left, rfl, hbefore, ⟨a, ha, hclash⟩, hleft, rfl⟩
    · rintro ⟨first', before, right, after, left, hsplit, -, ⟨a, ha, hclash⟩, hleft, rfl⟩
      rw [List.cons_append] at hsplit
      obtain ⟨rfl, rfl⟩ := List.cons.inj hsplit
      refine ⟨left, right, ⟨before, right, after, rfl, left, hleft, ?_, rfl⟩, rfl⟩
      intro hmeet
      exact hclash ((Shape.broadcastsWith_iff_of_foldlM hleft).1 hmeet a ha)

/-- Five inputs of which the fourth and the fifth clash with inputs before them. -/
def clashing : List Shape :=
  [⟨[.dynamic, .fixed 1]⟩, ⟨[.fixed 3, .fixed 1]⟩, ⟨[.fixed 1, .fixed 4]⟩, ⟨[.fixed 2, .fixed 4]⟩,
    ⟨[.fixed 9]⟩]

/-- The fourth input clashes with the second, but the error names what the first three broadcast
to. -/
theorem inferShapes_broadcast_pairwise_fourth :
    clashing ≠ [] ∧ Node.sum.inferShapes .broadcast clashing =
      .error (.incompatibleBroadcast 4 ⟨[.fixed 3, .fixed 4]⟩ ⟨[.fixed 2, .fixed 4]⟩) := by
  have hne : clashing ≠ [] := by decide
  obtain ⟨-, hfail⟩ := inferShapes_broadcast_pairwise Node.sum hne
  refine ⟨hne, (hfail _).2 ?_⟩
  refine ⟨⟨[.dynamic, .fixed 1]⟩, [⟨[.fixed 3, .fixed 1]⟩, ⟨[.fixed 1, .fixed 4]⟩],
    ⟨[.fixed 2, .fixed 4]⟩, [⟨[.fixed 9]⟩],
    ⟨[.fixed 3, .fixed 4]⟩, rfl, by decide, ?_, by decide, rfl⟩
  exact ⟨⟨[.fixed 3, .fixed 1]⟩, by decide, by decide⟩

end Node

end OpGraph
