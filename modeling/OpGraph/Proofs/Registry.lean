import OpGraph.Proofs.Dictionary
import OpGraph.Proofs.Extender

/-!
# Histories of a registry

Each tag has the extender that was last registered under it, if one was, and otherwise the first
that the inventory offers for it, once the inventory was collected: registering replaces what was
collected, and collecting does not replace anything.

## Main definitions

- `Registry.Operation`, `Registry.performAll`: what can be done to a registry
- `Registry.expected?`: the extender of a tag, by the history alone

## Main statements

- `Registry.performAll_follows_history`: a registry after any history
-/

namespace OpGraph

namespace Registry

variable {r s start : Registry} {offers : List Offer} {ops first : List Operation} {tag : String}

/-- Registries in which every tag has the same extender are equal. -/
theorem ext_get? (h : ∀ tag, r.get? tag = s.get? tag) : r = s := by
  obtain ⟨a⟩ := r
  obtain ⟨b⟩ := s
  exact congrArg mk (Dictionary.ext_get? h)

/-- What can be done to a registry. -/
inductive Operation where
  | register (x : Extender)
  | registerUnder (tag : String) (x : Extender)
  | collect

namespace Operation

/-- The tag and the extender of an explicit registration. -/
def registration? : Operation → Option (String × Extender)
  | register x => some (x.opType, x)
  | registerUnder tag x => some (tag, x)
  | collect => none

/-- The extender that an operation explicitly registers under a tag. -/
def registered? (tag : String) (op : Operation) : Option Extender :=
  op.registration?.bind fun e => if e.1 = tag then some e.2 else none

/-- Whether an operation collects the inventory. -/
def collects : Operation → Bool
  | collect => true
  | _ => false

theorem collects_of_registration? {op : Operation} {e : String × Extender}
    (he : op.registration? = some e) : op.collects = false := by
  cases op with
  | collect => cases he
  | _ => rfl

end Operation

/-- What an operation gives back and the registry that it leaves, where an inventory is at hand. -/
def perform (offers : List Offer) (r : Registry) : Operation → Option Extender × Registry
  | .register x => r.exchange x.opType x
  | .registerUnder tag x => r.exchange tag x
  | .collect => (none, r.collectOffers offers)

/-- The registry that is left after several operations. -/
def performAll (offers : List Offer) (r : Registry) (ops : List Operation) : Registry :=
  ops.foldl (fun r op => (r.perform offers op).2) r

theorem performAll_append (offers : List Offer) (r : Registry) (ops ops' : List Operation) :
    r.performAll offers (ops ++ ops') = (r.performAll offers ops).performAll offers ops' :=
  List.foldl_append

section Lookup

/-- Both ways to register do the same, with another tag. -/
theorem perform_of_registration? {op : Operation} {x : Extender}
    (hop : op.registration? = some (tag, x)) : r.perform offers op = r.exchange tag x := by
  cases op with
  | collect => cases hop
  | _ =>
    cases hop
    rfl

/-- After an operation a tag has the extender that was registered under it by this operation. If
there is none it has the one that it had before, and if that is not there either, the one that was
collected. -/
theorem get?_perform (offers : List Offer) (r : Registry) (op : Operation) (tag : String) :
    (r.perform offers op).2.get? tag = (op.registered? tag).or
      ((r.get? tag).or (if op.collects then firstOffer? offers tag else none)) := by
  cases hop : op.registration? with
  | some e =>
    obtain ⟨tag', x⟩ := e
    rw [perform_of_registration? hop, exchange_eq, get?_registerUnder, Operation.registered?, hop,
      Operation.collects_of_registration? hop]
    by_cases htag : tag = tag'
    · simp [htag]
    · simp [htag, Ne.symm htag]
  | none =>
    cases op with
    | collect => exact get?_collectOffers r offers tag
    | _ => cases hop

/-- Of several registrations under a tag the last counts. Where there is none, collecting fills the
gap, no matter when and how often. -/
theorem get?_performAll (offers : List Offer) (r : Registry) (ops : List Operation) (tag : String) :
    (r.performAll offers ops).get? tag = (ops.filterMap (Operation.registered? tag)).getLast?.or
      ((r.get? tag).or (if ops.any Operation.collects then firstOffer? offers tag else none)) := by
  induction ops generalizing r with
  | nil => simp [performAll]
  | cons op ops ih =>
    have hcons : r.performAll offers (op :: ops) =
        (r.perform offers op).2.performAll offers ops := rfl
    rw [hcons, ih, get?_perform]
    cases hop : op.registered? tag with
    | some x => simp [hop, List.getLast?_cons, Option.or_some]
    | none =>
      cases hcollects : op.collects with
      | false => simp [hop, hcollects]
      | true =>
        -- what was collected stays, and collecting it once more changes nothing
        cases r.get? tag <;> cases firstOffer? offers tag <;> simp [hop, hcollects]

end Lookup

section History

/-- The registries to start from, with the registrations that have made them. -/
inductive Fresh : Registry → List Operation → Prop
  | empty : Fresh empty []
  | builtin : Fresh builtin (builtins.map .register)

/-- A registry to start from is an empty one after the registrations that have made it. -/
theorem Fresh.eq_performAll (hstart : Fresh start first) (offers : List Offer) :
    start = Registry.empty.performAll offers first := by
  cases hstart with
  | empty => rfl
  | builtin =>
    rw [performAll, List.foldl_map]
    rfl

/-- The extender of a tag after a history: the last that was registered under the tag, or if none
was and the inventory was collected, the first that the inventory offers for the tag. -/
def expected? (offers : List Offer) (history : List Operation) (tag : String) : Option Extender :=
  (history.filterMap (Operation.registered? tag)).getLast?.or
    (if history.any Operation.collects then firstOffer? offers tag else none)

/-- What is found under a tag after any operations follows from their history, with the
registrations before them. -/
theorem Fresh.get?_performAll (hstart : Fresh start first) (offers : List Offer)
    (ops : List Operation) (tag : String) :
    (start.performAll offers ops).get? tag = expected? offers (first ++ ops) tag := by
  have hnone : Registry.empty.get? tag = none := rfl
  rw [hstart.eq_performAll offers, ← performAll_append, Registry.get?_performAll, hnone,
    Option.none_or, expected?]

/-- Whether an inventory is collected just before or just after a registration is of no
influence. -/
theorem performAll_collect_swap {op : Operation} {e : String × Extender}
    (hop : op.registration? = some e) (r : Registry) (before after : List Operation) :
    r.performAll offers (before ++ .collect :: op :: after) =
      r.performAll offers (before ++ op :: .collect :: after) := by
  refine ext_get? fun tag => ?_
  have hcollects : op.collects = false := Operation.collects_of_registration? hop
  have hregistered : Operation.registered? tag .collect = none := rfl
  simp [get?_performAll, List.filterMap_cons, hregistered, hcollects]

theorem mem_opTypes_iff : tag ∈ r.opTypes ↔ ∃ x, r.get? tag = some x := Dictionary.mem_keys_iff

/-- Start with an empty registry or with that of the builtin extenders, and register extenders,
under their own operator types or other tags, and collect an inventory, in any order and any number
of times. Then each tag has the extender that was last registered under it, or else, if the
inventory was collected, the first that it offers for the tag, or else none. Every registration has
given back what was found under its tag just before. The listed tags ascend, without repetition, and
are those that have an extender. A registration and a collection that follow each other can be
exchanged. -/
theorem performAll_follows_history (hstart : Fresh start first) (offers : List Offer)
    (ops : List Operation) :
    (∀ tag, (start.performAll offers ops).get? tag = expected? offers (first ++ ops) tag) ∧
    (∀ before op after tag x, ops = before ++ op :: after → op.registration? = some (tag, x) →
      ((start.performAll offers before).perform offers op).1 =
        (start.performAll offers before).get? tag) ∧
    (∀ tag, (start.performAll offers ops).contains tag = true ↔
      ∃ x, (start.performAll offers ops).get? tag = some x) ∧
    (start.performAll offers ops).opTypes.Pairwise (· < ·) ∧
    (∀ tag, tag ∈ (start.performAll offers ops).opTypes ↔
      ∃ x, (start.performAll offers ops).get? tag = some x) ∧
    (start.performAll offers ops).size = (start.performAll offers ops).opTypes.length ∧
    ∀ before op after e, op.registration? = some e →
      start.performAll offers (before ++ .collect :: op :: after) =
        start.performAll offers (before ++ op :: .collect :: after) := by
  refine ⟨hstart.get?_performAll offers ops, ?_, fun tag => Option.isSome_iff_exists,
    Dictionary.pairwise_keys _, fun tag => mem_opTypes_iff, (Dictionary.length_keys _).symm,
    fun before op after e hop => performAll_collect_swap hop start before after⟩
  intro before op after tag x _ hop
  rw [perform_of_registration? hop, exchange_eq]

/-- An inventory that offers two extenders for one tag, another one for a builtin tag, and for a
further tag an extender that is made for another operator type. -/
def stock : List Offer :=
  [⟨"TopK", .sequence "TopK"⟩, ⟨"TopK", .constant "TopK" []⟩, ⟨"LSTMSequence", .constant "Cell" []⟩,
    ⟨"NonZero", .sequence "Where"⟩]

/-- A registration under a foreign tag, then a collection, then a registration of what was
collected. -/
def stocking : List Operation :=
  [.registerUnder "NonZero" .parameter, .collect, .register (.constant "TopK" [])]

theorem performAll_stocking_follows_history :
    (builtin.performAll stock stocking).get? "NonZero" = some .parameter ∧
    (builtin.performAll stock stocking).get? "LSTMSequence" = some (.sequence "LSTMSequence") ∧
    (builtin.performAll stock stocking).get? "TopK" = some (.constant "TopK" []) ∧
    ((builtin.performAll stock (stocking.take 2)).perform stock
        (.register (.constant "TopK" []))).1 =
      (builtin.performAll stock (stocking.take 2)).get? "TopK" ∧
    builtin.performAll stock stocking =
      builtin.performAll stock
        [.registerUnder "NonZero" .parameter, .register (.constant "TopK" []), .collect] := by
  obtain ⟨hget, hreplaced, -, -, -, -, hswap⟩ := performAll_follows_history .builtin stock stocking
  exact ⟨(hget _).trans rfl, (hget _).trans rfl, (hget _).trans rfl,
    hreplaced (stocking.take 2) _ [] "TopK" _ rfl rfl, hswap [_] _ [] _ rfl⟩

end History

end Registry

end OpGraph
