import OpGraph.Extender
import OpGraph.Proofs.Graph.Renaming

/-!
# What extenders change and what they look at

An extender sees a whole node but changes its strategy and attributes only, so numbers of nodes and
ports stay. Of several changes to the strategy or to one attribute the last counts. The builtin
extenders do not look at numbers: to extend a node and to give it other numbers can be done in any
order.
-/

namespace OpGraph

variable {ρ : Renaming} {n : Node}

section Changes

/-- The strategy that a change sets. -/
def Amendment.strategy? : Amendment → Option Strategy
  | .setStrategy s => some s
  | .setAttribute _ _ => none

/-- The value that a change sets an attribute to. -/
def Amendment.value? (key : String) : Amendment → Option String
  | .setStrategy _ => none
  | .setAttribute key' value => if key = key' then some value else none

namespace Node

/-- Where every change writes something or nothing to what is read, the last that was written is
read after all changes. -/
theorem read_foldl_amend {β : Type} (read : Node → Option β) (write : Amendment → Option β)
    (hamend : ∀ n a, read (amend n a) = (write a).or (read n)) (as : List Amendment) (n : Node) :
    read (as.foldl amend n) = (as.filterMap write).getLast?.or (read n) := by
  induction as generalizing n with
  | nil => rfl
  | cons a as ih => rw [List.foldl_cons, ih, hamend, getLast?_filterMap_cons, Option.or_assoc]

/-- After a list of changes an attribute has the value of the last change to it, or its old value if
there is none. -/
theorem attribute?_foldl_amend (as : List Amendment) (n : Node) (key : String) :
    (as.foldl amend n).attribute? key =
      (as.filterMap (Amendment.value? key)).getLast?.or (n.attribute? key) := by
  refine read_foldl_amend (attribute? · key) (Amendment.value? key) (fun m a => ?_) as n
  cases a with
  | setStrategy s => rfl
  | setAttribute key' value =>
    rw [attribute?, amend, Dictionary.get?_set, Amendment.value?]
    split <;> rfl

/-- After a list of changes a node has the strategy of the last change to it, or its old one if
there is none. -/
theorem strategy_foldl_amend (as : List Amendment) (n : Node) :
    (as.foldl amend n).strategy = (as.filterMap Amendment.strategy?).getLast?.getD n.strategy := by
  have hread := read_foldl_amend (fun m => some m.strategy) Amendment.strategy?
    (fun m a => by cases a <;> rfl) as n
  rwa [Option.or_some, Option.some.injEq] at hread

/-- Changes leave everything but strategy and attributes as it is. -/
theorem foldl_amend_eq (as : List Amendment) (n : Node) : as.foldl amend n =
    { n with
      attributes := (as.foldl amend n).attributes
      strategy := (as.foldl amend n).strategy } := by
  induction as generalizing n with
  | nil => rfl
  | cons a as ih =>
    rw [List.foldl_cons, ih]
    cases a <;> rfl

end Node

/-- The changes that the extender of a node makes to it. -/
def Registry.amendments (r : Registry) (n : Node) : List Amendment :=
  ((r.get? n.opType).map fun x => x.amendments n).getD []

/-- A registry extends a node by the changes of its extender, by none if it has no extender for
it. -/
theorem Registry.extend_eq_foldl_amend (r : Registry) (n : Node) :
    r.extend n = (r.amendments n).foldl Node.amend n := by
  rw [extend, extend?, amendments]
  cases r.get? n.opType <;> rfl

end Changes

/-- Changes to strategy and attributes have no part in the numbers. -/
theorem Node.amend_rename (n : Node) (a : Amendment) :
    (n.amend a).rename ρ = (n.rename ρ).amend a := by
  cases a <;> rfl

namespace Extender

/-- An extender that makes the same changes under other numbers commutes with the renaming. -/
theorem extend_rename {x : Extender} (hx : x.amendments (n.rename ρ) = x.amendments n) :
    x.extend (n.rename ρ) = (x.extend n).rename ρ := by
  rw [extend, extend, hx]
  exact List.foldl_hom (Node.rename ρ) fun m a => (m.amend_rename a).symm

end Extender

namespace Registry

variable {r : Registry} {x : Extender} {tag : String}

/-- Registering gives back what was found before, and leaves what registering alone would leave. -/
theorem exchange_eq (r : Registry) (tag : String) (x : Extender) :
    r.exchange tag x = (r.get? tag, r.registerUnder tag x) := by
  rw [registerUnder, exchange, Dictionary.exchange_eq]
  rfl

theorem get?_registerUnder (r : Registry) (tag tag' : String) (x : Extender) :
    (r.registerUnder tag x).get? tag' = if tag' = tag then some x else r.get? tag' := by
  rw [registerUnder, exchange, Dictionary.exchange_eq]
  exact Dictionary.get?_set _ _ _ _

theorem get?_register (r : Registry) (x : Extender) (tag : String) :
    (r.register x).get? tag = if tag = x.opType then some x else r.get? tag :=
  r.get?_registerUnder x.opType tag x

/-- What is found after extenders were registered is one of them or was found before. -/
theorem mem_of_get?_foldl_register {xs : List Extender}
    (hx : (xs.foldl register r).get? tag = some x) : x ∈ xs ∨ r.get? tag = some x := by
  induction xs generalizing r with
  | nil => exact Or.inr hx
  | cons y ys ih =>
    rcases ih hx with hmem | hfound
    · exact Or.inl (List.mem_cons_of_mem y hmem)
    · rw [get?_register] at hfound
      split at hfound
      · obtain rfl := Option.some.inj hfound
        exact Or.inl List.mem_cons_self
      · exact Or.inr hfound

/-- The first extender that is offered for a tag. -/
def firstOffer? (offers : List Offer) (tag : String) : Option Extender :=
  (offers.find? fun o => o.tag == tag).map Offer.extender

/-- After offers were collected, a tag has the extender that it had before, or else the first one
offered for it. -/
theorem get?_collectOffers (r : Registry) (offers : List Offer) (tag : String) :
    (r.collectOffers offers).get? tag = (r.get? tag).or (firstOffer? offers tag) := by
  induction offers generalizing r with
  | nil => simp [collectOffers, firstOffer?]
  | cons o os ih =>
    have hcollect : r.collectOffers (o :: os) =
        (if r.contains o.tag then r else r.registerUnder o.tag o.extender).collectOffers os := rfl
    have hcontains : r.contains o.tag = (r.get? o.tag).isSome := rfl
    rw [hcollect, ih, firstOffer?, firstOffer?, List.find?_cons]
    by_cases htag : tag = o.tag
    · subst htag
      cases hx : r.get? o.tag with
      | none => simp [hcontains, hx, get?_registerUnder]
      | some y => simp [hcontains, hx]
    · have hbeq : (o.tag == tag) = false := beq_false_of_ne (Ne.symm htag)
      rw [hbeq]
      split
      · rfl
      · rw [get?_registerUnder, if_neg htag]

/-- After an inventory was collected, a tag has the extender that it had before, or else the first
one of the inventory. -/
theorem get?_collect (r : Registry) (inventory : List Extender) (tag : String) :
    (r.collect inventory).get? tag =
      (r.get? tag).or (inventory.find? fun x => x.opType == tag) := by
  rw [collect, get?_collectOffers, firstOffer?, List.find?_map, Option.map_map]
  have hoffer : Offer.extender ∘ Extender.offer = id := rfl
  rw [hoffer, Option.map_id_fun, id_eq]
  rfl

/-- The changes of a builtin extender do not depend on the numbers of a node and its ports. -/
theorem amendments_rename_of_get?_builtin (hx : builtin.get? tag = some x) (ρ : Renaming)
    (n : Node) : x.amendments (n.rename ρ) = x.amendments n := by
  rcases mem_of_get?_foldl_register hx with hmem | hnone
  · simp only [builtins, List.mem_cons, List.not_mem_nil, or_false] at hmem
    rcases hmem with rfl | rfl | rfl | rfl <;> rfl
  · cases hnone

/-- So the builtin extenders may be applied before or after numbers are changed. -/
theorem extend_builtin_rename (ρ : Renaming) (n : Node) :
    builtin.extend (n.rename ρ) = (builtin.extend n).rename ρ := by
  have htype : (n.rename ρ).opType = n.opType := rfl
  rw [extend, extend, extend?, extend?, htype]
  cases hx : builtin.get? n.opType with
  | none => rfl
  | some x => exact Extender.extend_rename (amendments_rename_of_get?_builtin hx ρ n)

end Registry

end OpGraph
