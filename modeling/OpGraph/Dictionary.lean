/-!
# Finite dictionaries in key order

A dictionary keeps its entries in strictly ascending key order, so a key occurs at most once and
two dictionaries that answer every lookup alike are equal. The graph stores its nodes this way, and
so do attributes, extender registries and the in-degree table of the topological sort.
-/

namespace OpGraph

/-- A finite map from `κ` to `α`, its entries in strictly ascending key order. -/
structure Dictionary (κ : Type) (α : Type) [LT κ] where
  entries : List (κ × α)
  -- keys strictly ascend, so none is repeated
  ascending : entries.Pairwise (fun a b => a.1 < b.1)

namespace Dictionary

variable {κ α β : Type}

instance [LT κ] [DecidableEq κ] [DecidableEq α] : DecidableEq (Dictionary κ α) := fun a b =>
  decidable_of_iff (a.entries = b.entries)
    ⟨fun h => by cases a; cases b; cases h; rfl, fun h => h ▸ rfl⟩

def empty [LT κ] : Dictionary κ α := ⟨[], List.Pairwise.nil⟩

instance [LT κ] : Inhabited (Dictionary κ α) := ⟨empty⟩

def size [LT κ] (d : Dictionary κ α) : Nat := d.entries.length

def keys [LT κ] (d : Dictionary κ α) : List κ := d.entries.map Prod.fst

/-- The values in the order of their keys. -/
def values [LT κ] (d : Dictionary κ α) : List α := d.entries.map Prod.snd

def find? [DecidableEq κ] (k : κ) : List (κ × α) → Option α
  | [] => none
  | (k', v) :: rest => if k = k' then some v else find? k rest

/-- The value under a key, if the key occurs. -/
def get? [LT κ] [DecidableEq κ] (d : Dictionary κ α) (k : κ) : Option α := find? k d.entries

def contains [LT κ] [DecidableEq κ] (d : Dictionary κ α) (k : κ) : Bool := (d.get? k).isSome

/-- Put an entry at its place in an ascending list, replacing an entry of the same key. -/
def place [LT κ] [DecidableLT κ] (k : κ) (v : α) : List (κ × α) → List (κ × α)
  | [] => [(k, v)]
  | (k', v') :: rest =>
    if k < k' then (k, v) :: (k', v') :: rest
    else if k' < k then (k', v') :: place k v rest
    else (k, v) :: rest

section Place

variable [LT κ] [DecidableLT κ]

theorem fst_mem_of_mem_place {k : κ} {v : α} {es : List (κ × α)} {e : κ × α}
    (h : e ∈ place k v es) : e.1 = k ∨ ∃ e' ∈ es, e'.1 = e.1 := by
  induction es with
  | nil => simp [place] at h; simp [h]
  | cons head rest ih =>
    obtain ⟨k', v'⟩ := head
    simp only [place] at h
    split at h
    · rcases List.mem_cons.1 h with rfl | h
      · exact .inl rfl
      · exact .inr ⟨e, h, rfl⟩
    · split at h
      · rcases List.mem_cons.1 h with rfl | h
        · exact .inr ⟨_, List.mem_cons_self, rfl⟩
        · rcases ih h with h | ⟨e', he', heq⟩
          · exact .inl h
          · exact .inr ⟨e', List.mem_cons_of_mem _ he', heq⟩
      · rcases List.mem_cons.1 h with rfl | h
        · exact .inl rfl
        · exact .inr ⟨e, List.mem_cons_of_mem _ h, rfl⟩

/-- Put an entry at its place in an ascending list, and give back the value of the entry that stood
there. -/
def exchangePlace (k : κ) (v : α) : List (κ × α) → Option α × List (κ × α)
  | [] => (none, [(k, v)])
  | (k', v') :: rest =>
    if k < k' then (none, (k, v) :: (k', v') :: rest)
    else if k' < k then ((exchangePlace k v rest).1, (k', v') :: (exchangePlace k v rest).2)
    else (some v', (k, v) :: rest)

theorem snd_exchangePlace (k : κ) (v : α) (es : List (κ × α)) :
    (exchangePlace k v es).2 = place k v es := by
  induction es with
  | nil => rfl
  | cons head rest ih =>
    simp only [exchangePlace, place]
    split
    · rfl
    · split
      · rw [ih]
      · rfl

end Place

section Order

variable [LE κ] [LT κ] [Std.IsLinearOrder κ] [Std.LawfulOrderLT κ] [DecidableLT κ]

/-- Placing an entry keeps the keys of a list in strictly ascending order. -/
theorem pairwise_place {k : κ} {v : α} {es : List (κ × α)}
    (h : es.Pairwise (fun a b => a.1 < b.1)) :
    (place k v es).Pairwise (fun a b => a.1 < b.1) := by
  induction es with
  | nil => exact List.pairwise_singleton _ _
  | cons head rest ih =>
    obtain ⟨k', v'⟩ := head
    rw [List.pairwise_cons] at h
    simp only [place]
    split
    next hlt =>
      refine List.pairwise_cons.2 ⟨fun e he => ?_, List.pairwise_cons.2 h⟩
      rcases List.mem_cons.1 he with rfl | he
      · exact hlt
      · exact Std.lt_trans hlt (h.1 e he)
    next hnlt =>
      split
      next hgt =>
        refine List.pairwise_cons.2 ⟨fun e he => ?_, ih h.2⟩
        rcases fst_mem_of_mem_place he with heq | ⟨e', he', heq⟩
        · exact heq ▸ hgt
        · exact heq ▸ h.1 e' he'
      next hngt =>
        have hk : k = k' := Std.le_antisymm (Std.not_lt.1 hngt) (Std.not_lt.1 hnlt)
        exact List.pairwise_cons.2 ⟨fun e he => hk ▸ h.1 e he, h.2⟩

/-- Store a value under a key, replacing the value the key had. -/
def set (d : Dictionary κ α) (k : κ) (v : α) : Dictionary κ α :=
  ⟨place k v d.entries, pairwise_place d.ascending⟩

/-- Store a value under a key and give back the value that the key had. -/
def exchange (d : Dictionary κ α) (k : κ) (v : α) : Option α × Dictionary κ α :=
  ((exchangePlace k v d.entries).1,
    ⟨(exchangePlace k v d.entries).2, snd_exchangePlace k v d.entries ▸ pairwise_place d.ascending⟩)

/-- The dictionary of a list of entries; of a repeated key the last value stays. -/
def ofList (es : List (κ × α)) : Dictionary κ α := es.foldl (fun d e => d.set e.1 e.2) empty

end Order

def map [LT κ] (f : α → β) (d : Dictionary κ α) : Dictionary κ β :=
  ⟨d.entries.map fun e => (e.1, f e.2), List.pairwise_map.2 d.ascending⟩

section Lookup

variable [LE κ] [LT κ] [Std.IsLinearOrder κ] [Std.LawfulOrderLT κ] [DecidableLT κ] [DecidableEq κ]

omit [LE κ] [LT κ] [Std.IsLinearOrder κ] [Std.LawfulOrderLT κ] [DecidableLT κ] in
/-- A key that is none of the keys of a list is not found. -/
theorem find?_eq_none {k : κ} {es : List (κ × α)} (h : ∀ e ∈ es, k ≠ e.1) : find? k es = none := by
  induction es with
  | nil => rfl
  | cons head rest ih =>
    obtain ⟨k', v'⟩ := head
    simp only [List.mem_cons, forall_eq_or_imp] at h
    simp [find?, h.1, ih h.2]

/-- A lookup after an entry was placed finds the new value under its key, and what it found before
under any other. -/
theorem find?_place (k k' : κ) (v : α) (es : List (κ × α)) :
    find? k' (place k v es) = if k' = k then some v else find? k' es := by
  induction es with
  | nil => simp [place, find?]
  | cons head rest ih =>
    obtain ⟨k₀, v₀⟩ := head
    simp only [place]
    split
    next => simp only [find?]
    next hnlt =>
      split
      next hgt =>
        simp only [find?, ih]
        by_cases h : k' = k₀
        · subst h
          have : k' ≠ k := fun he => Std.lt_irrefl (he ▸ hgt)
          simp [this]
        · simp [h]
      next hngt =>
        have hk : k = k₀ := Std.le_antisymm (Std.not_lt.1 hngt) (Std.not_lt.1 hnlt)
        subst hk
        by_cases h : k' = k <;> simp [find?, h]

/-- A lookup finds the value last stored under its key. -/
theorem get?_set (d : Dictionary κ α) (k k' : κ) (v : α) :
    (d.set k v).get? k' = if k' = k then some v else d.get? k' :=
  find?_place k k' v d.entries

/-- The entry that is replaced in an ascending list is the one that a lookup finds. -/
theorem fst_exchangePlace {k : κ} {v : α} {es : List (κ × α)}
    (h : es.Pairwise (fun a b => a.1 < b.1)) : (exchangePlace k v es).1 = find? k es := by
  induction es with
  | nil => rfl
  | cons head rest ih =>
    obtain ⟨k', v'⟩ := head
    rw [List.pairwise_cons] at h
    simp only [exchangePlace]
    split
    next hlt =>
      refine (find?_eq_none fun e he => ?_).symm
      rcases List.mem_cons.1 he with rfl | he
      · exact fun heq => Std.lt_irrefl (heq ▸ hlt)
      · exact fun heq => Std.lt_irrefl (heq ▸ Std.lt_trans hlt (h.1 e he))
    next hnlt =>
      split
      next hgt =>
        have hne : k ≠ k' := fun heq => Std.lt_irrefl (heq ▸ hgt)
        simp only [find?, if_neg hne, ih h.2]
      next hngt =>
        have hk : k = k' := Std.le_antisymm (Std.not_lt.1 hngt) (Std.not_lt.1 hnlt)
        simp only [find?, if_pos hk]

/-- An exchange gives back what a lookup would have found, and stores the value. -/
theorem exchange_eq (d : Dictionary κ α) (k : κ) (v : α) :
    d.exchange k v = (d.get? k, d.set k v) := by
  simp only [exchange, fst_exchangePlace d.ascending, snd_exchangePlace]
  rfl

omit [LE κ] [Std.IsLinearOrder κ] [Std.LawfulOrderLT κ] [DecidableLT κ] in
@[simp] theorem get?_empty (k : κ) : (empty : Dictionary κ α).get? k = none := rfl

/-- Two ascending lists that answer every lookup alike are equal. The induction goes through both at
once; their first keys agree, since each of them is found in the other list. -/
theorem eq_of_find?_eq {xs ys : List (κ × α)}
    (hx : xs.Pairwise (fun a b => a.1 < b.1)) (hy : ys.Pairwise (fun a b => a.1 < b.1))
    (h : ∀ k, find? k xs = find? k ys) : xs = ys := by
  induction xs generalizing ys with
  | nil =>
    cases ys with
    | nil => rfl
    | cons y ys => simpa [find?] using h y.1
  | cons x xs ih =>
    cases ys with
    | nil => simpa [find?] using h x.1
    | cons y ys =>
      obtain ⟨kx, vx⟩ := x
      obtain ⟨ky, vy⟩ := y
      rw [List.pairwise_cons] at hx hy
      have hkey : kx = ky := by
        by_cases hlt : kx < ky
        · have hnone : find? kx ((ky, vy) :: ys) = none := find?_eq_none (by
            intro e he heq
            rcases List.mem_cons.1 he with rfl | he
            · exact Std.lt_irrefl (heq ▸ hlt)
            · exact Std.lt_irrefl (heq ▸ Std.lt_trans hlt (hy.1 e he)))
          have hsome := (h kx).trans hnone
          simp [find?] at hsome
        · by_cases hgt : ky < kx
          · have hnone : find? ky ((kx, vx) :: xs) = none := find?_eq_none (by
              intro e he heq
              rcases List.mem_cons.1 he with rfl | he
              · exact Std.lt_irrefl (heq ▸ hgt)
              · exact Std.lt_irrefl (heq ▸ Std.lt_trans hgt (hx.1 e he)))
            have hsome := (h ky).symm.trans hnone
            simp [find?] at hsome
          · exact Std.le_antisymm (Std.not_lt.1 hgt) (Std.not_lt.1 hlt)
      subst hkey
      have hval : vx = vy := by simpa [find?] using h kx
      subst hval
      congr 1
      refine ih hx.2 hy.2 fun k => ?_
      have hk := h k
      by_cases heq : k = kx
      · subst heq
        rw [find?_eq_none (fun e he heq => Std.lt_irrefl (heq ▸ hx.1 e he)),
          find?_eq_none (fun e he heq => Std.lt_irrefl (heq ▸ hy.1 e he))]
      · simpa [find?, heq] using hk

/-- Dictionaries with the same lookups are equal. -/
theorem ext_get? {a b : Dictionary κ α} (h : ∀ k, a.get? k = b.get? k) : a = b := by
  obtain ⟨xs, hx⟩ := a
  obtain ⟨ys, hy⟩ := b
  have := eq_of_find?_eq hx hy h
  subst this
  rfl

end Lookup

end Dictionary

end OpGraph
