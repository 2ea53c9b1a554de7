import Mathlib.Data.List.Forall2

/-!
# Traversals that stop at the first error

A list is often gone through by a step that may fail: dimensions are decoded, arriving shapes are
gathered, ports are compared. Such a traversal succeeds exactly if its step succeeds everywhere, so
that what is related element by element on the way in is so on the way out.
-/

namespace OpGraph

variable {α β ε : Type}

/-- A computation in two steps succeeds if the first does and the second does with its value. -/
theorem bind_eq_ok_iff {x : Except ε α} {f : α → Except ε β} {b : β} :
    x >>= f = .ok b ↔ ∃ a, x = .ok a ∧ f a = .ok b := by
  cases x <;> simp [bind, Except.bind]

/-- A computation in two steps fails if the first does, or if it succeeds and the second fails with
its value. -/
theorem bind_eq_error_iff {x : Except ε α} {f : α → Except ε β} {err : ε} :
    x >>= f = .error err ↔ x = .error err ∨ ∃ a, x = .ok a ∧ f a = .error err := by
  cases x <;> simp [bind, Except.bind]

theorem pure_eq_ok_iff {a b : α} : (pure a : Except ε α) = .ok b ↔ a = b := by
  simp [pure, Except.pure]

theorem map_eq_ok_iff {f : α → β} {x : Except ε α} {b : β} :
    f <$> x = .ok b ↔ ∃ a, x = .ok a ∧ f a = b := by
  cases x <;> simp [Functor.map, Except.map]

theorem toOption_eq_some_iff {x : Except ε α} {a : α} : x.toOption = some a ↔ x = .ok a := by
  cases x <;> simp [Except.toOption]

/-- A computation with a check that is made on a condition only. -/
theorem ite_bind_eq_ok_iff {c : Prop} [Decidable c] {check : Except ε Unit} {x : Except ε β}
    {b : β} : (if c then check >>= fun _ => x else x) = .ok b ↔
      (c → check = .ok ()) ∧ x = .ok b := by
  by_cases hc : c
  · rw [if_pos hc, bind_eq_ok_iff]
    constructor
    · rintro ⟨⟨⟩, hcheck, hx⟩
      exact ⟨fun _ => hcheck, hx⟩
    · rintro ⟨hcheck, hx⟩
      exact ⟨(), hcheck hc, hx⟩
  · simp [hc]

/-- A traversal that collects results succeeds with the results of its steps, whatever says of a
step which results it has. -/
theorem mapM_eq_ok_iff {f : α → Except ε β} {R : α → β → Prop}
    (hstep : ∀ x y, f x = .ok y ↔ R x y) {xs : List α} {ys : List β} :
    xs.mapM f = .ok ys ↔ List.Forall₂ R xs ys := by
  induction xs generalizing ys with
  | nil => simp [pure, Except.pure, eq_comm]
  | cons x xs ih =>
    rw [List.mapM_cons, bind_eq_ok_iff, List.forall₂_cons_left_iff]
    constructor
    · rintro ⟨y, hy, hrest⟩
      obtain ⟨ys', hys', hcons⟩ := bind_eq_ok_iff.1 hrest
      exact ⟨y, ys', (hstep x y).1 hy, ih.1 hys', (Except.ok.inj hcons).symm⟩
    · rintro ⟨y, ys', hy, hys', rfl⟩
      exact ⟨y, (hstep x y).2 hy, bind_eq_ok_iff.2 ⟨ys', ih.2 hys', rfl⟩⟩

/-- A traversal has a result if its step has one everywhere, element by element. -/
theorem mapM_eq_some_iff {f : α → Option β} {xs : List α} {ys : List β} :
    xs.mapM f = some ys ↔ List.Forall₂ (fun x y => f x = some y) xs ys := by
  induction xs generalizing ys with
  | nil => simp [eq_comm]
  | cons x xs ih =>
    simp only [List.mapM_cons, Option.bind_eq_bind, Option.bind_eq_some_iff, Option.pure_def, ih,
      Option.some.injEq, List.forall₂_cons_left_iff]
    constructor
    · rintro ⟨y, hy, ys', hys', rfl⟩
      exact ⟨y, ys', hy, hys', rfl⟩
    · rintro ⟨y, ys', hy, hys', rfl⟩
      exact ⟨y, hy, ys', hys', rfl⟩

/-- A traversal for its errors only succeeds if its step does everywhere. -/
theorem forM_eq_ok_iff {f : α → Except ε Unit} {xs : List α} :
    xs.forM f = .ok () ↔ ∀ x ∈ xs, f x = .ok () := by
  induction xs with
  | nil => simp [pure, Except.pure]
  | cons x xs ih =>
    change (f x >>= fun _ => xs.forM f) = .ok () ↔ _
    rw [bind_eq_ok_iff, List.forall_mem_cons, ← ih]
    constructor
    · rintro ⟨⟨⟩, hx, hxs⟩
      exact ⟨hx, hxs⟩
    · rintro ⟨hx, hxs⟩
      exact ⟨(), hx, hxs⟩

/-- A failing traversal fails with the error of one of its steps. -/
theorem exists_mem_of_forM_eq_error {f : α → Except ε Unit} {xs : List α} {err : ε}
    (h : xs.forM f = .error err) : ∃ x ∈ xs, f x = .error err := by
  induction xs with
  | nil => cases h
  | cons x xs ih =>
    change (f x >>= fun _ => xs.forM f) = .error err at h
    rcases bind_eq_error_iff.1 h with hx | ⟨-, -, hxs⟩
    · exact ⟨x, List.mem_cons_self, hx⟩
    · obtain ⟨y, hy, hfail⟩ := ih hxs
      exact ⟨y, List.mem_cons_of_mem x hy, hfail⟩

theorem exists_mem_of_mapM_eq_error {f : α → Except ε β} {xs : List α} {err : ε}
    (h : xs.mapM f = .error err) : ∃ x ∈ xs, f x = .error err := by
  induction xs with
  | nil => cases h
  | cons x xs ih =>
    rw [List.mapM_cons] at h
    rcases bind_eq_error_iff.1 h with hx | ⟨y, -, hrest⟩
    · exact ⟨x, List.mem_cons_self, hx⟩
    · rcases bind_eq_error_iff.1 hrest with hxs | ⟨ys, -, hys⟩
      · obtain ⟨z, hz, hfail⟩ := ih hxs
        exact ⟨z, List.mem_cons_of_mem x hz, hfail⟩
      · cases hys

/-- To split a list that has a head is to split it there or to split its tail. -/
theorem exists_split_cons_iff {P : List α → α → List α → Prop} {y : α} {ys : List α} :
    (∃ before x after, y :: ys = before ++ x :: after ∧ P before x after) ↔
      P [] y ys ∨ ∃ before x after, ys = before ++ x :: after ∧ P (y :: before) x after := by
  constructor
  · rintro ⟨before, x, after, hsplit, hP⟩
    cases before with
    | nil =>
      obtain ⟨rfl, rfl⟩ := List.cons.inj hsplit
      exact Or.inl hP
    | cons z before =>
      obtain ⟨rfl, rfl⟩ := List.cons.inj hsplit
      exact Or.inr ⟨before, x, after, rfl, hP⟩
  · rintro (hP | ⟨before, x, after, rfl, hP⟩)
    · exact ⟨[], y, ys, rfl, hP⟩
    · exact ⟨y :: before, x, after, rfl, hP⟩

/-- A traversal that collects results fails with the error of the first step that fails. -/
theorem mapM_eq_error_iff {f : α → Except ε β} {xs : List α} {err : ε} :
    xs.mapM f = .error err ↔ ∃ before x after, xs = before ++ x :: after ∧
      (∀ y ∈ before, ∃ z, f y = .ok z) ∧ f x = .error err := by
  induction xs with
  | nil => simp [pure, Except.pure]
  | cons x xs ih =>
    rw [List.mapM_cons, exists_split_cons_iff]
    cases hx : f x with
    | error err' =>
      show Except.error err' = .error err ↔ _
      simp [hx]
    | ok y =>
      have hrest : (xs.mapM f >>= fun ys => pure (y :: ys)) = .error err ↔
          xs.mapM f = .error err := by
        cases xs.mapM f <;> simp [bind, Except.bind, pure, Except.pure]
      show (xs.mapM f >>= fun ys => pure (y :: ys)) = .error err ↔ _
      rw [hrest, ih]
      simp [hx]

/-- A traversal that only tests fails with the error of the first test that fails. -/
theorem forM_eq_error_iff {f : α → Except ε Unit} {xs : List α} {err : ε} :
    xs.forM f = .error err ↔ ∃ before x after, xs = before ++ x :: after ∧
      (∀ y ∈ before, f y = .ok ()) ∧ f x = .error err := by
  induction xs with
  | nil => simp [pure, Except.pure]
  | cons x xs ih =>
    change (f x >>= fun _ => xs.forM f) = .error err ↔ _
    rw [bind_eq_error_iff, exists_split_cons_iff, ih]
    cases hx : f x <;> simp [hx]

/-- A fold whose step first makes something of an element succeeds exactly if something can be made
of all elements and the fold over that succeeds. -/
theorem foldlM_eq_ok_iff_of_step {σ : Type} {f : σ → α → Except ε σ} {ε' : Type}
    {f' : σ → β → Except ε' σ} {R : α → β → Prop}
    (hstep : ∀ s x t, f s x = .ok t ↔ ∃ y, R x y ∧ f' s y = .ok t) {xs : List α} {s t : σ} :
    xs.foldlM f s = .ok t ↔ ∃ ys, List.Forall₂ R xs ys ∧ ys.foldlM f' s = .ok t := by
  induction xs generalizing s with
  | nil => simp [List.foldlM_nil, pure_eq_ok_iff]
  | cons x xs ih =>
    rw [List.foldlM_cons, bind_eq_ok_iff]
    constructor
    · rintro ⟨u, hu, hrest⟩
      obtain ⟨y, hxy, hy⟩ := (hstep s x u).1 hu
      obtain ⟨ys, hxys, hys⟩ := ih.1 hrest
      exact ⟨y :: ys, .cons hxy hxys, bind_eq_ok_iff.2 ⟨u, hy, hys⟩⟩
    · rintro ⟨ys', hxys, hys⟩
      obtain ⟨y, ys, hxy, hrest, rfl⟩ := List.forall₂_cons_left_iff.1 hxys
      rw [List.foldlM_cons, bind_eq_ok_iff] at hys
      obtain ⟨u, hu, hfold⟩ := hys
      exact ⟨u, (hstep s x u).2 ⟨y, hxy, hu⟩, ih.2 ⟨ys, hrest, hfold⟩⟩

theorem mapError_eq_ok_iff {ε' : Type} {f : ε → ε'} {x : Except ε α} {a : α} :
    x.mapError f = .ok a ↔ x = .ok a := by
  cases x <;> simp [Except.mapError]

theorem mapError_eq_error_iff {ε' : Type} {f : ε → ε'} {x : Except ε α} {err : ε'} :
    x.mapError f = .error err ↔ ∃ e, x = .error e ∧ err = f e := by
  cases x <;> simp [Except.mapError, eq_comm]

/-- Steps that do the same on all elements make the same traversal. -/
theorem mapM_congr {f f' : α → Except ε β} {xs : List α} (h : ∀ x ∈ xs, f x = f' x) :
    xs.mapM f = xs.mapM f' := by
  induction xs with
  | nil => rfl
  | cons x xs ih =>
    rw [List.mapM_cons, List.mapM_cons, h x List.mem_cons_self,
      ih fun y hy => h y (List.mem_cons_of_mem x hy)]

/-- A traversal depends on what its step does at the elements only. -/
theorem forM_congr {f f' : α → Except ε Unit} {xs : List α} (h : ∀ x ∈ xs, f x = f' x) :
    xs.forM f = xs.forM f' := by
  induction xs with
  | nil => rfl
  | cons x xs ih =>
    change (f x >>= fun _ => xs.forM f) = (f' x >>= fun _ => xs.forM f')
    rw [h x List.mem_cons_self, ih fun y hy => h y (List.mem_cons_of_mem x hy)]

/-- So does a fold, in whichever state it meets them. -/
theorem foldlM_congr {σ : Type} {f f' : σ → α → Except ε σ} {xs : List α}
    (h : ∀ x ∈ xs, ∀ s, f s x = f' s x) (s : σ) : xs.foldlM f s = xs.foldlM f' s := by
  induction xs generalizing s with
  | nil => rfl
  | cons x xs ih =>
    rw [List.foldlM_cons, List.foldlM_cons, h x List.mem_cons_self]
    refine bind_congr fun t => ih (fun y hy => h y (List.mem_cons_of_mem x hy)) t

/-- Of what is picked from a list the last is picked from its head only if nothing behind it is. -/
theorem getLast?_filterMap_cons (f : α → Option β) (x : α) (xs : List α) :
    ((x :: xs).filterMap f).getLast? = (xs.filterMap f).getLast?.or (f x) := by
  cases h : f x with
  | none => simp [h]
  | some y => simp [h, List.getLast?_cons, Option.or_some]

theorem rel_some_left_iff {r : α → β → Prop} {x : α} {o : Option β} :
    Option.Rel r (some x) o ↔ ∃ y, o = some y ∧ r x y := by
  constructor
  · rintro (hxy | _)
    exact ⟨_, rfl, hxy⟩
  · rintro ⟨y, rfl, hxy⟩
    exact .some hxy

theorem rel_some_right_iff {r : α → β → Prop} {y : β} {o : Option α} :
    Option.Rel r o (some y) ↔ ∃ x, o = some x ∧ r x y := by
  constructor
  · rintro (hxy | _)
    exact ⟨_, rfl, hxy⟩
  · rintro ⟨x, rfl, hxy⟩
    exact .some hxy

theorem exists_rel_iff {r : α → β → Prop} {o : Option α} :
    (∃ o', Option.Rel r o o') ↔ ∀ x ∈ o, ∃ y, r x y := by
  constructor
  · rintro ⟨o', ho⟩ x rfl
    obtain ⟨y, -, hxy⟩ := rel_some_left_iff.1 ho
    exact ⟨y, hxy⟩
  · intro h
    cases o with
    | none => exact ⟨none, .none⟩
    | some x =>
      obtain ⟨y, hxy⟩ := h x rfl
      exact ⟨some y, .some hxy⟩

/-- What stands in the one list has its counterpart in the other. -/
theorem exists_mem_of_forall₂ {R : α → β → Prop} {xs : List α} {ys : List β}
    (h : List.Forall₂ R xs ys) : ∀ x ∈ xs, ∃ y ∈ ys, R x y := by
  induction h with
  | nil => simp
  | @cons x y xs ys hxy _ ih =>
    refine List.forall_mem_cons.2 ⟨⟨y, List.mem_cons_self, hxy⟩, fun x hx => ?_⟩
    obtain ⟨y', hy', hxy'⟩ := ih x hx
    exact ⟨y', List.mem_cons_of_mem y hy', hxy'⟩

/-- Predicates that say the same of related elements say the same of related lists. -/
theorem forall_mem_iff_of_forall₂ {R : α → β → Prop} {P : α → Prop} {Q : β → Prop}
    (hPQ : ∀ x y, R x y → (P x ↔ Q y)) {xs : List α} {ys : List β} (h : List.Forall₂ R xs ys) :
    (∀ x ∈ xs, P x) ↔ ∀ y ∈ ys, Q y := by
  induction h with
  | nil => simp
  | cons hxy _ ih => rw [List.forall_mem_cons, List.forall_mem_cons, hPQ _ _ hxy, ih]

/-- If related elements satisfy their properties together, some element does so in both lists or in
neither. -/
theorem exists_mem_iff_of_forall₂ {R : α → β → Prop} {P : α → Prop} {Q : β → Prop}
    (hPQ : ∀ x y, R x y → (P x ↔ Q y)) {xs : List α} {ys : List β} (h : List.Forall₂ R xs ys) :
    (∃ x ∈ xs, P x) ↔ ∃ y ∈ ys, Q y := by
  induction h with
  | nil => simp
  | cons hxy _ ih => rw [List.exists_mem_cons_iff, List.exists_mem_cons_iff, hPQ _ _ hxy, ih]

/-- Something related can be listed for a list exactly if there is something for each element. -/
theorem exists_forall₂_iff {R : α → β → Prop} {xs : List α} :
    (∃ ys, List.Forall₂ R xs ys) ↔ ∀ x ∈ xs, ∃ y, R x y := by
  induction xs with
  | nil => simp
  | cons x xs ih =>
    rw [List.forall_mem_cons, ← ih]
    constructor
    · rintro ⟨_, hys⟩
      obtain ⟨y, ys, hxy, hys, -⟩ := List.forall₂_cons_left_iff.1 hys
      exact ⟨⟨y, hxy⟩, ys, hys⟩
    · rintro ⟨⟨y, hxy⟩, ys, hys⟩
      exact ⟨y :: ys, .cons hxy hys⟩

theorem forall₂_eq_iff_map_eq {f : α → β} {xs : List α} {ys : List β} :
    List.Forall₂ (fun x y => f x = y) xs ys ↔ xs.map f = ys := by
  rw [← List.forall₂_eq_eq_eq, List.forall₂_map_left_iff]

/-- What related elements have in common, related lists have in common. -/
theorem map_eq_map_of_forall₂ {γ : Type} {f : α → γ} {f' : β → γ} {xs : List α} {ys : List β}
    (h : List.Forall₂ (fun x y => f' y = f x) xs ys) : ys.map f' = xs.map f := by
  rw [← List.forall₂_eq_eq_eq, List.forall₂_map_left_iff, List.forall₂_map_right_iff]
  exact h.flip

/-- Steps that have a result on related elements, related to a given one, have results along related
lists. -/
theorem exists_forall₂_of_step {γ δ : Type} {P : α → γ → Prop} {R : α → β → Prop}
    {S : γ → δ → Prop} {Q : β → δ → Prop}
    (hstep : ∀ x z y, P x z → R x y → ∃ w, S z w ∧ Q y w) {xs : List α} {zs : List γ} {ys : List β}
    (hP : List.Forall₂ P xs zs) (hR : List.Forall₂ R xs ys) :
    ∃ ws, List.Forall₂ S zs ws ∧ List.Forall₂ Q ys ws := by
  induction hP generalizing ys with
  | nil =>
    cases hR
    exact ⟨[], .nil, .nil⟩
  | cons hxz _ ih =>
    obtain ⟨y, ys', hy, hys', rfl⟩ := List.forall₂_cons_left_iff.1 hR
    obtain ⟨w, hw, hyw⟩ := hstep _ _ y hxz hy
    obtain ⟨ws, hws, hQ⟩ := ih hys'
    exact ⟨w :: ws, .cons hw hws, .cons hyw hQ⟩

/-- What related pairs have in common, along three lists that are related in a row. -/
theorem forall₂_of_square {γ δ : Type} {P : α → γ → Prop} {R : α → β → Prop} {Q : β → δ → Prop}
    {S : γ → δ → Prop} (hstep : ∀ x z y w, P x z → R x y → Q y w → S z w) {xs : List α}
    {zs : List γ} {ys : List β} {ws : List δ} (hP : List.Forall₂ P xs zs)
    (hR : List.Forall₂ R xs ys) (hQ : List.Forall₂ Q ys ws) : List.Forall₂ S zs ws := by
  induction hP generalizing ys ws with
  | nil =>
    cases hR
    cases hQ
    exact .nil
  | cons hxz _ ih =>
    cases hR with
    | cons hxy hys =>
      cases hQ with
      | cons hyw hws => exact .cons (hstep _ _ _ _ hxz hxy hyw) (ih hys hws)

/-- Lists that are related part by part are related pair by pair. -/
theorem forall₂_zip_zip {γ δ : Type} {P : α → γ → Prop} {Q : β → δ → Prop} {xs : List α}
    {zs : List γ} {ys : List β} {ws : List δ} (hP : List.Forall₂ P xs zs)
    (hQ : List.Forall₂ Q ys ws) :
    List.Forall₂ (fun x z => P x.1 z.1 ∧ Q x.2 z.2) (xs.zip ys) (zs.zip ws) := by
  induction hP generalizing ys ws with
  | nil => exact .nil
  | cons hxz _ ih =>
    cases hQ with
    | nil => exact .nil
    | cons hyw hws => exact .cons ⟨hxz, hyw⟩ (ih hws)

/-- Lists that go together by way of a function of some intermediate value. -/
theorem forall₂_exists_iff {γ : Type} {R : α → β → Prop} {f : β → γ} {xs : List α} {zs : List γ} :
    List.Forall₂ (fun x z => ∃ y, R x y ∧ z = f y) xs zs ↔
      ∃ ys, List.Forall₂ R xs ys ∧ zs = ys.map f := by
  constructor
  · intro h
    induction h with
    | nil => exact ⟨[], .nil, rfl⟩
    | cons hxz _ ih =>
      obtain ⟨y, hxy, rfl⟩ := hxz
      obtain ⟨ys, hys, rfl⟩ := ih
      exact ⟨y :: ys, .cons hxy hys, rfl⟩
  · rintro ⟨ys, hys, rfl⟩
    rw [List.forall₂_map_right_iff]
    exact hys.imp fun _ y hxy => ⟨y, hxy, rfl⟩

end OpGraph
