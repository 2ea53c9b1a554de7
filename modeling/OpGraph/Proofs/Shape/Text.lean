import OpGraph.Proofs.Shape.Grammar

/-!
# The text form of shapes

A printed shape is read item by item as it was printed, for its items have no blanks, brackets or
commas in them. An extent is printed in full, but it is read as a signed number, so exactly those
shapes are read back whose extents fit into one. Different shapes have different texts all the same.
-/

namespace OpGraph

namespace Dim

variable {d d' : Dim}

/-- A printed dimension has no blanks, brackets or commas in it. -/
theorem isPlain_of_mem_toString {c : Char} (hc : c ∈ d.toString.toList) : Text.IsPlain c := by
  cases d with
  | fixed extent => exact Text.isPlain_of_isDigit (Numeral.isDigit_of_mem_repr hc)
  | dynamic =>
    obtain rfl : c = '?' := by simpa [toString] using hc
    decide

theorem toString_ne_nil (d : Dim) : d.toString.toList ≠ [] := by
  cases d with
  | fixed extent => exact (Numeral.isDigits_repr extent.toNat).1
  | dynamic => decide

theorem toString_injective : Function.Injective Dim.toString := by
  intro d d' h
  have hmark : ∀ extent, (fixed extent).toString ≠ dynamic.toString := by
    intro extent heq
    have hmem : '?' ∈ (fixed extent).toString.toList := by
      rw [heq]
      decide
    exact absurd (Numeral.isDigit_of_mem_repr hmem) (by decide)
  cases d with
  | fixed extent =>
    cases d' with
    | fixed extent' =>
      have hvalue := congrArg (fun text => Numeral.value text.toList) h
      simp only [toString, Numeral.value_repr] at hvalue
      rw [UInt64.toNat_inj.1 hvalue]
    | dynamic => exact absurd h (hmark extent)
  | dynamic =>
    cases d' with
    | fixed extent' => exact absurd h.symm (hmark extent')
    | dynamic => rfl

/-- An extent that fits is read as it was printed, and any other is refused. -/
theorem parse_toString (d : Dim) : Dim.parse d.toString.toList =
    if d.FitsSigned then .ok d else .error (.invalidDim d.toString) := by
  cases d with
  | dynamic => decide
  | fixed extent =>
    have hextent : Numeral.Denotes (fixed extent).toString.toList extent.toNat :=
      Numeral.denotes_repr extent.toNat
    have htrim : Text.trim (fixed extent).toString.toList = (fixed extent).toString.toList :=
      Text.trim_eq_self fun c hc => (hextent.isPlain hc).1
    split
    next hfits => exact parse_eq_ok_iff.2 ⟨_, .refl _, .extent hextent hfits⟩
    next hfits =>
      have hmark : (fixed extent).toString.toList ≠ ['?'] := by
        intro heq
        rw [heq] at hextent
        exact not_denotes_mark hextent
      -- digits denote one number only, and this one is beyond all signed ones
      have hlarge : ∀ value : Int64,
          ¬ Numeral.Denotes (fixed extent).toString.toList value.toInt := by
        intro value hvalue
        apply hfits
        show (extent.toNat : Int) ≤ Int64.maxValue.toInt
        rw [hextent.unique hvalue]
        exact value.toInt_le
      have hfault := Fault.invalid hmark hlarge
      rw [String.ofList_toList] at hfault
      refine parse_eq_error_iff.2 (misspelled_iff_trim.2 ?_)
      rwa [htrim]

/-- What is read back from a printed dimension was read as a signed number. -/
theorem fitsSigned_of_parse_toString (h : Dim.parse d.toString.toList = .ok d') : d.FitsSigned := by
  by_contra hfits
  rw [parse_toString, if_neg hfits] at h
  cases h

/-- A printed dimension that is refused is an extent too large for a signed number. -/
theorem exists_extent_of_parse_toString {err : ShapeError}
    (h : Dim.parse d.toString.toList = .error err) : ∃ extent : UInt64, d = fixed extent ∧
      Int64.maxValue.toInt < extent.toNat ∧ err = .invalidDim (Nat.repr extent.toNat) := by
  rw [parse_toString] at h
  split at h
  · cases h
  next hfits =>
    obtain rfl := Except.error.inj h
    cases d with
    | fixed extent => exact ⟨extent, rfl, Int.not_le.1 hfits, rfl⟩
    | dynamic => exact absurd trivial hfits

end Dim

namespace Shape

variable {s s' : Shape} {err : ShapeError} {text : String}

/-- The printed dimensions. -/
def items (s : Shape) : List (List Char) := s.dims.map fun d => d.toString.toList

/-- A printed shape has its items between commas, and brackets around them. -/
theorem toList_toString (s : Shape) :
    s.toString.toList = '[' :: ([','].intercalate s.items ++ [']']) := by
  simp [toString, items, Function.comp_def]

theorem isPlain_of_mem_items : ∀ item ∈ s.items, ∀ c ∈ item, Text.IsPlain c := by
  intro item hitem c hc
  obtain ⟨d, -, rfl⟩ := List.mem_map.1 hitem
  exact Dim.isPlain_of_mem_toString hc

/-- So its commas stand between items only. -/
theorem comma_not_mem_items (s : Shape) : ∀ item ∈ s.items, ',' ∉ item := by
  intro item hitem hmem
  obtain ⟨-, -, -, hcomma⟩ := isPlain_of_mem_items item hitem ',' hmem
  exact hcomma rfl

theorem nil_not_mem_items : [] ∉ s.items := by
  intro hnil
  obtain ⟨d, -, hd⟩ := List.mem_map.1 hnil
  exact d.toString_ne_nil hd

/-- A printed shape is its items with one pair of brackets around them. -/
theorem wraps_toString (s : Shape) : Wraps ([','].intercalate s.items) s.toString.toList := by
  rw [toList_toString]
  refine ⟨['['], _, [']'], ?_, ?_, .refl _, .refl _⟩
  · exact fun c hc => List.mem_singleton.1 hc
  · exact fun c hc => List.mem_singleton.1 hc

/-- A printed shape is read item by item. -/
theorem parse_toString (s : Shape) : Shape.parse s.toString =
    (s.dims.mapM fun d => Dim.parse d.toString.toList).map Shape.mk := by
  rw [parse, (wraps_toString s).parseChars_eq nil_not_mem_items isPlain_of_mem_items, items,
    List.mapM_map]
  rfl

/-- A shape whose extents fit is read as it was printed. -/
theorem FitsSigned.parse_toString (hs : s.FitsSigned) : Shape.parse s.toString = .ok s := by
  have hdims : s.dims.mapM (fun d => Dim.parse d.toString.toList) = .ok s.dims := by
    refine (mapM_eq_ok_iff fun _ _ => Iff.rfl).2 (List.forall₂_same.2 fun d hd => ?_)
    rw [Dim.parse_toString, if_pos (hs d hd)]
  rw [Shape.parse_toString, hdims]
  rfl

/-- The extents of all that is read fit. -/
theorem fitsSigned_of_parse (h : Shape.parse text = .ok s) : s.FitsSigned := by
  intro d hd
  rcases parseChars_eq_ok_iff.1 h with ⟨-, rfl⟩ | ⟨-, hdims⟩
  · cases hd
  · obtain ⟨item, -, core, -, hcore⟩ := exists_mem_of_forall₂ hdims.flip d hd
    exact hcore.fitsSigned

/-- Shapes with the same text are the same. -/
theorem toString_injective : Function.Injective Shape.toString := by
  intro s t h
  have hlist := congrArg String.toList h
  rw [toList_toString, toList_toString] at hlist
  have hinner : [','].intercalate s.items = [','].intercalate t.items :=
    List.append_cancel_right (List.cons.inj hlist).2
  have hitems : s.items = t.items := by
    rw [Text.items_eq nil_not_mem_items (comma_not_mem_items s), hinner,
      ← Text.items_eq nil_not_mem_items (comma_not_mem_items t)]
  have hdims : s.dims = t.dims :=
    List.map_injective_iff.2
      (fun _ _ h => Dim.toString_injective (String.toList_injective h)) hitems
  exact congrArg Shape.mk hdims

/-- A shape of which the text is read has extents that fit. -/
theorem fitsSigned_of_parse_toString (h : Shape.parse s.toString = .ok s') : s.FitsSigned := by
  rw [Shape.parse_toString] at h
  cases hdims : s.dims.mapM fun d => Dim.parse d.toString.toList with
  | error err =>
    rw [hdims] at h
    cases h
  | ok dims =>
    intro d hd
    obtain ⟨d', -, hd'⟩ :=
      exists_mem_of_forall₂ ((mapM_eq_ok_iff fun _ _ => Iff.rfl).1 hdims) d hd
    exact Dim.fitsSigned_of_parse_toString hd'

/-- The text of a shape is refused for the first extent that does not fit. -/
theorem exists_extent_of_parse_toString (h : Shape.parse s.toString = .error err) :
    ∃ before extent after, s.dims = before ++ .fixed extent :: after ∧
      (∀ d ∈ before, d.FitsSigned) ∧ Int64.maxValue.toInt < extent.toNat ∧
      err = .invalidDim (Nat.repr extent.toNat) := by
  rw [Shape.parse_toString] at h
  cases hdims : s.dims.mapM fun d => Dim.parse d.toString.toList with
  | ok dims =>
    rw [hdims] at h
    cases h
  | error err' =>
    rw [hdims] at h
    obtain rfl := Except.error.inj h
    obtain ⟨before, d, after, hsplit, hbefore, hd⟩ := mapM_eq_error_iff.1 hdims
    obtain ⟨extent, rfl, hlarge, herr⟩ := Dim.exists_extent_of_parse_toString hd
    refine ⟨before, extent, after, hsplit, fun d hd => ?_, hlarge, herr⟩
    obtain ⟨d', hd'⟩ := hbefore d hd
    exact Dim.fitsSigned_of_parse_toString hd'

/-- Printing loses nothing, and reading undoes it exactly where the extents fit. Where they do not,
the first that is too large is refused. -/
theorem parse_toString_exact :
    (∀ s : Shape, (Shape.parse s.toString = .ok s ↔ s.FitsSigned) ∧
      (s.FitsSigned ∨ ∃ before extent after, s.dims = before ++ .fixed extent :: after ∧
        (∀ d ∈ before, d.FitsSigned) ∧ Int64.maxValue.toInt < extent.toNat ∧
        Shape.parse s.toString = .error (.invalidDim (Nat.repr extent.toNat)))) ∧
    Function.Injective Shape.toString := by
  refine ⟨fun s => ⟨⟨fitsSigned_of_parse, FitsSigned.parse_toString⟩, ?_⟩, toString_injective⟩
  cases h : Shape.parse s.toString with
  | ok s' => exact Or.inl (fitsSigned_of_parse_toString h)
  | error err =>
    obtain ⟨before, extent, after, hsplit, hbefore, hlarge, rfl⟩ :=
      exists_extent_of_parse_toString h
    exact Or.inr ⟨before, extent, after, hsplit, hbefore, hlarge, rfl⟩

end Shape

end OpGraph
