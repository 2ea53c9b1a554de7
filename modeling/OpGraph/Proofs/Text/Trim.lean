import Mathlib.Data.List.Infix
import Mathlib.Data.List.TakeWhile
import OpGraph.Text.Basic

/-!
# What is left of a trimmed text

To drop a run at an end of a text is to remove as much of it as possible: whatever stands inside the
run is kept, and nothing else is left. So what trimming leaves is the inmost of all texts that
become the given one when blanks are put around them.
-/

namespace OpGraph.Text

variable {p : Char → Bool} {c : Char} {cs cs' core run rest xs : List Char}

section Dropping

/-- What is left when a run is dropped stands in the part behind a run. -/
theorem dropWhile_isInfix (hrun : ∀ c ∈ run, p c = true) (h : xs <:+: run ++ rest) :
    xs.dropWhile p <:+: rest := by
  induction run generalizing xs with
  | nil => exact (List.dropWhile_suffix p).isInfix.trans h
  | cons c run ih =>
    obtain ⟨hc, hrun⟩ := List.forall_mem_cons.1 hrun
    rcases List.infix_cons_iff.1 h with hprefix | hinfix
    · rcases List.prefix_cons_iff.1 hprefix with rfl | ⟨xs', rfl, hxs'⟩
      · exact List.nil_infix
      · rw [List.dropWhile_cons_of_pos hc]
        exact ih hrun hxs'.isInfix
    · exact ih hrun hinfix

/-- A part of a text that does not begin as the dropped run stands in what is left. -/
theorem isInfix_dropWhile (hcore : ∀ c ∈ core.head?, p c = false) (h : core <:+: cs) :
    core <:+: cs.dropWhile p := by
  induction cs with
  | nil => exact h
  | cons c cs ih =>
    by_cases hc : p c
    · rw [List.dropWhile_cons_of_pos hc]
      rcases List.infix_cons_iff.1 h with hprefix | hinfix
      · rcases List.prefix_cons_iff.1 hprefix with rfl | ⟨core', rfl, -⟩
        · exact List.nil_infix
        · exact absurd hc (by simp [hcore c rfl])
      · exact ih hinfix
    · rw [List.dropWhile_cons_of_neg hc]
      exact h

/-- What is left of a text with a run behind it stands in what is before the run. -/
theorem dropRight_isInfix (hrun : ∀ c ∈ run, p c = true) (h : xs <:+: rest ++ run) :
    dropRight p xs <:+: rest := by
  have hreverse : xs.reverse <:+: run.reverse ++ rest.reverse := by
    rw [← List.reverse_append]
    exact List.reverse_infix.2 h
  rw [dropRight, ← List.reverse_infix, List.reverse_reverse]
  exact dropWhile_isInfix (fun c hc => hrun c (List.mem_reverse.1 hc)) hreverse

/-- What does not end as the run stands in what is left. -/
theorem isInfix_dropRight (hcore : ∀ c ∈ core.getLast?, p c = false) (h : core <:+: cs) :
    core <:+: dropRight p cs := by
  rw [dropRight, ← List.reverse_infix, List.reverse_reverse]
  apply isInfix_dropWhile
  · rw [List.head?_reverse]
    exact hcore
  · exact List.reverse_infix.2 h

theorem exists_append_dropWhile (p : Char → Bool) (cs : List Char) :
    ∃ run, (∀ c ∈ run, p c = true) ∧ cs = run ++ cs.dropWhile p :=
  ⟨cs.takeWhile p, fun _ => List.mem_takeWhile_imp, List.takeWhile_append_dropWhile.symm⟩

theorem exists_dropRight_append (p : Char → Bool) (cs : List Char) :
    ∃ run, (∀ c ∈ run, p c = true) ∧ cs = dropRight p cs ++ run := by
  obtain ⟨run, hrun, hcs⟩ := exists_append_dropWhile p cs.reverse
  refine ⟨run.reverse, fun c hc => hrun c (List.mem_reverse.1 hc), ?_⟩
  rw [dropRight, ← List.reverse_append, ← hcs, List.reverse_reverse]

theorem head?_dropWhile (p : Char → Bool) (cs : List Char) :
    ∀ c ∈ (cs.dropWhile p).head?, p c = false := by
  intro c hc
  have hnot := List.head?_dropWhile_not p cs
  rw [Option.mem_def.1 hc] at hnot
  exact hnot

theorem getLast?_dropRight (p : Char → Bool) (cs : List Char) :
    ∀ c ∈ (dropRight p cs).getLast?, p c = false := by
  rw [dropRight, List.getLast?_reverse]
  exact head?_dropWhile p cs.reverse

theorem dropWhile_eq_self (h : ∀ c ∈ cs, p c = false) : cs.dropWhile p = cs := by
  cases cs with
  | nil => rfl
  | cons c cs => simp [h c List.mem_cons_self]

theorem dropRight_eq_self (h : ∀ c ∈ cs, p c = false) : dropRight p cs = cs := by
  rw [dropRight, dropWhile_eq_self fun c hc => h c (List.mem_reverse.1 hc), List.reverse_reverse]

end Dropping

section Padding

/-- The second text is the first with blanks before and behind it. -/
def Padded (core cs : List Char) : Prop :=
  ∃ before after, (∀ c ∈ before, isBlank c = true) ∧ (∀ c ∈ after, isBlank c = true) ∧
    cs = before ++ core ++ after

/-- The text is of some kind and stands in all others of this kind. -/
def Inmost (P : List Char → Prop) (core : List Char) : Prop :=
  P core ∧ ∀ other, P other → core <:+: other

/-- There is only one inmost text, as each of two stands in the other. -/
theorem Inmost.unique {P : List Char → Prop} {core' : List Char} (h : Inmost P core)
    (h' : Inmost P core') : core = core' := by
  have hle : core <:+: core' := h.2 core' h'.1
  have hge : core' <:+: core := h'.2 core h.1
  exact List.infix_antisymm hle hge

theorem Padded.refl (cs : List Char) : Padded cs cs :=
  ⟨[], [], List.forall_mem_nil _, List.forall_mem_nil _, by rw [List.nil_append, List.append_nil]⟩

theorem Padded.trans {mid : List Char} (h : Padded core mid) (hmid : Padded mid cs) :
    Padded core cs := by
  obtain ⟨before, after, hbefore, hafter, rfl⟩ := h
  obtain ⟨before', after', hbefore', hafter', rfl⟩ := hmid
  refine ⟨before' ++ before, after ++ after', ?_, ?_, by simp only [List.append_assoc]⟩
  · exact List.forall_mem_append.2 ⟨hbefore', hbefore⟩
  · exact List.forall_mem_append.2 ⟨hafter, hafter'⟩

theorem Padded.isInfix (h : Padded core cs) : core <:+: cs := by
  obtain ⟨before, after, -, -, rfl⟩ := h
  exact ⟨before, after, rfl⟩

/-- Nothing is around a text but blanks. -/
theorem Padded.isBlank_or_mem (h : Padded core cs) (hc : c ∈ cs) : isBlank c ∨ c ∈ core := by
  obtain ⟨before, after, hbefore, hafter, rfl⟩ := h
  rw [List.append_assoc, List.mem_append, List.mem_append] at hc
  rcases hc with hc | hc | hc
  · exact Or.inl (hbefore c hc)
  · exact Or.inr hc
  · exact Or.inl (hafter c hc)

/-- What is left has blanks around it in the text. -/
theorem padded_trim (cs : List Char) : Padded (trim cs) cs := by
  obtain ⟨before, hbefore, hcs⟩ := exists_append_dropWhile isBlank cs
  obtain ⟨after, hafter, hrest⟩ := exists_dropRight_append isBlank (cs.dropWhile isBlank)
  refine ⟨before, after, hbefore, hafter, ?_⟩
  rw [List.append_assoc, trim, ← hrest, ← hcs]

/-- Of a text that stands in a padded one, what trimming leaves stands in what was padded. -/
theorem Padded.trim_isInfix (h : Padded core cs) (hxs : xs <:+: cs) : trim xs <:+: core := by
  obtain ⟨before, after, hbefore, hafter, rfl⟩ := h
  rw [List.append_assoc] at hxs
  exact dropRight_isInfix hafter (dropWhile_isInfix hbefore hxs)

/-- What neither begins nor ends with a blank is kept. -/
theorem isInfix_trim (hhead : ∀ c ∈ core.head?, isBlank c = false)
    (hlast : ∀ c ∈ core.getLast?, isBlank c = false) (h : core <:+: cs) : core <:+: trim cs :=
  isInfix_dropRight hlast (isInfix_dropWhile hhead h)

/-- Trimming leaves the inmost text. -/
theorem inmost_trim (cs : List Char) : Inmost (Padded · cs) (trim cs) :=
  ⟨padded_trim cs, fun _ hother => hother.trim_isInfix List.infix_rfl⟩

theorem getLast?_trim (cs : List Char) : ∀ c ∈ (trim cs).getLast?, isBlank c = false :=
  getLast?_dropRight isBlank _

theorem head?_trim (cs : List Char) : ∀ c ∈ (trim cs).head?, isBlank c = false := by
  intro c hc
  obtain ⟨run, -, hrest⟩ := exists_dropRight_append isBlank (cs.dropWhile isBlank)
  apply head?_dropWhile isBlank cs
  rw [hrest]
  exact List.mem_head?_append_of_mem_head? hc

/-- Blanks around a text make no difference to what trimming leaves. -/
theorem Padded.trim_eq (h : Padded core cs) : trim cs = trim core := by
  have hinmost : Inmost (Padded · cs) (trim core) := by
    refine ⟨(padded_trim core).trans h, fun other hother => ?_⟩
    refine List.IsInfix.trans ?_ (hother.trim_isInfix List.infix_rfl)
    exact isInfix_trim (head?_trim core) (getLast?_trim core)
      ((padded_trim core).isInfix.trans h.isInfix)
  exact (inmost_trim cs).unique hinmost

theorem trim_eq_self (h : ∀ c ∈ cs, isBlank c = false) : trim cs = cs := by
  rw [trim, dropWhile_eq_self h, dropRight_eq_self h]

theorem not_isBlank_of_isDigit (hc : c.isDigit) : isBlank c = false := by
  have hcode : 48 ≤ c.toNat ∧ c.toNat ≤ 57 := by
    simpa [Char.isDigit, UInt32.le_iff_toNat_le] using hc
  simp [isBlank]
  omega

end Padding

end OpGraph.Text
