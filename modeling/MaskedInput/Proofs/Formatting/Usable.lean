import MaskedInput.Proofs.Formatting.Filling
import MaskedInput.Proofs.Formatting.Lead

/-!
# Formatting and clearing with a usable mask

Once a mask is known to compile and to be non-empty, formatting is filling and clearing is reading,
each between the handling of the prefix and of the ignorable texts. The two ways of reading accept
the same texts, whatever they make of them.
-/
namespace MaskedInput

namespace Stencil

/-- The elements of the mask with each slot on its own. -/
def singles (st : Stencil) : List Element := st.pattern.map (Element.ofChar st.placeholder)

theorem extract_pattern (st : Stencil) (t : Text) :
    st.extract .pattern t = Cut.value? st.singles t :=
  Cut.value?_ofPattern st.placeholder st.pattern t

theorem extract_positional (st : Stencil) (t : Text) :
    st.extract .positional t =
      (Cut.value? st.singles t).map fun _ => charsOnSlots st.placeholder st.pattern t := by
  rw [← extract_pattern, extract, extract, fits, onSlots_eq]
  cases st.cut? t <;> rfl

@[simp] theorem extract_nil (st : Stencil) (mode : ClearMode) : st.extract mode [] = some [] := by
  cases mode with
  | pattern => rw [extract_pattern, Cut.value?_nil_text]
  | positional => rw [extract_positional, Cut.value?_nil_text]; rfl

/-- A text that lies along the mask is accepted, and so is each end of it. -/
theorem exists_value?_of_liesAlong (st : Stencil) {t r : Text}
    (along : LiesAlong st.placeholder st.pattern t) (suffix : r <:+ t) :
    ∃ v, Cut.value? st.singles r = some v :=
  Option.isSome_iff_exists.mp (Cut.value?_suffix _ suffix (Cut.value?_isSome_of_liesAlong along))

theorem exists_extract_of_liesAlong (st : Stencil) (mode : ClearMode) {t r : Text}
    (along : LiesAlong st.placeholder st.pattern t) (suffix : r <:+ t) :
    ∃ v, st.extract mode r = some v := by
  obtain ⟨v, read⟩ := st.exists_value?_of_liesAlong along suffix
  cases mode with
  | pattern => exact ⟨v, by rw [extract_pattern, read]⟩
  | positional => exact ⟨_, by rw [extract_positional, read, Option.map_some]⟩

theorem liesAlong_fill (st : Stencil) (t : Text) :
    LiesAlong st.placeholder st.pattern
      (fillSlots st.placeholder st.pattern (Text.alphanumerics t)) :=
  liesAlong_fillSlots _ _ _ fun _ member => (List.mem_filter.mp member).2

end Stencil

@[simp] theorem dropFirstMatching_nil (t : Text) : dropFirstMatching [] t = t := rfl

/-- Whatever is dropped in front of a text, an end of it is left. -/
theorem dropFirstMatching_suffix (beginnings : List Text) (t : Text) :
    dropFirstMatching beginnings t <:+ t := by
  unfold dropFirstMatching
  cases found : beginnings.findSome? fun b => Text.afterPrefix? b t with
  | none => exact List.suffix_rfl
  | some rest =>
    obtain ⟨b, -, after⟩ := List.exists_of_findSome?_eq_some found
    rw [(Text.afterPrefix?_eq_some_iff b t rest).mp after]
    exact List.suffix_append b rest

/-- What is left of a text without the first of the given beginnings that it has, or all of it if it
has none of them. -/
def LeftBehindFirst (beginnings : List Text) (t rest : Text) : Prop :=
  (∃ before b after, beginnings = before ++ b :: after ∧ (∀ p ∈ before, ¬p <+: t) ∧ t = b ++ rest) ∨
    ((∀ p ∈ beginnings, ¬p <+: t) ∧ rest = t)

theorem dropFirstMatching_cons (b : Text) (beginnings : List Text) (t : Text) :
    dropFirstMatching (b :: beginnings) t =
      (Text.afterPrefix? b t).getD (dropFirstMatching beginnings t) := by
  simp only [dropFirstMatching, List.findSome?_cons]
  cases Text.afterPrefix? b t <;> rfl

/-- The first of the beginnings that the text has is dropped, and nothing else. -/
theorem leftBehindFirst_iff {beginnings : List Text} {t rest : Text} :
    LeftBehindFirst beginnings t rest ↔ dropFirstMatching beginnings t = rest := by
  constructor
  · rintro (⟨before, b, after, rfl, others, rfl⟩ | ⟨others, rfl⟩)
    · induction before with
      | nil => rw [List.nil_append, dropFirstMatching_cons, Text.afterPrefix?_append, Option.getD_some]
      | cons d before ih =>
        obtain ⟨other, others⟩ := List.forall_mem_cons.mp others
        rw [List.cons_append, dropFirstMatching_cons, Text.afterPrefix?_eq_none other,
          Option.getD_none, ih others]
    · induction beginnings with
      | nil => rfl
      | cons d beginnings ih =>
        obtain ⟨other, others⟩ := List.forall_mem_cons.mp others
        rw [dropFirstMatching_cons, Text.afterPrefix?_eq_none other, Option.getD_none, ih others]
  · rintro rfl
    induction beginnings with
    | nil => exact .inr ⟨by simp, rfl⟩
    | cons b beginnings ih =>
      rw [dropFirstMatching_cons]
      by_cases begins : b <+: t
      · obtain ⟨rest, rfl⟩ := begins
        rw [Text.afterPrefix?_append, Option.getD_some]
        exact .inl ⟨[], b, beginnings, rfl, by simp, rfl⟩
      · rw [Text.afterPrefix?_eq_none begins, Option.getD_none]
        rcases ih with ⟨before, d, after, rfl, others, whole⟩ | ⟨others, whole⟩
        · exact .inl ⟨b :: before, d, after, rfl, List.forall_mem_cons.mpr ⟨begins, others⟩, whole⟩
        · exact .inr ⟨List.forall_mem_cons.mpr ⟨begins, others⟩, whole⟩

namespace Spec

variable (spec : Spec) (st : Stencil)

@[simp] theorem format_nil : spec.format [] = [] := by
  simp [format, formatOutcome, formatUsing, Outcome.text]

@[simp] theorem clearBy_nil (mode : ClearMode) : spec.clearBy mode [] = [] := by
  simp [clearBy, clearOutcome, clearUsing, Outcome.text]

theorem format_of_hasNoMask (empty : spec.hasNoMask = true) (t : Text) : spec.format t = t := by
  simp [format, formatOutcome, formatUsing, empty, Outcome.text]

theorem clearBy_of_hasNoMask (empty : spec.hasNoMask = true) (mode : ClearMode) (t : Text) :
    spec.clearBy mode t = t := by
  simp [clearBy, clearOutcome, clearUsing, empty, Outcome.text]

/-- A specification has no mask exactly if the pattern of its stencil is empty. -/
theorem hasNoMask_eq (compiled : spec.stencil = .ok st) :
    spec.hasNoMask = st.pattern.isEmpty := by
  rw [hasNoMask, (spec.stencil_success st compiled).1]
  cases st.pattern <;> rfl

theorem format_eq (compiled : spec.stencil = .ok st) (usable : spec.hasNoMask = false) (t : Text)
    (nonempty : t ≠ []) (short : spec.strict = true ∨ t.length ≤ st.slotCount) :
    spec.format t = spec.addLead st.pattern (fillSlots st.placeholder st.pattern
      (Text.alphanumerics (dropFirstMatching spec.ignorable t))) := by
  have cut : ¬(!spec.strict && decide (st.slotCount < t.length)) = true := by
    rcases short with strict | short
    · simp [strict]
    · simp [Nat.not_lt.mpr short]
  simp only [format, formatOutcome, formatUsing, usable, List.isEmpty_eq_false_iff.mpr nonempty,
    compiled, Bool.or_self, Bool.false_eq_true, if_false, if_neg cut, Outcome.text]

/-- A mask that is not strict leaves a text alone that has more characters than it has slots. -/
theorem format_overlong (compiled : spec.stencil = .ok st) (lenient : spec.strict = false)
    (t : Text) (long : st.slotCount < t.length) : spec.format t = t := by
  have cut : (!spec.strict && decide (st.slotCount < t.length)) = true := by
    simp [lenient, long]
  simp only [format, formatOutcome, formatUsing, compiled, if_pos cut]
  split <;> rfl

theorem clearBy_eq (compiled : spec.stencil = .ok st) (usable : spec.hasNoMask = false)
    (mode : ClearMode) (t : Text) :
    spec.clearBy mode t = (st.extract mode (spec.dropLead t)).getD (spec.dropLead t) := by
  cases t with
  | nil => rw [clearBy_nil, dropLead_nil, st.extract_nil, Option.getD_some]
  | cons c t =>
    simp only [clearBy, clearOutcome, clearUsing, usable, List.isEmpty_cons, compiled, Bool.or_self,
      Bool.false_eq_true, if_false]
    cases st.extract mode (spec.dropLead (c :: t)) <;> rfl

theorem mem_pattern_of_slots (compiled : spec.stencil = .ok st) (slots : 0 < st.slotCount) :
    st.placeholder ∈ st.pattern :=
  List.count_pos_iff.mp ((spec.stencil_success st compiled).2 ▸ slots)

theorem hasNoMask_of_slots (compiled : spec.stencil = .ok st) (slots : 0 < st.slotCount) :
    spec.hasNoMask = false := by
  rw [spec.hasNoMask_eq st compiled]
  exact List.isEmpty_eq_false_iff.mpr
    (List.ne_nil_of_mem (spec.mem_pattern_of_slots st compiled slots))

/-- Without prefix and ignorable texts, formatting is filling with the letters and digits. -/
theorem format_bare (compiled : spec.stencil = .ok st) (bare : spec.lead = none)
    (keeps : spec.ignorable = []) (slots : 0 < st.slotCount) (t : Text)
    (short : spec.strict = true ∨ t.length ≤ st.slotCount) :
    spec.format t = fillSlots st.placeholder st.pattern (Text.alphanumerics t) := by
  cases t with
  | nil =>
    rw [format_nil]
    exact (fillSlots_nil_of_mem (spec.mem_pattern_of_slots st compiled slots)).symm
  | cons c t =>
    rw [spec.format_eq st compiled (spec.hasNoMask_of_slots st compiled slots) _ (by simp) short,
      addLead_of_none bare, keeps, dropFirstMatching_nil]

/-- Without a prefix, clearing by pattern is reading, and what cannot be read stays as it is. -/
theorem clear_bare (compiled : spec.stencil = .ok st) (bare : spec.lead = none)
    (slots : 0 < st.slotCount) (t : Text) :
    spec.clear t = (Cut.value? st.singles t).getD t := by
  rw [clear, spec.clearBy_eq st compiled (spec.hasNoMask_of_slots st compiled slots),
    dropLead_of_none bare, st.extract_pattern]

end Spec
end MaskedInput
