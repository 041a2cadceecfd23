import MaskedInput.Formatting
import MaskedInput.Proofs.Mask.Slots

/-!
# The inferred placeholder

The placeholder of a pattern is its most frequent character, and of several that are equally
frequent the one that occurs first. This singles out one character with one count. To set the
inferred placeholder explicitly changes nothing: the mask compiles to a stencil that works in the
same way or fails with the same error, and every text is formatted and cleared as before.
-/
namespace MaskedInput
namespace Placeholder

/-- The character occurs this many times in the pattern, no other occurs more often, and each other
one that occurs as often does so later for the first time. -/
structure EarliestMostFrequent (pattern : Text) (c : Char) (n : Nat) : Prop where
  count : pattern.count c = n
  most : ∀ d, pattern.count d ≤ n
  earliest : ∀ d, d ≠ c → pattern.count d = n → pattern.idxOf c < pattern.idxOf d

/-- Characters are listed in the order of their first occurrences. -/
theorem pairwise_idxOf_eraseDups (pattern : Text) :
    pattern.eraseDups.Pairwise fun c d => pattern.idxOf c < pattern.idxOf d := by
  induction pattern using List.reverseRecOn with
  | nil => exact List.Pairwise.nil
  | append_singleton pattern x ih =>
    have unmoved : pattern.eraseDups.Pairwise fun c d =>
        (pattern ++ [x]).idxOf c < (pattern ++ [x]).idxOf d := by
      refine ih.imp_of_mem fun first second before => ?_
      rwa [List.idxOf_append_of_mem (List.mem_eraseDups.mp first),
        List.idxOf_append_of_mem (List.mem_eraseDups.mp second)]
    rw [eraseDups_concat]
    split
    · exact unmoved
    next fresh =>
      refine List.pairwise_append.mpr ⟨unmoved, List.pairwise_singleton _ _, ?_⟩
      intro c member d last
      have inside := List.mem_eraseDups.mp member
      rw [List.mem_singleton.mp last, List.idxOf_append_of_mem inside,
        List.idxOf_append_of_notMem fresh]
      exact Nat.lt_add_right _ (List.idxOf_lt_length_iff.mpr inside)

theorem infer_earliestMostFrequent {pattern : Text} (nonempty : pattern ≠ []) :
    EarliestMostFrequent pattern (infer pattern).1 (infer pattern).2 := by
  obtain ⟨c, front, back, chosen, listed, fewer, noMore⟩ := infer_listed nonempty
  rw [chosen]
  have place {d : Char} (inside : d ∈ pattern) : d ∈ front ∨ d = c ∨ d ∈ back := by
    simpa [listed] using List.mem_eraseDups.mpr inside
  refine ⟨rfl, fun d => ?_, fun d other asOften => ?_⟩
  · by_cases inside : d ∈ pattern
    · rcases place inside with before | rfl | after
      · exact Nat.le_of_lt (fewer d before)
      · exact Nat.le_refl _
      · exact noMore d after
    · rw [List.count_eq_zero.mpr inside]
      exact Nat.zero_le _
  · have occurs : c ∈ pattern := by
      rw [← List.mem_eraseDups, listed]
      exact List.mem_append_right front List.mem_cons_self
    have inside : d ∈ pattern := by
      rw [← List.count_pos_iff] at occurs ⊢
      omega
    rcases place inside with before | same | after
    · exact absurd asOften (Nat.ne_of_lt (fewer d before))
    · exact absurd same other
    · -- Of two characters listed, the one listed first occurs first.
      have order := pairwise_idxOf_eraseDups pattern
      rw [listed] at order
      exact (List.pairwise_cons.mp (List.pairwise_append.mp order).2.1).1 d after

/-- No second character is earliest among the most frequent ones. -/
theorem EarliestMostFrequent.unique {pattern : Text} {c d : Char} {n m : Nat}
    (first : EarliestMostFrequent pattern c n) (second : EarliestMostFrequent pattern d m) :
    c = d ∧ n = m := by
  have same : n = m := by
    have atMost := second.most c
    have atLeast := first.most d
    rw [first.count] at atMost
    rw [second.count] at atLeast
    omega
  refine ⟨?_, same⟩
  by_contra other
  have before := first.earliest d (Ne.symm other) (second.count.trans same.symm)
  have after := second.earliest c other (first.count.trans same)
  omega

end Placeholder

/-- The mask with its placeholder set, also if it was inferred. -/
def Mask.spelledOut (mask : Mask) : Mask := { mask with placeholder := some mask.slotting.1 }

/-- The specification with its placeholder set, also if it was inferred. -/
def Spec.spelledOut (spec : Spec) : Spec := { spec with placeholder := some spec.mask.slotting.1 }

/-- Whether two stencils have the same slots and read the same texts in the same way. -/
structure Stencil.WorksLike (st other : Stencil) : Prop where
  pattern : st.pattern = other.pattern
  placeholder : st.placeholder = other.placeholder
  slotCount : st.slotCount = other.slotCount
  holdsSlot : ∀ index, st.holdsSlot index = other.holdsSlot index
  hasSlotAtOrAfter : ∀ index, st.hasSlotAtOrAfter index = other.hasSlotAtOrAfter index
  expression : st.expression = other.expression

/-- The stencil as if its placeholder had been set. -/
def Stencil.spelledOut (st : Stencil) : Stencil :=
  { st with mask := { st.mask with placeholder := some st.placeholder } }

theorem Stencil.worksLike_spelledOut (st : Stencil) : st.WorksLike st.spelledOut :=
  ⟨rfl, rfl, rfl, fun _ => rfl, fun _ => rfl, rfl⟩

theorem Mask.slotting_spelledOut (mask : Mask) : mask.spelledOut.slotting = mask.slotting :=
  Prod.ext rfl mask.slotting_count.symm

/-- A stencil remembers whether its placeholder was set; nothing else depends on that. -/
theorem Mask.compile_spelledOut (mask : Mask) :
    mask.spelledOut.compile = mask.compile.map Stencil.spelledOut := by
  have same : mask.spelledOut.pattern = mask.pattern := rfl
  simp only [compile, slotting_spelledOut, same]
  split
  · rfl
  · split <;> rfl

namespace Spec

variable (spec : Spec)

theorem stencil_spelledOut : spec.spelledOut.stencil = spec.stencil.map Stencil.spelledOut := by
  have same : spec.spelledOut.pattern = spec.pattern := rfl
  have mask : spec.spelledOut.mask = spec.mask.spelledOut := rfl
  rw [stencil, stencil, same, mask, Mask.compile_spelledOut]
  cases spec.pattern <;> rfl

theorem formatOutcome_spelledOut (t : Text) :
    spec.spelledOut.formatOutcome t = spec.formatOutcome t := by
  rw [formatOutcome, formatOutcome, stencil_spelledOut]
  cases spec.stencil <;> rfl

theorem clearOutcome_spelledOut (mode : ClearMode) (t : Text) :
    spec.spelledOut.clearOutcome mode t = spec.clearOutcome mode t := by
  rw [clearOutcome, clearOutcome, stencil_spelledOut]
  cases spec.stencil <;> rfl

end Spec

/-- What is inferred from a pattern is the earliest of its most frequent characters with its count,
and nothing else is. To set it explicitly gives the same slots, the same errors, and the same
results for every text. -/
theorem Placeholder.infer_exactly (pattern : Text) (nonempty : pattern ≠ []) :
    let inferred : Mask := { pattern, placeholder := none }
    let explicit : Mask := { pattern, placeholder := some (infer pattern).1 }
    (∀ c n, infer pattern = (c, n) ↔ EarliestMostFrequent pattern c n) ∧
    (inferred.slotting = infer pattern ∧ explicit.slotting = infer pattern) ∧
    (∀ e, inferred.compile = .error e ↔ explicit.compile = .error e) ∧
    (∀ st, inferred.compile = .ok st → ∃ other, explicit.compile = .ok other ∧ st.WorksLike other) ∧
    ∀ spec : Spec, spec.pattern = some pattern → spec.placeholder = none →
      ∀ t : Text, Spec.format { spec with placeholder := some (infer pattern).1 } t = spec.format t ∧
        ∀ mode, Spec.clearBy { spec with placeholder := some (infer pattern).1 } mode t =
          spec.clearBy mode t := by
  intro inferred explicit
  have spelled : explicit.compile = inferred.compile.map Stencil.spelledOut :=
    inferred.compile_spelledOut
  refine ⟨fun c n => ⟨?_, ?_⟩, ⟨rfl, inferred.slotting_spelledOut⟩, fun e => ?_,
    fun st compiled => ?_, ?_⟩
  · intro chosen
    have first := infer_earliestMostFrequent nonempty
    rwa [chosen] at first
  · intro first
    obtain ⟨same, count⟩ := (infer_earliestMostFrequent nonempty).unique first
    exact Prod.ext same count
  · rw [spelled]
    cases inferred.compile <;> simp [Except.map]
  · exact ⟨st.spelledOut, by rw [spelled, compiled]; rfl, st.worksLike_spelledOut⟩
  · intro spec given unset t
    have own : spec.mask.slotting = infer pattern := by
      rw [Spec.mask, given, unset]
      rfl
    rw [← own]
    refine ⟨?_, fun mode => ?_⟩
    · exact congrArg (Outcome.text t) (spec.formatOutcome_spelledOut t)
    · exact congrArg (Outcome.text t) (spec.clearOutcome_spelledOut mode t)

/-- A dash and a hash occur twice each, and the dash occurs first. -/
theorem Placeholder.dash_inferred_before_hash :
    let pattern : Text := ['+', '-', '#', '-', '#']
    let spec := Spec.ofPattern pattern
    let explicit : Spec := { spec with placeholder := some '-' }
    let st : Stencil := { mask := spec.mask, placeholder := '-', slotCount := 2 }
    pattern ≠ [] ∧ spec.mask.compile = .ok st ∧ spec.pattern = some pattern ∧
    spec.placeholder = none ∧ EarliestMostFrequent pattern '-' 2 ∧
    (∃ other, explicit.mask.compile = .ok other ∧ st.WorksLike other) ∧
    spec.format ['7', '9'] = ['+', '7', '#', '9', '#'] ∧
    explicit.format ['7', '9'] = ['+', '7', '#', '9', '#'] ∧
    explicit.clear ['+', '7', '#', '9', '#'] = ['7', '9'] := by
  intro pattern spec explicit st
  have nonempty : pattern ≠ [] := List.cons_ne_nil _ _
  obtain ⟨chosen, -, -, compiles, formats⟩ := infer_exactly pattern nonempty
  have written : spec.format ['7', '9'] = ['+', '7', '#', '9', '#'] := by decide
  have read : spec.clear ['+', '7', '#', '9', '#'] = ['7', '9'] := by decide
  exact ⟨nonempty, rfl, rfl, rfl, (chosen '-' 2).mp rfl, compiles st rfl, written,
    (formats spec rfl rfl _).1.trans written, ((formats spec rfl rfl _).2 .pattern).trans read⟩

end MaskedInput
