import MaskedInput.Mask.Stencil
import Mathlib.Data.List.Induction
import Mathlib.Data.List.Nodup

/-!
# The slots of a stencil

The number of slots is counted in two ways: along with every other character when the placeholder is
inferred, and directly when it is set. Both give the occurrences of the placeholder in the pattern.
A compiled stencil keeps the mask it was compiled from; nothing is said here of masks that are
refused.
-/
namespace MaskedInput
namespace Placeholder

theorem bump_map_of_mem (c : Char) (n : Char → Nat) (seen : List Char) (distinct : seen.Nodup)
    (member : c ∈ seen) :
    bump c (seen.map fun d => (d, n d)) =
      seen.map fun d => (d, if d = c then n d + 1 else n d) := by
  induction seen with
  | nil => simp at member
  | cons head tail ih =>
    obtain ⟨fresh, distinct⟩ := List.nodup_cons.mp distinct
    by_cases equal : head = c
    · subst head
      have others : ∀ d ∈ tail, d ≠ c := fun d belongs equal => fresh (equal ▸ belongs)
      simp +contextual [bump, others]
    · have belongs : c ∈ tail := by simpa [Ne.symm equal] using member
      simp [bump, equal, ih distinct belongs]

theorem bump_map_of_not_mem (c : Char) (n : Char → Nat) (seen : List Char) (fresh : c ∉ seen) :
    bump c (seen.map fun d => (d, n d)) = (seen.map fun d => (d, n d)) ++ [(c, 1)] := by
  induction seen with
  | nil => rfl
  | cons head tail ih =>
    have different : head ≠ c := fun equal => fresh (by simp [equal])
    have absent : c ∉ tail := fun belongs => fresh (by simp [belongs])
    simp [bump, different, ih absent]

theorem eraseDups_concat (pattern : Text) (c : Char) :
    (pattern ++ [c]).eraseDups =
      if c ∈ pattern then pattern.eraseDups else pattern.eraseDups ++ [c] := by
  rw [List.eraseDups_append]
  by_cases member : c ∈ pattern <;> simp [List.removeAll, member, List.eraseDups_cons]

theorem nodup_eraseDups (pattern : Text) : pattern.eraseDups.Nodup := by
  induction pattern using List.reverseRecOn with
  | nil => exact List.nodup_nil
  | append_singleton pattern c ih =>
    rw [eraseDups_concat]
    split
    · exact ih
    next fresh =>
      rw [← List.concat_eq_append]
      exact ih.concat (by simpa using fresh)

/-- Every character of the pattern is listed once, where it first occurs, with its count. -/
theorem tally_eq (pattern : Text) :
    tally pattern = pattern.eraseDups.map fun c => (c, pattern.count c) := by
  induction pattern using List.reverseRecOn with
  | nil => rfl
  | append_singleton pattern c ih =>
    have step : tally (pattern ++ [c]) = bump c (tally pattern) := by simp [tally]
    rw [step, ih, eraseDups_concat]
    split
    next member =>
      rw [bump_map_of_mem c _ _ (nodup_eraseDups pattern) (by simpa using member)]
      apply List.map_congr_left
      intro d _
      by_cases equal : d = c
      · simp [equal]
      · simp [equal, Ne.symm equal]
    next fresh =>
      rw [bump_map_of_not_mem c _ _ (by simpa using fresh), List.map_append]
      congr 1
      · apply List.map_congr_left
        intro d belongs
        have different : c ≠ d := fun equal => fresh (by simpa [equal] using belongs)
        simp [different]
      · simp [List.count_eq_zero.mpr fresh]

/-- The choice is the start value if no entry counts more, and else an entry that counts more than the
start value and all entries in front of it, and no less than those behind it. -/
theorem mostFrequent_first (start : Char × Nat) (counts : List (Char × Nat)) :
    (mostFrequent start counts = start ∧ ∀ entry ∈ counts, entry.2 ≤ start.2) ∨
      ∃ before after, counts = before ++ mostFrequent start counts :: after ∧
        start.2 < (mostFrequent start counts).2 ∧
        (∀ entry ∈ before, entry.2 < (mostFrequent start counts).2) ∧
        ∀ entry ∈ after, entry.2 ≤ (mostFrequent start counts).2 := by
  induction counts generalizing start with
  | nil => exact .inl ⟨rfl, by simp⟩
  | cons head tail ih =>
    have step : mostFrequent start (head :: tail) =
        mostFrequent (if start.2 < head.2 then head else start) tail := rfl
    rw [step]
    split
    next more =>
      rcases ih head with ⟨same, bound⟩ | ⟨before, after, split, above, smaller, bound⟩
      · exact .inr ⟨[], tail, by simp [same], by rwa [same], by simp, by rwa [same]⟩
      · refine .inr ⟨head :: before, after, congrArg (head :: ·) split, Nat.lt_trans more above, ?_,
          bound⟩
        exact List.forall_mem_cons.mpr ⟨above, smaller⟩
    next notMore =>
      have least := Nat.not_lt.mp notMore
      rcases ih start with ⟨same, bound⟩ | ⟨before, after, split, above, smaller, bound⟩
      · exact .inl ⟨same, List.forall_mem_cons.mpr ⟨least, bound⟩⟩
      · refine .inr ⟨head :: before, after, congrArg (head :: ·) split, above, ?_, bound⟩
        exact List.forall_mem_cons.mpr ⟨Nat.lt_of_le_of_lt least above, smaller⟩

/-- What is inferred comes with its count. Of the characters listed, those in front of it occur less
often and those behind it no more often. -/
theorem infer_listed {pattern : Text} (nonempty : pattern ≠ []) :
    ∃ c front back, infer pattern = (c, pattern.count c) ∧ pattern.eraseDups = front ++ c :: back ∧
      (∀ d ∈ front, pattern.count d < pattern.count c) ∧
      ∀ d ∈ back, pattern.count d ≤ pattern.count c := by
  have first := mostFrequent_first (defaultPlaceholder, 0) (tally pattern)
  rw [← infer] at first
  generalize infer pattern = chosen at first ⊢
  rw [tally_eq] at first
  rcases first with ⟨-, bound⟩ | ⟨before, after, split, -, smaller, bound⟩
  · obtain ⟨c, inside⟩ := List.exists_mem_of_ne_nil pattern nonempty
    have occurs := List.count_pos_iff.mpr inside
    have absent : pattern.count c ≤ 0 := bound _ (List.mem_map.mpr ⟨c, by simpa using inside, rfl⟩)
    omega
  · obtain ⟨front, rest, listed, rfl, later⟩ := List.map_eq_append_iff.mp split
    obtain ⟨c, back, rfl, rfl, rfl⟩ := List.map_eq_cons_iff.mp later
    exact ⟨c, front, back, rfl, listed, fun d member => smaller _ (List.mem_map_of_mem member),
      fun d member => bound _ (List.mem_map_of_mem member)⟩

/-- What is inferred comes with the exact number of its occurrences. -/
theorem infer_count (pattern : Text) :
    (infer pattern).2 = pattern.count (infer pattern).1 := by
  by_cases nonempty : pattern = []
  · rw [nonempty]
    rfl
  · obtain ⟨c, -, -, chosen, -⟩ := infer_listed nonempty
    rw [chosen]

end Placeholder

/-- However the placeholder is found, the slots counted are its occurrences. -/
theorem Mask.slotting_count (mask : Mask) :
    mask.slotting.2 = mask.pattern.count mask.slotting.1 := by
  unfold Mask.slotting
  split
  · rfl
  · exact Placeholder.infer_count mask.pattern

/-- A mask that compiles is kept by its stencil, with the placeholder and the slots found in it. -/
theorem Mask.compile_success (mask : Mask) (st : Stencil) (compiled : mask.compile = .ok st) :
    st.mask = mask ∧ (st.placeholder, st.slotCount) = mask.slotting := by
  unfold Mask.compile at compiled
  split at compiled
  · cases compiled
  · dsimp only at compiled
    split at compiled
    · cases compiled
    · cases compiled
      exact ⟨rfl, rfl⟩

/-- A stencil has as many slots as its pattern has placeholders. -/
theorem Mask.slotCount_of_compile {mask : Mask} {st : Stencil} (compiled : mask.compile = .ok st) :
    st.slotCount = st.pattern.count st.placeholder := by
  obtain ⟨kept, found⟩ := mask.compile_success st compiled
  have marker : st.placeholder = mask.slotting.1 := congrArg Prod.fst found
  have slots : st.slotCount = mask.slotting.2 := congrArg Prod.snd found
  rw [slots, marker, Stencil.pattern, kept, mask.slotting_count]

/-- A mask that compiles is not too long. -/
theorem Mask.length_pattern_of_compile {mask : Mask} {st : Stencil}
    (compiled : mask.compile = .ok st) : st.pattern.length ≤ maxPatternLength := by
  have same : st.pattern = mask.pattern :=
    congrArg Mask.pattern (mask.compile_success st compiled).1
  unfold Mask.compile at compiled
  split at compiled
  · cases compiled
  next short =>
    rw [same]
    exact Nat.not_lt.mp short

/-- The stencil of a specification belongs to its pattern, and counts the slots in it. -/
theorem Spec.stencil_success (spec : Spec) (st : Stencil) (compiled : spec.stencil = .ok st) :
    spec.pattern = some st.pattern ∧ st.slotCount = st.pattern.count st.placeholder := by
  unfold Spec.stencil at compiled
  split at compiled
  · cases compiled
  next pattern given =>
    have same : st.pattern = spec.mask.pattern :=
      congrArg Mask.pattern (Mask.compile_success _ _ compiled).1
    exact ⟨by simp [same, given, Spec.mask], Mask.slotCount_of_compile compiled⟩

theorem Spec.length_pattern_of_stencil {spec : Spec} {st : Stencil}
    (compiled : spec.stencil = .ok st) : st.pattern.length ≤ maxPatternLength := by
  unfold Spec.stencil at compiled
  split at compiled
  · cases compiled
  · exact Mask.length_pattern_of_compile compiled

end MaskedInput
