import MaskedInput.Proofs.Formatting.Usable

/-!
# Spellings of the same beginning

Ignorable texts may be spellings of one thing, such as a country code with or without a plus, a
blank or a bracket. Only the first that matches is dropped, in the order in which they are listed.
It may be shorter than what was typed and leave a part of it, or longer and reach into what comes
behind. Where spellings that begin one another differ in symbols only, none of this shows in the
formatted text.
-/
namespace MaskedInput

/-- If one of the two texts begins the other, the longer one goes on without letters and digits. -/
def Text.DifferInSymbols (s t : Text) : Prop :=
  (s <+: t → alphanumerics (t.drop s.length) = []) ∧
    (t <+: s → alphanumerics (s.drop t.length) = [])

instance (s t : Text) : Decidable (Text.DifferInSymbols s t) :=
  inferInstanceAs (Decidable (_ ∧ _))

namespace LeftBehindFirst

/-- Nothing is dropped from a text that begins with none of the texts, the empty one apart. -/
theorem eq_of_fresh {beginnings : List Text} {t left : Text}
    (behind : LeftBehindFirst beginnings t left) (fresh : ∀ b ∈ beginnings, b <+: t → b = []) :
    left = t := by
  rcases behind with ⟨before, b, after, rfl, -, rfl⟩ | ⟨-, whole⟩
  · have empty : b = [] := fresh b (by simp) (List.prefix_append b left)
    rw [empty, List.nil_append]
  · exact whole

/-- Behind a spelling, or what goes on behind one, all letters and digits are left, whichever of the
spellings is dropped. -/
theorem alphanumerics_eq {beginnings : List Text} {beginning rest left : Text}
    (behind : LeftBehindFirst beginnings (beginning ++ rest) left)
    (symbols : ∀ b ∈ beginnings, b.DifferInSymbols beginning)
    (known : ∃ b ∈ beginnings, b <+: beginning) :
    Text.alphanumerics left = Text.alphanumerics rest := by
  rcases behind with ⟨before, b, after, rfl, -, text⟩ | ⟨none, -⟩
  · obtain ⟨longer, shorter⟩ := symbols b (by simp)
    rcases List.append_eq_append_iff.mp text with ⟨eaten, rfl, rfl⟩ | ⟨remains, rfl, rfl⟩
    · -- What is dropped reaches into the rest, by symbols only.
      have none : Text.alphanumerics eaten = [] := by simpa using shorter (List.prefix_append _ _)
      rw [Text.alphanumerics_append, none, List.nil_append]
    · -- A part of the beginning remains, and it is symbols only.
      have none : Text.alphanumerics remains = [] := by simpa using longer (List.prefix_append _ _)
      rw [Text.alphanumerics_append, none, List.nil_append]
  · obtain ⟨b, member, begins⟩ := known
    exact absurd (begins.trans (List.prefix_append _ _)) (none b member)

end LeftBehindFirst

namespace Spec

/-- The specification with other ignorable texts. -/
def ignoring (spec : Spec) (beginnings : List Text) : Spec := { spec with ignorable := beginnings }

variable {spec : Spec} {st : Stencil}

/-- Only the letters and digits behind what is ignored matter. -/
theorem format_ignoring (compiled : spec.stencil = .ok st) (usable : spec.hasNoMask = false)
    (strict : spec.strict = true) {beginnings : List Text} {t s : Text} (nonempty : t ≠ [])
    (nonempty' : s ≠ [])
    (same : Text.alphanumerics (dropFirstMatching beginnings t) =
      Text.alphanumerics (dropFirstMatching spec.ignorable s)) :
    (spec.ignoring beginnings).format t = spec.format s := by
  rw [(spec.ignoring beginnings).format_eq st compiled usable t nonempty (.inl strict),
    spec.format_eq st compiled usable s nonempty' (.inl strict)]
  change spec.addLead st.pattern (fillSlots st.placeholder st.pattern
    (Text.alphanumerics (dropFirstMatching beginnings t))) = _
  rw [same]

/-- Each spelling of what is ignored gives the same result as the text without it, in whatever order
the spellings are listed, if those that begin one another differ in symbols only. -/
theorem format_any_spelling (spec : Spec) (st : Stencil) (compiled : spec.stencil = .ok st)
    (usable : spec.hasNoMask = false) (strict : spec.strict = true)
    (symbols : ∀ short ∈ spec.ignorable, ∀ long ∈ spec.ignorable, short <+: long →
      Text.alphanumerics (long.drop short.length) = [])
    (order : List Text) (listed : order.Perm spec.ignorable) (e : Text) (spelling : e ∈ order)
    (s : Text) (nonempty : s ≠ []) (fresh : ∀ b ∈ spec.ignorable, b <+: s → b = []) :
    (spec.ignoring order).format (e ++ s) = (spec.ignoring order).format s ∧
      (spec.ignoring order).format s = spec.format s := by
  have differ : ∀ b ∈ order, b.DifferInSymbols e := fun b member =>
    ⟨symbols b (listed.mem_iff.mp member) e (listed.mem_iff.mp spelling),
      symbols e (listed.mem_iff.mp spelling) b (listed.mem_iff.mp member)⟩
  have whole : dropFirstMatching spec.ignorable s = s :=
    (leftBehindFirst_iff.mpr rfl).eq_of_fresh fresh
  have whole' : dropFirstMatching order s = s :=
    (leftBehindFirst_iff.mpr rfl).eq_of_fresh fun b member => fresh b (listed.mem_iff.mp member)
  have letters : Text.alphanumerics (dropFirstMatching order (e ++ s)) = Text.alphanumerics s :=
    (leftBehindFirst_iff.mpr rfl).alphanumerics_eq differ ⟨e, spelling, List.prefix_rfl⟩
  have without : (spec.ignoring order).format s = spec.format s :=
    format_ignoring compiled usable strict nonempty nonempty (by rw [whole, whole'])
  refine ⟨?_, without⟩
  rw [without]
  exact format_ignoring compiled usable strict (List.append_ne_nil_of_right_ne_nil e nonempty)
    nonempty (by rw [letters, whole])

/-- The country code is typed without a blank, and the spelling with a blank is dropped. -/
theorem blank_dropped_with_code :
    let spec : Spec :=
      { pattern := some ['(', '#', '#', '#', ')']
        lead := some ['+', '7', ' ']
        ignorable := [['7'], ['7', ' '], ['+', '7'], ['+', '7', ' ']] }
    let order : List Text := [['+', '7', ' '], ['7', ' '], ['7'], ['+', '7']]
    let st : Stencil := { mask := spec.mask, placeholder := '#', slotCount := 3 }
    let s : Text := [' ', '9', '3']
    (spec.stencil = .ok st ∧ spec.hasNoMask = false ∧ spec.strict = true ∧
      (∀ short ∈ spec.ignorable, ∀ long ∈ spec.ignorable, short <+: long →
        Text.alphanumerics (long.drop short.length) = []) ∧
      order.Perm spec.ignorable ∧ ['+', '7'] ∈ order ∧ s ≠ [] ∧
      ∀ b ∈ spec.ignorable, b <+: s → b = []) ∧
    dropFirstMatching order (['+', '7'] ++ s) = ['9', '3'] ∧
    (spec.ignoring order).format (['+', '7'] ++ s) = ['+', '7', ' ', '(', '9', '3'] := by
  intro spec order st s
  have compiled : spec.stencil = .ok st := rfl
  have symbols : ∀ short ∈ spec.ignorable, ∀ long ∈ spec.ignorable, short <+: long →
      Text.alphanumerics (long.drop short.length) = [] := by decide
  have listed : order.Perm spec.ignorable := by decide
  have spelling : ['+', '7'] ∈ order := by decide
  have nonempty : s ≠ [] := List.cons_ne_nil _ _
  have fresh : ∀ b ∈ spec.ignorable, b <+: s → b = [] := by decide
  refine ⟨⟨compiled, rfl, rfl, symbols, listed, spelling, nonempty, fresh⟩, by decide, ?_⟩
  obtain ⟨same, without⟩ := spec.format_any_spelling st compiled rfl rfl symbols order listed _
    spelling s nonempty fresh
  rw [same, without]
  decide

end Spec
end MaskedInput
