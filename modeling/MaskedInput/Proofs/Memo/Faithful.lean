import MaskedInput.Memo.Users
import MaskedInput.Proofs.Mask.Slots

/-!
# Faithful memories

A store, and the room of a user, are faithful if whatever they remember is what compiling gives.
Asking faithful memories is compiling: the answer is the same, they stay faithful, and a mask that
does not compile leaves them as they were. An operation of a formatter therefore answers as its
specification alone does.
-/
namespace MaskedInput.Memo

/-- Every stencil in the store is compiled from its mask, no mask is there twice, and there is room
for all of them. -/
structure Store.Faithful (store : Store) : Prop where
  compiled : ∀ mask st, (mask, st) ∈ store.entries → mask.compile = .ok st
  distinct : (store.entries.map Prod.fst).Nodup
  bounded : store.entries.length ≤ capacity

/-- The stencil used last, if there is one, is compiled from its mask. -/
def Last.Faithful (last : Last) : Prop :=
  ∀ st, last.stencil = some st → st.mask.compile = .ok st

theorem Last.faithful_empty : Last.Faithful {} := by
  intro st held
  cases held

namespace Store

theorem faithful_empty : Faithful {} where
  compiled := by simp
  distinct := by simp
  bounded := by simp

theorem mem_of_find? {store : Store} {mask : Mask} {st : Stencil}
    (found : store.find? mask = some st) : (mask, st) ∈ store.entries := by
  obtain ⟨before, after, split, -⟩ := List.lookup_eq_some_iff.mp found
  simp [split]

/-- A mask that is not found is not among those that are stored. -/
theorem not_mem_of_find? {store : Store} {mask : Mask} (missing : store.find? mask = none) :
    mask ∉ store.entries.map Prod.fst := by
  intro stored
  obtain ⟨entry, member, equal⟩ := List.mem_map.mp stored
  have other := List.lookup_eq_none_iff.mp missing entry member
  simp [equal] at other

theorem Faithful.insert {store : Store} (faithful : store.Faithful) {mask : Mask} {st : Stencil}
    (missing : store.find? mask = none) (compiled : mask.compile = .ok st) :
    (store.insert mask st).Faithful := by
  unfold Store.insert
  by_cases full : capacity ≤ store.entries.length
  · simp only [full, if_true]
    constructor
    · intro other stored member
      simp only [List.mem_singleton, Prod.mk.injEq] at member
      rw [member.1, member.2]
      exact compiled
    · simp
    · simp [capacity]
  · simp only [full, if_false]
    constructor
    · intro other stored member
      rcases List.mem_cons.mp member with new | old
      · cases new
        exact compiled
      · exact faithful.compiled other stored old
    · rw [List.map_cons, List.nodup_cons]
      exact ⟨not_mem_of_find? missing, faithful.distinct⟩
    · rw [List.length_cons]
      omega

/-- Asking a faithful store. -/
theorem Faithful.obtain {store : Store} (faithful : store.Faithful) (mask : Mask) :
    (store.obtain mask).1 = mask.compile ∧ (store.obtain mask).2.Faithful ∧
      ∀ e, mask.compile = .error e → (store.obtain mask).2 = store := by
  unfold Store.obtain
  cases found : store.find? mask with
  | some st =>
    have compiled := faithful.compiled mask st (mem_of_find? found)
    simp only [compiled]
    exact ⟨trivial, faithful, fun _ _ => trivial⟩
  | none =>
    cases compiled : mask.compile with
    | ok st =>
      simp only
      refine ⟨trivial, faithful.insert found compiled, ?_⟩
      intro e refused
      cases refused
    | error e =>
      simp only
      exact ⟨trivial, faithful, fun _ _ => trivial⟩

end Store

/-- Asking a faithful room, and behind it a faithful store. -/
theorem Last.Faithful.obtain {last : Last} {store : Store} (faithful : last.Faithful)
    (shared : store.Faithful) (mask : Mask) :
    (last.obtain store mask).1 = mask.compile ∧ (last.obtain store mask).2.1.Faithful ∧
      (last.obtain store mask).2.2.Faithful ∧
      ∀ e, mask.compile = .error e → (last.obtain store mask).2 = (last, store) := by
  unfold Last.obtain
  cases held : last.stencil.filter (·.mask = mask) with
  | some st =>
    obtain ⟨remembered, same⟩ := Option.filter_eq_some_iff.mp held
    have compiled := faithful st remembered
    rw [of_decide_eq_true same] at compiled
    simp only [compiled]
    exact ⟨trivial, faithful, shared, fun _ _ => trivial⟩
  | none =>
    obtain ⟨answer, kept, refused⟩ := shared.obtain mask
    cases served : store.obtain mask with
    | mk result left =>
      rw [served] at answer kept refused
      simp only at answer kept refused
      cases result with
      | ok st =>
        simp only
        refine ⟨answer, ?_, kept, ?_⟩
        · intro new holds
          cases holds
          rw [(Mask.compile_success mask st answer.symm).1]
          exact answer.symm
        · intro e wrong
          rw [wrong] at answer
          cases answer
      | error e =>
        simp only
        refine ⟨answer, faithful, kept, ?_⟩
        intro e' wrong
        rw [refused e' wrong]

/-- What an operation of a formatter gives and leaves behind: the expected answer, the same
specification and faithful memories; and all as it was if the mask does not compile. -/
structure Serves {α : Type} (f : Formatter) (store : Store) (expected : α)
    (r : α × Formatter × Store) : Prop where
  answer : r.1 = expected
  spec : r.2.1.spec = f.spec
  faithful : r.2.1.last.Faithful
  shared : r.2.2.Faithful
  refused : ∀ e, f.spec.mask.compile = .error e → r.2 = (f, store)

theorem Serves.map {α β : Type} {f : Formatter} {store : Store} {expected : α}
    {r : α × Formatter × Store} (serves : Serves f store expected r) (g : α → β) :
    Serves f store (g expected) (g r.1, r.2) where
  answer := congrArg g serves.answer
  spec := serves.spec
  faithful := serves.faithful
  shared := serves.shared
  refused := serves.refused

namespace Formatter

variable {f : Formatter} {store : Store} (faithful : f.last.Faithful) (shared : store.Faithful)
include faithful shared

theorem serves_unchanged {α : Type} (answer : α) : Serves f store answer (answer, f, store) where
  answer := rfl
  spec := rfl
  faithful := faithful
  shared := shared
  refused := fun _ _ => rfl

theorem serves_stencil : Serves f store f.spec.stencil (f.stencil store) := by
  unfold stencil Spec.stencil
  cases f.spec.pattern with
  | none => exact serves_unchanged faithful shared _
  | some pattern =>
    obtain ⟨answer, last, left, refused⟩ := faithful.obtain shared f.spec.mask
    constructor
    · exact answer
    · rfl
    · exact last
    · exact left
    · intro e wrong
      simp only [refused e wrong]

/-- An operation that has nothing to do whenever it does without the stencil. -/
theorem serves_run (t : Text) (operation : Spec → Except MaskError Stencil → Text → Outcome)
    (idle : (f.spec.hasNoMask || t.isEmpty) = true →
      operation f.spec f.spec.stencil t = .untouched) :
    Serves f store (operation f.spec f.spec.stencil t) (f.run store t operation) := by
  unfold run
  by_cases nothing : (f.spec.hasNoMask || t.isEmpty) = true
  · rw [if_pos nothing, idle nothing]
    exact serves_unchanged faithful shared _
  · rw [if_neg nothing]
    have served := serves_stencil faithful shared
    have answer := served.map fun stencil => operation f.spec stencil t
    simpa only [served.spec] using answer

theorem serves_format (t : Text) :
    Serves f store (f.spec.formatOutcome t) (f.format store t) :=
  serves_run faithful shared t Spec.formatUsing fun nothing => by
    simp only [Spec.formatUsing, nothing, if_true]

theorem serves_clearBy (mode : ClearMode) (t : Text) :
    Serves f store (f.spec.clearOutcome mode t) (f.clearBy store mode t) :=
  serves_run faithful shared t (fun spec stencil t => spec.clearUsing stencil mode t)
    fun nothing => by simp only [Spec.clearUsing, nothing, if_true]

theorem serves_placeholder :
    Serves f store (f.spec.stencil.map Stencil.placeholder) (f.placeholder store) :=
  (serves_stencil faithful shared).map _

theorem serves_slotCount :
    Serves f store (f.spec.stencil.map Stencil.slotCount) (f.slotCount store) :=
  (serves_stencil faithful shared).map _

end Formatter
end MaskedInput.Memo
