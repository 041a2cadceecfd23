import MaskedInput.Extraction.Mode
import MaskedInput.Proofs.Extraction.Reading

/-!
# The preferred cut

A text may have many cuts along a mask, since neighbouring elements may take the same characters. One
of them takes the longest piece for each element, from left to right, and does not look at what this
leaves to the rest of the mask. It exists whenever there is a cut at all: what an element takes more
is taken from the front of what the later ones share, and each end of a text that can be cut can be
cut as well. So it is also the cut that going back over shorter pieces finds first, and the greatest
of all by the lengths of the pieces, compared from left to right.
-/
namespace MaskedInput
namespace Cut

/-- Whether each piece is as long as its element can have it: behind the piece comes no character that
the element takes. -/
def TakesLongest : Cut → Prop
  | [] => True
  | (e, _) :: rest => (∀ c ∈ (text rest).head?, ¬e.accepts c = true) ∧ TakesLongest rest

/-- The lengths of the pieces, in order. -/
def lengths (cut : Cut) : List Nat := cut.map fun p => p.2.length

instance decidableFits (cut : Cut) : Decidable cut.Fits :=
  have (p : Element × Text) : Decidable (∀ c ∈ p.2, p.1.accepts c = true) :=
    List.decidableBAll _ p.2
  List.decidableBAll _ cut

instance decidableIsCutOf (cut : Cut) (es : List Element) (t : Text) :
    Decidable (cut.IsCutOf es t) :=
  inferInstanceAs (Decidable (cut.elements = es ∧ cut.text = t ∧ cut.Fits))

theorem isCutOf_nil {cut : Cut} {t : Text} : cut.IsCutOf [] t ↔ cut = [] ∧ t = [] := by
  constructor
  · rintro ⟨none, rfl, -⟩
    have empty : cut = [] := List.map_eq_nil_iff.mp none
    rw [empty]
    exact ⟨rfl, rfl⟩
  · rintro ⟨rfl, rfl⟩
    exact ⟨rfl, rfl, by simp [Fits]⟩

/-- A cut is a first piece for the first element and a cut of what is left of the text. -/
theorem isCutOf_cons {cut : Cut} {e : Element} {es : List Element} {t : Text} :
    cut.IsCutOf (e :: es) t ↔ ∃ piece rest left, cut = (e, piece) :: rest ∧ t = piece ++ left ∧
      (∀ c ∈ piece, e.accepts c = true) ∧ IsCutOf rest es left := by
  constructor
  · rintro ⟨same, rfl, fits⟩
    obtain ⟨⟨d, piece⟩, rest, rfl, rfl, others⟩ := List.map_eq_cons_iff.mp same
    obtain ⟨here, later⟩ := List.forall_mem_cons.mp fits
    exact ⟨piece, rest, text rest, rfl, rfl, here, others, rfl, later⟩
  · rintro ⟨piece, rest, left, rfl, rfl, taken, others, rfl, fits⟩
    exact ⟨by rw [← others]; rfl, rfl, List.forall_mem_cons.mpr ⟨taken, fits⟩⟩

private theorem dropWhile_of_takeWhile_nil {p : Char → Bool} {t : Text}
    (none : t.takeWhile p = []) : t.dropWhile p = t := by
  have parts := List.takeWhile_append_dropWhile (p := p) (l := t)
  rwa [none, List.nil_append] at parts

/-- The scan takes the longest piece everywhere, and nothing else does. -/
theorem scan_eq_some_iff {es : List Element} {t : Text} {cut : Cut} :
    scan es t = some cut ↔ cut.IsCutOf es t ∧ cut.TakesLongest := by
  induction es generalizing t cut with
  | nil =>
    rw [isCutOf_nil]
    cases t with
    | nil =>
      rw [scan, Option.some.injEq, eq_comm]
      exact ⟨fun empty => ⟨⟨empty, rfl⟩, by rw [empty]; trivial⟩, fun both => both.1.1⟩
    | cons => simp [scan]
  | cons e es ih =>
    rw [scan, Option.map_eq_some_iff, isCutOf_cons]
    constructor
    · rintro ⟨rest, scanned, rfl⟩
      obtain ⟨isCut, longest⟩ := ih.mp scanned
      refine ⟨⟨_, rest, _, rfl, List.takeWhile_append_dropWhile.symm,
        fun c member => List.mem_takeWhile_imp member, isCut⟩, ?_, longest⟩
      intro c first taken
      rw [isCut.2.1] at first
      have stopped := List.head?_dropWhile_not e.accepts t
      rw [Option.mem_def.mp first] at stopped
      simp [taken] at stopped
    · rintro ⟨⟨piece, rest, left, rfl, rfl, taken, isCut⟩, stops, longest⟩
      rw [isCut.2.1] at stops
      have none : left.takeWhile e.accepts = [] := by
        cases left with
        | nil => rfl
        | cons c left => exact List.takeWhile_cons_of_neg (stops c rfl)
      rw [List.takeWhile_append_of_pos taken, List.dropWhile_append_of_pos taken, none,
        dropWhile_of_takeWhile_nil none, List.append_nil]
      exact ⟨rest, ih.mpr ⟨isCut, longest⟩, rfl⟩

/-- Whatever cut a text has, the scan uses the text up. -/
theorem IsCutOf.scan_isSome {es : List Element} {t : Text} {cut : Cut} (isCut : cut.IsCutOf es t) :
    (scan es t).isSome := by
  induction es generalizing t cut with
  | nil =>
    obtain ⟨rfl, rfl⟩ := isCutOf_nil.mp isCut
    rfl
  | cons e es ih =>
    obtain ⟨piece, rest, left, rfl, rfl, taken, others⟩ := isCutOf_cons.mp isCut
    rw [scan, Option.isSome_map, List.dropWhile_append_of_pos taken]
    exact scan_isSome_of_suffix es (List.dropWhile_suffix _) (ih others)

/-- Of two different cuts, the one that takes the longest pieces has the longer piece where they
first differ. -/
theorem IsCutOf.eq_or_shorter {es : List Element} {t : Text} {cut best : Cut}
    (isCut : cut.IsCutOf es t) (scanned : scan es t = some best) :
    cut = best ∨ List.Lex (· < ·) cut.lengths best.lengths := by
  induction es generalizing t cut best with
  | nil =>
    obtain ⟨rfl, rfl⟩ := isCutOf_nil.mp isCut
    exact .inl (Option.some.inj scanned)
  | cons e es ih =>
    obtain ⟨piece, rest, left, rfl, rfl, taken, others⟩ := isCutOf_cons.mp isCut
    rw [scan, Option.map_eq_some_iff, List.takeWhile_append_of_pos taken,
      List.dropWhile_append_of_pos taken] at scanned
    obtain ⟨bestRest, scanned, rfl⟩ := scanned
    cases more : left.takeWhile e.accepts with
    | nil =>
      -- Both pieces are the same, so that the rest decides.
      rw [dropWhile_of_takeWhile_nil more] at scanned
      rw [List.append_nil]
      rcases ih others scanned with rfl | shorter
      · exact .inl rfl
      · exact .inr (.cons shorter)
    | cons c longer =>
      refine .inr (.rel ?_)
      simp

end Cut

namespace Stencil

variable (st : Stencil)

/-- Both ways of reading refuse only texts that do not have the shape of the mask. -/
theorem extract_isSome_eq_fits (mode : ClearMode) (t : Text) :
    (st.extract mode t).isSome = st.fits t := by
  cases mode with
  | pattern => exact Option.isSome_map
  | positional =>
    rw [extract]
    cases st.fits t <;> rfl

/-- A text has the shape of a mask if it can be cut along it. -/
theorem fits_iff (t : Text) : st.fits t = true ↔ ∃ cut : Cut, cut.IsCutOf st.elements t := by
  constructor
  · intro fits
    obtain ⟨cut, found⟩ := Option.isSome_iff_exists.mp fits
    exact ⟨cut, (Cut.scan_eq_some_iff.mp found).1⟩
  · rintro ⟨cut, isCut⟩
    exact isCut.scan_isSome

/-- Both ways of reading accept exactly the texts that can be cut along the mask. Among the cuts of
such a text exactly one takes the longest piece for each element in turn; it is the one found by
going back over shorter pieces, all others are less in their lengths from left to right, and reading
by pattern joins its pieces on the slots. -/
theorem extract_exactly (t : Text) :
    (∀ mode, (st.extract mode t).isSome ↔ ∃ cut : Cut, cut.IsCutOf st.elements t) ∧
    ∀ any : Cut, any.IsCutOf st.elements t → ∃ best : Cut,
      (∀ cut : Cut, cut.IsCutOf st.elements t ∧ cut.TakesLongest ↔ cut = best) ∧
      Cut.search st.elements t = some best ∧
      (∀ cut : Cut, cut.IsCutOf st.elements t → cut ≠ best →
        List.Lex (· < ·) cut.lengths best.lengths) ∧
      st.extract .pattern t = some best.slotText := by
  constructor
  · intro mode
    rw [extract_isSome_eq_fits, fits_iff]
  · intro any isCut
    obtain ⟨best, scanned⟩ := Option.isSome_iff_exists.mp isCut.scan_isSome
    refine ⟨best, fun cut => ?_, ?_, fun cut isCut other => ?_, ?_⟩
    · rw [← Cut.scan_eq_some_iff, scanned, Option.some.injEq, eq_comm]
    · rw [Cut.search_eq_scan, scanned]
    · exact (isCut.eq_or_shorter scanned).resolve_left other
    · rw [extract, cut?, scanned, Option.map_some]

/-- The zero that the mask has behind its slots can be read as part of the value, and is. -/
theorem zeros_behind_slots_read :
    let mask : Mask := { pattern := ['0', '#', '#', '0', '0'], placeholder := some '#' }
    let st : Stencil := { mask, placeholder := '#', slotCount := 2 }
    let intended : Cut :=
      [(.literal '0', ['0']), (.slots, ['a']), (.literal '0', ['0']), (.literal '0', ['0'])]
    mask.compile = .ok st ∧ intended.IsCutOf st.elements ['0', 'a', '0', '0'] ∧
    st.extract .pattern ['0', 'a', '0', '0'] = some ['a', '0', '0'] := by
  intro mask st intended
  have isCut : intended.IsCutOf st.elements ['0', 'a', '0', '0'] := by decide
  obtain ⟨best, -, found, -, read⟩ := (st.extract_exactly ['0', 'a', '0', '0']).2 intended isCut
  have same : best = [(.literal '0', ['0']), (.slots, ['a', '0', '0']), (.literal '0', []),
      (.literal '0', [])] := by
    have searched : Cut.search st.elements ['0', 'a', '0', '0'] = some [(.literal '0', ['0']),
        (.slots, ['a', '0', '0']), (.literal '0', []), (.literal '0', [])] := by decide
    exact Option.some.inj (found.symm.trans searched)
  refine ⟨rfl, isCut, ?_⟩
  rw [read, same]
  rfl

end Stencil
end MaskedInput
