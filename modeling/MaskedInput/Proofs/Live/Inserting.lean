import MaskedInput.Proofs.Live.CleanEditing
import MaskedInput.Proofs.Live.Sessions

/-!
# Typing in the middle of a text

A key that the caret lets into the middle of a text leaves the caret behind it only if the text then
already is what the buffer should show. Otherwise the whole text is written anew, the caret goes to its
end, and all further keys end up there. In a strict mask without literal letters, without a prefix and
without ignorable texts, the text is not written anew as long as nothing but slots stands from the
caret to behind the text; the slots that directly follow the text are the room for such keys. One key
more still finds its place, and after that the keys are torn apart.
-/
namespace MaskedInput

section

variable {placeholder : Char}

/-- A text lies along a pattern if a first part of it takes up a first part of the pattern and the
rest of it lies along the rest. -/
theorem liesAlong_append_iff {front pattern t u : Text} (same : t.length = front.length) :
    LiesAlong placeholder (front ++ pattern) (t ++ u) ↔
      LiesAlong placeholder front t ∧ LiesAlong placeholder pattern u := by
  induction front generalizing t with
  | nil =>
    rw [List.eq_nil_of_length_eq_zero same]
    exact (and_iff_right (liesAlong_nil placeholder [])).symm
  | cons m ms ih =>
    cases t with
    | nil => cases same
    | cons y ys =>
      rw [List.cons_append, List.cons_append, LiesAlong, LiesAlong, ih (Nat.succ.inj same),
        and_assoc]

/-- The slots with which a pattern begins. -/
def leadingSlots (placeholder : Char) (pattern : Text) : Nat :=
  (pattern.takeWhile (· == placeholder)).length

theorem leadingSlots_slot (pattern : Text) :
    leadingSlots placeholder (placeholder :: pattern) = leadingSlots placeholder pattern + 1 := by
  simp [leadingSlots]

theorem leadingSlots_literal {m : Char} (literal : m ≠ placeholder) (pattern : Text) :
    leadingSlots placeholder (m :: pattern) = 0 := by
  simp [leadingSlots, literal]

variable {pattern : Text} (foreign : ∀ m ∈ pattern, m ≠ placeholder → ¬Text.isAlphanumeric m = true)
include foreign

/-- In front of a text that lies along a pattern there is place for a letter if the text stands on
slots only and another slot follows. -/
theorem liesAlong_cons_iff {x : Char} {t : Text} (letter : Text.isAlphanumeric x = true)
    (along : LiesAlong placeholder pattern t) :
    LiesAlong placeholder pattern (x :: t) ↔ t.length < leadingSlots placeholder pattern := by
  induction pattern generalizing x t with
  | nil => exact ⟨False.elim, fun fewer => absurd fewer (Nat.not_lt_zero _)⟩
  | cons m ms ih =>
    by_cases slot : m = placeholder
    · subst m
      rw [leadingSlots_slot, LiesAlong, Element.ofChar_self, Element.accepts_slots,
        and_iff_right letter]
      cases t with
      | nil => simp
      | cons y ys =>
        obtain ⟨accepted, along⟩ := along
        rw [Element.ofChar_self, Element.accepts_slots] at accepted
        rw [ih (fun m member => foreign m (List.mem_cons_of_mem _ member)) accepted along,
          List.length_cons, Nat.add_lt_add_iff_right]
    · -- A letter does not stand on a literal.
      have refused : ¬(Element.ofChar placeholder m).accepts x = true := by
        rw [Element.ofChar_literal slot]
        intro same
        rw [beq_iff_eq.mp same] at letter
        exact foreign m List.mem_cons_self slot letter
      rw [leadingSlots_literal slot, LiesAlong]
      exact ⟨fun both => absurd both.1 refused, fun fewer => absurd fewer (Nat.not_lt_zero _)⟩

/-- A text that lies along a pattern, ends in a letter, and leaves a slot empty is what its letters and
digits look like in the mask. -/
theorem fillSlots_of_liesAlong {t : Text} (along : LiesAlong placeholder pattern t)
    (ends : ∀ y, t.getLast? = some y → Text.isAlphanumeric y = true)
    (fewer : (Text.alphanumerics t).length < pattern.count placeholder) :
    fillSlots placeholder pattern (Text.alphanumerics t) = t := by
  induction pattern generalizing t with
  | nil => simp at fewer
  | cons m ms ih =>
    cases t with
    | nil => exact fillSlots_nil_of_mem (List.count_pos_iff.mp fewer)
    | cons y ys =>
      obtain ⟨accepted, along⟩ := along
      have later := ih (fun m member => foreign m (List.mem_cons_of_mem _ member)) along
      by_cases slot : m = placeholder
      · subst m
        rw [Element.ofChar_self, Element.accepts_slots] at accepted
        rw [Text.alphanumerics, List.filter_cons_of_pos accepted, ← Text.alphanumerics] at fewer ⊢
        rw [List.count_cons_self, List.length_cons, Nat.add_lt_add_iff_right] at fewer
        rw [fillSlots_slot, later _ fewer]
        intro z last
        exact ends z (by rw [List.getLast?_cons, last, Option.getD_some])
      · rw [Element.ofChar_literal slot] at accepted
        obtain rfl : y = m := beq_iff_eq.mp accepted
        have symbol := foreign y List.mem_cons_self slot
        rw [Text.alphanumerics, List.filter_cons_of_neg symbol, ← Text.alphanumerics] at fewer ⊢
        rw [List.count_cons_of_ne slot] at fewer
        -- The literal is not the last character, since that is a letter.
        obtain ⟨z, last⟩ : ∃ z, ys.getLast? = some z := by
          cases ys with
          | nil => exact absurd (ends y rfl) symbol
          | cons c cs => exact ⟨_, List.getLast?_eq_some_getLast (List.cons_ne_nil c cs)⟩
        have letter : Text.isAlphanumeric z = true :=
          ends z (by rw [List.getLast?_cons, last, Option.getD_some])
        have some : Text.alphanumerics ys ≠ [] := List.ne_nil_of_mem
          (List.mem_filter.mpr ⟨List.mem_of_getLast? last, letter⟩)
        rw [fillSlots_literal slot _ _ fun _ => some, later _ fewer]
        intro z' last'
        rw [last, Option.some.injEq] at last'
        exact last' ▸ letter

end

/-- A filled mask in which a slot is left empty ends in a letter. -/
theorem letter_of_last_fillSlots {placeholder y : Char} {pattern v : Text}
    (value : ∀ c ∈ v, Text.isAlphanumeric c = true) (fewer : v.length < pattern.count placeholder)
    (last : (fillSlots placeholder pattern v).getLast? = some y) : Text.isAlphanumeric y = true := by
  cases v using List.reverseRecOn with
  | nil =>
    rw [fillSlots_nil_of_mem (List.count_pos_iff.mp fewer)] at last
    cases last
  | append_singleton v x =>
    obtain ⟨front, back, -, -, filled⟩ := fillSlots_ends_on_slot fewer.le (.inl fewer)
    rw [filled, List.getLast?_concat, Option.some.injEq] at last
    exact value y (by simp [last])

/-- The slots that directly follow a text of this length, if it stands on nothing but slots from the
caret on. -/
def Stencil.room (st : Stencil) (caret length : Nat) : Nat :=
  leadingSlots st.placeholder (st.pattern.drop caret) - (length - caret)

/-- A key takes one place of the room. -/
theorem Stencil.room_succ {st : Stencil} {caret length : Nat} (some : 0 < st.room caret length) :
    st.room (caret + 1) (length + 1) + 1 = st.room caret length := by
  unfold room at some ⊢
  cases split : st.pattern.drop caret with
  | nil => simp [split, leadingSlots] at some
  | cons m ms =>
    have rest : st.pattern.drop (caret + 1) = ms := by
      rw [← List.drop_drop, split, List.drop_succ_cons, List.drop_zero]
    rw [split] at some
    by_cases slot : m = st.placeholder
    · rw [slot, leadingSlots_slot] at some ⊢
      rw [rest]
      omega
    · rw [leadingSlots_literal slot] at some
      omega

namespace Live

namespace Buffer

/-- The letters and digits in front of the caret. -/
def lettersBefore (b : Buffer) : Text := Text.alphanumerics (b.text.take b.caret)

/-- The letters and digits behind the caret. -/
def lettersBehind (b : Buffer) : Text := Text.alphanumerics (b.text.drop b.caret)

theorem alphanumerics_text (b : Buffer) :
    Text.alphanumerics b.text = b.lettersBefore ++ b.lettersBehind := by
  rw [lettersBefore, lettersBehind, ← Text.alphanumerics_append, List.take_append_drop]

/-- Without a prefix an update moves the caret only where it writes. -/
theorem updated_of_bare {spec : Spec} (bare : spec.lead = none) {b : Buffer}
    (settled : b.postponed = []) : b.updated spec = b.shown spec := by
  have move : caretMove spec (fieldText spec b.text) = none := by
    simp only [caretMove, Spec.fixedLead?, bare]
  rw [updated, move, postpone, settle_of_settled]
  unfold shown
  split
  · exact settled
  · exact settled

/-- The text with a key at the caret. -/
def withKey (b : Buffer) (x : Char) : Text := b.text.take b.caret ++ x :: b.text.drop b.caret

/-- A letter or digit that is typed. The caret stays behind it if the text is not written anew, and
goes to the end of the text otherwise. -/
theorem Attached.insert_letter {spec : Spec} {s : Stage Buffer} (attached : Attached spec s)
    (bare : spec.lead = none) {x : Char} (letter : Text.isAlphanumeric x = true) :
    let after := alone.insert host [x] s
    Attached spec after ∧ after.fields.text = fieldText spec (s.fields.withKey x) ∧
      after.fields.caret =
        if fieldText spec (s.fields.withKey x) = s.fields.withKey x then s.fields.caret + 1
        else after.fields.text.length := by
  intro after
  have taken : accepted [x] = [x] := by simp [accepted, letter]
  have inserted : after = alone.edit host s.fields.caret 0 [x] s := by
    rw [← taken]
    exact insert_accepted attached [x] (by simp [taken])
  obtain ⟨still, fields⟩ := edit_attached attached s.fields.caret 0 [x]
  rw [updated_of_bare bare (b := s.fields.exchange s.fields.caret 0 [x]) attached.postponed]
    at fields
  have text : (s.fields.exchange s.fields.caret 0 [x]).text = s.fields.withKey x := by
    simp [exchange, withKey]
  rw [inserted]
  refine ⟨still, by rw [fields, shown_text, text], ?_⟩
  rw [fields, shown, text]
  split <;> rfl

theorem length_withKey (b : Buffer) (x : Char) : (b.withKey x).length = b.text.length + 1 := by
  have whole := congrArg List.length (List.take_append_drop b.caret b.text)
  rw [List.length_append] at whole
  rw [withKey, List.length_append, List.length_cons, ← whole, Nat.add_assoc]

theorem alphanumerics_withKey (b : Buffer) {x : Char} (letter : Text.isAlphanumeric x = true) :
    Text.alphanumerics (b.withKey x) = b.lettersBefore ++ x :: b.lettersBehind := by
  rw [withKey, Text.alphanumerics_append, lettersBefore, lettersBehind, Text.alphanumerics,
    Text.alphanumerics, List.filter_cons_of_pos letter, Text.alphanumerics]

theorem length_alphanumerics_withKey (b : Buffer) {x : Char}
    (letter : Text.isAlphanumeric x = true) :
    (Text.alphanumerics (b.withKey x)).length = (Text.alphanumerics b.text).length + 1 := by
  rw [alphanumerics_withKey b letter, alphanumerics_text, List.length_append, List.length_cons,
    List.length_append, Nat.add_assoc]

/-- With the caret behind the key, the key is the last letter in front of it. -/
theorem letters_of_kept {b next : Buffer} {x : Char} (letter : Text.isAlphanumeric x = true)
    (inside : b.Inside) (text : next.text = b.withKey x) (caret : next.caret = b.caret + 1) :
    next.lettersBefore = b.lettersBefore ++ [x] ∧ next.lettersBehind = b.lettersBehind := by
  have before : (b.text.take b.caret ++ [x]).length = b.caret + 1 := by
    rw [List.length_append, List.length_take_of_le inside, List.length_singleton]
  have split : b.withKey x = b.text.take b.caret ++ [x] ++ b.text.drop b.caret := by
    rw [withKey, List.append_assoc, List.singleton_append]
  constructor
  · rw [lettersBefore, text, caret, split, List.take_left' before, Text.alphanumerics_append,
      Text.alphanumerics_of_all (v := [x]) (by simpa using letter), lettersBefore]
  · rw [lettersBehind, text, caret, split, List.drop_left' before, lettersBehind]

/-- With the caret at the end, all letters are in front of it. -/
theorem letters_of_atEnd {b : Buffer} (atEnd : b.caret = b.text.length) :
    b.lettersBefore = Text.alphanumerics b.text ∧ b.lettersBehind = [] := by
  constructor
  · rw [lettersBefore, atEnd, List.take_length]
  · rw [lettersBehind, atEnd, List.drop_length]
    rfl

theorem last_withKey {b : Buffer} {x y : Char} (letter : Text.isAlphanumeric x = true)
    (ends : ∀ z, b.text.getLast? = some z → Text.isAlphanumeric z = true)
    (last : (b.withKey x).getLast? = some y) : Text.isAlphanumeric y = true := by
  rw [withKey, List.getLast?_append_of_ne_nil _ (List.cons_ne_nil _ _), List.getLast?_cons,
    Option.some.injEq] at last
  cases behind : (b.text.drop b.caret).getLast? with
  | none => rwa [← last, behind, Option.getD_none]
  | some z =>
    rw [behind, Option.getD_some] at last
    rw [List.getLast?_drop] at behind
    split at behind
    · cases behind
    · exact last ▸ ends z behind

end Buffer

section

variable {spec : Spec} {st : Stencil} (compiled : spec.stencil = .ok st) (bare : spec.lead = none)
  (slots : 0 < st.slotCount) (plain : st.Plain) (strict : spec.strict = true)
  (keeps : spec.ignorable = [])
include compiled bare slots plain strict keeps

theorem alphanumerics_fieldText (t : Text) :
    Text.alphanumerics (fieldText spec t) = (Text.alphanumerics t).take st.slotCount := by
  rw [fieldText_plain compiled bare slots plain strict keeps,
    plain.alphanumerics_fillSlots _ (Text.alphanumerics_all t), (spec.stencil_success st compiled).2]

/-- While a slot is left empty, a key at the caret does not make the text be written anew exactly if
there is room for it. -/
theorem fieldText_withKey_iff {b : Buffer} {t : Text} (shown : b.text = fieldText spec t)
    (inside : b.Inside) {x : Char} (letter : Text.isAlphanumeric x = true)
    (fewer : (Text.alphanumerics (b.withKey x)).length < st.slotCount) :
    fieldText spec (b.withKey x) = b.withKey x ↔ 0 < st.room b.caret b.text.length := by
  have count := (spec.stencil_success st compiled).2
  have foreign := st.plain_iff.mp plain
  have filled := shown.trans (fieldText_plain compiled bare slots plain strict keeps t)
  have along : LiesAlong st.placeholder st.pattern b.text := filled ▸ st.liesAlong_fill t
  have short : b.text.length ≤ st.pattern.length := filled ▸ length_fillSlots_le _ _ _
  have same : (b.text.take b.caret).length = (st.pattern.take b.caret).length := by
    have inside : b.caret ≤ b.text.length := inside
    rw [List.length_take, List.length_take]
    omega
  -- Up to the caret nothing changes, and behind it everything moves on by one.
  have parts (u : Text) : LiesAlong st.placeholder st.pattern (b.text.take b.caret ++ u) ↔
      LiesAlong st.placeholder (st.pattern.take b.caret) (b.text.take b.caret) ∧
        LiesAlong st.placeholder (st.pattern.drop b.caret) u := by
    conv_lhs => rw [← List.take_append_drop b.caret st.pattern]
    exact liesAlong_append_iff same
  have whole := along
  rw [← List.take_append_drop b.caret b.text, parts] at whole
  have room : LiesAlong st.placeholder st.pattern (b.withKey x) ↔
      0 < st.room b.caret b.text.length := by
    rw [Buffer.withKey, parts, and_iff_right whole.1, liesAlong_cons_iff
      (fun m member => foreign m (List.mem_of_mem_drop member)) letter whole.2, List.length_drop,
      Stencil.room, Nat.sub_pos_iff_lt]
  rw [← room, fieldText_plain compiled bare slots plain strict keeps]
  constructor
  · intro unchanged
    rw [← unchanged]
    exact st.liesAlong_fill _
  · intro fits
    rw [count] at fewer
    refine fillSlots_of_liesAlong foreign fits (fun y last => ?_) fewer
    refine Buffer.last_withKey letter (fun z last => ?_) last
    rw [filled] at last
    refine letter_of_last_fillSlots (Text.alphanumerics_all t) ?_ last
    have taken := alphanumerics_fieldText compiled bare slots plain strict keeps t
    rw [b.length_alphanumerics_withKey letter, shown, taken, List.length_take, count] at fewer
    omega

/-- A key that fits comes to stand at the caret. -/
theorem alphanumerics_insert_letter {s : Stage Buffer} (attached : Buffer.Attached spec s) {x : Char}
    (letter : Text.isAlphanumeric x = true)
    (fits : (Text.alphanumerics (s.fields.withKey x)).length ≤ st.slotCount) :
    Text.alphanumerics (Buffer.alone.insert Buffer.host [x] s).fields.text =
      s.fields.lettersBefore ++ x :: s.fields.lettersBehind := by
  rw [(attached.insert_letter bare letter).2.1,
    alphanumerics_fieldText compiled bare slots plain strict keeps, List.take_of_length_le fits,
    s.fields.alphanumerics_withKey letter]

/-- A key after which a slot is left empty. If there is room for it, the caret stays behind it, and
there is room for one key less; if there is none, the caret goes behind all letters. -/
theorem letters_insert_letter {s : Stage Buffer} (attached : Buffer.Attached spec s)
    (inside : s.fields.Inside) {t : Text} (shown : s.fields.text = fieldText spec t) {x : Char}
    (letter : Text.isAlphanumeric x = true)
    (fewer : (Text.alphanumerics (s.fields.withKey x)).length < st.slotCount) :
    let room := st.room s.fields.caret s.fields.text.length
    let next := (Buffer.alone.insert Buffer.host [x] s).fields
    next.Inside ∧
    (0 < room → next.lettersBefore = s.fields.lettersBefore ++ [x] ∧
      next.lettersBehind = s.fields.lettersBehind ∧
      st.room next.caret next.text.length + 1 = room) ∧
    (room = 0 → next.lettersBefore = s.fields.lettersBefore ++ x :: s.fields.lettersBehind ∧
      next.lettersBehind = []) := by
  intro room next
  obtain ⟨-, text, caret⟩ := attached.insert_letter bare letter
  change next.text = _ at text
  change next.caret = _ at caret
  have kept_iff := fieldText_withKey_iff compiled bare slots plain strict keeps shown inside letter
    fewer
  by_cases kept : fieldText spec (s.fields.withKey x) = s.fields.withKey x
  · have some := kept_iff.mp kept
    have same := text.trans kept
    have length : next.text.length = s.fields.text.length + 1 := by
      rw [same, Buffer.length_withKey]
    rw [if_pos kept] at caret
    obtain ⟨before, behind⟩ := Buffer.letters_of_kept letter inside same caret
    refine ⟨?_, fun _ => ⟨before, behind, ?_⟩, fun none => absurd none (Nat.ne_of_gt some)⟩
    · rw [Buffer.Inside, caret, length]
      exact Nat.succ_le_succ inside
    · rw [caret, length]
      exact Stencil.room_succ some
  · rw [if_neg kept] at caret
    obtain ⟨before, behind⟩ := Buffer.letters_of_atEnd caret
    refine ⟨caret.le, fun some => absurd (kept_iff.mpr some) kept, fun _ => ⟨?_, behind⟩⟩
    rw [before]
    exact alphanumerics_insert_letter compiled bare slots plain strict keeps attached letter fewer.le

/-- Letters and digits typed at the caret: as many as there is room for and one more stand there, and
the others at the end. -/
theorem alphanumerics_typed {s : Stage Buffer} (attached : Buffer.Attached spec s)
    (inside : s.fields.Inside) {t : Text} (shown : s.fields.text = fieldText spec t) {w : Text}
    (letters : ∀ c ∈ w, Text.isAlphanumeric c = true)
    (fits : w.length + (Text.alphanumerics s.fields.text).length ≤ st.slotCount) :
    let after := Buffer.alone.type Buffer.host w s
    let room := st.room s.fields.caret s.fields.text.length
    (Buffer.Attached spec after ∧ ∃ u, after.fields.text = fieldText spec u) ∧
      Text.alphanumerics after.fields.text = s.fields.lettersBefore ++ w.take (room + 1) ++
        s.fields.lettersBehind ++ w.drop (room + 1) := by
  induction w generalizing s t with
  | nil =>
    refine ⟨⟨attached, t, shown⟩, ?_⟩
    rw [List.take_nil, List.drop_nil, List.append_nil, List.append_nil]
    exact s.fields.alphanumerics_text
  | cons x w ih =>
    intro after room
    obtain ⟨letter, others⟩ := List.forall_mem_cons.mp letters
    obtain ⟨still, text, -⟩ := attached.insert_letter bare letter
    have more := s.fields.length_alphanumerics_withKey letter
    rw [List.length_cons] at fits
    have typed := alphanumerics_insert_letter compiled bare slots plain strict keeps attached letter
      (by omega)
    cases w with
    | nil =>
      refine ⟨⟨still, _, text⟩, typed.trans ?_⟩
      simp
    | cons y w =>
      rw [List.length_cons] at fits
      obtain ⟨insideNext, kept, displaced⟩ := letters_insert_letter compiled bare slots plain strict
        keeps attached inside shown letter (by omega)
      have fitsNext : (y :: w).length + (Text.alphanumerics
          (Buffer.alone.insert Buffer.host [x] s).fields.text).length ≤ st.slotCount := by
        rw [typed, ← s.fields.alphanumerics_withKey letter, more, List.length_cons]
        omega
      obtain ⟨shows, result⟩ := ih still insideNext text others fitsNext
      refine ⟨shows, result.trans ?_⟩
      rcases Nat.eq_zero_or_pos room with none | some
      · -- All further keys go to the end.
        obtain ⟨before, behind⟩ := displaced none
        rw [before, behind, none]
        simp
      · obtain ⟨before, behind, less⟩ := kept some
        rw [before, behind, less]
        simp [room]

/-- The clean value is all letters and digits of what a buffer shows. -/
theorem clean_eq_alphanumerics {s : Stage Buffer} (attached : Buffer.Attached spec s) {t : Text}
    (shown : s.fields.text = fieldText spec t) :
    s.controller.clean = Text.alphanumerics s.fields.text := by
  rw [(clean_of_shown compiled bare slots plain strict keeps attached shown).1, shown,
    alphanumerics_fieldText compiled bare slots plain strict keeps]

end

/-- Enough equal letters, none of which begins the text behind them, do not change places with it. -/
theorem exists_letters_apart {behind : Text} (some : behind ≠ []) {m : Nat} (more : 0 < m) :
    ∃ x, Text.isAlphanumeric x = true ∧
      behind ++ List.replicate m x ≠ List.replicate m x ++ behind := by
  obtain ⟨y, ys, rfl⟩ := List.exists_cons_of_ne_nil some
  obtain ⟨m, rfl⟩ := Nat.exists_eq_succ_of_ne_zero (Nat.ne_of_gt more)
  obtain ⟨x, letter, other⟩ : ∃ x, Text.isAlphanumeric x = true ∧ y ≠ x := by
    by_cases zero : y = '0'
    · exact ⟨'1', by decide, by rw [zero]; decide⟩
    · exact ⟨'0', by decide, zero⟩
  refine ⟨x, letter, fun same => other ?_⟩
  rw [List.replicate_succ, List.cons_append, List.cons_append] at same
  exact (List.cons.inj same).1

namespace Event

/-- Keystrokes are events. -/
theorem run_keystrokes (spec : Spec) (strokes : List Keystroke) :
    run spec (strokes.map .keystroke) = Keystroke.run spec strokes := by
  rw [run, List.foldl_map]
  rfl

end Event

/-- After any keystrokes, letters and digits are typed at the caret, no more than there are slots left.
As many of them as there is room for, and one more, stay together there; the others come behind all
that stood behind the caret. So they stay together, whatever they are, exactly if there are no more of
them than that or no letter or digit stands behind the caret. -/
theorem Keystroke.keys_together_exactly (spec : Spec) (st : Stencil)
    (compiled : spec.stencil = .ok st) (strict : spec.strict = true) (bare : spec.lead = none)
    (keeps : spec.ignorable = []) (slots : 0 < st.slotCount) (plain : st.Plain)
    (strokes : List Keystroke) :
    let s := run spec strokes
    let before := s.fields.lettersBefore
    let behind := s.fields.lettersBehind
    let together := st.room s.fields.caret s.fields.text.length + 1
    let typed (w : Text) := (Buffer.alone.type Buffer.host w s).controller.clean
    (∀ w : Text, (∀ c ∈ w, Text.isAlphanumeric c = true) →
      w.length + s.controller.clean.length ≤ st.slotCount →
      typed w = before ++ w.take together ++ behind ++ w.drop together) ∧
    ∀ n, n + s.controller.clean.length ≤ st.slotCount →
      ((∀ w : Text, (∀ c ∈ w, Text.isAlphanumeric c = true) → w.length = n →
        typed w = before ++ w ++ behind) ↔ n ≤ together ∨ behind = []) := by
  intro s before behind together typed
  obtain ⟨attached, t, shown⟩ := run_attached spec strokes
  have inside : s.fields.Inside := by
    have coherent := Event.run_coherent spec (strokes.map .keystroke)
    rw [Event.run_keystrokes] at coherent
    exact coherent.inside
  have clean := clean_eq_alphanumerics compiled bare slots plain strict keeps attached shown
  have form (w : Text) (letters : ∀ c ∈ w, Text.isAlphanumeric c = true)
      (fits : w.length + s.controller.clean.length ≤ st.slotCount) :
      typed w = before ++ w.take together ++ behind ++ w.drop together := by
    rw [clean] at fits
    obtain ⟨⟨still, u, shows⟩, result⟩ := alphanumerics_typed compiled bare slots plain strict keeps
      attached inside shown letters fits
    exact (clean_eq_alphanumerics compiled bare slots plain strict keeps still shows).trans result
  refine ⟨form, fun n fits => ⟨fun stay => ?_, fun few w letters length => ?_⟩⟩
  · by_contra torn
    obtain ⟨many, some⟩ := not_or.mp torn
    obtain ⟨x, letter, apart⟩ := exists_letters_apart some (m := n - together) (by omega)
    have letters : ∀ c ∈ List.replicate n x, Text.isAlphanumeric c = true := fun c member =>
      (List.mem_replicate.mp member).2 ▸ letter
    have length : (List.replicate n x).length = n := List.length_replicate
    have result := (form _ letters (by rw [length]; exact fits)).symm.trans
      (stay _ letters length)
    have split : List.replicate n x =
        List.replicate together x ++ List.replicate (n - together) x := by
      rw [List.replicate_append_replicate]
      congr 1
      omega
    rw [split, List.take_left' List.length_replicate, List.drop_left' List.length_replicate] at result
    simp only [List.append_assoc, List.append_cancel_left_eq] at result
    exact apart result
  · rw [form w letters (by rw [length]; exact fits)]
    rcases few with few | none
    · rw [List.take_of_length_le (by omega), List.drop_of_length_le (by omega), List.append_nil]
    · rw [none, List.append_nil, List.append_nil, List.append_assoc, List.take_append_drop]

/-- In front of the only digit, in a group of three slots, two more digits find room. Of four that are
typed there, the first three stay together. -/
theorem Keystroke.fourth_digit_apart :
    let spec := Spec.ofPattern ['#', '#', '#', '-', '#', '#']
    let st : Stencil := { mask := spec.mask, placeholder := '#', slotCount := 5 }
    let s := run spec [.type ['1'], .moveCaret 0]
    (spec.stencil = .ok st ∧ spec.strict = true ∧ spec.lead = none ∧ spec.ignorable = [] ∧
      0 < st.slotCount ∧ st.Plain ∧ (∀ c ∈ ['9', '8', '7', '6'], Text.isAlphanumeric c = true) ∧
      4 + s.controller.clean.length ≤ st.slotCount) ∧
    st.room s.fields.caret s.fields.text.length = 2 ∧
    (Buffer.alone.type Buffer.host ['9', '8', '7', '6'] s).controller.clean =
      ['9', '8', '7', '1', '6'] := by
  intro spec st s
  have compiled : spec.stencil = .ok st := rfl
  have plain : st.Plain := by decide
  have letters : ∀ c ∈ ['9', '8', '7', '6'], Text.isAlphanumeric c = true := List.all_eq_true.mp rfl
  have text : s.fields.text = ['1'] := by decide +kernel
  have caret : s.fields.caret = 0 := by decide +kernel
  have clean : s.controller.clean = ['1'] := by decide +kernel
  have fits : 4 + s.controller.clean.length ≤ st.slotCount := by rw [clean]; decide
  have room : st.room s.fields.caret s.fields.text.length = 2 := by rw [caret, text]; decide
  have typed := (keys_together_exactly spec st compiled rfl rfl rfl (by decide) plain
    [.type ['1'], .moveCaret 0]).1 ['9', '8', '7', '6'] letters fits
  refine ⟨⟨compiled, rfl, rfl, rfl, by decide, plain, letters, fits⟩, room, typed.trans ?_⟩
  change s.fields.lettersBefore ++ _ ++ s.fields.lettersBehind ++ _ = _
  rw [Buffer.lettersBefore, Buffer.lettersBehind, room, text, caret]
  decide

/-- Two digits are typed in front of two others that fill a group. The first of them pushes a digit
over the dash, and the second comes behind all. -/
theorem Keystroke.second_digit_displaced :
    let spec := Spec.ofPattern ['#', '#', '-', '#', '#']
    let st : Stencil := { mask := spec.mask, placeholder := '#', slotCount := 4 }
    let s := run spec [.type ['1', '2'], .moveCaret 0]
    let after := Buffer.alone.type Buffer.host ['9', '8'] s
    (spec.stencil = .ok st ∧ spec.strict = true ∧ spec.lead = none ∧ spec.ignorable = [] ∧
      0 < st.slotCount ∧ st.Plain ∧ (∀ c ∈ ['9', '8'], Text.isAlphanumeric c = true) ∧
      2 + s.controller.clean.length ≤ st.slotCount) ∧
    after.controller.clean = ['9', '1', '2', '8'] ∧
    ¬after.controller.clean = s.fields.lettersBefore ++ ['9', '8'] ++ s.fields.lettersBehind := by
  intro spec st s after
  have letters : ∀ c ∈ ['9', '8'], Text.isAlphanumeric c = true := List.all_eq_true.mp rfl
  have fits : 2 + s.controller.clean.length ≤ st.slotCount := by decide +kernel
  have displaced : after.controller.clean = ['9', '1', '2', '8'] := by decide +kernel
  have together : s.fields.lettersBefore ++ ['9', '8'] ++ s.fields.lettersBehind =
      ['9', '8', '1', '2'] := by decide +kernel
  refine ⟨⟨rfl, rfl, rfl, rfl, by decide, by decide, letters, fits⟩, displaced, ?_⟩
  rw [displaced, together]
  decide

end Live
end MaskedInput
