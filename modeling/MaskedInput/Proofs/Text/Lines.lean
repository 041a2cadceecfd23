import MaskedInput.Text.Lines
import Mathlib.Tactic.NthRewrite

/-!
# Lines, read one after another

The lines of a stream are given as a whole: the stream is decoded and the text cut at its line feeds.
A reader that takes the bytes up to the next line feed, decodes these, drops the end of the line and
goes on behind it comes to the same lines, and stops at a line that is not UTF-8 exactly where the
stream as a whole is not. Values that are sent as lines are read back, whichever of the two line ends
each of them has.
-/
namespace MaskedInput

/-- The pieces of a list that each end with the separator; the last one may end without. -/
def splitBehind {α : Type} [DecidableEq α] (sep : α) : List α → List (List α)
  | [] => []
  | x :: rest =>
    if x = sep then [x] :: splitBehind sep rest
    else
      match splitBehind sep rest with
      | [] => [[x]]
      | piece :: more => (x :: piece) :: more

section SplitBehind

variable {α : Type} [DecidableEq α] {sep : α}

theorem splitBehind_append_cons {front : List α} (absent : sep ∉ front) (rest : List α) :
    splitBehind sep (front ++ sep :: rest) = (front ++ [sep]) :: splitBehind sep rest := by
  induction front with
  | nil => rw [List.nil_append, splitBehind, if_pos rfl, List.nil_append]
  | cons x front ih =>
    have other : x ≠ sep := fun same => absent (by simp [same])
    rw [List.cons_append, splitBehind, if_neg other,
      ih fun member => absent (List.mem_cons_of_mem x member)]
    rfl

theorem splitBehind_of_not_mem {piece : List α} (absent : sep ∉ piece) (nonempty : piece ≠ []) :
    splitBehind sep piece = [piece] := by
  induction piece with
  | nil => exact absurd rfl nonempty
  | cons x rest ih =>
    have other : x ≠ sep := fun same => absent (by simp [same])
    rw [splitBehind, if_neg other]
    cases rest with
    | nil => rfl
    | cons y ys => rw [ih (fun member => absent (List.mem_cons_of_mem x member)) (by simp)]

/-- The pieces are all of the list. -/
theorem flatten_splitBehind (sep : α) (xs : List α) : (splitBehind sep xs).flatten = xs := by
  induction xs with
  | nil => rfl
  | cons x rest ih =>
    rw [splitBehind]
    split
    · rw [List.flatten_cons, ih, List.singleton_append]
    · split
      next none =>
        rw [none] at ih
        simp [← ih]
      next piece more found =>
        rw [found] at ih
        rw [List.flatten_cons, List.cons_append, ← List.flatten_cons, ih]

/-- A list is empty, or without separator, or goes on behind its first separator. -/
theorem induction_behind (sep : α) {motive : List α → Prop} (nil : motive [])
    (last : ∀ piece, sep ∉ piece → piece ≠ [] → motive piece)
    (next : ∀ front rest, sep ∉ front → motive rest → motive (front ++ sep :: rest))
    (xs : List α) : motive xs := by
  induction length : xs.length using Nat.strongRecOn generalizing xs with
  | ind n ih =>
    by_cases found : sep ∈ xs
    · obtain ⟨front, rest, rfl, absent⟩ := List.eq_append_cons_of_mem found
      refine next front rest absent (ih rest.length ?_ rest rfl)
      rw [← length, List.length_append, List.length_cons]
      omega
    · by_cases empty : xs = []
      · exact empty ▸ nil
      · exact last xs found empty

end SplitBehind

namespace Text

/-- The text without the line feed at its end, and without one carriage return in front of that. -/
def withoutEnd (t : Text) : Text := if t.getLast? = some '\n' then dropReturn t.dropLast else t

@[simp] theorem withoutEnd_concat (t : Text) : withoutEnd (t ++ ['\n']) = dropReturn t := by
  simp [withoutEnd]

theorem withoutEnd_of_not_mem {t : Text} (absent : '\n' ∉ t) : withoutEnd t = t :=
  if_neg fun last => absent (List.mem_of_getLast? last)

theorem dropReturn_concat (t : Text) : dropReturn (t ++ ['\r']) = t := by
  simp [dropReturn]

theorem dropReturn_of_ne {t : Text} (other : t.getLast? ≠ some '\r') : dropReturn t = t :=
  if_neg other

theorem splitAtChar_eq_splitOn (sep : Char) (t : Text) : splitAtChar sep t = t.splitOn sep := by
  induction t with
  | nil => rfl
  | cons c t ih =>
    have step : splitAtChar sep (c :: t) = splitStep sep c (splitAtChar sep t) := rfl
    rw [step, ih, List.splitOn_cons_eq_if_modifyHead]
    obtain ⟨part, parts, split⟩ := List.exists_cons_of_ne_nil (List.splitOn_ne_nil sep t)
    rw [split, splitStep]
    by_cases same : c = sep <;> simp [same]

/-- Behind a line feed begins the next line. -/
theorem lines_append_cons {line : Text} (absent : '\n' ∉ line) (t : Text) :
    lines (line ++ '\n' :: t) = dropReturn line :: lines t := by
  have more := List.splitOn_ne_nil '\n' t
  simp only [lines, splitAtChar_eq_splitOn, List.splitOn_append_cons_self_of_not_mem absent,
    List.dropLast_cons_of_ne_nil more, List.getLast?_cons_of_ne_nil more, List.map_cons,
    List.cons_append]

theorem lines_of_not_mem {line : Text} (absent : '\n' ∉ line) (nonempty : line ≠ []) :
    lines line = [line] := by
  obtain ⟨c, rest, rfl⟩ := List.exists_cons_of_ne_nil nonempty
  simp [lines, splitAtChar_eq_splitOn, List.splitOn_eq_singleton absent]

/-- The lines of a text are its pieces, each without its end. -/
theorem lines_eq_map (t : Text) : lines t = (splitBehind '\n' t).map withoutEnd := by
  induction t using induction_behind '\n' with
  | nil => rfl
  | last line absent nonempty =>
    rw [lines_of_not_mem absent nonempty, splitBehind_of_not_mem absent nonempty,
      List.map_singleton, withoutEnd_of_not_mem absent]
  | next line rest absent ih =>
    rw [lines_append_cons absent, splitBehind_append_cons absent, List.map_cons, withoutEnd_concat,
      ih]

/-! ### Line by line -/

/-- The bytes of a text. -/
def encode (t : Text) : List UInt8 := t.flatMap String.utf8EncodeChar

theorem encode_flatten (pieces : List Text) :
    encode pieces.flatten = (pieces.map encode).flatten := by
  induction pieces with
  | nil => rfl
  | cons piece pieces ih =>
    simp only [List.flatten_cons, List.map_cons, ← ih, encode, List.flatMap_append]

theorem decode?_eq_some_iff {bytes : ByteArray} {t : Text} :
    decode? bytes = some t ↔ bytes.data.toList = encode t := by
  have same : bytes.data.toList = encode t ↔ bytes = t.utf8Encode := by
    rw [List.utf8Encode, ByteArray.ext_iff, List.data_toByteArray, ← Array.toList_inj, encode]
  rw [same, decode?, String.fromUTF8?]
  split
  · rw [Option.map_some, Option.some_inj, ← String.toByteArray_ofList]
    nth_rewrite 1 [← String.toList_ofList (l := t)]
    rw [String.toList_inj, ← String.toByteArray_inj]
    rfl
  · next broken =>
    simp only [Option.map_none, reduceCtorEq, false_iff]
    exact fun equal => broken (equal ▸ ByteArray.isValidUTF8_utf8Encode)

/-- The byte of a line feed stands for nothing else. -/
theorem lineFeed_mem_utf8EncodeChar {c : Char} : 10 ∈ String.utf8EncodeChar c ↔ c = '\n' := by
  constructor
  · intro member
    have value : c.toNat = 10 := by
      simp only [String.utf8EncodeChar, Char.toNat_val] at member
      -- All bytes of a longer sequence have their highest bit set.
      repeat' split at member
      all_goals
        simp [← UInt8.toNat_inj] at member
        omega
    exact Char.toNat_inj.mp value
  · rintro rfl
    decide

theorem lineFeed_mem_encode {t : Text} : 10 ∈ encode t ↔ '\n' ∈ t := by
  simp [encode, List.mem_flatMap, lineFeed_mem_utf8EncodeChar]

/-- The bytes of a text are cut where the text is. -/
theorem splitBehind_encode (t : Text) :
    splitBehind 10 (encode t) = (splitBehind '\n' t).map encode := by
  have encode_append_cons (front rest : Text) :
      encode (front ++ '\n' :: rest) = encode front ++ 10 :: encode rest := by
    rw [encode, List.flatMap_append, List.flatMap_cons]
    rfl
  induction t using induction_behind '\n' with
  | nil => rfl
  | last piece absent nonempty =>
    have bytes : encode piece ≠ [] := by
      obtain ⟨c, rest, rfl⟩ := List.exists_cons_of_ne_nil nonempty
      simp [encode]
    rw [splitBehind_of_not_mem absent nonempty,
      splitBehind_of_not_mem (mt lineFeed_mem_encode.mp absent) bytes, List.map_singleton]
  | next front rest absent ih =>
    rw [encode_append_cons, splitBehind_append_cons absent,
      splitBehind_append_cons (mt lineFeed_mem_encode.mp absent), ih, List.map_cons, encode_append_cons]
    rfl

/-- The line in a piece of a stream, if the piece is UTF-8. -/
def readLine? (chunk : List UInt8) : Option Text :=
  (decode? chunk.toByteArray).map withoutEnd

/-- The lines of a stream, read one after another up to the first that is not UTF-8. -/
def readLines? (bytes : ByteArray) : Option (List Text) :=
  (splitBehind 10 bytes.data.toList).mapM readLine?

theorem readLine?_eq_some_iff {chunk : List UInt8} {line : Text} :
    readLine? chunk = some line ↔ ∃ piece, chunk = encode piece ∧ withoutEnd piece = line := by
  simp only [readLine?, Option.map_eq_some_iff, decode?_eq_some_iff, List.data_toByteArray]

theorem mapM_readLine?_eq_some_iff {chunks : List (List UInt8)} {values : List Text} :
    chunks.mapM readLine? = some values ↔
      ∃ pieces : List Text, chunks = pieces.map encode ∧ pieces.map withoutEnd = values := by
  induction chunks generalizing values with
  | nil => simp
  | cons chunk chunks ih =>
    rw [List.mapM_cons]
    simp only [Option.bind_eq_bind, Option.bind_eq_some_iff, ih, readLine?_eq_some_iff]
    constructor
    · rintro ⟨line, ⟨piece, rfl, rfl⟩, lines, ⟨pieces, rfl, rfl⟩, ⟨⟩⟩
      exact ⟨piece :: pieces, rfl, rfl⟩
    · rintro ⟨pieces, cut, rfl⟩
      obtain ⟨piece, pieces, rfl, rfl, rfl⟩ := List.map_eq_cons_iff.mp cut.symm
      exact ⟨_, ⟨piece, rfl, rfl⟩, _, ⟨pieces, rfl, rfl⟩, rfl⟩

/-- Reading line by line comes to the lines of the text, and fails only if there is no text. -/
theorem readLines?_eq (bytes : ByteArray) : readLines? bytes = (decode? bytes).map lines := by
  cases decoded : decode? bytes with
  | some t =>
    rw [Option.map_some, lines_eq_map, readLines?, decode?_eq_some_iff.mp decoded,
      splitBehind_encode, mapM_readLine?_eq_some_iff]
    exact ⟨_, rfl, rfl⟩
  | none =>
    rw [Option.map_none, Option.eq_none_iff_forall_ne_some]
    intro values read
    -- Pieces that can be decoded one by one are the bytes of their texts put together.
    obtain ⟨pieces, cut, -⟩ := mapM_readLine?_eq_some_iff.mp read
    have joined : bytes.data.toList = encode pieces.flatten := by
      rw [← flatten_splitBehind 10 bytes.data.toList, cut, encode_flatten]
    rw [decode?_eq_some_iff.mpr joined] at decoded
    cases decoded

/-- Reading line by line stops at a line that is not UTF-8, and nowhere else. -/
theorem readLines?_eq_none_iff {bytes : ByteArray} :
    readLines? bytes = none ↔
      ∃ chunk ∈ splitBehind 10 bytes.data.toList, readLine? chunk = none := by
  rw [readLines?]
  induction splitBehind 10 bytes.data.toList with
  | nil => simp
  | cons chunk chunks ih =>
    simp only [List.mapM_cons, List.mem_cons, exists_eq_or_imp, ← ih]
    cases readLine? chunk <;> cases chunks.mapM readLine? <;> simp

/-! ### Values sent as lines -/

/-- The texts that send values as lines. Behind each value stands a line feed, with a carriage
return in front or without; the last value may stand without an end unless it is empty. -/
inductive SentAs : List Text → Text → Prop where
  | nothing : SentAs [] []
  | lineFeed (value : Text) {values : List Text} {t : Text} (more : SentAs values t) :
      SentAs (value :: values) (value ++ '\n' :: t)
  | returned (value : Text) {values : List Text} {t : Text} (more : SentAs values t) :
      SentAs (value :: values) (value ++ '\r' :: '\n' :: t)
  | unended (value : Text) (nonempty : value ≠ []) : SentAs [value] value

/-- The value can be sent as a line and read back. -/
structure IsLine (value : Text) : Prop where
  no_lineFeed : '\n' ∉ value
  no_return : value.getLast? ≠ some '\r'

/-- Values sent as lines are read back. -/
theorem SentAs.lines_eq {values : List Text} {t : Text} (sent : SentAs values t)
    (fit : ∀ value ∈ values, IsLine value) : lines t = values := by
  induction sent with
  | nothing => rfl
  | lineFeed value more ih =>
    obtain ⟨own, others⟩ := List.forall_mem_cons.mp fit
    rw [lines_append_cons own.no_lineFeed, dropReturn_of_ne own.no_return, ih others]
  | returned value more ih =>
    obtain ⟨own, others⟩ := List.forall_mem_cons.mp fit
    have absent : '\n' ∉ value ++ ['\r'] := by simp [own.no_lineFeed]
    rw [List.append_cons, lines_append_cons absent, dropReturn_concat, ih others]
  | unended value nonempty =>
    exact lines_of_not_mem (fit value List.mem_cons_self).no_lineFeed nonempty

/-- A text that was encoded is read line by line. -/
theorem decode?_toUTF8 (t : Text) : decode? t.toString.toUTF8 = some t := by
  rw [decode?_eq_some_iff, toString, String.toUTF8_eq_toByteArray, String.toByteArray_ofList,
    List.utf8Encode, List.data_toByteArray, List.toList_toArray, encode]

end Text
end MaskedInput
