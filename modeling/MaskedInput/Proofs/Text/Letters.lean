import MaskedInput.Mask.Stencil
import MaskedInput.Text.Alphanumeric
import Mathlib.Data.List.Chain
import Mathlib.Data.List.Nodup
import Mathlib.Data.List.Perm.Subperm

/-!
# Letters and digits

Taking the letters and digits out of a text that has no other characters changes nothing. There are
more letters than a mask may have characters, so that for each mask some letter is not in it; they
are counted in one range of the table.
-/
namespace MaskedInput
namespace Text

theorem alphanumerics_of_all {v : Text} (value : ∀ c ∈ v, isAlphanumeric c = true) :
    alphanumerics v = v := List.filter_eq_self.mpr value

theorem alphanumerics_all (t : Text) : ∀ c ∈ alphanumerics t, isAlphanumeric c = true :=
  fun _ member => (List.mem_filter.mp member).2

theorem replicate_letters {x : Char} (letter : isAlphanumeric x = true) (n : Nat) :
    ∀ c ∈ List.replicate n x, isAlphanumeric c = true :=
  fun _ member => List.eq_of_mem_replicate member ▸ letter

/-- What lies in a range of a table in increasing order is found. -/
theorem CodeRange.covers_of_mem {table : List (Nat × Nat)}
    (increasing : table.Pairwise fun r s => r.1 ≤ s.1) {first last n : Nat}
    (member : (first, last) ∈ table) (above : first ≤ n) (below : n ≤ last) :
    covers table n = true := by
  induction table with
  | nil => cases member
  | cons range rest ih =>
    obtain ⟨least, increasing⟩ := List.pairwise_cons.mp increasing
    rcases List.mem_cons.mp member with here | later
    · rw [← here, covers, if_neg (Nat.not_lt.mpr above), if_pos below]
    · have started : ¬n < range.1 := Nat.not_lt.mpr ((least _ later).trans above)
      rw [covers, if_neg started, ih increasing later]
      exact ite_self true

theorem AlphanumericTable.increasing : ranges.Pairwise fun r s => r.1 ≤ s.1 := by
  have chain : (ranges.map Prod.fst).IsChain (· ≤ ·) := by decide +kernel
  exact List.pairwise_map.mp (List.isChain_iff_pairwise.mp chain)

/-- The ideographs from U+4E00 on, one more than a mask may have characters. -/
def ideographs : Text := (List.range (maxPatternLength + 1)).map fun n => Char.ofNat (0x4E00 + n)

theorem toNat_ideograph {n : Nat} (few : n ≤ maxPatternLength) :
    (Char.ofNat (0x4E00 + n)).toNat = 0x4E00 + n := by
  have valid : 0x4E00 + n < 0xD800 := Nat.lt_of_le_of_lt (Nat.add_le_add_left few _) (by decide)
  rw [Char.ofNat, dif_pos (Or.inl valid)]
  rfl

theorem ideographs_letters : ∀ x ∈ ideographs, isAlphanumeric x = true := by
  intro x member
  obtain ⟨n, few, rfl⟩ := List.mem_map.mp member
  have few := Nat.le_of_lt_succ (List.mem_range.mp few)
  have last : 0x4E00 + n ≤ 0xA48C := (Nat.add_le_add_left few _).trans (by decide)
  have range : (0x4E00, 0xA48C) ∈ AlphanumericTable.ranges := by decide +kernel
  rw [isAlphanumeric, toNat_ideograph few, if_neg (by omega)]
  exact CodeRange.covers_of_mem AlphanumericTable.increasing range (Nat.le_add_right _ _) last

theorem ideographs_nodup : ideographs.Nodup := by
  refine List.Nodup.map_on ?_ List.nodup_range
  intro n few m less same
  have codes := congrArg Char.toNat same
  rw [toNat_ideograph (Nat.le_of_lt_succ (List.mem_range.mp few)),
    toNat_ideograph (Nat.le_of_lt_succ (List.mem_range.mp less))] at codes
  exact Nat.add_left_cancel codes

theorem exists_letter_not_mem {t : Text} (short : t.length ≤ maxPatternLength) :
    ∃ x, isAlphanumeric x = true ∧ x ∉ t := by
  by_contra none
  have all : ideographs ⊆ t := fun x member =>
    Classical.byContradiction fun absent => none ⟨x, ideographs_letters x member, absent⟩
  have length := (ideographs_nodup.subperm all).length_le
  rw [ideographs, List.length_map, List.length_range] at length
  omega

end Text
end MaskedInput
