import Mathlib.Algebra.GroupWithZero.Nat
import SchemaDiagram.Identifier
import SchemaDiagram.Proofs.Text.Digits
import SchemaDiagram.Proofs.Text.Words

/-!
# Written identifiers

Every identifier is read as it was written: its digits are cut into groups, and the groups are found
again between the hyphens.
-/

namespace SchemaDiagram.Identifier

open SchemaDiagram.Text

/-! ## Groups of digits -/

theorem flatten_cut {lengths : List Nat} {text : List Char} (h : text.length = lengths.sum) :
    (cut lengths text).flatten = text := by
  induction lengths generalizing text with
  | nil => exact (List.eq_nil_of_length_eq_zero h).symm
  | cons n lengths ih =>
      have hrest : (text.drop n).length = lengths.sum := by
        rw [List.length_drop, h, List.sum_cons, Nat.add_sub_cancel_left]
      rw [cut, List.flatten_cons, ih hrest, List.take_append_drop]

theorem map_length_cut {lengths : List Nat} {text : List Char} (h : text.length = lengths.sum) :
    (cut lengths text).map List.length = lengths := by
  induction lengths generalizing text with
  | nil => rfl
  | cons n lengths ih =>
      rw [List.sum_cons] at h
      have hrest : (text.drop n).length = lengths.sum := by
        rw [List.length_drop, h, Nat.add_sub_cancel_left]
      rw [cut, List.map_cons, ih hrest, List.length_take_of_le (by omega)]

theorem mem_of_mem_cut {lengths : List Nat} {text part : List Char} {c : Char}
    (hpart : part ∈ cut lengths text) (hc : c ∈ part) : c ∈ text := by
  induction lengths generalizing text with
  | nil => exact absurd hpart List.not_mem_nil
  | cons n lengths ih =>
      rcases List.mem_cons.mp hpart with rfl | hpart
      · exact List.mem_of_mem_take hc
      · exact List.mem_of_mem_drop (ih hpart)

/-! ## Reading -/

/-- A hexadecimal digit is no hyphen and opens neither braces nor a prefix. -/
theorem plain_of_mem_fixedDigits {width value : Nat} {c : Char}
    (h : c ∈ fixedDigits 16 width value) : c ≠ '-' ∧ c ≠ '\x7b' ∧ c.toLower ≠ 'u' :=
  of_mem_fixedDigits (p := fun c => c ≠ '-' ∧ c ≠ '\x7b' ∧ c.toLower ≠ 'u') (by decide)
    (by decide) h

theorem splitAt_write (id : Identifier) :
    splitAt '-' id.write = cut groups (fixedDigits 16 32 id.toNat) :=
  splitAt_joinWith (List.cons_ne_nil _ _) fun _ hpart hc =>
    (plain_of_mem_fixedDigits (mem_of_mem_cut hpart hc)).1 rfl

theorem ofDigits?_fixedDigits (id : Identifier) :
    ofDigits? (fixedDigits 16 32 id.toNat) = some id := by
  have hbound : id.toNat < 16 ^ 32 := id.bits.isLt
  rw [ofDigits?, if_pos (length_fixedDigits 16 32 _), hexNumber?_fixedDigits (by decide) hbound,
    Option.map_some, ofNat, toNat, BitVec.ofNat_toNat, BitVec.setWidth_eq]

theorem ofHyphenated?_write (id : Identifier) : ofHyphenated? id.write = some id := by
  have hlength : (fixedDigits 16 32 id.toNat).length = groups.sum := length_fixedDigits 16 32 _
  rw [ofHyphenated?, splitAt_write, if_pos (map_length_cut hlength), flatten_cut hlength,
    ofDigits?_fixedDigits]

theorem unwrap_write (id : Identifier) : unwrap id.write = id.write := by
  obtain ⟨c, rest, hdigits⟩ : ∃ c rest, fixedDigits 16 32 id.toNat = c :: rest :=
    List.exists_cons_of_length_eq_add_one (length_fixedDigits 16 32 _)
  have hc := plain_of_mem_fixedDigits (hdigits ▸ List.mem_cons_self)
  obtain ⟨more, hwrite⟩ : ∃ more, id.write = c :: more := by
    rw [write, hdigits]
    exact ⟨_, rfl⟩
  rw [hwrite, unwrap, afterPrefixIgnoringCase?, if_neg (by simpa using hc.2.2.symm),
    Option.getD_none]
  exact fun _ hbrace => absurd (List.cons.inj hbrace).1 hc.2.1

theorem length_write (id : Identifier) : id.write.length = 36 := by
  simp [write, cut, groups, joinWith_cons, joinWith_singleton, length_fixedDigits]

/-- An identifier is read as it was written. -/
theorem read?_write (id : Identifier) : read? id.write = some id := by
  rw [read?, length_write, if_neg (by decide), unwrap_write, ofHyphenated?_write]

end SchemaDiagram.Identifier
