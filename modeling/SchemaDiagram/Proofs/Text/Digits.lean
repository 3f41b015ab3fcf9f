import Mathlib.Algebra.Group.Nat.Defs
import Mathlib.Data.List.Induction
import SchemaDiagram.Proofs.Keyed
import SchemaDiagram.Text.Digits
import SchemaDiagram.Text.Word

/-!
# Numbers and their digits

The decimal digits of a number are read as the number again, so no two numbers are written alike,
and a number may be part of a word.
-/

namespace SchemaDiagram.Text

theorem decimalValue?_digitChar :
    ∀ digit < 10, decimalValue? (digitChar digit) = some digit := by decide

theorem hexValue?_digitChar : ∀ digit < 16, hexValue? (digitChar digit) = some digit := by decide

theorem isWordChar_digitChar : ∀ digit < 10, isWordChar (digitChar digit) = true := by decide

theorem valueOfDigits_concat (base : Nat) (digits : List Nat) (digit : Nat) :
    valueOfDigits base (digits ++ [digit]) = valueOfDigits base digits * base + digit := by
  simp [valueOfDigits]

theorem length_fixedDigits (base width value : Nat) :
    (fixedDigits base width value).length = width := by
  induction width generalizing value with
  | zero => rfl
  | succ width ih => rw [fixedDigits, List.length_append, ih, List.length_singleton]

/-- The lowest digits of a number stand for what is left of it. -/
theorem mapM_fixedDigits {base : Nat} {read : Char → Option Nat} (hbase : 0 < base)
    (hread : ∀ digit < base, read (digitChar digit) = some digit) (width value : Nat) :
    ∃ digits, (fixedDigits base width value).mapM read = some digits ∧
      valueOfDigits base digits = value % base ^ width := by
  induction width generalizing value with
  | zero => exact ⟨[], rfl, by rw [Nat.pow_zero, Nat.mod_one]; rfl⟩
  | succ width ih =>
      obtain ⟨digits, hdigits, hvalue⟩ := ih (value / base)
      have hdigit := hread (value % base) (Nat.mod_lt _ hbase)
      refine ⟨digits ++ [value % base], ?_, ?_⟩
      · simp [fixedDigits, hdigits, hdigit]
      · rw [valueOfDigits_concat, hvalue, Nat.pow_succ', Nat.mod_mul, Nat.mul_comm, Nat.add_comm]

theorem isEmpty_fixedDigits (base : Nat) {width : Nat} (hwidth : 0 < width) (value : Nat) :
    (fixedDigits base width value).isEmpty = false := by
  have hlength := length_fixedDigits base width value
  cases hdigits : fixedDigits base width value with
  | nil =>
      rw [hdigits] at hlength
      exact absurd hlength (Nat.ne_of_lt hwidth)
  | cons digit rest => rfl

/-- A number that fits into a width is read from its digits. -/
theorem decimalNumber?_fixedDigits {width value : Nat} (hwidth : 0 < width)
    (hvalue : value < 10 ^ width) : decimalNumber? (fixedDigits 10 width value) = some value := by
  obtain ⟨digits, hread, hdigits⟩ :=
    mapM_fixedDigits (by decide) decimalValue?_digitChar width value
  rw [decimalNumber?, if_neg (by simp [isEmpty_fixedDigits 10 hwidth]), hread, Option.map_some,
    hdigits, Nat.mod_eq_of_lt hvalue]

theorem hexNumber?_fixedDigits {width value : Nat} (hwidth : 0 < width)
    (hvalue : value < 16 ^ width) : hexNumber? (fixedDigits 16 width value) = some value := by
  obtain ⟨digits, hread, hdigits⟩ := mapM_fixedDigits (by decide) hexValue?_digitChar width value
  rw [hexNumber?, if_neg (by simp [isEmpty_fixedDigits 16 hwidth]), hread, Option.map_some,
    hdigits, Nat.mod_eq_of_lt hvalue]

theorem lt_pow_decimalLength (value : Nat) : value < 10 ^ decimalLength value := by
  induction value using decimalLength.induct with
  | case1 value hsmall =>
      rw [decimalLength, if_pos hsmall]
      omega
  | case2 value hlarge ih =>
      rw [decimalLength, if_neg hlarge, Nat.pow_succ]
      omega

theorem decimalLength_pos (value : Nat) : 0 < decimalLength value := by
  rw [decimalLength]
  split <;> omega

/-- The digits of a number are read as the number. -/
theorem decimalNumber?_decimalDigits (value : Nat) :
    decimalNumber? (decimalDigits value) = some value :=
  decimalNumber?_fixedDigits (decimalLength_pos value) (lt_pow_decimalLength value)

theorem decimalDigits_injective : Function.Injective decimalDigits := by
  intro first second h
  apply Option.some.inj
  rw [← decimalNumber?_decimalDigits, h, decimalNumber?_decimalDigits]

theorem of_mem_fixedDigits {base : Nat} {p : Char → Prop} (hbase : 0 < base)
    (hp : ∀ digit < base, p (digitChar digit)) {width value : Nat} {c : Char}
    (h : c ∈ fixedDigits base width value) : p c := by
  induction width generalizing value with
  | zero => exact absurd h List.not_mem_nil
  | succ width ih =>
      rcases List.mem_append.mp h with hmem | hlast
      · exact ih hmem
      · obtain rfl := List.mem_singleton.mp hlast
        exact hp _ (Nat.mod_lt _ hbase)

theorem isWordChar_of_mem_fixedDigits {width value : Nat} {c : Char}
    (h : c ∈ fixedDigits 10 width value) : isWordChar c = true :=
  of_mem_fixedDigits (p := fun c => isWordChar c = true) (by decide) isWordChar_digitChar h

theorem isDecimal_of_mem_fixedDigits {width value : Nat} {c : Char}
    (h : c ∈ fixedDigits 10 width value) : isDecimal c = true :=
  of_mem_fixedDigits (p := fun c => isDecimal c = true) (by decide) (by decide) h

/-! ## The size of what is read -/

theorem decimalValue?_lt {c : Char} {digit : Nat} (h : decimalValue? c = some digit) :
    digit < 10 := by
  rw [decimalValue?] at h
  split at h
  · next hrange =>
      have hnine : c.toNat ≤ 57 := hrange.2
      have hzero : '0'.toNat = 48 := rfl
      have hdigit := Option.some.inj h
      omega
  · cases h

theorem valueOfDigits_lt {base : Nat} {digits : List Nat} (h : ∀ digit ∈ digits, digit < base) :
    valueOfDigits base digits < base ^ digits.length := by
  induction digits using List.reverseRecOn with
  | nil => exact Nat.one_pos
  | append_singleton digits digit ih =>
      have hdigit := h digit (by simp)
      have hvalue := ih fun other hother => h other (by simp [hother])
      rw [valueOfDigits_concat, List.length_append, List.length_singleton, Nat.pow_succ]
      calc valueOfDigits base digits * base + digit
          < valueOfDigits base digits * base + base := Nat.add_lt_add_left hdigit _
        _ = (valueOfDigits base digits + 1) * base := (Nat.succ_mul _ _).symm
        _ ≤ base ^ digits.length * base := Nat.mul_le_mul_right _ hvalue

/-- A number has no more digits than the text that it was read from. -/
theorem decimalNumber?_lt {text : List Char} {value : Nat} (h : decimalNumber? text = some value) :
    value < 10 ^ text.length := by
  rw [decimalNumber?] at h
  split at h
  · cases h
  · obtain ⟨digits, hread, rfl⟩ := Option.map_eq_some_iff.mp h
    have hdigits := mapM_eq_some_iff.mp hread
    rw [← hdigits.length_eq]
    refine valueOfDigits_lt fun digit hdigit => ?_
    obtain ⟨c, -, hc⟩ := exists_right_of_mem hdigits hdigit
    exact decimalValue?_lt hc

/-! ## Leading digits -/

theorem decimalDigits_of_lt {value : Nat} (h : value < 10) :
    decimalDigits value = [digitChar value] := by
  rw [decimalDigits, decimalLength, if_pos h, fixedDigits, Nat.mod_eq_of_lt h]
  rfl

theorem decimalDigits_of_le {value : Nat} (h : 10 ≤ value) :
    decimalDigits value = decimalDigits (value / 10) ++ [digitChar (value % 10)] := by
  rw [decimalDigits, decimalLength, if_neg (Nat.not_lt.mpr h), fixedDigits]
  rfl

theorem decimalDigits_ne_nil (value : Nat) : decimalDigits value ≠ [] :=
  List.isEmpty_eq_false_iff.mp (isEmpty_fixedDigits 10 (decimalLength_pos value) value)

theorem head?_decimalDigits_ne {value : Nat} (h : 0 < value) :
    (decimalDigits value).head? ≠ some '0' := by
  induction value using decimalLength.induct with
  | case1 value hsmall =>
      have hdigit : ∀ digit < 10, 0 < digit → [digitChar digit].head? ≠ some '0' := by decide
      rw [decimalDigits_of_lt hsmall]
      exact hdigit value hsmall h
  | case2 value hlarge ih =>
      have hle : 10 ≤ value := Nat.not_lt.mp hlarge
      have hfirst := ih (Nat.div_pos hle (by decide))
      rw [decimalDigits_of_le hle]
      cases hdigits : decimalDigits (value / 10) with
      | nil => exact absurd hdigits (decimalDigits_ne_nil _)
      | cons c rest =>
          rw [hdigits] at hfirst
          exact hfirst

/-- Only zero is written with a zero in front. -/
theorem decimalDigits_leading (value : Nat) :
    (decimalDigits value).length = 1 ∨ (decimalDigits value).head? ≠ some '0' := by
  cases value with
  | zero => exact .inl (by rw [decimalDigits_of_lt (by decide)]; rfl)
  | succ value => exact .inr (head?_decimalDigits_ne (Nat.succ_pos value))

end SchemaDiagram.Text
