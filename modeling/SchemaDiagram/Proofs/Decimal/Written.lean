import SchemaDiagram.Proofs.Decimal.Numeral

/-!
# Written doubles

What is written for a finite double is a numeral.  The shortest decimal of a number that is not zero
has digits that are not zero, so no zero is written in front of others.
-/

namespace SchemaDiagram.Decimal

open SchemaDiagram.Text

/-! ## The shortest decimal -/

/-- Zero does not read back to a positive number. -/
theorem digits_ne_zero_of_readsBack {x : Dyadic} (hx : x.mantissa ≠ 0) {candidate : Digits}
    (h : readsBack x candidate = true) : candidate.digits ≠ 0 := by
  intro hzero
  have hnumerator : 0 < (quarterStep x candidate.exponent).1 :=
    Nat.mul_pos (Nat.pow_pos (by decide)) (Nat.pow_pos (by decide))
  have hlow : 0 < (4 * x.mantissa - (if x.narrowBelow then 1 else 2)) *
      (quarterStep x candidate.exponent).1 := by
    refine Nat.mul_pos ?_ hnumerator
    split <;> omega
  unfold readsBack at h
  simp only [hzero, Nat.zero_mul] at h
  split at h
  · simp only [Bool.and_eq_true, decide_eq_true_eq] at h
    omega
  · simp only [Bool.and_eq_true, decide_eq_true_eq] at h
    omega

theorem digits_ne_zero_of_nearestWith {count : Nat} {x : Dyadic} (hx : x.mantissa ≠ 0)
    {nearest : Digits} (h : nearestWith count x = some nearest) : nearest.digits ≠ 0 := by
  simp only [nearestWith] at h
  split at h
  · next hbelow _ =>
    have hbelow := digits_ne_zero_of_readsBack hx hbelow
    split at h
    · obtain rfl := Option.some.inj h
      exact hbelow
    · split at h
      · obtain rfl := Option.some.inj h
        exact Nat.succ_ne_zero _
      · split at h
        · obtain rfl := Option.some.inj h
          exact hbelow
        · obtain rfl := Option.some.inj h
          exact Nat.succ_ne_zero _
  · next hbelow _ =>
    obtain rfl := Option.some.inj h
    exact digits_ne_zero_of_readsBack hx hbelow
  · obtain rfl := Option.some.inj h
    exact Nat.succ_ne_zero _
  · cases h

theorem Digits.normalize_ne_zero {x : Digits} (h : x.digits ≠ 0) : x.normalize.digits ≠ 0 := by
  induction x using Digits.normalize.induct with
  | case1 x hround ih =>
      rw [Digits.normalize, dif_pos hround]
      exact ih (show x.digits / 10 ≠ 0 by omega)
  | case2 x hround =>
      rw [Digits.normalize, dif_neg hround]
      exact h

/-- The shortest decimal of a positive number is not zero, unless it is the one that stands for no
decimal found. -/
theorem shortest_ne_zero {x : Dyadic} (hx : x.mantissa ≠ 0) :
    (shortest x).digits ≠ 0 ∨ shortest x = ⟨0, 0⟩ := by
  unfold shortest
  cases hfound : (List.range 17).findSome? fun count => nearestWith (count + 1) x with
  | none =>
      right
      rw [Option.getD_none, Digits.normalize, dif_neg (fun hround => hround.1 rfl)]
  | some nearest =>
      left
      obtain ⟨count, -, hcount⟩ := List.exists_of_findSome?_eq_some hfound
      exact Digits.normalize_ne_zero (digits_ne_zero_of_nearestWith hx hcount)

/-! ## Spelling -/

theorem isDigits_zero : IsDigits ['0'] :=
  ⟨List.cons_ne_nil _ _, List.all_eq_true.mp rfl⟩

theorem IsDigits.behind {left right : List Char} (hright : IsDigits right)
    (hleft : ∀ c ∈ left, isDecimal c = true) : IsDigits (left ++ right) := by
  refine ⟨by simp [hright.1], fun c hc => ?_⟩
  rcases List.mem_append.mp hc with hc | hc
  · exact hleft c hc
  · exact hright.2 c hc

theorem isDecimal_of_mem_zeros {count : Nat} {c : Char} (hc : c ∈ List.replicate count '0') :
    isDecimal c = true := by
  rw [List.eq_of_mem_replicate hc]
  decide

theorem isMagnitude_pointAfter {whole : Nat} {digits : List Char} (hdigits : IsDigits digits)
    (hwhole : 0 < whole) (hleading : whole = 1 ∨ digits.head? ≠ some '0') :
    IsMagnitude (pointAfter whole digits) := by
  have hfront : IsDigits (digits.take whole ++ List.replicate (whole - digits.length) '0') := by
    refine ⟨?_, fun c hc => ?_⟩
    · obtain ⟨c, rest, rfl, -⟩ := hdigits.head
      simp [hwhole.ne']
    · rcases List.mem_append.mp hc with hc | hc
      · exact hdigits.2 c (List.mem_of_mem_take hc)
      · exact isDecimal_of_mem_zeros hc
  have hbehind :
      IsDigits (if (digits.drop whole).isEmpty then ['0'] else digits.drop whole) := by
    split
    · exact isDigits_zero
    · next hmore =>
      exact ⟨by simpa using hmore, fun c hc => hdigits.2 c (List.mem_of_mem_drop hc)⟩
  have hfraction := isMagnitude_spelled hfront ?_ (.inr ⟨_, hbehind, rfl⟩) (.inl rfl)
  · rwa [List.append_nil] at hfraction
  · rcases hleading with hone | hhead
    · left
      simp only [List.length_append, List.length_take, List.length_replicate]
      omega
    · right
      obtain ⟨c, rest, rfl, -⟩ := hdigits.head
      obtain ⟨whole, rfl⟩ := Nat.exists_eq_succ_of_ne_zero hwhole.ne'
      exact hhead

theorem isMagnitude_behindZeros (zeros : Nat) {digits : List Char} (hdigits : IsDigits digits) :
    IsMagnitude ('0' :: '.' :: (List.replicate zeros '0' ++ digits)) := by
  have hfraction := hdigits.behind fun c (hc : c ∈ List.replicate zeros '0') =>
    isDecimal_of_mem_zeros hc
  have h := isMagnitude_spelled isDigits_zero (.inl rfl) (.inr ⟨_, hfraction, rfl⟩) (.inl rfl)
  rwa [List.append_nil] at h

/-- Digits with a point behind the first one, if there is another one. -/
def mantissaText : List Char → List Char
  | first :: second :: rest => first :: '.' :: second :: rest
  | short => short

theorem isMagnitude_scientific {digits exponent : List Char} (hdigits : IsDigits digits)
    (hexponent : IsExponent exponent) : IsMagnitude (mantissaText digits ++ exponent) := by
  obtain ⟨first, rest, rfl, hfirst⟩ := hdigits.head
  have hwhole : IsDigits [first] := ⟨List.cons_ne_nil _ _, by simpa using hfirst⟩
  cases rest with
  | nil =>
      have hfraction : IsFraction [] := .inl rfl
      have h := isMagnitude_spelled hwhole (.inl rfl) hfraction hexponent
      exact h
  | cons second rest =>
      have hbehind : IsDigits (second :: rest) :=
        ⟨List.cons_ne_nil _ _, fun c hc => hdigits.2 c (List.mem_cons_of_mem first hc)⟩
      have hfraction : IsFraction ('.' :: second :: rest) := .inr ⟨_, hbehind, rfl⟩
      have h := isMagnitude_spelled hwhole (.inl rfl) hfraction hexponent
      exact h

/-- A decimal that is not zero is written as a numeral without a sign. -/
theorem Digits.isMagnitude_write {x : Digits} (hx : x.digits ≠ 0 ∨ x = ⟨0, 0⟩) :
    IsMagnitude x.write := by
  have hdigits := isDigits_decimalDigits x.digits
  unfold Digits.write
  simp only
  split
  · split
    · refine isMagnitude_pointAfter hdigits (Nat.succ_pos _) ?_
      rcases hx with hx | rfl
      · exact .inr (head?_decimalDigits_ne (Nat.pos_of_ne_zero hx))
      · exact .inl (by rw [decimalDigits_of_lt (by decide)]; rfl)
    · exact isMagnitude_behindZeros _ hdigits
  · refine isMagnitude_scientific hdigits (.inr ⟨_, _, ?_, rfl⟩)
    split
    · exact .inr rfl
    · exact .inl rfl

/-- The text of a double is a numeral. -/
theorem isNumeral_of_write? {x : Float} {text : List Char} (h : write? x = some text) :
    IsNumeral text := by
  simp only [write?] at h
  split at h
  · cases h
  · obtain rfl := Option.some.inj h
    have hmagnitude : IsMagnitude
        (if (Dyadic.ofBits x.toBits.toNat).mantissa = 0 then ['0', '.', '0']
          else (shortest (Dyadic.ofBits x.toBits.toNat)).write) := by
      split
      · exact ⟨by decide, _, rfl⟩
      · next hmantissa => exact Digits.isMagnitude_write (shortest_ne_zero hmantissa)
    split
    · exact hmagnitude.minus
    · exact hmagnitude.2

end SchemaDiagram.Decimal
