import Mathlib.Data.Option.Basic
import SchemaDiagram.Decimal.Notation
import SchemaDiagram.Proofs.Text.Digits
import SchemaDiagram.Proofs.Text.Words

/-!
# Numerals

A numeral is a text that is a number literal as a whole.  It is read as the same literal in front of
every text that cannot continue it.  The decimal digits of a number are a numeral, and what is
written for a double is one.
-/

namespace SchemaDiagram.Decimal

open SchemaDiagram.Text

/-- Whether a number literal might go on with a character. -/
def continues (c : Char) : Bool :=
  isDecimal c || c == '.' || c == 'e' || c == 'E'

/-- A text that cannot continue a number literal. -/
def Stops (rest : List Char) : Prop :=
  rest.head?.any continues = false

/-- A text that is a number literal as a whole. -/
def IsNumeral (text : List Char) : Prop :=
  ∃ literal, takeLiteral? text = some (literal, [])

/-- A numeral without a sign. -/
def IsMagnitude (text : List Char) : Prop :=
  text.head? ≠ some '-' ∧ IsNumeral text

/-! ## Reading in front of a text -/

section Append

variable {rest : List Char}

theorem Stops.head (h : Stops rest) {c : Char} {more : List Char} (hrest : rest = c :: more) :
    isDecimal c = false ∧ c ≠ '.' ∧ c ≠ 'e' ∧ c ≠ 'E' := by
  subst hrest
  simpa [Stops, continues, and_assoc] using h

theorem spanDigits_append (hrest : Stops rest) (text : List Char) :
    spanDigits (text ++ rest) = ((spanDigits text).1, (spanDigits text).2 ++ rest) := by
  simp only [spanDigits, List.span_eq_takeWhile_dropWhile]
  induction text with
  | nil =>
      cases rest with
      | nil => rfl
      | cons c more => simp [(hrest.head rfl).1]
  | cons c text ih =>
      rw [List.cons_append, List.takeWhile_cons, List.takeWhile_cons, List.dropWhile_cons,
        List.dropWhile_cons]
      split
      · rw [(Prod.mk.inj ih).1, (Prod.mk.inj ih).2]
      · rfl

theorem takeFraction?_of_head {text : List Char} (h : text.head? ≠ some '.') :
    takeFraction? text = some ([], text) := by
  unfold takeFraction?
  split
  · exact absurd rfl h
  · rfl

theorem takeFraction?_append (hrest : Stops rest) {text digits more : List Char}
    (h : takeFraction? text = some (digits, more)) :
    takeFraction? (text ++ rest) = some (digits, more ++ rest) := by
  by_cases hpoint : text.head? = some '.'
  · obtain ⟨behind, rfl⟩ := List.head?_eq_some_iff.mp hpoint
    rw [List.cons_append]
    simp only [takeFraction?, spanDigits_append hrest] at h ⊢
    generalize spanDigits behind = span at h ⊢
    obtain ⟨found, left⟩ := span
    cases found with
    | nil => cases h
    | cons first others =>
        obtain ⟨rfl, rfl⟩ := Prod.mk.inj (Option.some.inj h)
        rfl
  · rw [takeFraction?_of_head hpoint] at h
    obtain ⟨rfl, rfl⟩ := Prod.mk.inj (Option.some.inj h)
    apply takeFraction?_of_head
    cases text with
    | nil =>
        cases rest with
        | nil => simp
        | cons c more => simpa using (hrest.head rfl).2.1
    | cons c text => exact hpoint

theorem takeExponent?_of_head {text : List Char} (he : text.head? ≠ some 'e')
    (hE : text.head? ≠ some 'E') : takeExponent? text = some (none, text) := by
  cases text with
  | nil => rfl
  | cons c text =>
      have hletter : ¬ (c = 'e' ∨ c = 'E') := by
        rintro (rfl | rfl)
        · exact he rfl
        · exact hE rfl
      rw [takeExponent?.eq_def]
      exact if_neg hletter

/-- The sign of an exponent, and the digits behind it. -/
def exponentSign (text : List Char) : Bool × List Char :=
  match text with
  | '-' :: digits => (true, digits)
  | '+' :: digits => (false, digits)
  | digits => (false, digits)

theorem takeExponent?_letter {c : Char} (hc : c = 'e' ∨ c = 'E') (text : List Char) :
    takeExponent? (c :: text) =
      (decimalNumber? (spanDigits (exponentSign text).2).1).map fun value =>
        (some (if (exponentSign text).1 then -(value : Int) else value),
          (spanDigits (exponentSign text).2).2) := by
  rw [takeExponent?.eq_def]
  exact if_pos hc

theorem exponentSign_append {text : List Char} (htext : text ≠ []) (rest : List Char) :
    exponentSign (text ++ rest) = ((exponentSign text).1, (exponentSign text).2 ++ rest) := by
  cases text with
  | nil => exact absurd rfl htext
  | cons c text =>
      unfold exponentSign
      rw [List.cons_append]
      split
      · next heq => cases heq; rfl
      · next heq => cases heq; rfl
      · next hminus hplus =>
        split
        · next heq => cases heq; exact absurd rfl (hminus _)
        · next heq => cases heq; exact absurd rfl (hplus _)
        · rfl

theorem takeExponent?_append (hrest : Stops rest) {text more : List Char} {exponent : Option Int}
    (h : takeExponent? text = some (exponent, more)) :
    takeExponent? (text ++ rest) = some (exponent, more ++ rest) := by
  by_cases hletter : text.head? = some 'e' ∨ text.head? = some 'E'
  · obtain ⟨c, behind, hc, rfl⟩ : ∃ c behind, (c = 'e' ∨ c = 'E') ∧ text = c :: behind := by
      cases text with
      | nil => simp at hletter
      | cons c behind => exact ⟨c, behind, by simpa using hletter, rfl⟩
    rw [takeExponent?_letter hc] at h
    rw [List.cons_append, takeExponent?_letter hc]
    have hbehind : behind ≠ [] := by
      rintro rfl
      cases h
    rw [exponentSign_append hbehind, spanDigits_append hrest]
    obtain ⟨value, hvalue, hsame⟩ := Option.map_eq_some_iff.mp h
    obtain ⟨rfl, rfl⟩ := Prod.mk.inj hsame
    rw [hvalue]
    rfl
  · rw [not_or] at hletter
    rw [takeExponent?_of_head hletter.1 hletter.2] at h
    obtain ⟨rfl, rfl⟩ := Prod.mk.inj (Option.some.inj h)
    cases text with
    | nil =>
        cases rest with
        | nil => rfl
        | cons c more =>
            have hc := hrest.head rfl
            exact takeExponent?_of_head (by simpa using hc.2.2.1) (by simpa using hc.2.2.2)
    | cons c text => exact takeExponent?_of_head hletter.1 hletter.2

/-- The sign of a literal, and what stands behind it. -/
def literalSign (text : List Char) : Bool × List Char :=
  match text with
  | '-' :: rest => (true, rest)
  | _ => (false, text)

theorem literalSign_append {text : List Char} (htext : text ≠ []) (rest : List Char) :
    literalSign (text ++ rest) = ((literalSign text).1, (literalSign text).2 ++ rest) := by
  cases text with
  | nil => exact absurd rfl htext
  | cons c text =>
      unfold literalSign
      rw [List.cons_append]
      split
      · next heq => cases heq; rfl
      · next hminus =>
        split
        · next heq => cases heq; exact absurd rfl (hminus _)
        · rfl

theorem takeLiteral?_eq (text : List Char) :
    takeLiteral? text =
      (guard (!(spanDigits (literalSign text).2).1.isEmpty &&
        ((spanDigits (literalSign text).2).1.length == 1 ||
          (spanDigits (literalSign text).2).1.head? != some '0')) : Option Unit).bind fun _ =>
      (takeFraction? (spanDigits (literalSign text).2).2).bind fun fraction =>
      (takeExponent? fraction.2).bind fun exponent =>
        some (⟨(literalSign text).1, (spanDigits (literalSign text).2).1, fraction.1,
          exponent.1.getD 0, fraction.1.isEmpty && exponent.1.isNone⟩, exponent.2) :=
  rfl

/-- A literal is digits without a leading zero behind a sign or none, a fraction and an exponent. -/
theorem takeLiteral?_eq_some_iff {text more : List Char} {literal : Literal} :
    takeLiteral? text = some (literal, more) ↔
      ∃ whole behind fraction left exponent,
        spanDigits (literalSign text).2 = (whole, behind) ∧
        (whole ≠ [] ∧ (whole.length = 1 ∨ whole.head? ≠ some '0')) ∧
        takeFraction? behind = some (fraction, left) ∧
        takeExponent? left = some (exponent, more) ∧
        literal = ⟨(literalSign text).1, whole, fraction, exponent.getD 0,
          fraction.isEmpty && exponent.isNone⟩ := by
  rw [takeLiteral?_eq]
  obtain ⟨whole, behind⟩ := spanDigits (literalSign text).2
  constructor
  · intro h
    obtain ⟨⟨⟩, hwhole, hrest⟩ := Option.bind_eq_some_iff.mp h
    obtain ⟨⟨fraction, left⟩, hfraction, hrest⟩ := Option.bind_eq_some_iff.mp hrest
    obtain ⟨⟨exponent, _⟩, hexponent, hrest⟩ := Option.bind_eq_some_iff.mp hrest
    obtain ⟨rfl, rfl⟩ := Prod.mk.inj (Option.some.inj hrest)
    refine ⟨whole, behind, fraction, left, exponent, rfl, ?_, hfraction, hexponent, rfl⟩
    simpa using (Option.guard_eq_some' ()).mp hwhole
  · rintro ⟨_, _, fraction, left, exponent, hspan, hwhole, hfraction, hexponent, rfl⟩
    obtain ⟨rfl, rfl⟩ := Prod.mk.inj hspan
    simp [hfraction, hexponent, hwhole]

/-- A numeral is read as a whole where it cannot go on. -/
theorem takeLiteral?_append (hrest : Stops rest) {text : List Char} {literal : Literal}
    (h : takeLiteral? text = some (literal, [])) :
    takeLiteral? (text ++ rest) = some (literal, rest) := by
  obtain ⟨whole, behind, fraction, left, exponent, hspan, hwhole, hfraction, hexponent, rfl⟩ :=
    takeLiteral?_eq_some_iff.mp h
  have htext : text ≠ [] := by
    rintro rfl
    obtain ⟨rfl, -⟩ := Prod.mk.inj hspan
    exact hwhole.1 rfl
  refine takeLiteral?_eq_some_iff.mpr ⟨whole, behind ++ rest, fraction, left ++ rest, exponent, ?_,
    hwhole, takeFraction?_append hrest hfraction, takeExponent?_append hrest hexponent, ?_⟩
  · rw [literalSign_append htext, spanDigits_append hrest, hspan]
  · rw [literalSign_append htext]

end Append

/-! ## Spelling numerals -/

/-- Digits, at least one of them. -/
def IsDigits (text : List Char) : Prop :=
  text ≠ [] ∧ ∀ c ∈ text, isDecimal c = true

/-- Nothing, or a point and digits behind it. -/
def IsFraction (text : List Char) : Prop :=
  text = [] ∨ ∃ digits, IsDigits digits ∧ text = '.' :: digits

/-- Nothing, or an exponent with its sign. -/
def IsExponent (text : List Char) : Prop :=
  text = [] ∨ ∃ sign value, (sign = '+' ∨ sign = '-') ∧ text = 'e' :: sign :: decimalDigits value

theorem isDigits_decimalDigits (value : Nat) : IsDigits (decimalDigits value) :=
  ⟨decimalDigits_ne_nil value, fun _ => isDecimal_of_mem_fixedDigits⟩

theorem IsDigits.head {digits : List Char} (h : IsDigits digits) :
    ∃ c rest, digits = c :: rest ∧ isDecimal c = true := by
  cases digits with
  | nil => exact absurd rfl h.1
  | cons c rest => exact ⟨c, rest, rfl, h.2 c List.mem_cons_self⟩

theorem spanDigits_digits {digits : List Char} (hdigits : ∀ c ∈ digits, isDecimal c = true)
    {rest : List Char} (hrest : rest.head?.any isDecimal = false) :
    spanDigits (digits ++ rest) = (digits, rest) := by
  rw [spanDigits, List.span_eq_takeWhile_dropWhile, List.takeWhile_append_of_pos hdigits,
    List.dropWhile_append_of_pos hdigits]
  cases rest with
  | nil => rw [List.takeWhile_nil, List.dropWhile_nil, List.append_nil]
  | cons c rest =>
      have hc : ¬ isDecimal c = true := by simpa using hrest
      rw [List.takeWhile_cons_of_neg hc, List.dropWhile_cons_of_neg hc, List.append_nil]

theorem spanDigits_decimalDigits (value : Nat) :
    spanDigits (decimalDigits value) = (decimalDigits value, []) := by
  have hspan := spanDigits_digits (isDigits_decimalDigits value).2
    (show ([] : List Char).head?.any isDecimal = false from rfl)
  rwa [List.append_nil] at hspan

theorem literalSign_of_head {text : List Char} (h : text.head? ≠ some '-') :
    literalSign text = (false, text) := by
  unfold literalSign
  split
  · exact absurd rfl h
  · rfl

/-- A minus sign in front makes a literal negative. -/
theorem takeLiteral?_minus {text more : List Char} {literal : Literal}
    (hsign : text.head? ≠ some '-') (h : takeLiteral? text = some (literal, more)) :
    takeLiteral? ('-' :: text) = some (⟨true, literal.whole, literal.fraction, literal.exponent,
      literal.isInteger⟩, more) := by
  obtain ⟨whole, behind, fraction, left, exponent, hspan, hwhole, hfraction, hexponent, rfl⟩ :=
    takeLiteral?_eq_some_iff.mp h
  rw [literalSign_of_head hsign] at hspan
  exact takeLiteral?_eq_some_iff.mpr
    ⟨whole, behind, fraction, left, exponent, hspan, hwhole, hfraction, hexponent, rfl⟩

theorem IsMagnitude.minus {text : List Char} (h : IsMagnitude text) : IsNumeral ('-' :: text) :=
  h.2.elim fun _ hliteral => ⟨_, takeLiteral?_minus h.1 hliteral⟩

theorem head?_ne_minus {c : Char} (hc : isDecimal c = true) (rest : List Char) :
    (c :: rest).head? ≠ some '-' := by
  rintro hminus
  obtain rfl := Option.some.inj hminus
  exact absurd hc (by decide)

theorem takeFraction?_spelled {fraction exponent : List Char} (hfraction : IsFraction fraction)
    (hexponent : IsExponent exponent) :
    ∃ digits, takeFraction? (fraction ++ exponent) = some (digits, exponent) := by
  rcases hfraction with rfl | ⟨digits, hdigits, rfl⟩
  · refine ⟨[], takeFraction?_of_head ?_⟩
    rcases hexponent with rfl | ⟨sign, value, -, rfl⟩
    · simp
    · simp
  · have hstop : exponent.head?.any isDecimal = false := by
      rcases hexponent with rfl | ⟨sign, value, -, rfl⟩
      · rfl
      · rw [List.head?_cons, Option.any_some]
        decide
    refine ⟨digits, ?_⟩
    rw [List.cons_append, takeFraction?, spanDigits_digits hdigits.2 hstop]
    obtain ⟨c, rest, rfl, -⟩ := hdigits.head
    rfl

theorem takeExponent?_spelled {exponent : List Char} (hexponent : IsExponent exponent) :
    ∃ value, takeExponent? exponent = some (value, []) := by
  rcases hexponent with rfl | ⟨sign, value, hsign, rfl⟩
  · exact ⟨none, rfl⟩
  · rw [takeExponent?_letter (.inl rfl)]
    rcases hsign with rfl | rfl
    · refine ⟨some value, ?_⟩
      simp [exponentSign, spanDigits_decimalDigits, decimalNumber?_decimalDigits]
    · refine ⟨some (-value), ?_⟩
      simp [exponentSign, spanDigits_decimalDigits, decimalNumber?_decimalDigits]

/-- Digits without a zero in front, a fraction and an exponent make a numeral without a sign. -/
theorem isMagnitude_spelled {whole fraction exponent : List Char} (hwhole : IsDigits whole)
    (hleading : whole.length = 1 ∨ whole.head? ≠ some '0') (hfraction : IsFraction fraction)
    (hexponent : IsExponent exponent) : IsMagnitude (whole ++ (fraction ++ exponent)) := by
  have hstop : (fraction ++ exponent).head?.any isDecimal = false := by
    rcases hfraction with rfl | ⟨digits, -, rfl⟩
    · rcases hexponent with rfl | ⟨sign, value, -, rfl⟩
      · rfl
      · rw [List.nil_append, List.head?_cons, Option.any_some]
        decide
    · rw [List.cons_append, List.head?_cons, Option.any_some]
      decide
  obtain ⟨digits, hdigits⟩ := takeFraction?_spelled hfraction hexponent
  obtain ⟨value, hvalue⟩ := takeExponent?_spelled hexponent
  have hsign : (whole ++ (fraction ++ exponent)).head? ≠ some '-' := by
    obtain ⟨c, rest, rfl, hc⟩ := hwhole.head
    exact head?_ne_minus hc _
  refine ⟨hsign, _, takeLiteral?_eq_some_iff.mpr
    ⟨whole, fraction ++ exponent, digits, exponent, value, ?_, ⟨hwhole.1, hleading⟩, hdigits,
      hvalue, rfl⟩⟩
  rw [literalSign_of_head hsign, spanDigits_digits hwhole.2 hstop]

/-- A numeral starts with a minus sign or a digit. -/
theorem IsNumeral.head {text : List Char} (h : IsNumeral text) :
    ∃ c rest, text = c :: rest ∧ (c = '-' ∨ isDecimal c = true) := by
  obtain ⟨literal, hliteral⟩ := h
  obtain ⟨whole, behind, -, -, -, hspan, ⟨hwhole, -⟩, -⟩ := takeLiteral?_eq_some_iff.mp hliteral
  cases text with
  | nil => exact absurd (Prod.mk.inj hspan).1.symm hwhole
  | cons c rest =>
      refine ⟨c, rest, rfl, ?_⟩
      by_cases hminus : c = '-'
      · exact .inl hminus
      · right
        rw [literalSign_of_head (by simpa using hminus), spanDigits,
          List.span_eq_takeWhile_dropWhile] at hspan
        by_contra hdigit
        rw [List.takeWhile_cons_of_neg hdigit] at hspan
        exact hwhole (Prod.mk.inj hspan).1.symm

theorem head?_decimalDigits_ne_minus (value : Nat) : (decimalDigits value).head? ≠ some '-' := by
  obtain ⟨c, rest, hdigits, hc⟩ := (isDigits_decimalDigits value).head
  rw [hdigits]
  exact head?_ne_minus hc rest

/-- The digits of a number are read as an integer literal. -/
theorem takeLiteral?_decimalDigits (value : Nat) :
    takeLiteral? (decimalDigits value) = some (⟨false, decimalDigits value, [], 0, true⟩, []) := by
  have hsign := head?_decimalDigits_ne_minus value
  refine takeLiteral?_eq_some_iff.mpr ⟨decimalDigits value, [], [], [], none, ?_,
    ⟨decimalDigits_ne_nil value, decimalDigits_leading value⟩, rfl, rfl, ?_⟩
  · rw [literalSign_of_head hsign, spanDigits_decimalDigits]
  · rw [literalSign_of_head hsign]
    rfl

end SchemaDiagram.Decimal
