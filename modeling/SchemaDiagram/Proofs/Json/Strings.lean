import SchemaDiagram.Json.Parser
import SchemaDiagram.Json.Printer
import SchemaDiagram.Proofs.Text.Digits

/-!
# Strings in quotes

Every string is read as it was written.  A character is written as itself, as a letter behind a
backslash, or, if it is a control character without such a letter, as the code unit of an escape.
-/

namespace SchemaDiagram.Json

open SchemaDiagram.Text

/-- A part of a string that is joined to a single character. -/
inductive StandsFor : StringPart → Char → Prop
  | char (c : Char) : StandsFor (.char c) c
  | unit {c : Char} (hcontrol : c.toNat < 0x20) : StandsFor (.unit c.toNat) c

theorem joinParts?_unit {value : Nat} (hhigh : isHighSurrogate value = false)
    (hlow : isLowSurrogate value = false) (parts : List StringPart) :
    joinParts? (.unit value :: parts) = (joinParts? parts).map (Char.ofNat value :: ·) := by
  cases parts with
  | nil => simp [joinParts?, hhigh, hlow]
  | cons part parts =>
      cases part with
      | char c => simp [joinParts?, hhigh, hlow]
      | unit low => simp [joinParts?, hhigh, hlow]

theorem StandsFor.joinParts? {part : StringPart} {c : Char} (h : StandsFor part c)
    (parts : List StringPart) :
    Json.joinParts? (part :: parts) = (Json.joinParts? parts).map (c :: ·) := by
  cases h with
  | char => rfl
  | unit hcontrol =>
      have hhigh : isHighSurrogate c.toNat = false := by
        simp only [isHighSurrogate, Bool.and_eq_false_iff, decide_eq_false_iff_not]
        omega
      have hlow : isLowSurrogate c.toNat = false := by
        simp only [isLowSurrogate, Bool.and_eq_false_iff, decide_eq_false_iff_not]
        omega
      rw [joinParts?_unit hhigh hlow, Char.ofNat_toNat]

/-! ## Reading a written character -/

theorem takeString?_letter {letter c : Char} (hletter : letter ≠ 'u')
    (hescaped : escapedChar? letter = some c) (text : List Char) :
    takeString? ('\\' :: letter :: text) =
      (takeString? text).map fun read => (.char c :: read.1, read.2) := by
  rw [takeString?.eq_4 _ _ fun _ _ _ _ _ hu => absurd hu hletter, hescaped]
  cases takeString? text <;> rfl

theorem takeString?_unit {value : Nat} (hvalue : value < 0x20) (text : List Char) :
    takeString? ('\\' :: 'u' :: fixedDigits 16 4 value ++ text) =
      (takeString? text).map fun read => (.unit value :: read.1, read.2) := by
  have hread : hexNumber? (fixedDigits 16 4 value) = some value :=
    hexNumber?_fixedDigits (by decide) (by omega)
  obtain ⟨a, b, c, d, hdigits⟩ : ∃ a b c d, fixedDigits 16 4 value = [a, b, c, d] :=
    ⟨_, _, _, _, rfl⟩
  rw [hdigits] at hread ⊢
  simp only [List.cons_append, List.nil_append, takeString?.eq_3, hread]
  cases takeString? text <;> rfl

theorem takeString?_plain {c : Char} (hquote : c ≠ '\x22') (hslash : c ≠ '\\')
    (hcontrol : ¬ c.toNat < 0x20) (text : List Char) :
    takeString? (c :: text) =
      (takeString? text).map fun read => (.char c :: read.1, read.2) := by
  rw [takeString?.eq_5 _ _ hquote (fun _ _ _ _ _ h => absurd h hslash)
    (fun _ _ h => absurd h hslash), if_neg (not_or.mpr ⟨hcontrol, hslash⟩)]
  cases takeString? text <;> rfl

/-- A character is written as a letter behind a backslash, as a code unit, or as itself. -/
theorem escapeChar_cases (c : Char) :
    (∃ letter, letter ≠ 'u' ∧ escapedChar? letter = some c ∧ escapeChar c = ['\\', letter]) ∨
    (c.toNat < 0x20 ∧ escapeChar c = '\\' :: 'u' :: fixedDigits 16 4 c.toNat) ∨
    (c ≠ '\x22' ∧ c ≠ '\\' ∧ ¬ c.toNat < 0x20 ∧ escapeChar c = [c]) := by
  unfold escapeChar
  split
  · next h => exact .inl ⟨'\x22', by decide, by rw [h]; rfl, rfl⟩
  next hquote =>
  split
  · next h => exact .inl ⟨'\\', by decide, by rw [h]; rfl, rfl⟩
  next hslash =>
  split
  · next h => exact .inl ⟨'n', by decide, by rw [h]; rfl, rfl⟩
  split
  · next h => exact .inl ⟨'r', by decide, by rw [h]; rfl, rfl⟩
  split
  · next h => exact .inl ⟨'t', by decide, by rw [h]; rfl, rfl⟩
  split
  · next h => exact .inl ⟨'b', by decide, by rw [h]; rfl, rfl⟩
  split
  · next h => exact .inl ⟨'f', by decide, by rw [h]; rfl, rfl⟩
  split
  · next hcontrol => exact .inr (.inl ⟨hcontrol, rfl⟩)
  · next hcontrol => exact .inr (.inr ⟨hquote, hslash, hcontrol, rfl⟩)

/-- A written character is read as one part, and that part stands for the character. -/
theorem takeString?_escapeChar (c : Char) :
    ∃ part, StandsFor part c ∧ ∀ text, takeString? (escapeChar c ++ text) =
      (takeString? text).map fun read => (part :: read.1, read.2) := by
  rcases escapeChar_cases c with ⟨letter, hletter, hescaped, hc⟩ | ⟨hcontrol, hc⟩ |
    ⟨hquote, hslash, hplain, hc⟩
  · exact ⟨_, .char c, fun text => hc ▸ takeString?_letter hletter hescaped text⟩
  · exact ⟨_, .unit hcontrol, fun text => hc ▸ takeString?_unit hcontrol text⟩
  · exact ⟨_, .char c, fun text => hc ▸ takeString?_plain hquote hslash hplain text⟩

/-! ## Reading a written string -/

theorem takeString?_flatMap (chars rest : List Char) :
    ∃ parts, takeString? (chars.flatMap escapeChar ++ '\x22' :: rest) = some (parts, rest) ∧
      joinParts? parts = some chars := by
  induction chars with
  | nil => exact ⟨[], rfl, rfl⟩
  | cons c chars ih =>
      obtain ⟨parts, hread, hjoin⟩ := ih
      obtain ⟨part, hpart, hstep⟩ := takeString?_escapeChar c
      refine ⟨part :: parts, ?_, ?_⟩
      · rw [List.flatMap_cons, List.append_assoc, hstep, hread]
        rfl
      · rw [hpart.joinParts?, hjoin]
        rfl

/-- A written string is read up to its closing quote and stands for the string again. -/
theorem takeString?_writeString (value : String) (rest : List Char) :
    ∃ body parts, writeString value ++ rest = '\x22' :: body ∧
      takeString? body = some (parts, rest) ∧ joinParts? parts = some value.toList := by
  obtain ⟨parts, hread, hjoin⟩ := takeString?_flatMap value.toList rest
  refine ⟨_, parts, ?_, hread, hjoin⟩
  rw [writeString, List.cons_append, List.append_assoc]
  rfl

end SchemaDiagram.Json
