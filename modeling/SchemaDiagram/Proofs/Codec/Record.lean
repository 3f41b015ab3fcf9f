import Mathlib.Data.List.Nodup
import SchemaDiagram.Proofs.Decimal.Written
import SchemaDiagram.Proofs.Json.Written

/-!
# Written records

What a record, a list or an optional value is read as from its JSON form, given what its parts are
read as, and when the form is well-formed.
-/

namespace SchemaDiagram.Json

open SchemaDiagram.Decimal
open SchemaDiagram.Text

/-- A value is decoded from its JSON form, and from the text of the form on one line or several. -/
structure RoundTrips {α : Type} (encode : α → Json) (decode : Json → Option α) (value : α) :
    Prop where
  form : decode (encode value) = some value
  compact : (ofText? (encode value).compact).bind decode = some value
  pretty : (ofText? (encode value).pretty).bind decode = some value

/-- A well-formed form loses nothing when it is written. -/
theorem WellFormed.roundTrips {α : Type} {encode : α → Json} {decode : Json → Option α} {value : α}
    (hform : (encode value).WellFormed) (hread : decode (encode value) = some value) :
    RoundTrips encode decode value where
  form := hread
  compact := by rw [ofText?_compact hform, Option.bind_some, hread]
  pretty := by rw [ofText?_pretty hform, Option.bind_some, hread]

/-! ## Lists and optional values -/

section Containers

variable {α : Type} {encode : α → Json} {decode : Json → Option α}

theorem list?_ofList {items : List α} (h : ∀ item ∈ items, decode (encode item) = some item) :
    list? decode (ofList encode items) = some items := by
  rw [ofList, list?]
  induction items with
  | nil => rfl
  | cons item items ih =>
      rw [List.map_cons, List.mapM_cons, h item List.mem_cons_self,
        ih fun other hother => h other (List.mem_cons_of_mem item hother)]
      rfl

@[simp]
theorem wellFormed_ofList (h : ∀ item, (encode item).WellFormed) (items : List α) :
    (ofList encode items).WellFormed :=
  .array fun _ hjson => by
    obtain ⟨item, -, rfl⟩ := List.mem_map.mp hjson
    exact h item

/-- Where no value is written as `null`, an optional value is read as it was written. -/
theorem option?_ofOption (hnull : ∀ value, encode value ≠ .null)
    (h : ∀ value, decode (encode value) = some value) (value : Option α) :
    option? decode (ofOption encode value) = some value := by
  cases value with
  | none => rfl
  | some value =>
      rw [ofOption, option?, h, Option.map_some]
      exact hnull value

@[simp]
theorem wellFormed_ofOption (h : ∀ value, (encode value).WellFormed) (value : Option α) :
    (ofOption encode value).WellFormed := by
  cases value with
  | none => exact .null
  | some value => exact h value

end Containers

@[simp]
theorem option?_ofOption_string (value : Option String) :
    option? string? (ofOption Json.string value) = some value := by
  cases value <;> rfl

/-! ## Members -/

/-- A member that was read is handed on.  Unfolding the bind first would make `simp` visit what
follows twice at every member, because of the congruence lemma for `Option.bind`. -/
@[simp]
theorem some_bind {α β : Type} (value : α) (next : α → Option β) :
    (some value >>= next) = next value := rfl

/-- An object with the members of a record in order is read as the record. -/
theorem members?_object {names : List String} (hnames : names.Nodup)
    {members : List (String × Json)} (hmembers : members.map Prod.fst = names) (optional : Nat) :
    members? names optional (.object members) = some members := by
  subst hmembers
  rw [members?, if_pos]
  rw [List.all_eq_true]
  intro name _
  have hcount := List.nodup_iff_count_le_one.mp hnames name
  rw [List.count_eq_length_filter, List.filter_map, List.length_map] at hcount
  simpa [Function.comp_def] using hcount

section Members

variable {α : Type} (name other : String) (decode : Json → Option α) (json : Json)
  (rest : List (String × Json))

theorem required?_cons :
    required? name decode ((other, json) :: rest) =
      bif name == other then decode json else required? name decode rest := by
  cases h : name == other <;> simp [required?, List.lookup_cons, h]

theorem optional?_cons :
    optional? name decode ((other, json) :: rest) =
      bif name == other then option? decode json else optional? name decode rest := by
  cases h : name == other <;> simp [optional?, List.lookup_cons, h]

theorem defaulted?_cons (default : α) :
    defaulted? name default decode ((other, json) :: rest) =
      bif name == other then decode json else defaulted? name default decode rest := by
  cases h : name == other <;> simp [defaulted?, List.lookup_cons, h]

end Members

/-! ## Numbers -/

theorem wellFormed_ofInt (value : Int) : (ofInt value).WellFormed := by
  rw [ofInt]
  split
  · exact .number ⟨_, takeLiteral?_minus (head?_decimalDigits_ne_minus _)
      (takeLiteral?_decimalDigits _)⟩
  · exact .number ⟨_, takeLiteral?_decimalDigits _⟩

theorem toInt?_decimalDigits (value : Nat) :
    Literal.toInt? ⟨false, decimalDigits value, [], 0, true⟩ = some (value : Int) := by
  simp [Literal.toInt?, decimalNumber?_decimalDigits]

/-- Zero is never written with a minus sign, and would be no integer with one. -/
theorem toInt?_minus_decimalDigits {value : Nat} (hvalue : value ≠ 0) :
    Literal.toInt? ⟨true, decimalDigits value, [], 0, true⟩ = some (-(value : Int)) := by
  simp [Literal.toInt?, decimalNumber?_decimalDigits, hvalue]

theorem int?_number {low high value : Int} (hlow : low ≤ value) (hhigh : value ≤ high)
    {text more : List Char} {literal : Literal}
    (hread : takeLiteral? text = some (literal, more)) (hvalue : literal.toInt? = some value) :
    int? low high (.number text) = some value := by
  simp [int?, hread, hvalue, hlow, hhigh]

/-- An integer in a range is read as it was written. -/
theorem int?_ofInt {low high value : Int} (hlow : low ≤ value) (hhigh : value ≤ high) :
    int? low high (ofInt value) = some value := by
  rw [ofInt]
  split
  · next hnegative =>
    have hvalue : value = -(value.natAbs : Int) := by omega
    have hinteger := toInt?_minus_decimalDigits (show value.natAbs ≠ 0 by omega)
    exact int?_number hlow hhigh
      (takeLiteral?_minus (head?_decimalDigits_ne_minus _) (takeLiteral?_decimalDigits _))
      (hinteger.trans (congrArg some hvalue.symm))
  · next hpositive =>
    have hvalue : value = (value.natAbs : Int) := by omega
    exact int?_number hlow hhigh (takeLiteral?_decimalDigits _)
      ((toInt?_decimalDigits _).trans (congrArg some hvalue.symm))

theorem wellFormed_ofFloat (value : Float) : (ofFloat value).WellFormed := by
  rw [ofFloat]
  split
  · next htext => exact .number (isNumeral_of_write? htext)
  · exact .null

end SchemaDiagram.Json
