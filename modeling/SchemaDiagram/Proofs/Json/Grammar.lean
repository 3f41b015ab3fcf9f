import Mathlib.Data.List.DropRight
import SchemaDiagram.Proofs.Decimal.Numeral
import SchemaDiagram.Proofs.Json.Strings

/-!
# The grammar of JSON texts

Which texts spell a value, independently of how they are laid out.  A text that spells a value is
read as the value, in front of every text that cannot continue it.
-/

namespace SchemaDiagram.Json

open SchemaDiagram.Decimal (IsNumeral Stops takeLiteral?_append)
open SchemaDiagram.Text

/-- White space as JSON allows it between tokens. -/
def IsSpace (text : List Char) : Prop :=
  skipSpace text = []

mutual

/-- A text that spells a value. -/
inductive Spells : Json → List Char → Prop
  | null : Spells .null ['n', 'u', 'l', 'l']
  | bool (value : Bool) : Spells (.bool value) (writeBool value)
  | number {literal : List Char} (hliteral : IsNumeral literal) : Spells (.number literal) literal
  | string (value : String) : Spells (.string value) (writeString value)
  | emptyArray : Spells (.array []) ['[', ']']
  | array {items : List Json} {text : List Char} (hitems : SpellsItems items text) :
      Spells (.array items) ('[' :: (text ++ [']']))
  | emptyObject : Spells (.object []) ['\x7b', '\x7d']
  | object {members : List (String × Json)} {text : List Char}
      (hmembers : SpellsMembers members text) :
      Spells (.object members) ('\x7b' :: (text ++ ['\x7d']))

inductive SpellsItems : List Json → List Char → Prop
  | last {item : Json} {before text after : List Char} (hbefore : IsSpace before)
      (hitem : Spells item text) (hafter : IsSpace after) :
      SpellsItems [item] (before ++ (text ++ after))
  | cons {item : Json} {items : List Json} {before text more : List Char}
      (hbefore : IsSpace before) (hitem : Spells item text) (hmore : SpellsItems items more) :
      SpellsItems (item :: items) (before ++ (text ++ ',' :: more))

inductive SpellsMembers : List (String × Json) → List Char → Prop
  | last {name : String} {value : Json} {before between text after : List Char}
      (hbefore : IsSpace before) (hbetween : IsSpace between) (hvalue : Spells value text)
      (hafter : IsSpace after) :
      SpellsMembers [(name, value)]
        (before ++ (writeString name ++ ':' :: (between ++ (text ++ after))))
  | cons {name : String} {value : Json} {members : List (String × Json)}
      {before between text more : List Char} (hbefore : IsSpace before)
      (hbetween : IsSpace between) (hvalue : Spells value text)
      (hmore : SpellsMembers members more) :
      SpellsMembers ((name, value) :: members)
        (before ++ (writeString name ++ ':' :: (between ++ (text ++ ',' :: more))))

end

/-! ## White space -/

theorem skipSpace_cons (c : Char) (text : List Char) :
    skipSpace (c :: text) =
      if c = ' ' ∨ c = '\t' ∨ c = '\n' ∨ c = '\r' then skipSpace text else c :: text := by
  simp [skipSpace, List.dropWhile_cons, or_assoc]

theorem skipSpace_append {space : List Char} (hspace : IsSpace space) (text : List Char) :
    skipSpace (space ++ text) = skipSpace text := by
  unfold IsSpace skipSpace at *
  rw [List.dropWhile_append, hspace]
  rfl

theorem skipSpace_skipSpace (text : List Char) : skipSpace (skipSpace text) = skipSpace text :=
  List.dropWhile_idempotent _ _

theorem IsSpace.stops {space rest : List Char} (hspace : IsSpace space) (hrest : Stops rest) :
    Stops (space ++ rest) := by
  cases space with
  | nil => exact hrest
  | cons c space =>
      rw [IsSpace, skipSpace_cons] at hspace
      split at hspace
      · next hc => rcases hc with rfl | rfl | rfl | rfl <;> rfl
      · cases hspace

/-! ## First characters -/

/-- A value starts neither with white space nor with the end of an array. -/
theorem Spells.head {json : Json} {text : List Char} (h : Spells json text) :
    ∃ c more, text = c :: more ∧ ¬ (c = ' ' ∨ c = '\t' ∨ c = '\n' ∨ c = '\r') ∧ c ≠ ']' := by
  cases h with
  | null => exact ⟨_, _, rfl, by decide, by decide⟩
  | bool value => cases value <;> exact ⟨_, _, rfl, by decide, by decide⟩
  | number hliteral =>
      obtain ⟨c, more, rfl, hc⟩ := hliteral.head
      refine ⟨c, more, rfl, ?_, ?_⟩
      · rintro (rfl | rfl | rfl | rfl) <;> exact absurd hc (by decide)
      · rintro rfl
        exact absurd hc (by decide)
  | string value => exact ⟨_, _, rfl, by decide, by decide⟩
  | emptyArray => exact ⟨_, _, rfl, by decide, by decide⟩
  | array hitems => exact ⟨_, _, rfl, by decide, by decide⟩
  | emptyObject => exact ⟨_, _, rfl, by decide, by decide⟩
  | object hmembers => exact ⟨_, _, rfl, by decide, by decide⟩

theorem Spells.skipSpace {json : Json} {text : List Char} (h : Spells json text)
    (rest : List Char) : skipSpace (text ++ rest) = text ++ rest := by
  obtain ⟨c, more, rfl, hc, -⟩ := h.head
  rw [List.cons_append, skipSpace_cons, if_neg hc]

theorem SpellsItems.skipSpace {items : List Json} {text : List Char} (h : SpellsItems items text)
    (rest : List Char) : ∃ c more, Json.skipSpace (text ++ rest) = c :: more ∧ c ≠ ']' := by
  cases h with
  | last hbefore hitem hafter =>
      obtain ⟨c, more, htext, -, hc⟩ := hitem.head
      rw [List.append_assoc, skipSpace_append hbefore, List.append_assoc, hitem.skipSpace, htext]
      exact ⟨c, _, rfl, hc⟩
  | cons hbefore hitem hmore =>
      obtain ⟨c, more, htext, -, hc⟩ := hitem.head
      rw [List.append_assoc, skipSpace_append hbefore, List.append_assoc, hitem.skipSpace, htext]
      exact ⟨c, _, rfl, hc⟩

theorem SpellsMembers.skipSpace {members : List (String × Json)} {text : List Char}
    (h : SpellsMembers members text) (rest : List Char) :
    ∃ more, Json.skipSpace (text ++ rest) = '\x22' :: more := by
  cases h with
  | last hbefore hbetween hvalue hafter =>
      rw [List.append_assoc, skipSpace_append hbefore, List.append_assoc,
        (Spells.string _).skipSpace]
      exact ⟨_, rfl⟩
  | cons hbefore hbetween hvalue hmore =>
      rw [List.append_assoc, skipSpace_append hbefore, List.append_assoc,
        (Spells.string _).skipSpace]
      exact ⟨_, rfl⟩

/-! ## Reading -/

theorem takeValue?_skipSpace (fuel : Nat) (text : List Char) :
    takeValue? fuel (skipSpace text) = takeValue? fuel text := by
  cases fuel with
  | zero => rfl
  | succ fuel => rw [takeValue?, takeValue?, skipSpace_skipSpace]

theorem takeItems?_skipSpace (fuel : Nat) (text : List Char) :
    takeItems? fuel (skipSpace text) = takeItems? fuel text := by
  cases fuel with
  | zero => rfl
  | succ fuel => rw [takeItems?, takeItems?, takeValue?_skipSpace]

theorem takeMembers?_skipSpace (fuel : Nat) (text : List Char) :
    takeMembers? fuel (skipSpace text) = takeMembers? fuel text := by
  cases fuel with
  | zero => rfl
  | succ fuel => rw [takeMembers?, takeMembers?, skipSpace_skipSpace]

/-- A value is read with white space in front of it. -/
theorem takeValue?_append {space : List Char} (hspace : IsSpace space) (fuel : Nat)
    (text : List Char) : takeValue? fuel (space ++ text) = takeValue? fuel text := by
  rw [← takeValue?_skipSpace, skipSpace_append hspace, takeValue?_skipSpace]

theorem takeNumber?_append {literal rest : List Char} (hliteral : IsNumeral literal)
    (hrest : Stops rest) : takeNumber? (literal ++ rest) = some (.number literal, rest) := by
  obtain ⟨parts, hparts⟩ := hliteral
  have hlength : (literal ++ rest).length - rest.length = literal.length := by
    rw [List.length_append, Nat.add_sub_cancel]
  rw [takeNumber?, takeLiteral?_append hrest hparts]
  simp only [Option.bind_eq_bind, Option.bind_some, hlength, List.take_left]
  rfl

/-- A numeral is read as a number in front of a text that cannot continue it. -/
theorem takeValue?_number {literal rest : List Char} (hliteral : IsNumeral literal)
    (hrest : Stops rest) (fuel : Nat) :
    takeValue? (fuel + 1) (literal ++ rest) = some (.number literal, rest) := by
  have hspace := (Spells.number hliteral).skipSpace rest
  have hnumber := takeNumber?_append hliteral hrest
  obtain ⟨c, more, rfl, hc⟩ := hliteral.head
  rw [takeValue?, hspace]
  rw [List.cons_append] at hnumber ⊢
  split
  case h_7 => exact hnumber
  all_goals
    next heq =>
    obtain ⟨rfl, -⟩ := List.cons.inj heq
    exact absurd hc (by decide)

theorem takeValue?_string (value : String) (rest : List Char) (fuel : Nat) :
    takeValue? (fuel + 1) (writeString value ++ rest) = some (.string value, rest) := by
  obtain ⟨body, parts, hbody, hread, hjoin⟩ := takeString?_writeString value rest
  rw [hbody, takeValue?, skipSpace_cons, if_neg (by decide)]
  simp only [hread, Option.map_some, ofParts, hjoin, String.ofList_toList]

theorem takeValue?_array {fuel : Nat} {items : List Json} {text rest : List Char}
    (hitems : SpellsItems items text)
    (hread : takeItems? fuel (text ++ ']' :: rest) = some (items, rest)) :
    takeValue? (fuel + 1) ('[' :: (text ++ [']']) ++ rest) = some (.array items, rest) := by
  obtain ⟨c, more, hskip, hc⟩ := hitems.skipSpace (']' :: rest)
  rw [List.cons_append, List.append_assoc, List.singleton_append, takeValue?, skipSpace_cons,
    if_neg (by decide)]
  rw [← takeItems?_skipSpace, hskip] at hread
  simp only [hskip]
  split
  · next heq => exact absurd (List.cons.inj heq).1 hc
  · rw [hread]
    rfl

theorem takeValue?_object {fuel : Nat} {members : List (String × Json)} {text rest : List Char}
    (hmembers : SpellsMembers members text)
    (hread : takeMembers? fuel (text ++ '\x7d' :: rest) = some (some members, rest)) :
    takeValue? (fuel + 1) ('\x7b' :: (text ++ ['\x7d']) ++ rest) =
      some (.object members, rest) := by
  obtain ⟨more, hskip⟩ := hmembers.skipSpace ('\x7d' :: rest)
  rw [List.cons_append, List.append_assoc, List.singleton_append, takeValue?, skipSpace_cons,
    if_neg (by decide)]
  rw [← takeMembers?_skipSpace, hskip] at hread
  simp only [hskip]
  split
  · next heq => exact absurd (List.cons.inj heq).1 (by decide)
  · rw [hread]
    rfl

theorem takeItems?_last {fuel : Nat} {item : Json} {before text after rest : List Char}
    (hbefore : IsSpace before) (hafter : IsSpace after)
    (hread : takeValue? fuel (text ++ (after ++ ']' :: rest)) = some (item, after ++ ']' :: rest)) :
    takeItems? (fuel + 1) (before ++ (text ++ after) ++ ']' :: rest) = some ([item], rest) := by
  rw [List.append_assoc, List.append_assoc, takeItems?, takeValue?_append hbefore, hread]
  simp only [Option.bind_eq_bind, Option.bind_some, skipSpace_append hafter]
  rfl

theorem takeItems?_cons {fuel : Nat} {item : Json} {items : List Json}
    {before text more rest : List Char} (hbefore : IsSpace before)
    (hread : takeValue? fuel (text ++ ',' :: (more ++ ']' :: rest)) =
      some (item, ',' :: (more ++ ']' :: rest)))
    (hmore : takeItems? fuel (more ++ ']' :: rest) = some (items, rest)) :
    takeItems? (fuel + 1) (before ++ (text ++ ',' :: more) ++ ']' :: rest) =
      some (item :: items, rest) := by
  rw [List.append_assoc, List.append_assoc, List.cons_append, takeItems?,
    takeValue?_append hbefore, hread]
  simp only [Option.bind_eq_bind, Option.bind_some]
  rw [skipSpace_cons, if_neg (by decide)]
  simp only [hmore, Option.bind_some]
  rfl

theorem takeMembers?_last {fuel : Nat} {name : String} {value : Json}
    {before between text after rest : List Char} (hbefore : IsSpace before)
    (hbetween : IsSpace between) (hafter : IsSpace after)
    (hread : takeValue? fuel (text ++ (after ++ '\x7d' :: rest)) =
      some (value, after ++ '\x7d' :: rest)) :
    takeMembers? (fuel + 1)
        (before ++ (writeString name ++ ':' :: (between ++ (text ++ after))) ++ '\x7d' :: rest) =
      some (some [(name, value)], rest) := by
  obtain ⟨body, parts, hbody, hname, hjoin⟩ :=
    takeString?_writeString name (':' :: (between ++ (text ++ (after ++ '\x7d' :: rest))))
  simp only [List.append_assoc, List.cons_append]
  rw [takeMembers?, skipSpace_append hbefore, hbody, skipSpace_cons, if_neg (by decide)]
  simp only [hname, Option.bind_eq_bind, Option.bind_some]
  rw [skipSpace_cons, if_neg (by decide)]
  simp only [takeValue?_append hbetween, hread, Option.bind_some, skipSpace_append hafter]
  rw [skipSpace_cons, if_neg (by decide)]
  simp [consMember?, hjoin]

theorem takeMembers?_cons {fuel : Nat} {name : String} {value : Json}
    {members : List (String × Json)} {before between text more rest : List Char}
    (hbefore : IsSpace before) (hbetween : IsSpace between)
    (hread : takeValue? fuel (text ++ ',' :: (more ++ '\x7d' :: rest)) =
      some (value, ',' :: (more ++ '\x7d' :: rest)))
    (hmore : takeMembers? fuel (more ++ '\x7d' :: rest) = some (some members, rest)) :
    takeMembers? (fuel + 1)
        (before ++ (writeString name ++ ':' :: (between ++ (text ++ ',' :: more))) ++
          '\x7d' :: rest) =
      some (some ((name, value) :: members), rest) := by
  obtain ⟨body, parts, hbody, hname, hjoin⟩ :=
    takeString?_writeString name (':' :: (between ++ (text ++ ',' :: (more ++ '\x7d' :: rest))))
  simp only [List.append_assoc, List.cons_append]
  rw [takeMembers?, skipSpace_append hbefore, hbody, skipSpace_cons, if_neg (by decide)]
  simp only [hname, Option.bind_eq_bind, Option.bind_some]
  rw [skipSpace_cons, if_neg (by decide)]
  simp only [takeValue?_append hbetween, hread, Option.bind_some]
  rw [skipSpace_cons, if_neg (by decide)]
  simp [hmore, consMember?, hjoin]

mutual

-- The recursion follows the text: a bracket or a comma pays for the call that reads what is behind
-- it, so a unit of fuel for each character is enough.

/-- A text that spells a value is read as the value, whatever follows that cannot continue it. -/
theorem takeValue?_of_spells {json : Json} {text : List Char} (h : Spells json text) :
    ∀ {fuel : Nat} {rest : List Char}, text.length ≤ fuel → Stops rest →
      takeValue? fuel (text ++ rest) = some (json, rest) := by
  intro fuel rest hfuel hrest
  match fuel, h with
  | 0, h =>
      obtain ⟨c, more, rfl, -⟩ := h.head
      exact absurd hfuel (Nat.not_succ_le_zero _)
  | fuel + 1, .null => rfl
  | fuel + 1, .bool true => rfl
  | fuel + 1, .bool false => rfl
  | fuel + 1, .number hliteral => exact takeValue?_number hliteral hrest fuel
  | fuel + 1, .string value => exact takeValue?_string value rest fuel
  | fuel + 1, .emptyArray => rfl
  | fuel + 1, .emptyObject => rfl
  | fuel + 1, .array hitems =>
      simp only [List.length_cons, List.length_append, List.length_nil] at hfuel
      exact takeValue?_array hitems (takeItems?_of_spells hitems (by omega))
  | fuel + 1, .object hmembers =>
      simp only [List.length_cons, List.length_append, List.length_nil] at hfuel
      exact takeValue?_object hmembers (takeMembers?_of_spells hmembers (by omega))
termination_by structural h

theorem takeItems?_of_spells {items : List Json} {text : List Char} (h : SpellsItems items text) :
    ∀ {fuel : Nat} {rest : List Char}, text.length < fuel →
      takeItems? fuel (text ++ ']' :: rest) = some (items, rest) := by
  intro fuel rest hfuel
  match fuel, h with
  | fuel + 1, .last hbefore hitem hafter =>
      simp only [List.length_append] at hfuel
      exact takeItems?_last hbefore hafter
        (takeValue?_of_spells hitem (by omega) (hafter.stops rfl))
  | fuel + 1, .cons hbefore hitem hmore =>
      simp only [List.length_append, List.length_cons] at hfuel
      exact takeItems?_cons hbefore (takeValue?_of_spells hitem (by omega) rfl)
        (takeItems?_of_spells hmore (by omega))
termination_by structural h

theorem takeMembers?_of_spells {members : List (String × Json)} {text : List Char}
    (h : SpellsMembers members text) :
    ∀ {fuel : Nat} {rest : List Char}, text.length < fuel →
      takeMembers? fuel (text ++ '\x7d' :: rest) = some (some members, rest) := by
  intro fuel rest hfuel
  match fuel, h with
  | fuel + 1, .last hbefore hbetween hvalue hafter =>
      simp only [List.length_append, List.length_cons] at hfuel
      exact takeMembers?_last hbefore hbetween hafter
        (takeValue?_of_spells hvalue (by omega) (hafter.stops rfl))
  | fuel + 1, .cons hbefore hbetween hvalue hmore =>
      simp only [List.length_append, List.length_cons] at hfuel
      exact takeMembers?_cons hbefore hbetween (takeValue?_of_spells hvalue (by omega) rfl)
        (takeMembers?_of_spells hmore (by omega))
termination_by structural h

end

theorem ofText?_of_spells {json : Json} {text : List Char} (h : Spells json text) :
    ofText? text = some json := by
  have hread : takeValue? (2 * text.length + 2) (text ++ []) = some (json, []) :=
    takeValue?_of_spells h (by omega) rfl
  rw [List.append_nil] at hread
  rw [ofText?, hread]
  rfl

end SchemaDiagram.Json
