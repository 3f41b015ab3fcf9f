import SchemaDiagram.Proofs.Json.Grammar

/-!
# Written JSON values

Both written forms of a value spell it, so it is read as it was written.
-/

namespace SchemaDiagram.Json

open SchemaDiagram.Decimal (IsNumeral)

/-- A value without ill-formed parts, whose numbers are numerals. -/
inductive WellFormed : Json → Prop
  | null : WellFormed .null
  | bool (value : Bool) : WellFormed (.bool value)
  | number {literal : List Char} (hliteral : IsNumeral literal) : WellFormed (.number literal)
  | string (value : String) : WellFormed (.string value)
  | array {items : List Json} (hitems : ∀ item ∈ items, WellFormed item) :
      WellFormed (.array items)
  | object {members : List (String × Json)}
      (hmembers : ∀ member ∈ members, WellFormed member.2) : WellFormed (.object members)

attribute [simp] WellFormed.null WellFormed.bool WellFormed.string

theorem isSpace_nil : IsSpace [] := rfl

theorem isSpace_lineBreak (level : Nat) : IsSpace (lineBreak level) := by
  rw [IsSpace, lineBreak, skipSpace_cons, if_pos (by decide)]
  induction 2 * level with
  | zero => rfl
  | succ count ih => rw [List.replicate_succ, skipSpace_cons, if_pos (by decide), ih]

mutual

theorem spells_compact : ∀ {json : Json}, WellFormed json → Spells json json.compact
  | .null, _ => .null
  | .bool value, _ => .bool value
  | .number _, .number hliteral => .number hliteral
  | .string value, _ => .string value
  | .array [], _ => .emptyArray
  | .array (_ :: _), .array hitems => .array (spellsItems_compact (List.cons_ne_nil _ _) hitems)
  | .object [], _ => .emptyObject
  | .object (_ :: _), .object hmembers =>
      .object (spellsMembers_compact (List.cons_ne_nil _ _) hmembers)

theorem spellsItems_compact : ∀ {items : List Json}, items ≠ [] →
    (∀ item ∈ items, WellFormed item) → SpellsItems items (compactItems items)
  | [], hne, _ => absurd rfl hne
  | [item], _, hitems => by
      have hitem := spells_compact (hitems item List.mem_cons_self)
      have hlast := SpellsItems.last isSpace_nil hitem isSpace_nil
      rwa [List.nil_append, List.append_nil] at hlast
  | item :: next :: rest, _, hitems => by
      have hitem := spells_compact (hitems item List.mem_cons_self)
      have hmore := spellsItems_compact (List.cons_ne_nil next rest)
        fun other hother => hitems other (List.mem_cons_of_mem item hother)
      exact .cons isSpace_nil hitem hmore

theorem spellsMembers_compact : ∀ {members : List (String × Json)}, members ≠ [] →
    (∀ member ∈ members, WellFormed member.2) → SpellsMembers members (compactMembers members)
  | [], hne, _ => absurd rfl hne
  | [(name, value)], _, hmembers => by
      have hvalue := spells_compact (hmembers (name, value) List.mem_cons_self)
      have hlast : SpellsMembers [(name, value)]
          (writeString name ++ ':' :: (compact value ++ [])) :=
        .last isSpace_nil isSpace_nil hvalue isSpace_nil
      rwa [List.append_nil] at hlast
  | (name, value) :: next :: rest, _, hmembers => by
      have hvalue := spells_compact (hmembers (name, value) List.mem_cons_self)
      have hmore := spellsMembers_compact (List.cons_ne_nil next rest)
        fun other hother => hmembers other (List.mem_cons_of_mem (name, value) hother)
      exact .cons isSpace_nil isSpace_nil hvalue hmore

end

mutual

theorem spells_prettyAt (level : Nat) :
    ∀ {json : Json}, WellFormed json → Spells json (prettyAt level json)
  | .null, _ => .null
  | .bool value, _ => .bool value
  | .number _, .number hliteral => .number hliteral
  | .string value, _ => .string value
  | .array [], _ => .emptyArray
  | .array (_ :: _), .array hitems =>
      .array (spellsItems_pretty (level + 1) (isSpace_lineBreak level) (List.cons_ne_nil _ _)
        hitems)
  | .object [], _ => .emptyObject
  | .object (_ :: _), .object hmembers =>
      .object (spellsMembers_pretty (level + 1) (isSpace_lineBreak level) (List.cons_ne_nil _ _)
        hmembers)

theorem spellsItems_pretty (level : Nat) {after : List Char} (hafter : IsSpace after) :
    ∀ {items : List Json}, items ≠ [] → (∀ item ∈ items, WellFormed item) →
      SpellsItems items (prettyItems level items ++ after)
  | [], hne, _ => absurd rfl hne
  | [item], _, hitems => by
      have hitem := spells_prettyAt level (hitems item List.mem_cons_self)
      rw [prettyItems, List.append_assoc]
      exact .last (isSpace_lineBreak level) hitem hafter
  | item :: next :: rest, _, hitems => by
      have hitem := spells_prettyAt level (hitems item List.mem_cons_self)
      have hmore := spellsItems_pretty level hafter (List.cons_ne_nil next rest)
        fun other hother => hitems other (List.mem_cons_of_mem item hother)
      rw [prettyItems, List.append_assoc, List.append_assoc]
      · exact .cons (isSpace_lineBreak level) hitem hmore
      · exact fun h => absurd h (List.cons_ne_nil next rest)

theorem spellsMembers_pretty (level : Nat) {after : List Char} (hafter : IsSpace after) :
    ∀ {members : List (String × Json)}, members ≠ [] →
      (∀ member ∈ members, WellFormed member.2) →
      SpellsMembers members (prettyMembers level members ++ after)
  | [], hne, _ => absurd rfl hne
  | [(name, value)], _, hmembers => by
      have hvalue := spells_prettyAt level (hmembers (name, value) List.mem_cons_self)
      have hblank : IsSpace [' '] := rfl
      rw [prettyMembers, List.append_assoc, List.append_assoc]
      exact .last (isSpace_lineBreak level) hblank hvalue hafter
  | (name, value) :: next :: rest, _, hmembers => by
      have hvalue := spells_prettyAt level (hmembers (name, value) List.mem_cons_self)
      have hmore := spellsMembers_pretty level hafter (List.cons_ne_nil next rest)
        fun other hother => hmembers other (List.mem_cons_of_mem (name, value) hother)
      have hblank : IsSpace [' '] := rfl
      rw [prettyMembers, List.append_assoc, List.append_assoc]
      · simp only [List.cons_append, List.append_assoc]
        exact .cons (isSpace_lineBreak level) hblank hvalue hmore
      · exact fun h => absurd h (List.cons_ne_nil next rest)

end

/-- A well-formed value is read from its text on one line. -/
theorem ofText?_compact {json : Json} (h : WellFormed json) : ofText? json.compact = some json :=
  ofText?_of_spells (spells_compact h)

/-- A well-formed value is read from its text over several lines. -/
theorem ofText?_pretty {json : Json} (h : WellFormed json) : ofText? json.pretty = some json :=
  ofText?_of_spells (spells_prettyAt 0 h)

end SchemaDiagram.Json
