import SchemaDiagram.Proofs.SchemaText.Fields
import SchemaDiagram.Proofs.Text.Lowercase

/-!
# Resolved types

The identifier of a type hangs on the lower-case form of the trimmed name alone: the types of a
dialect, the short names and the names in front of arguments are all looked up by it.  The name may
be kept as it is written, yet resolving it again leads to the same type.
-/

namespace SchemaDiagram.Dialect

open SchemaDiagram.Text

variable (dialect : Dialect)

theorem id_resolveNamed {first second : String} (h : lowered first = lowered second) :
    (dialect.resolveNamed first).id = (dialect.resolveNamed second).id := by
  unfold resolveNamed
  rw [h]
  cases dialect.typeNamed? (lowered second) with
  | some type => rfl
  | none =>
      cases (baseName? (lowered second)).bind dialect.typeNamed? with
      | some base => rfl
      | none => exact h

theorem id_resolveType {first second : String}
    (h : lowered (trimmed first) = lowered (trimmed second)) :
    (dialect.resolveType first).id = (dialect.resolveType second).id := by
  rw [resolveType_eq, resolveType_eq, h]
  cases dialect.typeNamed? (lowered (trimmed second)) with
  | some type => rw [Option.getD_some, Option.getD_some]
  | none =>
      rw [Option.getD_none, Option.getD_none]
      cases DataType.aliases.lookup (lowered (trimmed second)) with
      | some name => rw [Option.getD_some, Option.getD_some]
      | none => exact dialect.id_resolveNamed h

/-- What a name is resolved to is canonical: its own name leads to it again, and its identifier does
not depend on how the name was spelled. -/
theorem resolveType_canonical (written : String) :
    dialect.resolveType (dialect.resolveType written).name = dialect.resolveType written ∧
      ∀ other, Respelled written other →
        (dialect.resolveType other).id = (dialect.resolveType written).id := by
  constructor
  · exact dialect.resolveType_name written
  · intro other hrespelled
    exact dialect.id_resolveType hrespelled.lowered_trimmed.symm

theorem resolveType_canonical_decimal :
    Respelled " Decimal (10, 2)\t" "DECIMAL (10, 2)" ∧
      (generic.resolveType "DECIMAL (10, 2)").id =
        (generic.resolveType " Decimal (10, 2)\t").id ∧
      generic.resolveType " Decimal (10, 2)\t" = ⟨"decimal", "Decimal (10, 2)"⟩ := by
  have hrespelled : Respelled " Decimal (10, 2)\t" "DECIMAL (10, 2)" :=
    ⟨"Decimal (10, 2)".toList, "DECIMAL (10, 2)".toList,
      ⟨[' '], ['\t'], List.all_eq_true.mp rfl, List.all_eq_true.mp rfl, rfl⟩,
      ⟨[], [], List.all_eq_true.mp rfl, List.all_eq_true.mp rfl, rfl⟩, by decide⟩
  exact ⟨hrespelled, (resolveType_canonical generic " Decimal (10, 2)\t").2 _ hrespelled,
    by decide +kernel⟩

end SchemaDiagram.Dialect
