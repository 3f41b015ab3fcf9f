import SchemaDiagram.Proofs.Reconciliation.Unchanged
import SchemaDiagram.Proofs.Text.Digits
import SchemaDiagram.Session.Create

/-!
# Models made of defaults

A table that a session makes has a key field and then nullable fields with numbered names, so that
its number of fields says what is declared of them.  Its indexes are over no field, and no text
declares them.  Names may repeat: the declarations that are read back from the text of such a model
all go to the first entity of their name, and the text leaves the model alone exactly if these
entities are what is said about all the others.
-/

namespace SchemaDiagram

open Reconciliation
open SchemaDiagram.Text

variable {κ : Type}

/-! ## Numbered names -/

theorem isWord_append {first second : List Char} (hfirst : isWord first = true)
    (hsecond : ∀ c ∈ second, isWordChar c = true) : isWord (first ++ second) = true := by
  simp only [isWord, Bool.and_eq_true, Bool.not_eq_true', List.all_eq_true] at hfirst ⊢
  refine ⟨?_, fun c hc => (List.mem_append.mp hc).elim (hfirst.2 c) (hsecond c)⟩
  cases first with
  | nil => exact absurd hfirst.1 (by decide)
  | cons c rest => rfl

theorem isWordChar_of_isWord {text : List Char} (h : isWord text = true) :
    ∀ c ∈ text, isWordChar c = true := by
  simp only [isWord, Bool.and_eq_true, List.all_eq_true] at h
  exact h.2

namespace Workspace

theorem toList_numberedName (word : String) (count : Nat) :
    (numberedName word count).toList = word.toList ++ '_' :: decimalDigits (count + 1) := by
  simp [numberedName]

theorem isWord_numberedName {word : String} (hword : isWord word.toList = true) (count : Nat) :
    isWord (numberedName word count).toList = true := by
  rw [toList_numberedName]
  refine isWord_append hword (List.forall_mem_cons.mpr ⟨by decide, ?_⟩)
  exact fun c hc => isWordChar_of_mem_fixedDigits hc

theorem numberedName_injective (word : String) : Function.Injective (numberedName word) := by
  intro first second h
  have htexts := congrArg String.toList h
  rw [toList_numberedName, toList_numberedName] at htexts
  have hdigits := (List.cons.inj (List.append_cancel_left htexts)).2
  exact Nat.succ.inj (decimalDigits_injective hdigits)

end Workspace

/-! ## Fields -/

/-- What is declared of the field that a session puts at a position of a table. -/
def FieldDeclaration.seeded (dialect : Dialect) : Nat → FieldDeclaration
  | 0 => ⟨"id", dialect.idType, true, true, false, none⟩
  | count + 1 =>
    ⟨Workspace.numberedName "field" (count + 1), dialect.idType, false, false, true, none⟩

namespace FieldDeclaration

theorem name_seeded_injective (dialect : Dialect) :
    Function.Injective fun count => (seeded dialect count).name := by
  have hkey : ∀ count, "id" ≠ Workspace.numberedName "field" count := by
    intro count h
    have htexts := congrArg String.toList h
    rw [Workspace.toList_numberedName] at htexts
    exact absurd (List.cons.inj htexts).1 (by decide)
  intro first second h
  cases first with
  | zero =>
      cases second with
      | zero => rfl
      | succ second => exact absurd h (hkey _)
  | succ first =>
      cases second with
      | zero => exact absurd h.symm (hkey _)
      | succ second => exact Workspace.numberedName_injective "field" h

theorem isWord_seeded (dialect : Dialect) (count : Nat) :
    isWord (seeded dialect count).name.toList = true := by
  cases count with
  | zero =>
      have hkey : isWord "id".toList = true := by decide
      exact hkey
  | succ count => exact Workspace.isWord_numberedName (by decide) _

theorem dataType_seeded (dialect : Dialect) (count : Nat) :
    (seeded dialect count).dataType = dialect.idType := by
  cases count <;> rfl

end FieldDeclaration

theorem Dialect.writable_idType (dialect : Dialect) : dialect.idType.Writable dialect := by
  cases dialect <;>
    exact DataType.writable_of_slashless (by decide +kernel) (by decide) (by decide)

/-! ## Tables -/

/-- A table as a session makes and extends it. -/
structure Table.Seeded [BEq κ] (dialect : Dialect) (table : Table κ) : Prop where
  name : isWord table.name.toList = true
  comment : table.comment = none
  nonempty : table.fields ≠ []
  fields : table.fields.map Field.declared =
    (List.range table.fields.length).map (FieldDeclaration.seeded dialect)
  keysUnique : ∀ field ∈ table.fields, field.primaryKey = true → field.unique = true
  indexes : ∀ index ∈ table.indexes, index.fieldIds = []
  placed : table.Placed

namespace Table.Seeded

variable [BEq κ] {dialect : Dialect} {table first : Table κ}

theorem exists_seeded (h : table.Seeded dialect) {field : Field} (hmem : field ∈ table.fields) :
    ∃ count < table.fields.length, field.declared = FieldDeclaration.seeded dialect count := by
  have hdeclared : field.declared ∈ table.fields.map Field.declared := List.mem_map_of_mem hmem
  rw [h.fields] at hdeclared
  obtain ⟨count, hcount, hsame⟩ := List.mem_map.mp hdeclared
  exact ⟨count, List.mem_range.mp hcount, hsame.symm⟩

theorem isWord_field (h : table.Seeded dialect) {field : Field} (hmem : field ∈ table.fields) :
    isWord field.name.toList = true := by
  obtain ⟨count, -, hsame⟩ := h.exists_seeded hmem
  have hname : field.name = (FieldDeclaration.seeded dialect count).name :=
    congrArg FieldDeclaration.name hsame
  rw [hname]
  exact FieldDeclaration.isWord_seeded dialect count

theorem writable (h : table.Seeded dialect) : table.Writable dialect := by
  refine ⟨h.name, fun field hfield => ⟨h.isWord_field hfield, ?_⟩⟩
  obtain ⟨count, -, hsame⟩ := h.exists_seeded hfield
  have htype : field.dataType = (FieldDeclaration.seeded dialect count).dataType :=
    congrArg FieldDeclaration.dataType hsame
  rw [htype, FieldDeclaration.dataType_seeded]
  exact dialect.writable_idType

theorem map_name (h : table.Seeded dialect) : table.fields.map Field.name =
    (List.range table.fields.length).map fun count =>
      (FieldDeclaration.seeded dialect count).name := by
  have hnames := congrArg (List.map FieldDeclaration.name) h.fields
  rwa [List.map_map, List.map_map] at hnames

theorem fieldNames (h : table.Seeded dialect) : (table.fields.map Field.name).Nodup := by
  rw [h.map_name]
  exact List.nodup_range.map (FieldDeclaration.name_seeded_injective dialect)

/-- No index of the table is declared. -/
theorem declared_indexes (h : table.Seeded dialect) : table.declared.indexes = [] := by
  refine List.filterMap_eq_nil_iff.mpr fun index hindex => ?_
  have hnone : SchemaText.indexFields table index = [] := by
    rw [SchemaText.indexFields, h.indexes index (List.mem_filter.mp hindex).1]
    rfl
  rw [Index.declared?, hnone]
  rfl

theorem regular_declared (h : table.Seeded dialect) : table.declared.Regular := by
  refine ⟨?_, ?_, ?_⟩
  · have hnames : table.declared.fieldNames = table.fields.map Field.name := by
      rw [TableDeclaration.fieldNames, Table.declared, List.map_map]
      rfl
    rw [hnames]
    exact h.fieldNames
  · intro declaration hdeclaration hkey
    obtain ⟨field, -, rfl⟩ := List.mem_map.mp hdeclaration
    exact Bool.or_eq_true_iff.mpr (.inr hkey)
  · rw [h.declared_indexes]
    exact List.nodup_nil

theorem pruneIndexes (h : table.Seeded dialect) (fields : List Field) :
    Reconciliation.pruneIndexes table.indexes fields = [] := by
  refine List.filterMap_eq_nil_iff.mpr fun index hindex => ?_
  rw [h.indexes index hindex]
  rfl

/-- A table is what is declared of another one of its name if it has no index and as many
fields. -/
theorem settled (hfirst : first.Seeded dialect) (h : table.Seeded dialect)
    (hname : first.name = table.name) (hindexes : first.indexes = [])
    (hlength : first.fields.length = table.fields.length) : first.Settled table.declared := by
  have hsame : first.fields.map Field.declared = table.declared.fields := by
    rw [hfirst.fields, hlength, ← h.fields]
    rfl
  refine ⟨⟨hname, ?_, ?_, fun hdeclared => absurd h.declared_indexes hdeclared⟩, ?_,
    fun hdeclared => absurd h.declared_indexes hdeclared⟩
  · exact hfirst.comment.trans h.comment.symm
  · rw [← hsame]
    refine List.forall₂_map_right_iff.mpr (List.forall₂_same.mpr fun field hfield => ?_)
    exact Field.realizes_declared (hfirst.keysUnique field hfield)
  · intro index hindex
    rw [hindexes] at hindex
    exact absurd hindex List.not_mem_nil

/-- What is declared of a table changes nothing in another one of its name exactly if that one has
no index and as many fields. -/
theorem beq_tablePatch_iff (hfirst : first.Seeded dialect) (h : table.Seeded dialect)
    (hname : first.name = table.name) (supply : Supply) :
    (first.apply (tablePatch supply table.declared first) == first) = true ↔
      first.indexes = [] ∧ first.fields.length = table.fields.length := by
  constructor
  · intro hsame
    obtain ⟨hfields, hindexes⟩ := fields_eq_of_beq hsame
    constructor
    · rw [← hindexes]
      simp [Table.apply, tablePatch, h.declared_indexes, hfirst.pruneIndexes]
    · rw [← hfields]
      simp [Table.apply, tablePatch, buildFields, Table.declared]
  · rintro ⟨hindexes, hlength⟩
    rw [(hfirst.settled h hname hindexes hlength).apply_tablePatch h.regular_declared]
    exact hfirst.placed.beq_self

end Table.Seeded

/-! ## Diagrams -/

/-- A relationship as a session makes it between two fields. -/
structure Relationship.Seeded (tables : List (Table κ)) (link : Relationship) : Prop where
  name : isWord link.name.toList = true
  source : link.source.StandsAt tables
  target : link.target.StandsAt tables

/-- A diagram as a session makes and extends it. -/
structure Diagram.Seeded [BEq κ] (diagram : Diagram κ) : Prop where
  tables : ∀ table ∈ diagram.tables, table.Seeded diagram.dialect
  links : ∀ link ∈ diagram.relationships, link.Seeded diagram.tables

/-- The first entity of each name is what the text says about every entity of that name: the table
has no index and as many fields as the other one, and the relationship joins the ends that are
found by the names of the ends of the other one. -/
structure Diagram.ReadsBack (diagram : Diagram κ) : Prop where
  tables : ∀ table ∈ diagram.tables, ∀ first,
    (diagram.tables.find? fun other => other.name == table.name) = some first →
      first.indexes = [] ∧ first.fields.length = table.fields.length
  links : ∀ link ∈ diagram.relationships, ∀ first,
    (diagram.relationships.find? fun other => other.name == link.name) = some first →
      ∀ declaration, link.declared? diagram.tables = some declaration →
        first.Realizes diagram.tables declaration

namespace Diagram.Seeded

variable [BEq κ] {diagram : Diagram κ}

theorem writable (h : diagram.Seeded) :
    SchemaText.Writable diagram.dialect diagram.tables diagram.relationships :=
  ⟨fun table htable => (h.tables table htable).writable,
    fun link hlink => (h.links link hlink).name⟩

/-- Every relationship is declared between the names of tables and fields of theirs. -/
theorem exists_declared (h : diagram.Seeded) (hids : (diagram.tables.map Table.id).Nodup)
    {link : Relationship} (hlink : link ∈ diagram.relationships) :
    ∃ source ∈ diagram.tables, ∃ sourceField ∈ source.fields,
      ∃ target ∈ diagram.tables, ∃ targetField ∈ target.fields,
        ∃ declaration, link.declared? diagram.tables = some declaration ∧
          declaration.existingId = none ∧ declaration.name = link.name ∧
          resolveEnds? diagram.tables declaration =
            (resolveEnd? diagram.tables source.name sourceField.name).bind fun sourceEnd =>
              (resolveEnd? diagram.tables target.name targetField.name).map fun targetEnd =>
                (sourceEnd, targetEnd) := by
  obtain ⟨source, hsource, sourceField, hsourceField, -, -, -, hsourceNames⟩ :=
    (h.links link hlink).source.exists_endNames hids
  obtain ⟨target, htarget, targetField, htargetField, -, -, -, htargetNames⟩ :=
    (h.links link hlink).target.exists_endNames hids
  obtain ⟨declaration, hdeclared, hnew, hname, -, -, hends⟩ :=
    Relationship.exists_declared_of_endNames hsourceNames htargetNames
  exact ⟨source, hsource, sourceField, hsourceField, target, htarget, targetField, htargetField,
    declaration, hdeclared, hnew, hname, hends⟩

/-- Every table and every relationship is named in the text. -/
theorem named (h : diagram.Seeded) (hids : (diagram.tables.map Table.id).Nodup) :
    Named ⟨diagram.tables.map Table.declared,
      diagram.relationships.filterMap (Relationship.declared? diagram.tables)⟩
      diagram.tables diagram.relationships := by
  constructor
  · exact fun table htable => ⟨table.declared, List.mem_map_of_mem htable, rfl⟩
  · intro link hlink
    obtain ⟨-, -, -, -, -, -, -, -, declaration, hdeclared, -, hname, -⟩ :=
      h.exists_declared hids hlink
    exact ⟨declaration, List.mem_filterMap.mpr ⟨link, hlink, hdeclared⟩, hname⟩

end Diagram.Seeded

/-- The first item of a name among items with one of that name. -/
theorem exists_first {α : Type} (name : α → String) {items : List α} {item : α}
    (hmem : item ∈ items) :
    ∃ first, (items.find? fun other => name other == name item) = some first ∧ first ∈ items ∧
      name first = name item := by
  obtain ⟨first, hfirst⟩ : ∃ first,
      (items.find? fun other => name other == name item) = some first :=
    Option.isSome_iff_exists.mp (List.find?_isSome.mpr ⟨item, hmem, beq_self_eq_true _⟩)
  exact ⟨first, hfirst, List.mem_of_find?_eq_some hfirst, key_of_find? hfirst⟩

namespace Diagram.Seeded

variable {diagram : Diagram κ}

/-- If the first table of each name has as many fields as the others, every name of a table and a
field of it leads to an end. -/
theorem exists_end [BEq κ] (h : diagram.Seeded)
    (hlengths : ∀ table ∈ diagram.tables, ∀ first,
      (diagram.tables.find? fun other => other.name == table.name) = some first →
        first.fields.length = table.fields.length)
    {table : Table κ} (htable : table ∈ diagram.tables) {field : Field}
    (hfield : field ∈ table.fields) :
    ∃ endpoint, resolveEnd? diagram.tables table.name field.name = some endpoint := by
  obtain ⟨first, hfind, hfirst, -⟩ := exists_first Table.name htable
  have hnames : first.fields.map Field.name = table.fields.map Field.name := by
    rw [(h.tables first hfirst).map_name, (h.tables table htable).map_name,
      hlengths table htable first hfind]
  have hmem : field.name ∈ first.fields.map Field.name := by
    rw [hnames]
    exact List.mem_map_of_mem hfield
  obtain ⟨other, hother, hsame⟩ := List.mem_map.mp hmem
  obtain ⟨found, hfound⟩ : ∃ found, first.fieldNamed? field.name = some found :=
    Option.isSome_iff_exists.mp (List.find?_isSome.mpr ⟨other, hother, beq_iff_eq.mpr hsame⟩)
  refine ⟨⟨first.id, found.id, first.schema⟩, ?_⟩
  rw [resolveEnd?, hfind]
  simp [hfound]

/-- The text of a diagram that a session has made changes nothing in it exactly if it reads back. -/
theorem reconcile_eq_empty_iff [Coordinate κ] (h : diagram.Seeded)
    (hids : (diagram.tables.map Table.id).Nodup) (supply : Supply) :
    reconcile supply (SchemaText.parse diagram.dialect
        (SchemaText.generate diagram.tables diagram.relationships))
      diagram.tables diagram.relationships = {} ↔ diagram.ReadsBack := by
  rw [SchemaText.parse_generate _ _ _ h.writable]
  constructor
  · intro hempty
    obtain ⟨htables, hlinks⟩ := kept_of_reconcile_eq_empty (h.named hids) hempty
    have hread : ∀ table ∈ diagram.tables, ∀ first,
        (diagram.tables.find? fun other => other.name == table.name) = some first →
          first.indexes = [] ∧ first.fields.length = table.fields.length := by
      intro table htable first hfind
      obtain ⟨other, hsame⟩ :=
        htables table.declared (List.mem_map_of_mem htable) first hfind
      exact ((h.tables first (List.mem_of_find?_eq_some hfind)).beq_tablePatch_iff
        (h.tables table htable) (key_of_find? hfind) other).mp hsame
    refine ⟨hread, fun link hlink first hfind declaration hdeclared => ?_⟩
    obtain ⟨source, hsource, sourceField, hsourceField, target, htarget, targetField, htargetField,
      other, hother, hnew, hname, hends⟩ := h.exists_declared hids hlink
    obtain rfl := Option.some.inj (hother.symm.trans hdeclared)
    have hlengths := fun table htable first hfind => (hread table htable first hfind).2
    obtain ⟨sourceEnd, hsourceEnd⟩ := h.exists_end hlengths hsource hsourceField
    obtain ⟨targetEnd, htargetEnd⟩ := h.exists_end hlengths htarget htargetField
    rw [hsourceEnd, htargetEnd] at hends
    refine hlinks other (List.mem_filterMap.mpr ⟨link, hlink, hother⟩) first ?_ _ hends
    rw [existingRelationship?, hnew, hname]
    exact hfind
  · intro hread
    apply reconcile_of_kept (h.named hids)
    · intro declaration hdeclaration
      obtain ⟨table, htable, rfl⟩ := List.mem_map.mp hdeclaration
      obtain ⟨first, hfind, hfirst, hname⟩ := exists_first Table.name htable
      refine ⟨first, hfind, fun supply => ?_⟩
      exact ((h.tables first hfirst).beq_tablePatch_iff (h.tables table htable) hname supply).mpr
        (hread.tables table htable first hfind)
    · intro declaration hdeclaration
      obtain ⟨link, hlink, hdeclared⟩ := List.mem_filterMap.mp hdeclaration
      obtain ⟨first, hfind, hfirst, -⟩ := exists_first Relationship.name hlink
      obtain ⟨-, -, -, -, -, -, -, -, other, hother, hnew, hname, -⟩ := h.exists_declared hids hlink
      obtain rfl := Option.some.inj (hother.symm.trans hdeclared)
      refine ⟨first, ?_, hread.links link hlink first hfind other hother⟩
      rw [existingRelationship?, hnew, hname]
      exact hfind

/-- A diagram without indexes in which no name repeats reads back. -/
theorem readsBack [BEq κ] (h : diagram.Seeded) (hids : (diagram.tables.map Table.id).Nodup)
    (htables : (diagram.tables.map Table.name).Nodup)
    (hlinks : (diagram.relationships.map Relationship.name).Nodup)
    (hindexes : ∀ table ∈ diagram.tables, table.indexes = []) : diagram.ReadsBack := by
  have hregular : Regular diagram.tables diagram.relationships := by
    refine ⟨hids, htables, hlinks, fun table htable => ?_,
      fun table htable => (h.tables table htable).placed,
      fun link hlink => (h.links link hlink).source,
      fun link hlink => (h.links link hlink).target⟩
    refine ⟨(h.tables table htable).fieldNames, (h.tables table htable).keysUnique, ?_, ?_, ?_⟩
    all_goals simp [hindexes table htable]
  constructor
  · intro table htable first hfind
    obtain rfl := Option.some.inj ((find?_key htables htable).symm.trans hfind)
    exact ⟨hindexes table htable, rfl⟩
  · intro link hlink first hfind declaration hdeclared
    obtain rfl := Option.some.inj ((find?_key hlinks hlink).symm.trans hfind)
    obtain ⟨other, hother, -, hrealizes⟩ := hregular.exists_declared hlink
    rwa [← Option.some.inj (hother.symm.trans hdeclared)]

end Diagram.Seeded

end SchemaDiagram
