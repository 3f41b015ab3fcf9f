import SchemaDiagram.Proofs.Reconciliation.Realized

/-!
# Tables that were made for a declaration

Whatever the fields and indexes of a table were before, once it is rebuilt for a declaration it is
what the declaration says, and rebuilding it once more changes nothing.  The same holds of a table
that is made anew.
-/

namespace SchemaDiagram

open Reconciliation

variable {κ : Type}

/-! ## Fields and indexes -/

theorem buildFields_realizes (supply : Supply) (current : List Field)
    {declarations : List FieldDeclaration}
    (hunique : ∀ declaration ∈ declarations,
      declaration.primaryKey = true → declaration.unique = true) :
    List.Forall₂ Field.Realizes (buildFields supply current declarations) declarations := by
  apply forall₂_zipIdx_map
  intro declaration hdeclaration position
  refine ⟨rfl, rfl, rfl, ?_, rfl, rfl⟩
  dsimp only [buildField]
  cases hkey : declaration.primaryKey with
  | false => rw [Bool.or_false]
  | true => rw [Bool.or_true, hunique declaration hdeclaration hkey]

theorem built_realizes (supply : Supply) (current : List Index) (fields : List Field)
    (declaration : TableDeclaration) :
    List.Forall₂ (Index.Realizes fields)
      (declaration.indexes.zipIdx.filterMap fun (index, position) =>
        buildIndex? (supply.get position) current fields index)
      (declaration.knownIndexes fields) := by
  apply forall₂_zipIdx_filterMap
  · intro index _ hknown position
    obtain ⟨fieldIds, hfieldIds⟩ := Option.isSome_iff_exists.mp hknown
    have hbuilt := buildIndex?_eq (supply.get position) current fields index
    rw [hfieldIds] at hbuilt
    exact ⟨_, hbuilt, rfl, rfl, hfieldIds, rfl⟩
  · intro index _ hunknown position
    have hnone : index.fieldIds? fields = none := by simpa using hunknown
    dsimp only
    rw [buildIndex?_eq, hnone]
    rfl

/-- Indexes that are pruned cover fields, and each of them is an old one with fewer fields. -/
theorem mem_pruneIndexes {indexes : List Index} {fields : List Field} {index : Index}
    (h : index ∈ pruneIndexes indexes fields) :
    index.Covers fields ∧ ∃ old ∈ indexes, old.isPrimaryKey = index.isPrimaryKey := by
  obtain ⟨old, hold, hsome⟩ := List.mem_filterMap.mp h
  by_cases hempty : (old.fieldIds.filter fun id =>
      fields.any fun field => field.id == id).isEmpty = true
  · simp only [hempty, if_true] at hsome
    cases hsome
  · rw [if_neg hempty] at hsome
    obtain rfl := Option.some.inj hsome
    refine ⟨⟨by simpa using hempty, ?_⟩, old, hold, rfl⟩
    intro id hid
    obtain ⟨-, hany⟩ := List.mem_filter.mp hid
    obtain ⟨field, hfield, hsame⟩ := List.any_eq_true.mp hany
    exact List.mem_map.mpr ⟨field, hfield, eq_of_beq hsame⟩

theorem pruneIndexes_keys {indexes : List Index} {fields : List Field}
    (h : ∀ index ∈ indexes, index.isPrimaryKey = true) :
    ∀ index ∈ pruneIndexes indexes fields, index.isPrimaryKey = true := by
  intro index hindex
  obtain ⟨-, old, hold, hsame⟩ := mem_pruneIndexes hindex
  rw [← hsame]
  exact h old hold

/-! ## Whole tables -/

/-- A table with the parts that rebuilding gives it. -/
theorem Table.settled_of_parts {table : Table κ} {declaration : TableDeclaration}
    (hregular : declaration.Regular) {supply later : Supply} {fields : List Field}
    {indexes : List Index} (hname : table.name = declaration.name)
    (hcomment : table.comment = declaration.comment)
    (hfields : table.fields = buildFields supply fields declaration.fields)
    (hindexes : table.indexes =
      if declaration.indexes.isEmpty then pruneIndexes indexes table.fields
      else buildIndexes later indexes table.fields declaration.indexes) :
    table.Settled declaration := by
  have hrealizes : List.Forall₂ Field.Realizes table.fields declaration.fields := by
    rw [hfields]
    exact buildFields_realizes supply fields hregular.keysUnique
  by_cases hnone : declaration.indexes = []
  · rw [hnone, List.isEmpty_nil, if_pos rfl] at hindexes
    refine ⟨⟨hname, hcomment, hrealizes, fun hne => absurd hnone hne⟩, ?_,
      fun hne => absurd hnone hne⟩
    intro index hindex _
    rw [hindexes] at hindex
    exact (mem_pruneIndexes hindex).1
  · rw [if_neg (by simpa using hnone), buildIndexes] at hindexes
    have hbuilt := built_realizes later indexes table.fields declaration
    have hkeys : ∀ index ∈ pruneIndexes (indexes.filter Index.isPrimaryKey) table.fields,
        index.isPrimaryKey = true :=
      pruneIndexes_keys fun index hindex => (List.mem_filter.mp hindex).2
    generalize (declaration.indexes.zipIdx.filterMap fun (index, position) =>
      buildIndex? (later.get position) indexes table.fields index) = built at hindexes hbuilt
    generalize hpruned : pruneIndexes (indexes.filter Index.isPrimaryKey) table.fields = pruned
      at hindexes hkeys
    have hothers : ∀ index ∈ built, index.isPrimaryKey = false := by
      intro index hindex
      obtain ⟨_, -, hr⟩ := exists_right_of_mem hbuilt hindex
      exact hr.isPrimaryKey
    have hfilter : table.indexes.filter (fun index => !index.isPrimaryKey) = built := by
      rw [hindexes, List.filter_append, List.filter_eq_nil_iff.mpr, List.filter_eq_self.mpr,
        List.nil_append]
      · exact fun index hindex => by simp [hothers index hindex]
      · exact fun index hindex => by simp [hkeys index hindex]
    have hfilterKeys : table.indexes.filter Index.isPrimaryKey = pruned := by
      rw [hindexes, List.filter_append, List.filter_eq_self.mpr hkeys, List.filter_eq_nil_iff.mpr,
        List.append_nil]
      exact fun index hindex => by simp [hothers index hindex]
    refine ⟨⟨hname, hcomment, hrealizes, fun _ => ?_⟩, ?_, fun _ => ?_⟩
    · rwa [hfilter]
    · rintro index hindex (hempty | hkey)
      · exact absurd hempty hnone
      · have hmem : index ∈ pruned := by
          rw [← hfilterKeys]
          exact List.mem_filter.mpr ⟨hindex, hkey⟩
        rw [← hpruned] at hmem
        exact (mem_pruneIndexes hmem).1
    · rw [hfilter, hfilterKeys, hindexes]

/-- A table that is updated for a declaration. -/
theorem settled_apply_tablePatch {declaration : TableDeclaration} (hregular : declaration.Regular)
    (supply : Supply) (table : Table κ) :
    (table.apply (tablePatch supply declaration table)).Settled declaration := by
  exact Table.settled_of_parts hregular rfl rfl rfl rfl

/-- A table that is made for a declaration. -/
theorem settled_newTable [Coordinate κ] {declaration : TableDeclaration}
    (hregular : declaration.Regular) (supply : Supply) :
    (newTable (κ := κ) supply declaration).Settled declaration := by
  have hindexes : (newTable (κ := κ) supply declaration).indexes =
      if declaration.indexes.isEmpty then
        pruneIndexes [] (newTable (κ := κ) supply declaration).fields
      else buildIndexes (supply.drop (1 + declaration.fields.length)) []
        (newTable (κ := κ) supply declaration).fields declaration.indexes := by
    split
    · next hnone =>
        rw [newTable, List.isEmpty_iff.mp hnone]
        rfl
    · rfl
  exact Table.settled_of_parts hregular rfl rfl rfl hindexes

end SchemaDiagram
