import SchemaDiagram.Proofs.Reconciliation.Valid

/-!
# What tables keep

A table that a declaration stands for is not deleted but rebuilt in place.  Each such table is
rebuilt for one declaration only, since no two declarations stand for the same table and no table
is recognised under a name that is in use.  Where the numbers of declared and live tables differ,
only names count.
-/

namespace SchemaDiagram

open Reconciliation

variable {κ : Type}

/-! ## Rebuilding a table -/

/-- What a declaration leaves of a table that is rebuilt for it.  A field stays the same field if
its name is declared and no other field of the table has that name; an index that backs a primary
key stays over those of its fields that are left, unless none of them is. -/
structure Table.RebuiltAs (declaration : TableDeclaration) (before after : Table κ) : Prop where
  name : after.name = declaration.name
  frame_eq : frame after = frame before
  fields : ∀ field ∈ before.fields,
    (∀ other ∈ before.fields, other.name = field.name → other = field) →
      field.name ∈ declaration.fieldNames →
        (∃ kept ∈ after.fields, kept.name = field.name) ∧
          ∀ kept ∈ after.fields, kept.name = field.name →
            kept.id = field.id ∧ kept.createdAt = field.createdAt
  keys : ∀ index ∈ before.indexes, index.isPrimaryKey = true →
    (∃ id ∈ index.fieldIds, id ∈ after.fields.map Field.id) →
      { index with
        fieldIds := index.fieldIds.filter fun id => after.fields.any fun field => field.id == id } ∈
          after.indexes

theorem Table.RebuiltAs.id_eq {declaration : TableDeclaration} {before after : Table κ}
    (h : before.RebuiltAs declaration after) : after.id = before.id := by
  have hframe : (frame after).id = (frame before).id := by rw [h.frame_eq]
  exact hframe

namespace Reconciliation

theorem buildFields_built (supply : Supply) (current : List Field)
    (declarations : List FieldDeclaration) :
    List.Forall₂ (fun field declaration => ∃ stamp, field = buildField stamp
        (current.find? fun old => old.name == declaration.name) declaration)
      (buildFields supply current declarations) declarations :=
  forall₂_zipIdx_map (fun _ _ position => ⟨supply.get position, rfl⟩) 0

/-- A declared field is the only present field of its name. -/
theorem eq_of_mem_buildFields {supply : Supply} {current : List Field}
    {declarations : List FieldDeclaration} {field kept : Field} (hfield : field ∈ current)
    (honly : ∀ other ∈ current, other.name = field.name → other = field)
    (hkept : kept ∈ buildFields supply current declarations) (hname : kept.name = field.name) :
    kept.id = field.id ∧ kept.createdAt = field.createdAt := by
  obtain ⟨declaration, -, stamp, rfl⟩ :=
    exists_right_of_mem (buildFields_built supply current declarations) hkept
  have hsame : declaration.name = field.name := hname
  have hsome : (current.find? fun old => old.name == declaration.name).isSome :=
    List.find?_isSome.mpr ⟨field, hfield, beq_iff_eq.mpr hsame.symm⟩
  obtain ⟨old, hold⟩ := Option.isSome_iff_exists.mp hsome
  obtain rfl := honly old (List.mem_of_find?_eq_some hold) ((key_of_find? hold).trans hsame)
  rw [hold]
  exact ⟨rfl, rfl⟩

/-- An index stays if one of its fields is left. -/
theorem mem_pruneIndexes_of_mem {indexes : List Index} {fields : List Field} {index : Index}
    (hindex : index ∈ indexes) (hleft : ∃ id ∈ index.fieldIds, id ∈ fields.map Field.id) :
    { index with
      fieldIds := index.fieldIds.filter fun id => fields.any fun field => field.id == id } ∈
        pruneIndexes indexes fields := by
  obtain ⟨id, hid, hmem⟩ := hleft
  obtain ⟨field, hfield, rfl⟩ := List.mem_map.mp hmem
  have hany : (fields.any fun other => other.id == field.id) = true :=
    List.any_eq_true.mpr ⟨field, hfield, beq_self_eq_true _⟩
  have hsome : ¬(index.fieldIds.filter fun id =>
      fields.any fun field => field.id == id).isEmpty = true := by
    rw [List.isEmpty_iff]
    exact List.ne_nil_of_mem (List.mem_filter.mpr ⟨hid, hany⟩)
  exact List.mem_filterMap.mpr ⟨index, hindex, if_neg hsome⟩

theorem rebuiltAs_apply_tablePatch (supply : Supply) (declaration : TableDeclaration)
    (table : Table κ) :
    table.RebuiltAs declaration (table.apply (tablePatch supply declaration table)) := by
  constructor
  · rfl
  · rfl
  · intro field hfield honly hdeclared
    constructor
    · obtain ⟨declared, hmem, hname⟩ := List.mem_map.mp hdeclared
      obtain ⟨kept, hkept, stamp, rfl⟩ :=
        exists_left_of_mem (buildFields_built supply table.fields declaration.fields) hmem
      exact ⟨_, hkept, hname⟩
    · exact fun kept hkept hname => eq_of_mem_buildFields hfield honly hkept hname
  · intro index hindex hkey hleft
    by_cases hnone : declaration.indexes.isEmpty = true
    · simp only [Table.apply, tablePatch, if_pos hnone, Option.getD_some]
      exact mem_pruneIndexes_of_mem hindex hleft
    · simp only [Table.apply, tablePatch, if_neg hnone, Option.getD_some]
      exact List.mem_append_left _
        (mem_pruneIndexes_of_mem (List.mem_filter.mpr ⟨hindex, hkey⟩) hleft)

/-! ## Declarations and their tables -/

/-- The declarations in `done` have been taken into account: each of them updated the table that it
stands for, or would not have changed it, or created a table. -/
structure TableChanges.Accounts [Coordinate κ] (live : List (Table κ))
    (done : List TableDeclaration) (changes : TableChanges κ) : Prop where
  listed : (changes.updated.map Prod.fst).Sublist
    ((done.filterMap (existingTable? live)).map Table.id)
  updated : ∀ update ∈ changes.updated, ∃ declaration ∈ done, ∃ table supply,
    existingTable? live declaration = some table ∧
      update = (table.id, tablePatch supply declaration table)
  unchanged : ∀ declaration ∈ done, ∀ table, existingTable? live declaration = some table →
    table.id ∈ changes.updated.map Prod.fst ∨
      ∃ supply, table.apply (tablePatch supply declaration table) = table
  created : List.Forall₂ (fun table declaration => ∃ supply, table = newTable supply declaration)
    changes.created (done.filter fun declaration => (existingTable? live declaration).isNone)

namespace TableChanges

variable [Coordinate κ] {live : List (Table κ)} {done : List TableDeclaration}
  {changes : TableChanges κ} {declaration : TableDeclaration}

/-- A declaration that stands for no table creates one. -/
theorem Accounts.create (h : changes.Accounts live done)
    (hnone : existingTable? live declaration = none) (supply : Supply)
    (projected : List (Table κ)) :
    Accounts live (done ++ [declaration])
      { changes with
        projected := projected
        created := changes.created ++ [newTable supply declaration] } := by
  constructor
  · rw [List.filterMap_append, List.filterMap_cons_none hnone, List.filterMap_nil,
      List.append_nil]
    exact h.listed
  · intro update hupdate
    obtain ⟨earlier, hmem, hrest⟩ := h.updated update hupdate
    exact ⟨earlier, List.mem_append_left _ hmem, hrest⟩
  · intro other hother table hsome
    rcases List.mem_append.mp hother with hold | hlast
    · exact h.unchanged other hold table hsome
    · rw [List.mem_singleton.mp hlast, hnone] at hsome
      cases hsome
  · rw [List.filter_append, List.filter_cons_of_pos (by rw [hnone]; rfl), List.filter_nil]
    exact List.rel_append h.created (.cons ⟨supply, rfl⟩ .nil)

/-- A declaration that stands for a table adds one update of it at most, and none only if it would
change nothing. -/
theorem Accounts.stand (h : changes.Accounts live done) {table : Table κ}
    (hsome : existingTable? live declaration = some table) (projected : List (Table κ))
    (more : List (Identifier × TablePatch κ)) (hone : (more.map Prod.fst).Sublist [table.id])
    (hmore : ∀ update ∈ more, ∃ supply, update = (table.id, tablePatch supply declaration table))
    (hnone : table.id ∈ more.map Prod.fst ∨
      ∃ supply, table.apply (tablePatch supply declaration table) = table) :
    Accounts live (done ++ [declaration])
      { changes with projected := projected, updated := changes.updated ++ more } := by
  constructor
  · rw [List.filterMap_append, List.filterMap_cons_some hsome, List.filterMap_nil,
      List.map_append, List.map_append]
    exact h.listed.append hone
  · intro update hupdate
    rcases List.mem_append.mp hupdate with hold | hlast
    · obtain ⟨earlier, hmem, hrest⟩ := h.updated update hold
      exact ⟨earlier, List.mem_append_left _ hmem, hrest⟩
    · obtain ⟨supply, heq⟩ := hmore update hlast
      exact ⟨declaration, List.mem_append_right _ (List.mem_singleton_self _), table, supply,
        hsome, heq⟩
  · intro other hother found hfound
    rw [List.map_append, List.mem_append]
    rcases List.mem_append.mp hother with hold | hlast
    · exact (h.unchanged other hold found hfound).imp_left .inl
    · obtain rfl := List.mem_singleton.mp hlast
      obtain rfl := Option.some.inj (hfound.symm.trans hsome)
      exact hnone.imp_left .inr
  · rw [List.filter_append, List.filter_cons_of_neg (by rw [hsome]; exact Bool.false_ne_true),
      List.filter_nil, List.append_nil]
    exact h.created

theorem Accounts.declare (h : changes.Accounts live done) (declaration : TableDeclaration)
    (supply : Supply) :
    (changes.declare live supply declaration).Accounts live (done ++ [declaration]) := by
  rcases changes.declare_cases live supply declaration with
    ⟨hnone, heq⟩ | ⟨table, hsome, ⟨hsame, heq⟩ | heq⟩
  · rw [heq]
    exact h.create hnone supply _
  · have hstand := h.stand hsome changes.projected [] (List.nil_sublist _)
      (fun _ hmem => absurd hmem List.not_mem_nil) (.inr ⟨_, hsame⟩)
    rw [List.append_nil] at hstand
    rwa [heq]
  · rw [heq]
    refine h.stand hsome _ _ (List.Sublist.refl _) ?_ (.inl (List.mem_singleton_self _))
    exact fun update hmem => ⟨_, List.mem_singleton.mp hmem⟩

theorem Accounts.declareAll (h : changes.Accounts live done) (rest : List TableDeclaration)
    (supply : Supply) :
    (TableChanges.declareAll live supply changes rest).Accounts live (done ++ rest) := by
  induction rest generalizing done changes supply with
  | nil =>
      rw [List.append_nil]
      exact h
  | cons declaration rest ih =>
      have hnext := ih (h.declare declaration supply) (supply.drop (tableStamps declaration))
      rwa [List.append_assoc] at hnext

end TableChanges

theorem reconcileTables_accounts [Coordinate κ] (supply : Supply)
    (matching : Matching TableDeclaration) (live : List (Table κ)) :
    (reconcileTables supply matching live).Accounts live matching.declarations := by
  have hstart : TableChanges.Accounts live []
      { projected := live.filter fun table => !matching.gone.contains table.id } :=
    ⟨List.nil_sublist _, fun _ hmem => absurd hmem List.not_mem_nil,
      fun _ hmem => absurd hmem List.not_mem_nil, .nil⟩
  exact hstart.declareAll matching.declarations supply

end Reconciliation

/-! ## Which declared table stands for which live one -/

/-- A live table was recognised as renamed to a declared one. -/
def DeclaredSchema.Renames (schema : DeclaredSchema) (live : List (Table κ)) (table : Table κ)
    (declaration : TableDeclaration) : Prop :=
  declaration ∈ (matchTables schema.tables live).declarations ∧
    declaration.existingId = some table.id

/-- A declared table stands for a live one: it has its name, or the live table was recognised as
renamed to it. -/
def DeclaredSchema.StandsFor (schema : DeclaredSchema) (live : List (Table κ))
    (declaration : TableDeclaration) (table : Table κ) : Prop :=
  (declaration ∈ schema.tables ∧ declaration.name = table.name) ∨
    schema.Renames live table declaration

section

variable {schema : DeclaredSchema} (hread : schema.AsRead) {live : List (Table κ)}
  (hids : (live.map Table.id).Nodup)

include hread hids

/-- No live table has the name that another one is renamed to. -/
theorem DeclaredSchema.Renames.name_ne {table : Table κ} {declaration : TableDeclaration}
    (h : schema.Renames live table declaration) :
    ∀ other ∈ live, other.name ≠ declaration.name := by
  have hsound := matchEntities_sound (ids_tableEntity hids) hread.newTables
  intro other hother
  exact (hsound.owners declaration h.1 table.id h.2).2 _ (List.mem_map_of_mem hother)

/-- A declared table that stands for a live one is looked up as that table. -/
theorem DeclaredSchema.StandsFor.existingTable?_eq (hnames : (live.map Table.name).Nodup)
    {table : Table κ} (htable : table ∈ live) {declaration : TableDeclaration}
    (h : schema.StandsFor live declaration table) :
    declaration ∈ (matchTables schema.tables live).declarations ∧
      existingTable? live declaration = some table := by
  have hsound := matchEntities_sound (ids_tableEntity hids) hread.newTables
  rcases h with ⟨hdeclared, hname⟩ | ⟨hmem, hid⟩
  · -- Nothing is attached to a declaration with the name of a live table.
    obtain ⟨found, hfound, rfl | ⟨id, rfl⟩⟩ := exists_left_of_mem hsound.attached hdeclared
    · refine ⟨hfound, ?_⟩
      rw [existingTable?, hread.newTables found hdeclared, hname]
      exact find?_key hnames htable
    · refine absurd hname.symm ?_
      exact (hsound.owners _ hfound id rfl).2 _ (List.mem_map_of_mem htable)
  · refine ⟨hmem, ?_⟩
    rw [existingTable?, hid]
    exact find?_key hids htable

theorem nodup_names_matchTables (hdeclared : (schema.tables.map TableDeclaration.name).Nodup) :
    ((matchTables schema.tables live).declarations.map TableDeclaration.name).Nodup := by
  have hsound := matchEntities_sound (ids_tableEntity hids) hread.newTables
  exact map_name_of_attached hsound.attached ▸ hdeclared

/-- Declared tables of one name do not stand for two live tables. -/
theorem DeclaredSchema.StandsFor.table_unique (hnames : (live.map Table.name).Nodup)
    (hdeclared : (schema.tables.map TableDeclaration.name).Nodup) {first second : Table κ}
    (hfirst : first ∈ live) (hsecond : second ∈ live) {declaration other : TableDeclaration}
    (h : schema.StandsFor live declaration first) (h' : schema.StandsFor live other second)
    (hname : declaration.name = other.name) : first = second := by
  obtain ⟨hmem, hstands⟩ := h.existingTable?_eq hread hids hnames hfirst
  obtain ⟨hmem', hstands'⟩ := h'.existingTable?_eq hread hids hnames hsecond
  obtain rfl := eq_of_key (nodup_names_matchTables hread hids hdeclared) hmem hmem' hname
  exact Option.some.inj (hstands.symm.trans hstands')

/-- A table that no declaration stands for is gone. -/
theorem mem_gone_of_not_standsFor {table : Table κ} (htable : table ∈ live)
    (hnone : ∀ declaration, ¬schema.StandsFor live declaration table) :
    table.id ∈ (matchTables schema.tables live).gone := by
  have hsound := matchEntities_sound (ids_tableEntity hids) hread.newTables
  rcases hsound.settled _ (List.mem_map_of_mem htable) with hname | ⟨declaration, hmem, hid⟩ | hgone
  · obtain ⟨declaration, hdeclared, hsame⟩ := List.mem_map.mp hname
    exact absurd (.inl ⟨hdeclared, hsame⟩) (hnone declaration)
  · exact absurd (.inr ⟨hmem, hid⟩) (hnone declaration)
  · exact hgone

/-- A table that a declaration stands for is kept, and among the updated tables it is rebuilt for
that declaration. -/
theorem DeclaredSchema.StandsFor.rebuilt [Coordinate κ] (hnames : (live.map Table.name).Nodup)
    (hdeclared : (schema.tables.map TableDeclaration.name).Nodup) {table : Table κ}
    (htable : table ∈ live) {declaration : TableDeclaration}
    (h : schema.StandsFor live declaration table) (supply : Supply) :
    let matching := matchTables schema.tables live
    table.id ∉ matching.gone ∧ ∃ after ∈ updateAll Table.id Table.apply
        (live.filter fun table => !matching.gone.contains table.id)
        (reconcileTables supply matching live).updated,
      table.RebuiltAs declaration after := by
  intro matching
  obtain ⟨hmem, hstands⟩ := h.existingTable?_eq hread hids hnames htable
  have hsound : matching.Sound (live.map tableEntity) (live.map tableEntity) schema.tables :=
    matchEntities_sound (ids_tableEntity hids) hread.newTables
  have hkept : table.id ∉ matching.gone := standsFor?_not_gone hsound hids hmem hstands
  have haccounts := reconcileTables_accounts supply matching live
  obtain ⟨-, hstood, -⟩ :=
    matchEntities_stands tableEntity hids hnames hread.newTables hdeclared
  have hkeptIds : ((live.filter fun table : Table κ =>
      !matching.gone.contains table.id).map Table.id).Nodup :=
    hids.sublist (List.filter_sublist.map Table.id)
  have hkey : ∀ (table : Table κ) (patch : TablePatch κ), (table.apply patch).id = table.id :=
    fun _ _ => rfl
  have hupdates : ((reconcileTables supply matching live).updated.map Prod.fst).Nodup := by
    refine List.Nodup.sublist haccounts.listed ?_
    exact ((hstood.map Table.id).nodup_iff).mpr hkeptIds
  have hfilter : table ∈ live.filter fun table => !matching.gone.contains table.id :=
    List.mem_filter.mpr ⟨htable, by simpa using hkept⟩
  refine ⟨hkept, ?_⟩
  rcases mem_updateAll hkey hkeptIds hupdates hfilter with
    ⟨hsame, hnone⟩ | ⟨patch, hpatch, hafter⟩
  · refine ⟨table, hsame, ?_⟩
    obtain hlisted | ⟨drawn, hequal⟩ := haccounts.unchanged declaration hmem table hstands
    · exact absurd hlisted hnone
    · have hrebuilt := rebuiltAs_apply_tablePatch drawn declaration table
      rwa [hequal] at hrebuilt
  · refine ⟨_, hafter, ?_⟩
    obtain ⟨other, hother, found, drawn, hfound, heq⟩ := haccounts.updated _ hpatch
    obtain ⟨hid, rfl⟩ := Prod.mk.inj heq
    obtain rfl := eq_of_key hids htable (existingTable?_mem hfound) hid
    obtain rfl := eq_of_key (nodup_names_matchTables hread hids hdeclared) hmem hother
      (standsFor?_apart hsound hids hmem hother hstands hfound)
    exact rebuiltAs_apply_tablePatch drawn declaration table

end

namespace Reconciliation

/-! ## Only names count -/

/-- Where the numbers differ, nothing is guessed: an entity is gone if its name is not declared. -/
theorem matchEntities_of_length_ne {δ : Type} [Declared δ] {entities : List Entity}
    {declarations : List δ} (hlength : declarations.length ≠ entities.length) :
    matchEntities entities declarations =
      ⟨declarations, (entities.filter fun entity =>
        entity.name ∉ declarations.map Declared.name).map Entity.id⟩ := by
  have hfold : ∀ (rest : List Entity) (gone : List Identifier),
      rest.foldl (Matching.settle entities false) ⟨declarations, gone⟩ =
        ⟨declarations, gone ++ (rest.filter fun entity =>
          entity.name ∉ declarations.map Declared.name).map Entity.id⟩ := by
    intro rest
    induction rest with
    | nil => exact fun gone => congrArg (Matching.mk declarations) (List.append_nil gone).symm
    | cons entity rest ih =>
        intro gone
        have hany : (declarations.any fun declaration =>
            Declared.name declaration == entity.name) = true ↔
              entity.name ∈ declarations.map Declared.name := by
          simp [List.mem_map]
        rw [List.foldl_cons, Matching.settle]
        by_cases hname : entity.name ∈ declarations.map Declared.name
        · rw [if_pos (hany.mpr hname), ih, List.filter_cons_of_neg (by simpa using hname)]
        · rw [if_neg (mt hany.mp hname), List.filter_cons_of_pos (by simpa using hname)]
          refine (ih (gone ++ [entity.id])).trans ?_
          rw [List.append_assoc]
          rfl
  have hguess : (declarations.length == entities.length) = false := by simpa using hlength
  rw [matchEntities, hguess, hfold, List.nil_append]

/-- Where the numbers of declared and live tables differ, the live tables whose names are not
declared are deleted, and the declared ones whose names are not in use are created. -/
theorem reconcile_of_length_ne [Coordinate κ] {schema : DeclaredSchema} (hread : schema.AsRead)
    {live : List (Table κ)} (hlength : schema.tables.length ≠ live.length)
    (linked : List Relationship) (supply : Supply) :
    let plan := reconcile supply schema live linked
    plan.deletedTables = (live.filter fun table =>
        table.name ∉ schema.tables.map TableDeclaration.name).map Table.id ∧
      List.Forall₂ (fun table declaration => ∃ drawn, table = newTable drawn declaration)
        plan.createdTables
        (schema.tables.filter fun declaration => declaration.name ∉ live.map Table.name) := by
  intro plan
  have hmatching : matchTables schema.tables live = ⟨schema.tables, (live.filter fun table =>
      table.name ∉ schema.tables.map TableDeclaration.name).map Table.id⟩ := by
    rw [matchTables, matchEntities_of_length_ne (by rwa [List.length_map]), List.filter_map,
      List.map_map]
    rfl
  constructor
  · exact congrArg Matching.gone hmatching
  · have hcreated := (reconcileTables_accounts supply (matchTables schema.tables live) live).created
    have hnew : (schema.tables.filter fun declaration =>
        (existingTable? live declaration).isNone) =
        schema.tables.filter fun declaration => declaration.name ∉ live.map Table.name := by
      apply List.filter_congr
      intro declaration hdeclaration
      rw [existingTable?, hread.newTables declaration hdeclaration, Bool.eq_iff_iff]
      simp [List.mem_map]
    rwa [show (matchTables schema.tables live).declarations = schema.tables from
      congrArg Matching.declarations hmatching, hnew] at hcreated

end Reconciliation

end SchemaDiagram
