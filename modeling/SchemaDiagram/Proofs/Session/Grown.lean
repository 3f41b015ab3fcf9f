import SchemaDiagram.Proofs.Reconciliation.Seeded
import SchemaDiagram.Proofs.Session.Schemas
import SchemaDiagram.Proofs.Session.Unique

/-!
# Diagrams that a session grows by itself

From a new diagram on, a session makes tables, fields, indexes and links of its own and removes
tables, in any order.  Every table keeps a key field in front of numbered ones, every relationship
keeps standing at fields that are there, and what else is in the diagram is never written as text.
So applying the text of the diagram to it changes nothing exactly if the diagram reads back.  It
need not: an index over no field is dropped, and a table is numbered by counting, so that its name
may be in use once other tables have been removed.
-/

namespace SchemaDiagram

open Reconciliation
open SchemaDiagram.Text
open Workspace (numberedName)

variable {σ κ : Type}

/-! ## Tables that are made and extended -/

namespace Table.Seeded

/-- A table with its key alone. -/
theorem new [Coordinate κ] (hzero : ((Coordinate.zero : κ) == Coordinate.zero) = true)
    (dialect : Dialect) (stamp keyStamp : Stamp) {name : String}
    (hname : isWord name.toList = true) :
    Table.Seeded dialect ((Table.new stamp name (Coordinate.zero : κ) Coordinate.zero).addField
      (Field.new keyStamp "id" dialect.idType).asPrimaryKey) := by
  refine ⟨hname, rfl, List.cons_ne_nil _ _, rfl, ?_, ?_, ⟨hzero, hzero⟩⟩
  · exact fun field hfield _ => by rw [List.mem_singleton.mp hfield]; rfl
  · exact fun index hindex => absurd hindex List.not_mem_nil

variable [BEq κ] {dialect : Dialect} {table : Table κ}

/-- One more field with the next number. -/
theorem withField (h : table.Seeded dialect) (stamp : Stamp) :
    Table.Seeded dialect { table with
      fields := table.fields ++ [(Field.new stamp (numberedName "field" table.fields.length)
        dialect.idType).asNullable] } := by
  obtain ⟨count, hcount⟩ : ∃ count, table.fields.length = count + 1 :=
    Nat.exists_eq_succ_of_ne_zero fun hzero => h.nonempty (List.eq_nil_of_length_eq_zero hzero)
  refine ⟨h.name, h.comment, by simp, ?_, ?_, h.indexes, h.placed⟩
  · have hfields := h.fields
    rw [hcount] at hfields ⊢
    rw [List.map_append, hfields, List.length_append, hcount, List.length_singleton,
      List.range_succ (n := count + 1), List.map_append]
    rfl
  · intro field hfield hkey
    rcases List.mem_append.mp hfield with hold | hlast
    · exact h.keysUnique field hold hkey
    · rw [List.mem_singleton.mp hlast] at hkey
      cases hkey

/-- One more index over no field. -/
theorem withIndex (h : table.Seeded dialect) (stamp : Stamp) (name : String) :
    Table.Seeded dialect { table with indexes := table.indexes ++ [Index.new stamp name []] } := by
  refine ⟨h.name, h.comment, h.nonempty, h.fields, h.keysUnique, ?_, h.placed⟩
  intro index hindex
  rcases List.mem_append.mp hindex with hold | hlast
  · exact h.indexes index hold
  · rw [List.mem_singleton.mp hlast]
    rfl

end Table.Seeded

/-! ## Ends that stay -/

/-- An end stays where it stands as long as its table keeps the fields that it had. -/
theorem Endpoint.StandsAt.mono {before after : List (Table κ)} {endpoint : Endpoint}
    (h : endpoint.StandsAt before)
    (hkept : ∀ table ∈ before, table.id = endpoint.tableId → ∃ next ∈ after,
      next.id = table.id ∧ next.schema = table.schema ∧
        ∀ id ∈ table.fields.map Field.id, id ∈ next.fields.map Field.id) :
    endpoint.StandsAt after := by
  obtain ⟨table, htable, hid, hschema, hfield⟩ := h
  obtain ⟨next, hnext, hsameId, hsameSchema, hfields⟩ := hkept table htable hid
  exact ⟨next, hnext, hsameId.trans hid, hsameSchema.trans hschema, hfields _ hfield⟩

/-! ## Diagrams that grow -/

namespace Diagram.Seeded

theorem of_empty [BEq κ] {diagram : Diagram κ} (htables : diagram.tables = [])
    (hrelationships : diagram.relationships = []) : diagram.Seeded := by
  constructor
  · simp [htables]
  · simp [hrelationships]

variable [BEq κ] {diagram : Diagram κ}

theorem touched (h : diagram.Seeded) (time : Timestamp) : (diagram.touched time).Seeded :=
  ⟨h.tables, h.links⟩

theorem addTable (h : diagram.Seeded) {table : Table κ} (htable : table.Seeded diagram.dialect) :
    Diagram.Seeded { diagram with tables := diagram.tables ++ [table] } := by
  have hkept : ∀ endpoint : Endpoint, endpoint.StandsAt diagram.tables →
      endpoint.StandsAt (diagram.tables ++ [table]) := fun endpoint hstands =>
    hstands.mono fun table hmem _ =>
      ⟨table, List.mem_append_left _ hmem, rfl, rfl, fun _ hid => hid⟩
  constructor
  · intro other hother
    rcases List.mem_append.mp hother with hold | hlast
    · exact h.tables other hold
    · rwa [List.mem_singleton.mp hlast]
  · intro link hlink
    obtain ⟨hname, hsource, htarget⟩ := h.links link hlink
    exact ⟨hname, hkept _ hsource, hkept _ htarget⟩

/-- A table may be changed as long as it keeps its identifier, its schema and its fields. -/
theorem changeTable (h : diagram.Seeded) {id : Identifier} {table : Table κ}
    (hfind : diagram.table? id = some table) {change : Table κ → Table κ}
    (hid : (change table).id = table.id) (hschema : (change table).schema = table.schema)
    (hfields : ∀ id ∈ table.fields.map Field.id, id ∈ (change table).fields.map Field.id)
    (htable : (change table).Seeded diagram.dialect) :
    Diagram.Seeded { diagram with
      tables := updateFirst (fun table => table.id == id) change diagram.tables } := by
  have hkept : ∀ endpoint : Endpoint, endpoint.StandsAt diagram.tables →
      endpoint.StandsAt (updateFirst (fun table => table.id == id) change diagram.tables) := by
    intro endpoint hstands
    refine hstands.mono fun other hother _ => ?_
    rcases mem_updateFirst_of_mem hother with hsame | ⟨hfound, hchanged⟩
    · exact ⟨other, hsame, rfl, rfl, fun _ hid => hid⟩
    · obtain rfl := Option.some.inj (hfind.symm.trans hfound)
      exact ⟨change table, hchanged, hid, hschema, hfields⟩
  constructor
  · intro other hother
    rcases mem_updateFirst hother with hold | ⟨old, hfound, rfl⟩
    · exact h.tables other hold
    · rwa [← Option.some.inj (hfind.symm.trans hfound)]
  · intro link hlink
    obtain ⟨hname, hsource, htarget⟩ := h.links link hlink
    exact ⟨hname, hkept _ hsource, hkept _ htarget⟩

/-- The relationships at a removed table go with it, so that the ends of the others stay. -/
theorem removeTables (h : diagram.Seeded) (ids : List Identifier) :
    (Mutation.withoutTables diagram ids).Seeded := by
  constructor
  · intro table htable
    rw [Mutation.withoutTables, takePositioned_snd] at htable
    exact h.tables table (List.mem_filter.mp htable).1
  · intro link hlink
    simp only [Mutation.withoutTables, Mutation.detachLinks_eq, takePositioned_snd,
      map_key_takePositioned] at hlink
    obtain ⟨hmem, huntouched⟩ := List.mem_filter.mp hlink
    rw [Bool.not_eq_true', Relationship.touchesAny, Bool.or_eq_false_iff] at huntouched
    have hkept : ∀ endpoint : Endpoint, endpoint.StandsAt diagram.tables →
        ((diagram.tables.filter fun table => ids.contains table.id).map Table.id).contains
          endpoint.tableId = false →
        endpoint.StandsAt (Mutation.withoutTables diagram ids).tables := by
      intro endpoint hstands huntouched
      refine hstands.mono fun table htable hid => ⟨table, ?_, rfl, rfl, fun _ hid => hid⟩
      rw [Mutation.withoutTables, takePositioned_snd]
      refine List.mem_filter.mpr ⟨htable, ?_⟩
      by_contra hremoved
      have hgone : ids.contains table.id = true := by simpa using hremoved
      rw [← Bool.not_eq_true, List.contains_iff_mem] at huntouched
      apply huntouched
      rw [← hid]
      exact List.mem_map_of_mem (List.mem_filter.mpr ⟨htable, hgone⟩)
    obtain ⟨hname, hsource, htarget⟩ := h.links link hmem
    exact ⟨hname, hkept _ hsource huntouched.1, hkept _ htarget huntouched.2⟩

theorem addLink (h : diagram.Seeded) {link : Relationship} (hlink : link.Seeded diagram.tables) :
    Diagram.Seeded { diagram with relationships := diagram.relationships ++ [link] } := by
  refine ⟨h.tables, fun other hother => ?_⟩
  rcases List.mem_append.mp hother with hold | hlast
  · exact h.links other hold
  · rwa [List.mem_singleton.mp hlast]

end Diagram.Seeded

/-! ## Edits without attributes -/

/-- The edits by which a session makes entities of its own, and the removal of tables. -/
def Edit.Seeds : Edit κ → Prop
  | createTable attributes => attributes = {}
  | createField _ | createIndex _ | createRelationship _ _ | createDependency _ _ => True
  | mutate (.removeTables _) => True
  | _ => False

namespace Workspace

theorem isWord_linkName {tableName fieldName : String} (htable : isWord tableName.toList = true)
    (hfield : isWord fieldName.toList = true) :
    isWord (tableName ++ "_" ++ fieldName ++ "_fk").toList = true := by
  have hmark : isWord "_".toList = true := by decide
  have hending : isWord "_fk".toList = true := by decide
  simp only [String.toList_append]
  exact isWord_append (isWord_append (isWord_append htable (isWordChar_of_isWord hmark))
    (isWordChar_of_isWord hfield)) (isWordChar_of_isWord hending)

theorem table?_of_loaded {session : Session κ} {diagram : Diagram κ}
    (hloaded : session.diagram? = some diagram) (id : Identifier) :
    session.table? id = diagram.table? id := by
  rw [Session.table?, hloaded]
  rfl

/-- An end that a relationship gets stands at a field of the diagram. -/
theorem exists_of_endAt {session : Session κ} {diagram : Diagram κ}
    (hloaded : session.diagram? = some diagram) {tableId fieldId : Identifier}
    {found : Endpoint × String × String} (h : endAt session tableId fieldId = .ok found) :
    ∃ table ∈ diagram.tables, ∃ field ∈ table.fields, found.1.StandsAt diagram.tables ∧
      found.2 = (table.name, field.name) := by
  obtain ⟨table, htable, hrest⟩ := Mutation.orRefuse_bind_eq_ok_iff.mp h
  obtain ⟨field, hfield, hfound⟩ := Mutation.orRefuse_bind_eq_ok_iff.mp hrest
  obtain rfl := Except.ok.inj hfound
  rw [table?_of_loaded hloaded] at htable
  have hmem := List.mem_of_find?_eq_some htable
  have hmemField := List.mem_of_find?_eq_some hfield
  refine ⟨table, hmem, field, hmemField, ⟨table, hmem, key_of_find? htable, rfl, ?_⟩, rfl⟩
  exact List.mem_map.mpr ⟨field, hmemField, key_of_find? hfield⟩

variable [Storage σ κ] [Coordinate κ]

section Seeding

variable {workspace : Workspace σ κ} {diagram : Diagram κ}

theorem createTable_seeded (hzero : ((Coordinate.zero : κ) == Coordinate.zero) = true)
    (hloaded : workspace.session.diagram? = some diagram) (h : diagram.Seeded) :
    ∃ after, (workspace.createTable {}).2.session.diagram? = some after ∧ after.Seeded := by
  simp only [createTable, Session.dialect_of_loaded hloaded]
  refine exists_after_performFor hloaded h (fun change hchange time => ?_) _ _
  obtain rfl := Except.ok.inj hchange
  simp only [Mutation.insertTablesChange, insertPositioned_positionedFrom_length]
  have hword : isWord "table".toList = true := by decide
  exact (h.addTable (.new hzero diagram.dialect _ _ (isWord_numberedName hword _))).touched time

theorem createField_seeded (hloaded : workspace.session.diagram? = some diagram)
    (h : diagram.Seeded) (tableId : Identifier) :
    ∃ after, (workspace.createField tableId).2.session.diagram? = some after ∧ after.Seeded := by
  simp only [createField, table?_of_loaded hloaded, Session.dialect_of_loaded hloaded]
  split
  · exact ⟨diagram, hloaded, h⟩
  · next table hfind =>
      apply exists_after_performFor hloaded h
      intro change hchange time
      obtain ⟨found, hfound, hrest⟩ := Mutation.orRefuse_bind_eq_ok_iff.mp hchange
      obtain rfl := Except.ok.inj hrest
      obtain rfl := Option.some.inj (hfind.symm.trans hfound)
      simp only [Mutation.fieldsChange, Option.getD_none, insertClamped_end]
      have hseeded := h.tables table (List.mem_of_find?_eq_some hfind)
      refine (h.changeTable hfind rfl rfl ?_ (hseeded.withField _)).touched time
      exact fun id hid => by simp only [List.map_append, List.mem_append, hid, true_or]

theorem createIndex_seeded (hloaded : workspace.session.diagram? = some diagram)
    (h : diagram.Seeded) (tableId : Identifier) :
    ∃ after, (workspace.createIndex tableId).2.session.diagram? = some after ∧ after.Seeded := by
  simp only [createIndex, table?_of_loaded hloaded]
  split
  · exact ⟨diagram, hloaded, h⟩
  · next table hfind =>
      apply exists_after_performFor hloaded h
      intro change hchange time
      obtain ⟨found, hfound, hrest⟩ := Mutation.orRefuse_bind_eq_ok_iff.mp hchange
      obtain rfl := Except.ok.inj hrest
      obtain rfl := Option.some.inj (hfind.symm.trans hfound)
      simp only [Mutation.indexesChange, Option.getD_none, insertClamped_end]
      have hseeded := h.tables table (List.mem_of_find?_eq_some hfind)
      exact (h.changeTable hfind rfl rfl (fun _ hid => hid) (hseeded.withIndex _ _)).touched time

theorem createRelationship_seeded (hloaded : workspace.session.diagram? = some diagram)
    (h : diagram.Seeded) (source target : Identifier × Identifier) :
    ∃ after, (workspace.createRelationship source target).2.session.diagram? = some after ∧
      after.Seeded := by
  rw [createRelationship]
  cases hsource : endAt workspace.session source.1 source.2 with
  | error error => exact ⟨diagram, hloaded, h⟩
  | ok sourceEnd =>
      cases htarget : endAt workspace.session target.1 target.2 with
      | error error => exact ⟨diagram, hloaded, h⟩
      | ok targetEnd =>
          obtain ⟨sourceEnd, tableName, fieldName⟩ := sourceEnd
          obtain ⟨table, htable, field, hfield, hstands, hnames⟩ := exists_of_endAt hloaded hsource
          obtain ⟨rfl, rfl⟩ := Prod.mk.inj hnames
          obtain ⟨-, -, -, -, htargetStands, -⟩ := exists_of_endAt hloaded htarget
          refine exists_after_performFor hloaded h (fun change hchange time => ?_) _ _
          obtain rfl := Except.ok.inj hchange
          simp only [Mutation.insertRelationshipsChange, insertPositioned_positionedFrom_length]
          have hseeded := h.tables table htable
          have hlink : Relationship.Seeded diagram.tables
              (Relationship.new (workspace.session.supply.get 0)
                (table.name ++ "_" ++ field.name ++ "_fk") sourceEnd targetEnd.1) :=
            ⟨isWord_linkName hseeded.name (hseeded.isWord_field hfield), hstands, htargetStands⟩
          exact (h.addLink hlink).touched time

theorem createDependency_seeded (hloaded : workspace.session.diagram? = some diagram)
    (h : diagram.Seeded) (tableId dependentTableId : Identifier) :
    ∃ after, (workspace.createDependency tableId dependentTableId).2.session.diagram? =
      some after ∧ after.Seeded := by
  simp only [createDependency]
  split
  · exact ⟨diagram, hloaded, h⟩
  · apply exists_after_performFor hloaded h
    intro change hchange time
    obtain rfl := Except.ok.inj hchange
    exact ⟨h.tables, h.links⟩

theorem removeTables_seeded (hloaded : workspace.session.diagram? = some diagram)
    (h : diagram.Seeded) (ids : List Identifier) :
    ∃ after, (workspace.perform (.removeTables ids) true).2.session.diagram? = some after ∧
      after.Seeded := by
  refine exists_after_perform hloaded h (fun change hchange time => ?_) true
  rw [(Mutation.removeTablesChange_eq_ok hchange).1]
  exact (h.removeTables ids).touched time

/-- An edit without attributes leaves a diagram as a session makes it. -/
theorem edit_seeded (hzero : ((Coordinate.zero : κ) == Coordinate.zero) = true)
    (hloaded : workspace.session.diagram? = some diagram) (h : diagram.Seeded) {edit : Edit κ}
    (hseeds : edit.Seeds) :
    ∃ after, (edit.run workspace).session.diagram? = some after ∧ after.Seeded := by
  cases edit with
  | mutate mutation =>
      cases mutation with
      | removeTables ids => exact removeTables_seeded hloaded h ids
      | _ => exact absurd hseeds not_false
  | createTable attributes =>
      obtain rfl := hseeds
      exact createTable_seeded hzero hloaded h
  | createField tableId => exact createField_seeded hloaded h tableId
  | createIndex tableId => exact createIndex_seeded hloaded h tableId
  | createRelationship source target => exact createRelationship_seeded hloaded h source target
  | createDependency tableId dependentTableId =>
      exact createDependency_seeded hloaded h tableId dependentTableId
  | applyText text => exact absurd hseeds not_false

end Seeding

/-! ## Runs -/

/-- The workspaces that a session comes to from a new diagram by edits without attributes, all of
whose identifiers are new. -/
inductive Grown : Workspace σ κ → Prop
  | created (start : Workspace σ κ) {diagram : Diagram κ} (name : String)
      (dialect : Option Dialect)
      (hcreated : (start.createDiagram name dialect).1 = .ok diagram) :
      Grown (start.createDiagram name dialect).2
  | edited {workspace : Workspace σ κ} (hgrown : Grown workspace) (edit : Edit κ)
      (hseeds : edit.Seeds)
      (hnew : ∀ diagram, workspace.session.diagram? = some diagram →
        edit.BringsNew workspace.session diagram) :
      Grown (edit.run workspace)

variable {workspace : Workspace σ κ}

theorem Grown.seeded (hzero : ((Coordinate.zero : κ) == Coordinate.zero) = true)
    (h : Grown workspace) :
    ∃ diagram, workspace.session.diagram? = some diagram ∧ diagram.Tidy ∧ diagram.Seeded := by
  induction h with
  | created start name dialect hcreated =>
      unfold createDiagram at hcreated ⊢
      dsimp only at hcreated ⊢
      split at hcreated
      · cases hcreated
      · exact ⟨_, rfl, .of_empty rfl rfl rfl, .of_empty rfl rfl⟩
  | edited _ edit hseeds hnew ih =>
      obtain ⟨diagram, hloaded, htidy, hseeded⟩ := ih
      obtain ⟨after, hafter, hdone⟩ := edit_tidy hloaded htidy (hnew diagram hloaded)
      obtain ⟨same, hsame, hmade⟩ := edit_seeded hzero hloaded hseeded hseeds
      obtain rfl := Option.some.inj (hafter.symm.trans hsame)
      exact ⟨after, hafter, hdone, hmade⟩

/-- A text is answered with the empty plan exactly if that is the plan for it, and then nothing
happens. -/
theorem applyText_eq_empty_iff {diagram : Diagram κ} {text : String}
    (hloaded : workspace.session.diagram? = some diagram) :
    (workspace.applyText text).1 = .ok {} ∧
        (workspace.applyText text).2.session.diagram? = some diagram ∧
        (workspace.applyText text).2.storage = workspace.storage ↔
      (planFor workspace.session text).1 = {} := by
  rw [applyText_of_loaded hloaded]
  constructor
  · rintro ⟨hanswer, -⟩
    cases happly : ((workspace.withSession (planFor workspace.session text).2).applyPlan
        (planFor workspace.session text).1 true).1 with
    | error error =>
        rw [happly] at hanswer
        cases hanswer
    | ok done =>
        rw [happly] at hanswer
        exact Except.ok.inj hanswer
  · intro hempty
    rw [hempty, applyPlan]
    have hdrawn : (workspace.withSession (planFor workspace.session text).2).session.diagram? =
        some diagram := hloaded
    rw [hdrawn]
    exact ⟨rfl, hdrawn, rfl⟩

/-- Applying the text of a diagram that a session has grown is answered with the empty plan, and
leaves the diagram as it was, exactly if the diagram reads back. -/
theorem Grown.applyText_schemaText_iff (hzero : ((Coordinate.zero : κ) == Coordinate.zero) = true)
    (h : Grown workspace) {diagram : Diagram κ}
    (hloaded : workspace.session.diagram? = some diagram) :
    (workspace.applyText workspace.session.schemaText).1 = .ok {} ∧
        (workspace.applyText workspace.session.schemaText).2.session.diagram? = some diagram ∧
        (workspace.applyText workspace.session.schemaText).2.storage = workspace.storage ↔
      diagram.ReadsBack := by
  obtain ⟨present, hpresent, htidy, hseeded⟩ := h.seeded hzero
  obtain rfl := Option.some.inj (hpresent.symm.trans hloaded)
  rw [applyText_eq_empty_iff hloaded]
  have hplan : (planFor workspace.session workspace.session.schemaText).1 =
      reconcile workspace.session.supply (SchemaText.parse present.dialect
        (SchemaText.generate present.tables present.relationships)) present.tables
        present.relationships := by
    simp only [planFor, Session.schemaText, Session.dialect, Session.tables, Session.relationships,
      hloaded, Option.map_some, Option.getD_some]
  rw [hplan]
  exact hseeded.reconcile_eq_empty_iff htidy.tables workspace.session.supply

/-! ## A table with a relationship or with an index -/

/-- A table with a key in a new diagram. -/
def tabled : Workspace (MemoryStorage Float) Float :=
  Edit.run (unopened.createDiagram "shop" none).2 (.createTable {})

/-- The table and its key. -/
def tabledKey : Identifier × Identifier := (Identifier.ofNat 2, Identifier.ofNat 3)

theorem tabled_grown : tabled.Grown := by
  refine .edited (.created unopened "shop" none rfl) (.createTable {}) rfl ?_
  intro diagram hloaded
  obtain rfl := Option.some.inj hloaded
  refine ⟨⟨by decide, fun id _ => .of_empty rfl rfl rfl id⟩, ?_⟩
  exact ⟨fun _ h => (by cases h), fun _ h => (by cases h)⟩

/-- The next identifier is not in use. -/
theorem tabled_fresh {diagram : Diagram Float} (hloaded : tabled.session.diagram? = some diagram) :
    tabled.session.supply.Fresh 1 diagram := by
  obtain rfl := Option.some.inj hloaded
  refine ⟨by decide, fun id hid => ?_⟩
  obtain rfl := List.mem_singleton.mp hid
  refine ⟨by decide, ⟨?_, ?_⟩, rfl, rfl, ?_, ?_⟩
  · exact fun _ hmem => absurd hmem List.not_mem_nil
  · exact fun _ hmem => absurd hmem List.not_mem_nil
  · exact List.forall_mem_singleton.mpr (by decide)
  · exact List.forall_mem_singleton.mpr rfl

/-- A relationship of the key with itself comes back from the text. -/
theorem applyText_schemaText_linked :
    let linked := Edit.run tabled (.createRelationship tabledKey tabledKey)
    ∃ diagram, linked.session.diagram? = some diagram ∧
      (linked.applyText linked.session.schemaText).1 = .ok {} ∧
      (linked.applyText linked.session.schemaText).2.session.diagram? = some diagram ∧
      (linked.applyText linked.session.schemaText).2.storage = linked.storage := by
  intro linked
  have hzero : ((Coordinate.zero : Float) == Coordinate.zero) = true := by decide +kernel
  have hgrown : linked.Grown := .edited tabled_grown (.createRelationship tabledKey tabledKey)
    trivial fun diagram hloaded => tabled_fresh hloaded
  obtain ⟨diagram, hloaded, htidy, hseeded⟩ := hgrown.seeded hzero
  refine ⟨diagram, hloaded, (hgrown.applyText_schemaText_iff hzero hloaded).mpr ?_⟩
  have hshape : (linked.session.diagram?.map fun diagram => (diagram.tables.map Table.name,
      diagram.relationships.map Relationship.name, diagram.tables.map Table.indexes)) =
        some (["table_1"], ["table_1_id_fk"], [[]]) := by decide +kernel
  rw [hloaded, Option.map_some, Option.some.injEq, Prod.mk.injEq, Prod.mk.injEq] at hshape
  obtain ⟨htables, hlinks, hindexes⟩ := hshape
  apply hseeded.readsBack htidy.tables
  · rw [htables]
    exact List.nodup_singleton _
  · rw [hlinks]
    exact List.nodup_singleton _
  · intro table htable
    have hmem : table.indexes ∈ diagram.tables.map Table.indexes := List.mem_map_of_mem htable
    rw [hindexes] at hmem
    exact List.mem_singleton.mp hmem

/-- An index over no field does not come back, and is dropped. -/
theorem applyText_schemaText_indexed :
    let indexed := Edit.run tabled (.createIndex tabledKey.1)
    indexed.Grown ∧
      ¬ ((indexed.applyText indexed.session.schemaText).1 = .ok {} ∧
        (indexed.applyText indexed.session.schemaText).2.session.diagram? =
          indexed.session.diagram?) := by
  intro indexed
  refine ⟨.edited tabled_grown (.createIndex tabledKey.1) trivial fun diagram hloaded =>
    tabled_fresh hloaded, ?_⟩
  rintro ⟨-, hsame⟩
  have hbefore : (indexed.session.diagram?.map fun diagram =>
      diagram.tables.map fun table => table.indexes.length) = some [1] := by decide +kernel
  have hafter : ((indexed.applyText indexed.session.schemaText).2.session.diagram?.map
      fun diagram => diagram.tables.map fun table => table.indexes.length) = some [0] := by
    decide +kernel
  rw [hsame, hbefore] at hafter
  exact absurd hafter (by decide)

end Workspace

end SchemaDiagram
