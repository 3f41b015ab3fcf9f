import SchemaDiagram.Proofs.Outermost
import SchemaDiagram.Proofs.Session.Announced
import SchemaDiagram.Proofs.Session.PlanEffect

/-!
# Where a created table is put

A text that creates a table puts it among the others before it links it to them.  So at that moment
nothing is related to the table, and it goes to the right of everything that is visible, in the row
where the canvas starts, whatever tables it is linked to afterwards.  It stands beside a related
table exactly if that happens to be the outermost one and to stand in this row.
-/

namespace SchemaDiagram

variable {σ κ : Type}

/-! ## What is visible -/

theorem Mutation.dialect_change {mutation : Mutation κ} {diagram : Diagram κ} {change : Change κ}
    (h : mutation.change diagram = .ok change) : change.diagram.dialect = diagram.dialect := by
  cases mutation with
  | renameDiagram | insertTables | addTables | setTables | insertRelationships | addRelationships
  | insertDependencies | addDependencies =>
      obtain rfl := Except.ok.inj h
      rfl
  | updateTable | insertField | insertIndex | updateRelationship | updateDependency =>
      obtain ⟨_, -, hchange⟩ := orRefuse_bind_eq_ok_iff.mp h
      obtain rfl := Except.ok.inj hchange
      rfl
  | updateField | removeField | updateIndex | removeIndex =>
      obtain ⟨_, -, hpart⟩ := orRefuse_bind_eq_ok_iff.mp h
      obtain ⟨_, -, hchange⟩ := orRefuse_bind_eq_ok_iff.mp hpart
      obtain rfl := Except.ok.inj hchange
      rfl
  | removeTables ids =>
      rw [(removeTablesChange_eq_ok h).1]
      rfl
  | removeRelationships ids => rw [(removeRelationshipsChange_eq_ok h).1]
  | removeDependencies ids => rw [(removeDependenciesChange_eq_ok h).1]

namespace Session

/-- Two sessions show their tables in the same way: only the tables may differ. -/
structure SameView (before after : Session κ) : Prop where
  layout : after.layout = before.layout
  filter : after.schemaFilter = before.schemaFilter
  dialect : after.dialect = before.dialect

theorem SameView.refl (session : Session κ) : session.SameView session :=
  ⟨rfl, rfl, rfl⟩

theorem SameView.trans {first second third : Session κ} (h : first.SameView second)
    (h' : second.SameView third) : first.SameView third :=
  ⟨h'.layout.trans h.layout, h'.filter.trans h.filter, h'.dialect.trans h.dialect⟩

/-- Which tables are shown depends on the schemas of all tables. -/
theorem SameView.chosenSchemas {before after : Session κ} (h : before.SameView after)
    (hschemas : after.tables.map Table.schema = before.tables.map Table.schema) :
    after.chosenSchemas = before.chosenSchemas := by
  have hnames : after.tables.filterMap Table.schema = before.tables.filterMap Table.schema := by
    have hjoined := congrArg (List.filterMap id) hschemas
    simpa only [List.filterMap_map, Function.id_comp] using hjoined
  have hcounts : schemaInfo after.tables = schemaInfo before.tables := by
    funext name
    have hcount := congrArg (List.countP (· == some name)) hschemas
    rw [List.countP_map, List.countP_map] at hcount
    simp only [schemaInfo, SchemaInfo.mk.injEq, true_and]
    exact hcount
  have hinfos : after.schemas = before.schemas := by
    simp only [schemas, schemaNames, h.dialect, hnames, hcounts]
  simp only [Session.chosenSchemas, hinfos, h.filter, h.dialect]

end Session

namespace Workspace

theorem Shows.session {workspace : Workspace σ κ} {tables : List (Table κ)}
    {relationships : List Relationship} (h : workspace.Shows tables relationships) :
    workspace.session.tables = tables ∧ workspace.session.relationships = relationships := by
  obtain ⟨diagram, hloaded, rfl, rfl⟩ := h
  simp only [Session.tables, Session.relationships, hloaded, Option.map_some, Option.getD_some,
    and_self]

variable [Storage σ κ]

theorem sameView_perform (workspace : Workspace σ κ) (mutation : Mutation κ) (record : Bool) :
    workspace.session.SameView (workspace.perform mutation record).2.session := by
  cases hloaded : workspace.session.diagram? with
  | none =>
      rw [perform_of_unloaded mutation record hloaded]
      exact .refl _
  | some diagram =>
      cases hchange : mutation.change diagram with
      | error error =>
          rw [perform_of_refusal record hloaded hchange]
          exact .refl _
      | ok change =>
          have hdialect := Mutation.dialect_change hchange
          rw [perform_session record hloaded hchange]
          constructor
          · cases record <;> rfl
          · cases record <;> rfl
          · rw [Session.dialect_of_loaded hloaded, ← hdialect]
            cases record <;> rfl

omit [Storage σ κ] in
theorem sameView_runAll {operations : List (Workspace σ κ → Answer σ κ Unit)}
    (h : ∀ operation ∈ operations, ∀ workspace : Workspace σ κ,
      workspace.session.SameView (operation workspace).2.session) (workspace : Workspace σ κ) :
    workspace.session.SameView (workspace.runAll operations).2.session := by
  induction operations generalizing workspace with
  | nil => exact .refl _
  | cons operation rest ih =>
      have hfirst := h operation List.mem_cons_self workspace
      have hrest := ih (fun other hother => h other (List.mem_cons_of_mem _ hother))
        (operation workspace).2
      exact hfirst.trans hrest

theorem sameView_placeTables [Coordinate κ] (ids : List Identifier) (record : Bool)
    (workspace : Workspace σ κ) :
    workspace.session.SameView (placeTables ids record workspace).2.session := by
  apply sameView_runAll
  intro operation hoperation workspace
  obtain ⟨position, -, rfl⟩ := List.mem_map.mp hoperation
  have hmoved := workspace.sameView_perform
    (.updateTable position.tableId { position := some (position.x, position.y) }) record
  exact hmoved.trans ⟨rfl, rfl, rfl⟩

/-- Carrying out a plan does not change how tables are shown. -/
theorem sameView_of_mem_planOperations [Coordinate κ] (plan : Plan κ) (record : Bool) :
    ∀ operation ∈ planOperations (σ := σ) plan record, ∀ workspace : Workspace σ κ,
      workspace.session.SameView (operation workspace).2.session :=
  forall_mem_planOperations
    (fun mutation _ workspace => workspace.sameView_perform mutation record)
    fun ids workspace => sameView_placeTables ids record workspace

end Workspace

/-! ## Created tables -/

/-- A created table is in no schema. -/
theorem Reconciliation.schema_of_mem_createdTables [Coordinate κ] {supply : Supply}
    {schema : DeclaredSchema} {live : List (Table κ)} {linked : List Relationship}
    {table : Table κ} (h : table ∈ (reconcile supply schema live linked).createdTables) :
    table.schema = none := by
  have hdeclare : ∀ (declarations : List TableDeclaration) (supply : Supply)
      (changes : TableChanges κ), (∀ table ∈ changes.created, table.schema = none) →
        ∀ table ∈ (TableChanges.declareAll live supply changes declarations).created,
          table.schema = none := by
    intro declarations
    induction declarations with
    | nil => exact fun _ _ hchanges => hchanges
    | cons declaration rest ih =>
        intro supply changes hchanges
        refine ih _ _ ?_
        rw [TableChanges.declare]
        split
        · dsimp only
          split
          · exact hchanges
          · exact hchanges
        · exact List.forall_mem_append.mpr ⟨hchanges, List.forall_mem_singleton.mpr rfl⟩
  exact hdeclare _ _ _ (fun _ hmem => absurd hmem List.not_mem_nil) table h

theorem Session.isVisible_of_schemaless {table : Table κ} (h : table.schema = none)
    (chosen : Option (List String)) : isVisible chosen table = true := by
  cases chosen with
  | none => rfl
  | some ids => simp only [isVisible, h]

/-- The tables that a plan keeps are some of those that were there, by their identifiers. -/
theorem Plan.ids_kept_sublist (plan : Plan κ) (tables : List (Table κ)) :
    ((updateAll Table.id Table.apply (tables.filter fun table =>
      !plan.deletedTables.contains table.id) plan.updatedTables).map Table.id).Sublist
        (tables.map Table.id) := by
  rw [map_updateAll fun _ _ _ => rfl]
  exact List.filter_sublist.map Table.id

theorem updateFirst_concat {p : α → Bool} (change : α → α) {items : List α}
    (h : ∀ item ∈ items, p item = false) {item : α} (hitem : p item = true) :
    updateFirst p change (items ++ [item]) = items ++ [change item] := by
  induction items with
  | nil => simp [updateFirst, hitem]
  | cons first rest ih =>
      obtain ⟨hfirst, hrest⟩ := List.forall_mem_cons.mp h
      rw [List.cons_append, updateFirst, hfirst, if_neg Bool.false_ne_true, ih hrest]
      rfl

namespace Workspace

variable [Storage σ ℚ] {workspace : Workspace σ ℚ} {kept : List (Table ℚ)} {created : Table ℚ}
  {relationships : List Relationship}

omit [Storage σ ℚ] in
/-- A last table without a schema is visible, behind those of the others that are. -/
theorem Shows.visibleTables_concat (h : workspace.Shows (kept ++ [created]) relationships)
    (hnew : ∀ table ∈ kept, table.id ≠ created.id) (hschema : created.schema = none) :
    let others := kept.filter (Session.isVisible workspace.session.chosenSchemas)
    workspace.session.visibleTables = others ++ [created] ∧
      workspace.session.visibleTables.filter (fun table => table.id != created.id) = others := by
  intro others
  have hshown : Session.isVisible workspace.session.chosenSchemas created = true :=
    Session.isVisible_of_schemaless hschema _
  have hvisible : workspace.session.visibleTables = others ++ [created] := by
    rw [Session.visibleTables, h.session.1, List.filter_append, List.filter_cons_of_pos hshown]
    rfl
  have hothers : ∀ table ∈ others, (table.id != created.id) = true := fun table hmem =>
    bne_iff_ne.mpr (hnew table (List.mem_filter.mp hmem).1)
  refine ⟨hvisible, ?_⟩
  rw [hvisible, List.filter_append, List.filter_eq_self.mpr hothers,
    List.filter_cons_of_neg (by simp), List.filter_nil, List.append_nil]

/-- A created table that nothing is related to is moved to the right of what is visible. -/
theorem Shows.placeTable (h : workspace.Shows (kept ++ [created]) relationships)
    (hnew : ∀ table ∈ kept, table.id ≠ created.id) (hschema : created.schema = none)
    (halone : ∀ relationship ∈ relationships, relationship.touchesAny [created.id] = false)
    (record : Bool) :
    let after := (Workspace.placeTables [created.id] record workspace).2
    ∃ x y, after.Shows (kept ++ [created.withPosition x y]) relationships ∧
      workspace.session.SameView after.session ∧
      workspace.session.layout.IsOuter
        (kept.filter (Session.isVisible workspace.session.chosenSchemas)) (x, y) := by
  intro after
  obtain ⟨hvisible, hothers⟩ := h.visibleTables_concat hnew hschema
  have hknown : created.id ∈ workspace.session.visibleTables.map Table.id := by
    rw [hvisible]
    simp
  obtain ⟨position, hplace, hid, houter⟩ :=
    Layout.place_alone workspace.session.layout hknown (h.session.2 ▸ halone)
  have hmoved := h.updateTable position.tableId { position := some (position.x, position.y) } record
  rw [updateFirst_concat _ (fun table hmem => by simpa [hid] using hnew table hmem)
    (by rw [hid]; exact beq_self_eq_true _)] at hmoved
  have hshows : after.Shows (kept ++ [created.withPosition position.x position.y])
      relationships := by
    simp only [after, Workspace.placeTables, hplace, List.map_singleton, runAll_singleton]
    exact hmoved.emit [.focusTable position.tableId]
  rw [hothers] at houter
  exact ⟨position.x, position.y, hshows, sameView_placeTables _ record workspace, houter⟩

/-- A plan that creates a single table puts it to the right of what is visible. -/
theorem Shows.planOperations_created {tables : List (Table ℚ)}
    (h : workspace.Shows tables relationships) {plan : Plan ℚ}
    (hlive : ∀ id ∈ plan.deletedTables, id ∈ tables.map Table.id)
    (hcreated : plan.createdTables = [created]) (hschema : created.schema = none)
    (hnew : created.id ∉ tables.map Table.id)
    (halone : ∀ relationship ∈ relationships, relationship.touchesAny [created.id] = false)
    (record : Bool) :
    let after := (workspace.runAll (Workspace.planOperations plan record)).2
    ∃ kept x y, (∀ table ∈ kept, table.id ≠ created.id) ∧
      after.Shows (kept ++ [created.withPosition x y]) (plan.relationshipsAfter relationships) ∧
      workspace.session.SameView after.session ∧
      workspace.session.layout.IsOuter
        (kept.filter (Session.isVisible after.session.chosenSchemas)) (x, y) := by
  intro after
  let kept := updateAll Table.id Table.apply
    (tables.filter fun table => !plan.deletedTables.contains table.id) plan.updatedTables
  have hkept : ∀ table ∈ kept, table.id ≠ created.id := fun table hmem hid =>
    hnew (hid ▸ (plan.ids_kept_sublist tables).subset (List.mem_map_of_mem hmem))
  have hview := sameView_of_mem_planOperations (σ := σ) plan record
  simp only [Workspace.planOperations, List.mem_append, or_imp, forall_and] at hview
  obtain ⟨⟨⟨⟨⟨hdeleting, hupdating⟩, -⟩, hunlinking⟩, hrelinking⟩, hlinking⟩ := hview
  -- Before the table is placed, it stands behind the tables that are kept.
  have hadded := ((h.deleteTables hlive record).updateTables plan.updatedTables record).addTables
    [created] record
  have hbefore := ((sameView_runAll hdeleting workspace).trans
    (sameView_runAll hupdating _)).trans (sameView_perform _ (.addTables [created]) record)
  have hsurviving : ∀ relationship ∈ Reconciliation.surviving plan.deletedTables relationships,
      relationship.touchesAny [created.id] = false := fun relationship hmem =>
    halone relationship (List.mem_filter.mp hmem).1
  obtain ⟨x, y, hplaced, hplacing, houter⟩ := hadded.placeTable hkept hschema hsurviving record
  -- What follows leaves the tables alone.
  have hlinked := ((hplaced.deleteRelationships plan.deletedRelationships record
    ).updateRelationships plan.updatedRelationships record).createRelationships
      plan.createdRelationships record
  have hbehind := ((hplacing.trans (sameView_runAll hunlinking _)).trans
    (sameView_runAll hrelinking _)).trans (sameView_runAll hlinking _)
  have hchosen := hbehind.chosenSchemas (by
    rw [hlinked.session.1, hadded.session.1, List.map_append, List.map_append]
    rfl)
  rw [← hchosen, hbefore.layout] at houter
  refine ⟨kept, x, y, hkept, ?_, ?_, ?_⟩
  all_goals simp only [after, Workspace.planOperations, runAll_append, hcreated]
  · exact hlinked
  · exact hbefore.trans hbehind
  · exact houter

theorem Shows.applyPlan_created {tables : List (Table ℚ)}
    (h : workspace.Shows tables relationships) {plan : Plan ℚ}
    (hlive : ∀ id ∈ plan.deletedTables, id ∈ tables.map Table.id)
    (hcreated : plan.createdTables = [created]) (hschema : created.schema = none)
    (hnew : created.id ∉ tables.map Table.id)
    (halone : ∀ relationship ∈ relationships, relationship.touchesAny [created.id] = false)
    (record : Bool) :
    let after := (workspace.applyPlan plan record).2
    ∃ kept x y, (∀ table ∈ kept, table.id ≠ created.id) ∧
      after.Shows (kept ++ [created.withPosition x y]) (plan.relationshipsAfter relationships) ∧
      workspace.session.SameView after.session ∧
      workspace.session.layout.IsOuter
        (kept.filter (Session.isVisible after.session.chosenSchemas)) (x, y) := by
  have hloaded : workspace.session.diagram?.isNone = false := by
    obtain ⟨diagram, hsome, -, -⟩ := h
    rw [hsome]
    rfl
  have hfull : plan.isEmpty = false := by
    simp [Plan.isEmpty, Plan.size, hcreated]
  rw [Workspace.applyPlan, hloaded, if_neg Bool.false_ne_true, hfull, if_neg Bool.false_ne_true]
  cases record with
  | false => exact h.planOperations_created hlive hcreated hschema hnew halone false
  | true =>
      have hgrouped : (workspace.mapHistory History.beginGroup).Shows tables relationships := h
      obtain ⟨kept, x, y, hkept, hshows, hsame, houter⟩ :=
        hgrouped.planOperations_created hlive hcreated hschema hnew halone true
      exact ⟨kept, x, y, hkept, hshows, ⟨hsame.layout, hsame.filter, hsame.dialect⟩, houter⟩

/-- A single table that a text creates, under an identifier that was not in use, stands to the right
of all others that are visible, in the row where the canvas starts, whatever it is linked to.  So it
is beside one of them exactly if that is an outermost one and stands in this row. -/
theorem applyText_beside_iff {diagram : Diagram ℚ}
    (hloaded : workspace.session.diagram? = some diagram) {text : String}
    (hcreated : (planFor workspace.session text).1.createdTables = [created])
    (hnew : diagram.table? created.id = none) (hunlinked : diagram.Unlinked created.id) :
    let config := workspace.session.layout
    let after := (workspace.applyText text).2.session
    let others := after.visibleTables.filter fun table => table.id != created.id
    ∃ placed ∈ after.visibleTables, after.table? created.id = some placed ∧
      config.IsOuter others (placed.x, placed.y) ∧
      ∀ related ∈ others, (placed.x, placed.y) = (related.x + config.cellWidth, related.y) ↔
        related.y = config.startY ∧ ∀ other ∈ others, other.x ≤ related.x := by
  intro config after others
  have hshows : (workspace.withSession (planFor workspace.session text).2).Shows diagram.tables
      diagram.relationships := ⟨diagram, hloaded, rfl, rfl⟩
  have hschema : created.schema = none := by
    apply Reconciliation.schema_of_mem_createdTables
    exact hcreated ▸ List.mem_singleton_self created
  obtain ⟨kept, x, y, hkept, hafter, -, houter⟩ := hshows.applyPlan_created
    (planFor_grounded hloaded text).deletedTables hcreated hschema
    (Diagram.table?_eq_none_iff.mp hnew) hunlinked.1 true
  have happlied : (workspace.applyText text).2 =
      ((workspace.withSession (planFor workspace.session text).2).applyPlan
        (planFor workspace.session text).1 true).2 := by
    rw [applyText_of_loaded hloaded]
  rw [← happlied] at hafter houter
  let placed := created.withPosition x y
  have hplaced : (workspace.applyText text).2.Shows (kept ++ [placed]) _ := hafter
  obtain ⟨hvisible, hothers⟩ := hplaced.visibleTables_concat hkept hschema
  rw [← hothers] at houter
  have hfound : after.table? created.id = some placed := by
    obtain ⟨present, hpresent, htables, -⟩ := hafter
    have hnone : (kept.find? fun table => table.id == created.id) = none :=
      List.find?_eq_none.mpr fun table hmem => by simpa using hkept table hmem
    rw [Session.table?, hpresent, Option.bind_some, Diagram.table?, htables, List.find?_append,
      hnone, Option.none_or, List.find?_singleton]
    exact if_pos (beq_self_eq_true created.id)
  have hshown : placed ∈ after.visibleTables := by
    rw [hvisible]
    exact List.mem_append_right _ (List.mem_singleton_self placed)
  exact ⟨placed, hshown, hfound, houter, fun related hrelated => houter.beside_iff hrelated⟩

/-! ## A table beside which nothing is put -/

/-- A text with a single table. -/
def usersText : String :=
  "Table users \x7b\n\tid int\n\x7d"

/-- The same text with a second table that is linked to the first. -/
def ordersText : String :=
  usersText ++ "\n\nTable orders \x7b\n\tid int\n\tuser int\n\x7d\n\n" ++
    "Rel fk: N orders.user, 1 users.id"

/-- A session in which the first text was applied, and its table was moved down and to the right. -/
def movedUsers : Workspace (MemoryStorage ℚ) ℚ :=
  let fresh : Workspace (MemoryStorage ℚ) ℚ := ⟨Session.new Config.standard LayoutConfig.standard
    ⟨fun n => ⟨Identifier.ofNat (n + 1), ⟨n, 0⟩, ""⟩, 0⟩, MemoryStorage.empty⟩
  let drawn := ((fresh.createDiagram "shop" none).2.applyText usersText).2
  (drawn.perform (.updateTable (Identifier.ofNat 2) { position := some (500, 500) }) true).2

theorem movedUsers_beside_iff :
    let config := movedUsers.session.layout
    let after := (movedUsers.applyText ordersText).2.session
    ∃ diagram created, movedUsers.session.diagram? = some diagram ∧
      (planFor movedUsers.session ordersText).1.createdTables = [created] ∧
      diagram.table? created.id = none ∧ diagram.Unlinked created.id ∧
      let others := after.visibleTables.filter fun table => table.id != created.id
      ∃ placed ∈ after.visibleTables, after.table? created.id = some placed ∧
        config.IsOuter others (placed.x, placed.y) ∧
        ∀ related ∈ others, (placed.x, placed.y) = (related.x + config.cellWidth, related.y) ↔
          related.y = config.startY ∧ ∀ other ∈ others, other.x ≤ related.x := by
  intro config after
  have hids : (planFor movedUsers.session ordersText).1.createdTables.map Table.id =
      [Identifier.ofNat 9] := by
    decide +kernel
  obtain ⟨created, hcreated, hid⟩ := List.map_eq_singleton_iff.mp hids
  have hnames : (movedUsers.session.diagram?.map fun diagram => (diagram.tables.map Table.id,
      diagram.relationships.map Relationship.id, diagram.dependencies.map Dependency.id)) =
        some ([Identifier.ofNat 2], [], []) := by
    decide +kernel
  obtain ⟨diagram, hloaded, hnames⟩ := Option.map_eq_some_iff.mp hnames
  simp only [Prod.mk.injEq, List.map_eq_nil_iff] at hnames
  obtain ⟨htables, hrelationships, hdependencies⟩ := hnames
  have hnew : diagram.table? created.id = none := by
    rw [Diagram.table?_eq_none_iff, htables, hid]
    decide
  have hunlinked : diagram.Unlinked created.id := by
    constructor
    · simp [hrelationships]
    · simp [hdependencies]
  exact ⟨diagram, created, hloaded, hcreated, hnew, hunlinked,
    applyText_beside_iff hloaded hcreated hnew hunlinked⟩

/-- The place beside the only related table is free, yet the new one is put into another row. -/
theorem movedUsers_parted :
    let before := movedUsers.session
    let plan := (planFor before ordersText).1
    let after := (movedUsers.applyText ordersText).2.session
    let beside : ℚ × ℚ := (500 + before.layout.cellWidth, 500)
    let users := Identifier.ofNat 2
    let orders := Identifier.ofNat 9
    (before.visibleTables.map fun table => (table.id, table.x, table.y)) = [(users, 500, 500)] ∧
      plan.createdTables.map Table.id = [orders] ∧
      (plan.createdRelationships.map fun link => (link.source.tableId, link.target.tableId)) =
        [(orders, users)] ∧
      before.layout.overlaps (before.visibleTables.map fun table => (table.x, table.y)) beside =
        false ∧
      (after.table? orders).map (fun table => (table.x, table.y)) = some (860, 100) ∧
      beside ≠ (860, 100) := by
  decide +kernel

end Workspace

end SchemaDiagram
