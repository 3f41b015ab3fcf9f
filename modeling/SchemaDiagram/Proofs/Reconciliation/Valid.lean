import SchemaDiagram.Proofs.Reconciliation.Drawn
import SchemaDiagram.Proofs.Reconciliation.Unchanged

/-!
# Plans fit the model they were made for

Names may repeat here, in the schema as well as in the model: several declarations may then stand
for one table, each with an update of its own.  An update sets everything that a declaration can
say, so that the last one prevails, and what the plan leaves is what was projected.
-/

namespace SchemaDiagram

variable {κ α π : Type}

/-! ## Items that some update touches -/

/-- Where identifiers are distinct, every item is as it was, or as some update leaves it. -/
theorem updateAll_touched {key : α → Identifier} {apply : α → π → α} {P : α → Prop}
    (hkey : ∀ item patch, key (apply item patch) = key item) {items : List α}
    {updates : List (Identifier × π)} (hnodup : (items.map key).Nodup)
    (h : ∀ update ∈ updates, ∀ item, P (apply item update.2)) :
    ∀ item ∈ updateAll key apply items updates,
      P item ∨ (item ∈ items ∧ key item ∉ updates.map Prod.fst) := by
  induction updates generalizing items with
  | nil => exact fun item hmem => .inr ⟨hmem, List.not_mem_nil⟩
  | cons update rest ih =>
      intro item hmem
      have hnext := updateFirst_eq_map hnodup update.1 fun item => apply item update.2
      have hnodup' : ((updateFirst (fun item => key item == update.1)
          (fun item => apply item update.2) items).map key).Nodup := by
        rwa [map_updateFirst fun item => hkey item update.2]
      rcases ih hnodup' (fun other hother => h other (List.mem_cons_of_mem _ hother)) item hmem
        with hdone | ⟨hitem, hrest⟩
      · exact .inl hdone
      · rw [hnext] at hitem
        obtain ⟨old, hold, hsame⟩ := List.mem_map.mp hitem
        by_cases hid : key old = update.1
        · rw [if_pos hid] at hsame
          exact .inl (hsame ▸ h update List.mem_cons_self old)
        · rw [if_neg hid] at hsame
          subst hsame
          refine .inr ⟨hold, ?_⟩
          rw [List.map_cons, List.mem_cons]
          exact fun hor => hor.elim hid hrest

/-- An item that some update is for is as some update leaves it. -/
theorem updateAll_updated {key : α → Identifier} {apply : α → π → α} {P : α → Prop}
    (hkey : ∀ item patch, key (apply item patch) = key item) {items : List α}
    {updates : List (Identifier × π)} (hnodup : (items.map key).Nodup)
    (h : ∀ update ∈ updates, ∀ item, P (apply item update.2)) {item : α}
    (hmem : item ∈ updateAll key apply items updates)
    (hupdated : key item ∈ updates.map Prod.fst) : P item :=
  (updateAll_touched hkey hnodup h item hmem).resolve_right fun hkept => hkept.2 hupdated

namespace Reconciliation

/-! ## Entities that are gone -/

/-- Every entity is gone at most once. -/
theorem gone_matchEntities_sublist {δ : Type} [Declared δ] (entities : List Entity)
    (declarations : List δ) :
    (matchEntities entities declarations).gone.Sublist (entities.map Entity.id) := by
  have hfold : ∀ (rest : List Entity) (guess : Bool) (state : Matching δ),
      ∃ lost, (rest.foldl (Matching.settle entities guess) state).gone = state.gone ++ lost ∧
        lost.Sublist (rest.map Entity.id) := by
    intro rest guess
    induction rest with
    | nil => exact fun state => ⟨[], (List.append_nil _).symm, List.nil_sublist _⟩
    | cons entity rest ih =>
        intro state
        obtain ⟨lost, heq, hlost⟩ := ih (state.settle entities guess entity)
        rcases Matching.gone_settle entities guess state entity with hsame | hgone
        · rw [hsame] at heq
          exact ⟨lost, heq, hlost.cons _⟩
        · rw [hgone, List.append_assoc] at heq
          exact ⟨entity.id :: lost, heq, hlost.cons_cons _⟩
  obtain ⟨lost, heq, hlost⟩ := hfold entities (declarations.length == entities.length)
    ⟨declarations, []⟩
  rw [List.nil_append] at heq
  rw [matchEntities, heq]
  exact hlost

/-! ## Tables -/

/-- What no declaration says anything about: all of a table but its name, fields, indexes and
comment. -/
def frame (table : Table κ) : Table κ :=
  { table with name := "", fields := [], indexes := [], comment := none }

theorem frame_apply_tablePatch (supply : Supply) (declaration : TableDeclaration)
    (current table : Table κ) :
    frame (table.apply (tablePatch supply declaration current)) = frame table := rfl

/-- What a declaration makes of a table depends on the frame of the table only. -/
theorem apply_tablePatch_of_frame {first second : Table κ} (h : frame first = frame second)
    (supply : Supply) (declaration : TableDeclaration) (current : Table κ) :
    first.apply (tablePatch supply declaration current) =
      second.apply (tablePatch supply declaration current) := by
  have hframe : ∀ table : Table κ, table.apply (tablePatch supply declaration current) =
      (frame table).apply (tablePatch supply declaration current) := fun _ => rfl
  rw [hframe first, hframe second, h]

/-- Updates come from declarations and are for tables that are kept, created tables come from
declarations, and both together make the projected tables. -/
structure TableChanges.Predicted [Coordinate κ] (declared : List TableDeclaration)
    (kept : List (Table κ)) (changes : TableChanges κ) : Prop where
  updated : ∀ update ∈ changes.updated, ∃ table ∈ kept, ∃ declaration ∈ declared, ∃ supply,
    update = (table.id, tablePatch supply declaration table)
  created : ∀ table ∈ changes.created, ∃ declaration ∈ declared, ∃ supply,
    table = newTable supply declaration
  projected : changes.projected =
    updateAll Table.id Table.apply kept changes.updated ++ changes.created

theorem TableChanges.Predicted.declare [Coordinate κ] {declared : List TableDeclaration}
    {live kept : List (Table κ)} {changes : TableChanges κ} (h : changes.Predicted declared kept)
    (hids : (kept.map Table.id).Nodup) {declaration : TableDeclaration}
    (hdeclared : declaration ∈ declared)
    (hkept : ∀ table, existingTable? live declaration = some table → table ∈ kept)
    (supply : Supply) : (changes.declare live supply declaration).Predicted declared kept := by
  rcases changes.declare_cases live supply declaration with
    ⟨-, heq⟩ | ⟨table, hsome, ⟨-, heq⟩ | heq⟩
  · rw [heq]
    refine ⟨h.updated, ?_, ?_⟩
    · intro table htable
      rw [List.mem_append, List.mem_singleton] at htable
      rcases htable with hold | rfl
      · exact h.created table hold
      · exact ⟨declaration, hdeclared, supply, rfl⟩
    · rw [h.projected, List.append_assoc]
  · rwa [heq]
  · rw [heq]
    refine ⟨?_, h.created, ?_⟩
    · intro update hupdate
      rw [List.mem_append, List.mem_singleton] at hupdate
      rcases hupdate with hold | rfl
      · exact h.updated update hold
      · exact ⟨table, hkept table hsome, declaration, hdeclared, supply.drop 1, rfl⟩
    · -- Earlier updates of the table left its frame alone.
      have hframes : (updateAll Table.id Table.apply kept changes.updated).map frame =
          kept.map frame := by
        apply map_updateAll
        intro update hupdate other
        obtain ⟨current, -, earlier, -, drawn, rfl⟩ := h.updated update hupdate
        exact frame_apply_tablePatch drawn earlier current other
      obtain ⟨present, hpresent, hframe⟩ : ∃ present ∈
          updateAll Table.id Table.apply kept changes.updated, frame present = frame table := by
        rw [← List.mem_map, hframes]
        exact List.mem_map_of_mem (hkept table hsome)
      have hid : (frame present).id = (frame table).id := congrArg Table.id hframe
      have hnodup :
          ((updateAll Table.id Table.apply kept changes.updated).map Table.id).Nodup := by
        rwa [map_updateAll fun _ _ _ => rfl]
      have hfind := find?_key hnodup hpresent
      rw [show present.id = table.id from hid] at hfind
      have hsame : updateFirst (fun other => other.id == table.id)
          (fun _ => table.apply (tablePatch (supply.drop 1) declaration table))
          (updateAll Table.id Table.apply kept changes.updated) =
          updateFirst (fun other => other.id == table.id)
            (fun other => other.apply (tablePatch (supply.drop 1) declaration table))
            (updateAll Table.id Table.apply kept changes.updated) :=
        updateFirst_congr hfind
          (apply_tablePatch_of_frame hframe (supply.drop 1) declaration table).symm
      rw [h.projected, updateFirst_append hfind, updateAll_append, hsame]

theorem TableChanges.Predicted.declareAll [Coordinate κ] {declared : List TableDeclaration}
    {live kept : List (Table κ)} {changes : TableChanges κ} (h : changes.Predicted declared kept)
    (hids : (kept.map Table.id).Nodup) {declarations : List TableDeclaration}
    (hdeclared : ∀ declaration ∈ declarations, declaration ∈ declared ∧
      ∀ table, existingTable? live declaration = some table → table ∈ kept) (supply : Supply) :
    (TableChanges.declareAll live supply changes declarations).Predicted declared kept := by
  induction declarations generalizing changes supply with
  | nil => exact h
  | cons declaration rest ih =>
      obtain ⟨hfirst, hkept⟩ := hdeclared declaration List.mem_cons_self
      exact ih (h.declare hids hfirst hkept supply)
        (fun other hother => hdeclared other (List.mem_cons_of_mem _ hother)) _

theorem reconcileTables_predicted [Coordinate κ] {schema : DeclaredSchema} (hread : schema.AsRead)
    {live : List (Table κ)} (hids : (live.map Table.id).Nodup) (supply : Supply) :
    let matching := matchTables schema.tables live
    (reconcileTables supply matching live).Predicted matching.declarations
      (live.filter fun table => !matching.gone.contains table.id) := by
  intro matching
  have hsound : matching.Sound (live.map tableEntity) (live.map tableEntity) schema.tables :=
    matchEntities_sound (ids_tableEntity hids) hread.newTables
  have hstart : TableChanges.Predicted matching.declarations
      (live.filter fun table => !matching.gone.contains table.id)
      { projected := live.filter fun table => !matching.gone.contains table.id } :=
    ⟨fun _ hmem => absurd hmem List.not_mem_nil, fun _ hmem => absurd hmem List.not_mem_nil,
      (List.append_nil _).symm⟩
  refine hstart.declareAll (hids.sublist (List.filter_sublist.map Table.id)) ?_ supply
  intro declaration hdeclared
  refine ⟨hdeclared, fun table hsome => ?_⟩
  have hstands : standsFor? tableEntity live declaration = some table := hsome
  have hkept : table.id ∉ matching.gone := standsFor?_not_gone hsound hids hdeclared hstands
  exact List.mem_filter.mpr ⟨existingTable?_mem hsome, by simpa using hkept⟩

/-! ## Indexes of rebuilt tables -/

end Reconciliation

/-- Every index of a table covers some field, and fields of the table only. -/
def Table.Covered (table : Table κ) : Prop :=
  ∀ index ∈ table.indexes, index.Covers table.fields

namespace Reconciliation

theorem length_fieldIds? {fields : List Field} {names : List String} {ids : List Identifier}
    (h : names.mapM (fun name =>
      (fields.find? fun field => field.name == name).map Field.id) = some ids) :
    ids.length = names.length ∧ ∀ id ∈ ids, id ∈ fields.map Field.id := by
  have hnamed := mapM_eq_some_iff.mp h
  refine ⟨hnamed.length_eq, fun id hid => ?_⟩
  obtain ⟨name, -, hfield⟩ := exists_right_of_mem hnamed hid
  obtain ⟨field, hfind, rfl⟩ := Option.map_eq_some_iff.mp hfield
  exact List.mem_map_of_mem (List.mem_of_find?_eq_some hfind)

/-- A declared index over some field covers what it is built over. -/
theorem covers_of_realizes {fields : List Field} {index : Index}
    {declaration : IndexDeclaration} (h : index.Realizes fields declaration)
    (hfields : declaration.fields ≠ []) : index.Covers fields := by
  obtain ⟨hlength, hknown⟩ := length_fieldIds? h.fieldIds
  refine ⟨?_, hknown⟩
  intro hempty
  rw [hempty, List.length_nil] at hlength
  exact hfields (List.length_eq_zero_iff.mp hlength.symm)

theorem covers_of_mem_buildIndexes {supply : Supply} {current : List Index}
    {fields : List Field} {declaration : TableDeclaration}
    (hfields : ∀ index ∈ declaration.indexes, index.fields ≠ []) {index : Index}
    (hmem : index ∈ buildIndexes supply current fields declaration.indexes) :
    index.Covers fields := by
  rcases List.mem_append.mp hmem with hpruned | hbuilt
  · exact (mem_pruneIndexes hpruned).1
  · obtain ⟨declared, hdeclared, hrealizes⟩ :=
      exists_right_of_mem (built_realizes supply current fields declaration) hbuilt
    exact covers_of_realizes hrealizes (hfields declared (List.mem_filter.mp hdeclared).1)

theorem covered_apply_tablePatch {declaration : TableDeclaration}
    (hfields : ∀ index ∈ declaration.indexes, index.fields ≠ []) (supply : Supply)
    (current table : Table κ) :
    (table.apply (tablePatch supply declaration current)).Covered := by
  intro index hmem
  by_cases hnone : declaration.indexes.isEmpty = true
  · simp only [Table.apply, tablePatch, if_pos hnone, Option.getD_some] at hmem
    exact (mem_pruneIndexes hmem).1
  · simp only [Table.apply, tablePatch, if_neg hnone, Option.getD_some] at hmem
    exact covers_of_mem_buildIndexes hfields hmem

theorem covered_newTable [Coordinate κ] {declaration : TableDeclaration}
    (hfields : ∀ index ∈ declaration.indexes, index.fields ≠ []) (supply : Supply) :
    (newTable supply declaration : Table κ).Covered :=
  fun _ hmem => covers_of_mem_buildIndexes hfields hmem

/-! ## Relationships -/

end Reconciliation

/-- Both ends of a relationship stand at a table and a field. -/
def Relationship.Stands (tables : List (Table κ)) (link : Relationship) : Prop :=
  link.source.StandsAt tables ∧ link.target.StandsAt tables

namespace Reconciliation

theorem standsAt_of_resolveEnd? {tables : List (Table κ)} {tableName fieldName : String}
    {endpoint : Endpoint} (h : resolveEnd? tables tableName fieldName = some endpoint) :
    endpoint.StandsAt tables := by
  rw [resolveEnd?, Option.bind_eq_bind, Option.bind_eq_some_iff] at h
  obtain ⟨table, htable, hrest⟩ := h
  rw [Option.bind_eq_bind, Option.bind_eq_some_iff] at hrest
  obtain ⟨field, hfield, hsame⟩ := hrest
  obtain rfl := Option.some.inj hsame
  exact ⟨table, List.mem_of_find?_eq_some htable, rfl, rfl,
    List.mem_map_of_mem (List.mem_of_find?_eq_some hfield)⟩

theorem standsAt_of_resolveEnds? {tables : List (Table κ)}
    {declaration : RelationshipDeclaration} {source target : Endpoint}
    (h : resolveEnds? tables declaration = some (source, target)) :
    source.StandsAt tables ∧ target.StandsAt tables := by
  rw [resolveEnds?, Option.bind_eq_bind, Option.bind_eq_some_iff] at h
  obtain ⟨first, hfirst, hrest⟩ := h
  rw [Option.bind_eq_some_iff] at hrest
  obtain ⟨second, hsecond, hsame⟩ := hrest
  obtain ⟨rfl, rfl⟩ := Prod.mk.inj (Option.some.inj hsame)
  exact ⟨standsAt_of_resolveEnd? hfirst, standsAt_of_resolveEnd? hsecond⟩

/-- Updates are for relationships that are kept, and what is updated or created stands. -/
structure RelationshipChanges.Linked (tables : List (Table κ)) (kept : List Relationship)
    (changes : RelationshipChanges) : Prop where
  updated : ∀ update ∈ changes.updated, update.1 ∈ kept.map Relationship.id ∧
    ∀ link : Relationship, (link.apply update.2).Stands tables
  created : ∀ link ∈ changes.created, link.Stands tables

theorem RelationshipChanges.Linked.declare {tables : List (Table κ)}
    {live kept : List Relationship} {changes : RelationshipChanges}
    (h : changes.Linked tables kept) {declaration : RelationshipDeclaration}
    (hkept : ∀ link, existingRelationship? live declaration = some link → link ∈ kept)
    (stamp : Stamp) : (changes.declare tables live stamp declaration).Linked tables kept := by
  cases hends : resolveEnds? tables declaration with
  | none =>
      simp only [RelationshipChanges.declare, hends]
      exact h
  | some ends =>
      obtain ⟨source, target⟩ := ends
      have hstands := standsAt_of_resolveEnds? hends
      rcases changes.declare_cases tables live stamp hends with
        ⟨-, link, hlink, heq⟩ | ⟨link, hsome, ⟨-, heq⟩ | heq⟩
      · rw [heq]
        refine ⟨h.updated, ?_⟩
        intro other hother
        rw [List.mem_append, List.mem_singleton] at hother
        rcases hother with hold | rfl
        · exact h.created other hold
        · exact standsAt_of_resolveEnds? hlink.ends
      · rwa [heq]
      · rw [heq]
        refine ⟨?_, h.created⟩
        intro update hupdate
        rw [List.mem_append, List.mem_singleton] at hupdate
        rcases hupdate with hold | rfl
        · exact h.updated update hold
        · exact ⟨List.mem_map_of_mem (hkept link hsome), fun _ => hstands⟩

theorem RelationshipChanges.Linked.declareAll {tables : List (Table κ)}
    {live kept : List Relationship} {changes : RelationshipChanges}
    (h : changes.Linked tables kept) {declarations : List RelationshipDeclaration}
    (hkept : ∀ declaration ∈ declarations, ∀ link,
      existingRelationship? live declaration = some link → link ∈ kept)
    (supply : Supply) (start : Nat) :
    ((declarations.zipIdx start).foldl (fun changes (declaration, position) =>
      changes.declare tables live (supply.get position) declaration) changes).Linked tables
        kept := by
  induction declarations generalizing changes start with
  | nil => exact h
  | cons declaration rest ih =>
      exact ih (h.declare (hkept declaration List.mem_cons_self) _)
        (fun other hother => hkept other (List.mem_cons_of_mem _ hother)) _

theorem reconcileRelationships_linked {schema : DeclaredSchema} (hread : schema.AsRead)
    (live tables : List (Table κ)) {linked : List Relationship}
    (hids : (linked.map Relationship.id).Nodup) (supply : Supply) :
    let matching := matchRelationships schema.relationships live linked
    (reconcileRelationships supply matching tables linked).Linked tables
      (linked.filter fun link => !matching.gone.contains link.id) := by
  intro matching
  have hsound : matching.Sound (linked.map (relationshipEntity live))
      (linked.map (relationshipEntity live)) schema.relationships :=
    matchEntities_sound (ids_relationshipEntity live hids) hread.newRelationships
  have hstart : RelationshipChanges.Linked tables
      (linked.filter fun link => !matching.gone.contains link.id) {} :=
    ⟨fun _ hmem => absurd hmem List.not_mem_nil, fun _ hmem => absurd hmem List.not_mem_nil⟩
  refine hstart.declareAll ?_ supply 0
  intro declaration hdeclared link hsome
  have hstands : standsFor? (relationshipEntity live) linked declaration = some link := hsome
  have hkept : link.id ∉ matching.gone := standsFor?_not_gone hsound hids hdeclared hstands
  exact List.mem_filter.mpr ⟨existingRelationship?_mem hsome, by simpa using hkept⟩

end Reconciliation

/-! ## The whole plan -/

/-- A plan fits a model: it deletes and updates what is there, deletes nothing twice, and leaves
alone what it deletes and what goes with that. -/
structure Plan.Fits (plan : Plan κ) (live : List (Table κ)) (linked : List Relationship) :
    Prop where
  deletedTables_nodup : plan.deletedTables.Nodup
  deletedTables_live : ∀ id ∈ plan.deletedTables, id ∈ live.map Table.id
  updatedTables_live : ∀ update ∈ plan.updatedTables, update.1 ∈ live.map Table.id
  tables_apart : ∀ update ∈ plan.updatedTables, update.1 ∉ plan.deletedTables
  deletedRelationships_live : ∀ id ∈ plan.deletedRelationships, id ∈ linked.map Relationship.id
  updatedRelationships_live :
    ∀ update ∈ plan.updatedRelationships, update.1 ∈ linked.map Relationship.id
  relationships_apart : ∀ update ∈ plan.updatedRelationships, update.1 ∉ plan.deletedRelationships
  relationships_left : ∀ link ∈ linked, link.id ∈ plan.deletedRelationships ∨
    link.id ∈ plan.updatedRelationships.map Prod.fst → link.touchesAny plan.deletedTables = false

namespace Reconciliation

theorem reconcile_linked [Coordinate κ] {schema : DeclaredSchema} (hread : schema.AsRead)
    (live : List (Table κ)) {linked : List Relationship}
    (hlinks : (linked.map Relationship.id).Nodup) (supply : Supply) :
    let plan := reconcile supply schema live linked
    RelationshipChanges.Linked
      (reconcileTables supply (matchTables schema.tables live) live).projected
      ((surviving plan.deletedTables linked).filter fun link =>
        !plan.deletedRelationships.contains link.id)
      ⟨plan.updatedRelationships, plan.createdRelationships⟩ :=
  reconcileRelationships_linked hread live _ (surviving_ids_nodup hlinks _) _

section Reconcile

variable [Coordinate κ] {schema : DeclaredSchema} (hread : schema.AsRead) {live : List (Table κ)}
  {linked : List Relationship} (hids : (live.map Table.id).Nodup)
  (hlinks : (linked.map Relationship.id).Nodup) (supply : Supply)

include hread hids

theorem tablesAfter_reconcile :
    (reconcile supply schema live linked).tablesAfter live =
      (reconcileTables supply (matchTables schema.tables live) live).projected :=
  (reconcileTables_predicted hread hids supply).projected.symm

/-- The tables that a plan updates are covered by their indexes once it is carried out. -/
theorem covered_of_updated (hindexes : ∀ table ∈ schema.tables, ∀ index ∈ table.indexes,
    index.fields ≠ []) {table : Table κ}
    (hmem : table ∈ updateAll Table.id Table.apply (live.filter fun table =>
      !(reconcile supply schema live linked).deletedTables.contains table.id)
        (reconcile supply schema live linked).updatedTables)
    (hupdated : table.id ∈ (reconcile supply schema live linked).updatedTables.map Prod.fst) :
    table.Covered := by
  have hpredicted := reconcileTables_predicted hread hids supply
  have hattached := (matchEntities_sound (ids_tableEntity hids) hread.newTables).attached
  have hkey : ∀ (table : Table κ) (patch : TablePatch κ), (table.apply patch).id = table.id :=
    fun _ _ => rfl
  refine updateAll_updated hkey (hids.sublist (List.filter_sublist.map Table.id)) ?_ hmem
    hupdated
  intro update hupdate item
  obtain ⟨current, -, declaration, hdeclared, drawn, rfl⟩ := hpredicted.updated update hupdate
  obtain ⟨original, horiginal, hsame⟩ := exists_right_of_mem hattached hdeclared
  apply covered_apply_tablePatch
  rcases hsame with rfl | ⟨id, rfl⟩
  · exact hindexes declaration horiginal
  · exact hindexes original horiginal

theorem covered_of_created (hindexes : ∀ table ∈ schema.tables, ∀ index ∈ table.indexes,
    index.fields ≠ []) {table : Table κ}
    (hmem : table ∈ (reconcile supply schema live linked).createdTables) : table.Covered := by
  have hpredicted := reconcileTables_predicted hread hids supply
  have hattached := (matchEntities_sound (ids_tableEntity hids) hread.newTables).attached
  obtain ⟨declaration, hdeclared, drawn, rfl⟩ := hpredicted.created table hmem
  obtain ⟨original, horiginal, hsame⟩ := exists_right_of_mem hattached hdeclared
  apply covered_newTable
  rcases hsame with rfl | ⟨id, rfl⟩
  · exact hindexes declaration horiginal
  · exact hindexes original horiginal

include hlinks

theorem reconcile_fits : (reconcile supply schema live linked).Fits live linked := by
  have hpredicted := reconcileTables_predicted hread hids supply
  have hlinked := reconcile_linked hread live hlinks supply
  have hgrounded := reconcile_grounded supply schema live linked
  constructor
  · have hsublist := gone_matchEntities_sublist (live.map tableEntity) schema.tables
    exact (ids_tableEntity hids).sublist hsublist
  · exact hgrounded.deletedTables
  · exact hgrounded.updatedTables
  · intro update hupdate
    obtain ⟨table, hkept, -, -, -, rfl⟩ := hpredicted.updated update hupdate
    have hapart : table.id ∉ (matchTables schema.tables live).gone := by
      simpa using (List.mem_filter.mp hkept).2
    exact hapart
  · exact hgrounded.deletedRelationships
  · exact hgrounded.updatedRelationships
  · intro update hupdate
    obtain ⟨link, hkept, hsame⟩ := List.mem_map.mp (hlinked.updated update hupdate).1
    rw [← hsame]
    simpa using (List.mem_filter.mp hkept).2
  · intro link hmem htouched
    have hleft : link.id ∈ (surviving (reconcile supply schema live linked).deletedTables
        linked).map Relationship.id := by
      rcases htouched with hdeleted | hupdated
      · have hgone := mem_gone_matchEntities hdeleted
        rwa [List.map_map] at hgone
      · obtain ⟨update, hupdate, hid⟩ := List.mem_map.mp hupdated
        obtain ⟨other, hother, hsame⟩ := List.mem_map.mp (hlinked.updated update hupdate).1
        rw [← hid, ← hsame]
        exact List.mem_map_of_mem (List.mem_filter.mp hother).1
    obtain ⟨other, hother, hid⟩ := List.mem_map.mp hleft
    obtain ⟨hlive, hapart⟩ := List.mem_filter.mp hother
    obtain rfl := eq_of_key hlinks hlive hmem hid
    simpa using hapart

omit hids in
/-- The relationships that a plan updates or creates stand at the projected tables. -/
theorem stands_of_touched {link : Relationship}
    (hmem : link ∈ (reconcile supply schema live linked).relationshipsAfter linked)
    (hnew : ∀ other ∈ (reconcile supply schema live linked).createdRelationships,
      other.id ∉ linked.map Relationship.id)
    (htouched : link.id ∈ (reconcile supply schema live linked).updatedRelationships.map Prod.fst ∨
      link.id ∈ (reconcile supply schema live linked).createdRelationships.map Relationship.id) :
    link.Stands (reconcileTables supply (matchTables schema.tables live) live).projected := by
  have hlinked := reconcile_linked hread live hlinks supply
  have hkey : ∀ (link : Relationship) (patch : RelationshipPatch),
      (link.apply patch).id = link.id := fun _ _ => rfl
  have hkept := surviving_ids_nodup hlinks (reconcile supply schema live linked).deletedTables
  rcases List.mem_append.mp hmem with hold | hcreated
  · rcases htouched with hupdated | hcreated
    · exact updateAll_updated hkey (hkept.sublist (List.filter_sublist.map Relationship.id))
        (fun update hupdate => (hlinked.updated update hupdate).2) hold hupdated
    · obtain ⟨other, hother, hid⟩ := List.mem_map.mp hcreated
      have hlive := List.mem_map_of_mem (f := Relationship.id) hold
      rw [map_updateAll fun _ _ _ => rfl] at hlive
      obtain ⟨old, hfilter, hsame⟩ := List.mem_map.mp hlive
      have hsurviving := (List.mem_filter.mp (List.mem_filter.mp hfilter).1).1
      refine absurd ?_ (hnew other hother)
      rw [hid, ← hsame]
      exact List.mem_map_of_mem hsurviving
  · exact hlinked.created link hcreated

end Reconcile

end Reconciliation

end SchemaDiagram
