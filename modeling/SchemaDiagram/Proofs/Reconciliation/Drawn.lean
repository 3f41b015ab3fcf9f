import SchemaDiagram.Proofs.Reconciliation.Outcome
import SchemaDiagram.Proofs.Reconciliation.Origin

/-!
# The identifiers that a plan draws

Reconciling a schema takes one stamp for every table, field, index and relationship that is
declared, used or not.  What a plan creates carries identifiers of these stamps, each of them at
most once.
-/

namespace SchemaDiagram

variable {κ : Type}

/-- The identifiers of the next stamps. -/
def Supply.next (supply : Supply) (count : Nat) : List Identifier :=
  (List.range count).map fun skipped => (supply.get skipped).id

theorem Supply.next_add (supply : Supply) (first second : Nat) :
    supply.next (first + second) = supply.next first ++ (supply.drop first).next second := by
  rw [next, List.range_add, List.map_append, List.map_map]
  simp only [next, get_drop, Function.comp_def]

theorem Supply.get_mem_next (supply : Supply) {position count : Nat} (h : position < count) :
    (supply.get position).id ∈ supply.next count :=
  List.mem_map.mpr ⟨position, List.mem_range.mpr h, rfl⟩

theorem Supply.get_injective {supply : Supply} {first second count : Nat}
    (hdrawn : (supply.next count).Nodup) (hfirst : first < count) (hsecond : second < count)
    (h : (supply.get first).id = (supply.get second).id) : first = second :=
  List.inj_on_of_nodup_map hdrawn (List.mem_range.mpr hfirst) (List.mem_range.mpr hsecond) h

theorem Supply.singleton_sublist_next (supply : Supply) {count : Nat} (h : 0 < count) :
    [(supply.get 0).id].Sublist (supply.next count) :=
  List.singleton_sublist.mpr (supply.get_mem_next h)

namespace Reconciliation

/-! ## Tables -/

theorem TableChanges.created_declare [Coordinate κ] (live : List (Table κ)) (supply : Supply)
    (changes : TableChanges κ) (declaration : TableDeclaration) :
    (changes.declare live supply declaration).created = changes.created ∨
      (changes.declare live supply declaration).created =
        changes.created ++ [newTable supply declaration] := by
  rcases changes.declare_cases live supply declaration with
    ⟨-, heq⟩ | ⟨table, -, ⟨-, heq⟩ | heq⟩
  · exact .inr (by rw [heq])
  · exact .inl (by rw [heq])
  · exact .inl (by rw [heq])

/-- The tables that declarations create take one identifier each from their stamps. -/
theorem TableChanges.created_declareAll [Coordinate κ] (live : List (Table κ)) (supply : Supply)
    (changes : TableChanges κ) (declarations : List TableDeclaration) :
    ∃ drawn, (TableChanges.declareAll live supply changes declarations).created.map Table.id =
        changes.created.map Table.id ++ drawn ∧
      drawn.Sublist (supply.next (tablesStamps declarations)) := by
  induction declarations generalizing supply changes with
  | nil => exact ⟨[], (List.append_nil _).symm, List.nil_sublist _⟩
  | cons declaration rest ih =>
      obtain ⟨drawn, heq, hdrawn⟩ := ih (supply.drop (tableStamps declaration))
        (changes.declare live supply declaration)
      rw [tablesStamps, Supply.next_add]
      rcases changes.created_declare live supply declaration with hsame | hnew
      · rw [hsame] at heq
        exact ⟨drawn, heq, hdrawn.trans (List.sublist_append_right _ _)⟩
      · rw [hnew, List.map_append, List.append_assoc] at heq
        have hfirst : [(newTable supply declaration : Table κ).id].Sublist
            (supply.next (tableStamps declaration)) := by
          apply supply.singleton_sublist_next
          rw [tableStamps]
          omega
        exact ⟨_, heq, hfirst.append hdrawn⟩

/-! ## Relationships -/

theorem RelationshipChanges.created_declare (tables : List (Table κ)) (live : List Relationship)
    (stamp : Stamp) (changes : RelationshipChanges) (declaration : RelationshipDeclaration) :
    ∃ drawn, (changes.declare tables live stamp declaration).created.map Relationship.id =
        changes.created.map Relationship.id ++ drawn ∧ drawn.Sublist [stamp.id] := by
  have hnone : changes.created.map Relationship.id =
      changes.created.map Relationship.id ++ [] := (List.append_nil _).symm
  unfold RelationshipChanges.declare
  split
  · exact ⟨[], hnone, List.nil_sublist _⟩
  · split
    · dsimp only
      split
      · exact ⟨[], hnone, List.nil_sublist _⟩
      · exact ⟨[], hnone, List.nil_sublist _⟩
    · exact ⟨[stamp.id], List.map_append, List.Sublist.refl _⟩

theorem created_declareRelationships (tables : List (Table κ)) (live : List Relationship)
    (supply : Supply) (changes : RelationshipChanges)
    (declarations : List RelationshipDeclaration) (start : Nat) :
    ∃ drawn, ((declarations.zipIdx start).foldl (fun changes (declaration, position) =>
        changes.declare tables live (supply.get position) declaration) changes).created.map
          Relationship.id = changes.created.map Relationship.id ++ drawn ∧
      drawn.Sublist ((supply.drop start).next declarations.length) := by
  induction declarations generalizing changes start with
  | nil => exact ⟨[], (List.append_nil _).symm, List.nil_sublist _⟩
  | cons declaration rest ih =>
      obtain ⟨first, hfirst, hone⟩ :=
        changes.created_declare tables live (supply.get start) declaration
      obtain ⟨others, heq, hothers⟩ :=
        ih (changes.declare tables live (supply.get start) declaration) (start + 1)
      rw [hfirst, List.append_assoc] at heq
      refine ⟨first ++ others, heq, ?_⟩
      rw [List.length_cons, Nat.add_comm, Supply.next_add, Supply.drop_drop]
      exact hone.append hothers

/-! ## The whole plan -/

/-- What attaching an entity leaves alone is the same when entities have been looked for. -/
theorem map_matchEntities {β δ : Type} [Declared δ] [LawfulDeclared δ] {f : δ → β}
    (hattach : ∀ id declaration, f (Declared.attach id declaration) = f declaration)
    {entities : List Entity} {declarations : List δ} (hids : (entities.map Entity.id).Nodup)
    (hnew : ∀ declaration ∈ declarations, Declared.existingId declaration = none) :
    (matchEntities entities declarations).declarations.map f = declarations.map f := by
  apply map_eq_of_forall₂
  apply (matchEntities_sound hids hnew).attached.imp
  intro declaration original hattached
  rcases hattached with rfl | ⟨id, rfl⟩
  · rfl
  · exact hattach id original

theorem ids_tableEntity {live : List (Table κ)} (hids : (live.map Table.id).Nodup) :
    ((live.map tableEntity).map Entity.id).Nodup := by
  rw [List.map_map]
  exact hids

theorem ids_relationshipEntity (live : List (Table κ)) {linked : List Relationship}
    (hids : (linked.map Relationship.id).Nodup) :
    ((linked.map (relationshipEntity live)).map Entity.id).Nodup := by
  rw [List.map_map]
  exact hids

theorem surviving_ids_nodup {linked : List Relationship}
    (hids : (linked.map Relationship.id).Nodup) (deleted : List Identifier) :
    ((surviving deleted linked).map Relationship.id).Nodup :=
  hids.sublist (List.filter_sublist.map Relationship.id)

theorem tablesStamps_eq_foldr (declarations : List TableDeclaration) :
    tablesStamps declarations = (declarations.map tableStamps).foldr (· + ·) 0 := by
  induction declarations with
  | nil => rfl
  | cons declaration rest ih => rw [tablesStamps, ih, List.map_cons, List.foldr_cons]

/-- Finding the tables that declarations stand for changes nothing about the stamps they take. -/
theorem tablesStamps_matchTables {schema : DeclaredSchema} (hread : schema.AsRead)
    {live : List (Table κ)} (hids : (live.map Table.id).Nodup) :
    tablesStamps (matchTables schema.tables live).declarations = tablesStamps schema.tables := by
  have hstamps : (matchTables schema.tables live).declarations.map tableStamps =
      schema.tables.map tableStamps :=
    map_matchEntities (fun _ _ => rfl) (ids_tableEntity hids) hread.newTables
  rw [tablesStamps_eq_foldr, hstamps, ← tablesStamps_eq_foldr]

/-- The tables that a schema creates take their identifiers from the stamps of its tables. -/
theorem createdTables_sublist_next [Coordinate κ] {schema : DeclaredSchema} (hread : schema.AsRead)
    {live : List (Table κ)} (hids : (live.map Table.id).Nodup) (supply : Supply) :
    ((reconcileTables supply (matchTables schema.tables live) live).created.map
      Table.id).Sublist (supply.next (tablesStamps schema.tables)) := by
  obtain ⟨drawn, hcreated, hdrawn⟩ := TableChanges.created_declareAll live supply
    { projected := live.filter fun table =>
        !(matchTables schema.tables live).gone.contains table.id }
    (matchTables schema.tables live).declarations
  rw [tablesStamps_matchTables hread hids] at hdrawn
  exact hcreated ▸ hdrawn

/-- What a plan creates takes its identifiers from the stamps of the schema, each at most once. -/
theorem created_sublist_next [Coordinate κ] {schema : DeclaredSchema} (hread : schema.AsRead)
    {live : List (Table κ)} {linked : List Relationship} (hids : (live.map Table.id).Nodup)
    (hlinks : (linked.map Relationship.id).Nodup) (supply : Supply) :
    let plan := reconcile supply schema live linked
    (plan.createdTables.map Table.id ++ plan.createdRelationships.map Relationship.id).Sublist
      (supply.next (stamps schema)) := by
  intro plan
  have hleft : (((surviving plan.deletedTables linked).map
      (relationshipEntity live)).map Entity.id).Nodup :=
    ids_relationshipEntity live (surviving_ids_nodup hlinks _)
  obtain ⟨second, hsecond, hothers⟩ := created_declareRelationships
    (reconcileTables supply (matchTables schema.tables live) live).projected
    (surviving plan.deletedTables linked) (supply.drop (tablesStamps schema.tables)) {}
    (matchRelationships schema.relationships live
      (surviving plan.deletedTables linked)).declarations 0
  have hlength : (matchRelationships schema.relationships live
      (surviving plan.deletedTables linked)).declarations.length =
        schema.relationships.length := by
    have hnames := congrArg List.length (map_matchEntities (f := RelationshipDeclaration.name)
      (fun _ _ => rfl) hleft hread.newRelationships)
    rwa [List.length_map, List.length_map] at hnames
  have hrelationships : plan.createdRelationships.map Relationship.id = second := hsecond
  rw [hrelationships, stamps, Supply.next_add]
  rw [hlength] at hothers
  exact (createdTables_sublist_next hread hids supply).append hothers

end Reconciliation

end SchemaDiagram
