import SchemaDiagram.Reconciliation

/-!
# Where the parts of a plan come from

Whatever a plan deletes or updates is an entity of the model that it was made for, and whatever it
creates carries an identifier drawn from the supply.  Nothing is assumed about the schema or the
model here.
-/

namespace SchemaDiagram

variable {κ δ : Type}

@[simp] theorem Supply.get_drop (supply : Supply) (count skipped : Nat) :
    (supply.drop count).get skipped = supply.get (count + skipped) := by
  simp [Supply.get, Supply.drop, Nat.add_assoc]

@[simp] theorem Supply.drop_drop (supply : Supply) (first second : Nat) :
    (supply.drop first).drop second = supply.drop (first + second) := by
  simp [Supply.drop, Nat.add_assoc]

/-- An identifier that the supply gives out sooner or later. -/
def Supply.Draws (supply : Supply) (id : Identifier) : Prop :=
  ∃ skipped, (supply.get skipped).id = id

theorem Supply.Draws.of_drop {supply : Supply} {count : Nat} {id : Identifier}
    (h : (supply.drop count).Draws id) : supply.Draws id := by
  obtain ⟨skipped, rfl⟩ := h
  exact ⟨count + skipped, by rw [Supply.get_drop]⟩

namespace Reconciliation

/-! ## Entities that are gone -/

theorem Matching.gone_settle [Declared δ] (entities : List Entity) (guess : Bool)
    (state : Matching δ) (entity : Entity) :
    (state.settle entities guess entity).gone = state.gone ∨
      (state.settle entities guess entity).gone = state.gone ++ [entity.id] := by
  simp only [Matching.settle]
  split
  · exact .inl rfl
  · split
    · exact .inl rfl
    · exact .inr rfl

/-- Only entities that were compared can be gone. -/
theorem mem_gone_matchEntities [Declared δ] {entities : List Entity} {declarations : List δ}
    {id : Identifier} (h : id ∈ (matchEntities entities declarations).gone) :
    id ∈ entities.map Entity.id := by
  have hfold : ∀ (rest : List Entity) (guess : Bool) (state : Matching δ),
      id ∈ (rest.foldl (Matching.settle entities guess) state).gone →
        id ∈ state.gone ∨ id ∈ rest.map Entity.id := by
    intro rest guess
    induction rest with
    | nil => exact fun state hmem => .inl hmem
    | cons entity rest ih =>
        intro state hmem
        rcases ih _ hmem with hgone | hrest
        · rcases Matching.gone_settle entities guess state entity with heq | heq
          · exact .inl (heq ▸ hgone)
          · rw [heq, List.mem_append, List.mem_singleton] at hgone
            rcases hgone with hold | rfl
            · exact .inl hold
            · exact .inr List.mem_cons_self
        · exact .inr (List.mem_cons_of_mem _ hrest)
  rcases hfold entities _ _ h with hnil | hmem
  · exact absurd hnil List.not_mem_nil
  · exact hmem

/-! ## Tables -/

theorem existingTable?_mem {live : List (Table κ)} {declaration : TableDeclaration}
    {table : Table κ} (h : existingTable? live declaration = some table) : table ∈ live := by
  unfold existingTable? at h
  split at h
  · exact List.mem_of_find?_eq_some h
  · exact List.mem_of_find?_eq_some h

/-- The updated tables are live, and the created ones carry identifiers of the supply. -/
structure TableChanges.Grounded (live : List (Table κ)) (supply : Supply)
    (changes : TableChanges κ) : Prop where
  updated : ∀ update ∈ changes.updated, update.1 ∈ live.map Table.id
  created : ∀ table ∈ changes.created, supply.Draws table.id

theorem TableChanges.Grounded.declare [Coordinate κ] {live : List (Table κ)}
    {supply later : Supply} {changes : TableChanges κ} (h : changes.Grounded live supply)
    (hlater : ∀ id, later.Draws id → supply.Draws id) (declaration : TableDeclaration) :
    (changes.declare live later declaration).Grounded live supply := by
  unfold TableChanges.declare
  split
  · next table hexisting =>
      dsimp only
      split
      · exact h
      · refine ⟨?_, h.created⟩
        intro update hupdate
        rw [List.mem_append, List.mem_singleton] at hupdate
        rcases hupdate with hold | rfl
        · exact h.updated update hold
        · exact List.mem_map_of_mem (existingTable?_mem hexisting)
  · refine ⟨h.updated, ?_⟩
    intro table htable
    rw [List.mem_append, List.mem_singleton] at htable
    rcases htable with hold | rfl
    · exact h.created table hold
    · exact hlater _ ⟨0, rfl⟩

theorem TableChanges.Grounded.declareAll [Coordinate κ] {live : List (Table κ)}
    {supply later : Supply} {changes : TableChanges κ} (h : changes.Grounded live supply)
    (hlater : ∀ id, later.Draws id → supply.Draws id) (declarations : List TableDeclaration) :
    (TableChanges.declareAll live later changes declarations).Grounded live supply := by
  induction declarations generalizing later changes with
  | nil => exact h
  | cons declaration rest ih =>
      exact ih (h.declare hlater declaration) fun id hdraws => hlater id hdraws.of_drop

theorem reconcileTables_grounded [Coordinate κ] (supply : Supply)
    (matching : Matching TableDeclaration) (live : List (Table κ)) :
    (reconcileTables supply matching live).Grounded live supply := by
  have hstart : TableChanges.Grounded live supply
      { projected := live.filter fun table => !matching.gone.contains table.id } :=
    ⟨fun _ hmem => absurd hmem List.not_mem_nil, fun _ hmem => absurd hmem List.not_mem_nil⟩
  exact hstart.declareAll (fun _ hdraws => hdraws) matching.declarations

/-! ## Relationships -/

theorem existingRelationship?_mem {live : List Relationship}
    {declaration : RelationshipDeclaration} {relationship : Relationship}
    (h : existingRelationship? live declaration = some relationship) : relationship ∈ live := by
  unfold existingRelationship? at h
  split at h
  · exact List.mem_of_find?_eq_some h
  · exact List.mem_of_find?_eq_some h

/-- The updated relationships are live, and the created ones carry identifiers of the supply. -/
structure RelationshipChanges.Grounded (live : List Relationship) (supply : Supply)
    (changes : RelationshipChanges) : Prop where
  updated : ∀ update ∈ changes.updated, update.1 ∈ live.map Relationship.id
  created : ∀ relationship ∈ changes.created, supply.Draws relationship.id

theorem RelationshipChanges.Grounded.declare {live : List Relationship} {supply : Supply}
    {changes : RelationshipChanges} (h : changes.Grounded live supply) (tables : List (Table κ))
    (skipped : Nat) (declaration : RelationshipDeclaration) :
    (changes.declare tables live (supply.get skipped) declaration).Grounded live supply := by
  unfold RelationshipChanges.declare
  split
  · exact h
  · split
    · next relationship hexisting =>
        dsimp only
        split
        · exact h
        · refine ⟨?_, h.created⟩
          intro update hupdate
          rw [List.mem_append, List.mem_singleton] at hupdate
          rcases hupdate with hold | rfl
          · exact h.updated update hold
          · exact List.mem_map_of_mem (existingRelationship?_mem hexisting)
    · refine ⟨h.updated, ?_⟩
      intro relationship hrelationship
      rw [List.mem_append, List.mem_singleton] at hrelationship
      rcases hrelationship with hold | rfl
      · exact h.created relationship hold
      · exact ⟨skipped, rfl⟩

theorem reconcileRelationships_grounded (supply : Supply)
    (matching : Matching RelationshipDeclaration) (tables : List (Table κ))
    (live : List Relationship) :
    (reconcileRelationships supply matching tables live).Grounded live supply := by
  have hfold : ∀ (rest : List (RelationshipDeclaration × Nat)) (changes : RelationshipChanges),
      changes.Grounded live supply →
        (rest.foldl (fun changes entry =>
          changes.declare tables live (supply.get entry.2) entry.1) changes).Grounded
          live supply := by
    intro rest
    induction rest with
    | nil => exact fun _ h => h
    | cons entry rest ih => exact fun _ h => ih _ (h.declare tables entry.2 entry.1)
  exact hfold _ _ ⟨fun _ hmem => absurd hmem List.not_mem_nil,
    fun _ hmem => absurd hmem List.not_mem_nil⟩

/-! ## The whole plan -/

end Reconciliation

/-- A plan changes entities of a model, and creates others under identifiers of a supply. -/
structure Plan.Grounded (plan : Plan κ) (tables : List (Table κ))
    (relationships : List Relationship) (supply : Supply) : Prop where
  deletedTables : ∀ id ∈ plan.deletedTables, id ∈ tables.map Table.id
  updatedTables : ∀ update ∈ plan.updatedTables, update.1 ∈ tables.map Table.id
  createdTables : ∀ table ∈ plan.createdTables, supply.Draws table.id
  deletedRelationships : ∀ id ∈ plan.deletedRelationships, id ∈ relationships.map Relationship.id
  updatedRelationships :
    ∀ update ∈ plan.updatedRelationships, update.1 ∈ relationships.map Relationship.id
  createdRelationships : ∀ relationship ∈ plan.createdRelationships, supply.Draws relationship.id

namespace Reconciliation

theorem reconcile_grounded [Coordinate κ] (supply : Supply) (schema : DeclaredSchema)
    (tables : List (Table κ)) (relationships : List Relationship) :
    (reconcile supply schema tables relationships).Grounded tables relationships supply := by
  have hsurviving : ∀ deleted id, id ∈ (surviving deleted relationships).map Relationship.id →
      id ∈ relationships.map Relationship.id := by
    intro deleted id hid
    obtain ⟨relationship, hmem, rfl⟩ := List.mem_map.mp hid
    exact List.mem_map_of_mem (List.mem_filter.mp hmem).1
  have htables := reconcileTables_grounded supply (matchTables schema.tables tables) tables
  constructor
  · intro id hid
    have hmem := mem_gone_matchEntities hid
    rwa [List.map_map] at hmem
  · exact htables.updated
  · exact htables.created
  · intro id hid
    have hmem := mem_gone_matchEntities hid
    rw [List.map_map] at hmem
    exact hsurviving _ id hmem
  · intro update hupdate
    exact hsurviving _ _ ((reconcileRelationships_grounded _ _ _ _).updated update hupdate)
  · intro relationship hrelationship
    exact ((reconcileRelationships_grounded _ _ _ _).created relationship hrelationship).of_drop

end Reconciliation

end SchemaDiagram
