import SchemaDiagram.Proofs.Reconciliation.Realized

/-!
# Models that a schema leaves alone

A schema settles a model if the entities of the model realize the declarations one for one.  Every
entity is then found by its name and rebuilt as it is.  Whether a table has changed is decided by
comparing it with what is built from it, and a coordinate that is no number differs from itself: the
plan for a settled model is empty exactly if there is no such coordinate.
-/

namespace SchemaDiagram

open Reconciliation

variable {κ : Type}

/-! ## Settled models -/

/-- Coordinates that are equal to themselves, as all numbers are. -/
def Table.Placed [BEq κ] (table : Table κ) : Prop :=
  (table.x == table.x) = true ∧ (table.y == table.y) = true

instance [BEq κ] (table : Table κ) : Decidable table.Placed :=
  inferInstanceAs (Decidable (_ ∧ _))

theorem Table.Placed.beq_self [BEq κ] {table : Table κ} (h : table.Placed) :
    (table == table) = true := by
  obtain ⟨id, name, schema, fields, indexes, color, x, y, isView, comment, createdAt⟩ := table
  obtain ⟨hx, hy⟩ := h
  change instBEqTable.beq _ _ = true
  simp_all [instBEqTable.beq]

theorem Table.Placed.of_beq_self [BEq κ] {table : Table κ} (h : (table == table) = true) :
    table.Placed := by
  obtain ⟨id, name, schema, fields, indexes, color, x, y, isView, comment, createdAt⟩ := table
  change instBEqTable.beq _ _ = true at h
  simp_all [instBEqTable.beq, Table.Placed]

theorem Table.fields_eq_of_beq [BEq κ] {first second : Table κ}
    (h : (first == second) = true) :
    first.fields = second.fields ∧ first.indexes = second.indexes := by
  change instBEqTable.beq _ _ = true at h
  simp_all [instBEqTable.beq]

/-- The entities of a model realize what a schema declares, and nothing else is in the model. -/
structure DeclaredSchema.Settles (schema : DeclaredSchema) (live : List (Table κ))
    (linked : List Relationship) : Prop where
  newTables : ∀ declaration ∈ schema.tables, declaration.existingId = none
  newLinks : ∀ declaration ∈ schema.relationships, declaration.existingId = none
  regular : ∀ declaration ∈ schema.tables, declaration.Regular
  tableNames : (live.map Table.name).Nodup
  linkNames : (linked.map Relationship.name).Nodup
  tables : ∀ declaration ∈ schema.tables, ∃ table ∈ live, table.Settled declaration
  links : ∀ declaration ∈ schema.relationships, ∃ link ∈ linked, link.Realizes live declaration
  tablesDeclared : ∀ table ∈ live, ∃ declaration ∈ schema.tables, declaration.name = table.name
  linksDeclared : ∀ link ∈ linked, ∃ declaration ∈ schema.relationships,
    declaration.name = link.name

namespace Reconciliation

/-- Nothing is guessed and nothing is gone if all names are declared. -/
theorem matchEntities_of_named {δ : Type} [Declared δ] {entities : List Entity}
    {declarations : List δ}
    (h : ∀ entity ∈ entities, ∃ declaration ∈ declarations,
      Declared.name declaration = entity.name) :
    matchEntities entities declarations = ⟨declarations, []⟩ := by
  have hfold : ∀ (rest : List Entity) (guess : Bool), (∀ entity ∈ rest, entity ∈ entities) →
      rest.foldl (Matching.settle entities guess) ⟨declarations, []⟩ = ⟨declarations, []⟩ := by
    intro rest guess hsub
    induction rest with
    | nil => rfl
    | cons entity rest ih =>
        obtain ⟨declaration, hdeclaration, hname⟩ := h entity (hsub entity List.mem_cons_self)
        have hany : (declarations.any fun declaration =>
            Declared.name declaration == entity.name) = true :=
          List.any_eq_true.mpr ⟨declaration, hdeclaration, by simp [hname]⟩
        have hsettle : Matching.settle entities guess ⟨declarations, []⟩ entity =
            ⟨declarations, []⟩ := by
          rw [Matching.settle, if_pos hany]
        rw [List.foldl_cons, hsettle]
        exact ih fun other hother => hsub other (List.mem_cons_of_mem _ hother)
  exact hfold entities _ fun _ hentity => hentity

/-- Every entity of a model has a declaration of its name. -/
structure Named (schema : DeclaredSchema) (live : List (Table κ)) (linked : List Relationship) :
    Prop where
  tables : ∀ table ∈ live, ∃ declaration ∈ schema.tables, declaration.name = table.name
  links : ∀ link ∈ linked, ∃ declaration ∈ schema.relationships, declaration.name = link.name

/-- Nothing is deleted from a model all of whose names are declared. -/
theorem reconcile_of_named [Coordinate κ] {schema : DeclaredSchema} {live : List (Table κ)}
    {linked : List Relationship} (h : Named schema live linked) (supply : Supply) :
    ∃ (tableChanges : TableChanges κ) (linkChanges : RelationshipChanges),
      tableChanges = TableChanges.declareAll live supply { projected := live } schema.tables ∧
      linkChanges = reconcileRelationships (supply.drop (tablesStamps schema.tables))
        ⟨schema.relationships, []⟩ tableChanges.projected linked ∧
      reconcile supply schema live linked =
        { updatedTables := tableChanges.updated
          createdTables := tableChanges.created
          updatedRelationships := linkChanges.updated
          createdRelationships := linkChanges.created } := by
  have htables : matchTables schema.tables live = ⟨schema.tables, []⟩ := by
    apply matchEntities_of_named
    intro entity hentity
    obtain ⟨table, htable, rfl⟩ := List.mem_map.mp hentity
    exact h.tables table htable
  have hlinks : matchRelationships schema.relationships live linked =
      ⟨schema.relationships, []⟩ := by
    apply matchEntities_of_named
    intro entity hentity
    obtain ⟨link, hlink, rfl⟩ := List.mem_map.mp hentity
    exact h.links link hlink
  have hleft : surviving [] linked = linked := by
    simp [surviving, Relationship.touchesAny]
  have hlive : (live.filter fun table => !([] : List Identifier).contains table.id) = live := by
    simp
  refine ⟨_, _, rfl, rfl, ?_⟩
  simp only [reconcile, htables, reconcileTables, hlive, hleft, hlinks]

/-! ## Declarations that leave all as it is -/

theorem TableChanges.declareAll_of_kept [Coordinate κ] {live : List (Table κ)}
    {declarations : List TableDeclaration}
    (h : ∀ declaration ∈ declarations, ∃ table, existingTable? live declaration = some table ∧
      ∀ supply, (table.apply (tablePatch supply declaration table) == table) = true)
    (supply : Supply) (changes : TableChanges κ) :
    declareAll live supply changes declarations = changes := by
  induction declarations generalizing supply with
  | nil => rfl
  | cons declaration rest ih =>
      obtain ⟨table, hfind, hsame⟩ := h declaration List.mem_cons_self
      have hdeclare : changes.declare live supply declaration = changes := by
        simp only [TableChanges.declare, hfind, hsame, if_true]
      rw [declareAll, hdeclare]
      exact ih (fun other hother => h other (List.mem_cons_of_mem _ hother)) _

theorem reconcileRelationships_of_kept {declarations : List RelationshipDeclaration}
    {live : List (Table κ)} {linked : List Relationship}
    (h : ∀ declaration ∈ declarations, ∃ link,
      existingRelationship? linked declaration = some link ∧ link.Realizes live declaration)
    (supply : Supply) :
    reconcileRelationships supply ⟨declarations, []⟩ live linked = {} := by
  have hfold : ∀ entries : List (RelationshipDeclaration × Nat),
      (∀ entry ∈ entries, entry.1 ∈ declarations) → ∀ changes : RelationshipChanges,
        entries.foldl (fun changes entry =>
          changes.declare live linked (supply.get entry.2) entry.1) changes = changes := by
    intro entries hentries changes
    induction entries with
    | nil => rfl
    | cons entry rest ih =>
        obtain ⟨link, hfind, hrealizes⟩ := h entry.1 (hentries entry List.mem_cons_self)
        have hdeclare : changes.declare live linked (supply.get entry.2) entry.1 = changes := by
          simp only [RelationshipChanges.declare, hrealizes.ends, hfind,
            hrealizes.apply_relationshipPatch, beq_self_eq_true, if_true]
        rw [List.foldl_cons, hdeclare]
        exact ih fun other hother => hentries other (List.mem_cons_of_mem _ hother)
  exact hfold _ (fun entry hentry => List.fst_mem_of_mem_zipIdx hentry) {}

/-- The plan is empty if every declaration finds an entity that it leaves as it is. -/
theorem reconcile_of_kept [Coordinate κ] {schema : DeclaredSchema} {live : List (Table κ)}
    {linked : List Relationship} (hnamed : Named schema live linked)
    (htables : ∀ declaration ∈ schema.tables, ∃ table,
      existingTable? live declaration = some table ∧
        ∀ supply, (table.apply (tablePatch supply declaration table) == table) = true)
    (hlinks : ∀ declaration ∈ schema.relationships, ∃ link,
      existingRelationship? linked declaration = some link ∧ link.Realizes live declaration)
    (supply : Supply) : reconcile supply schema live linked = {} := by
  obtain ⟨tableChanges, linkChanges, hchanges, hlinkChanges, hplan⟩ :=
    reconcile_of_named hnamed supply
  rw [TableChanges.declareAll_of_kept htables] at hchanges
  subst hchanges
  rw [reconcileRelationships_of_kept hlinks] at hlinkChanges
  rw [hplan, hlinkChanges]

/-! ## Changes that are listed -/

def TableChanges.size (changes : TableChanges κ) : Nat :=
  changes.updated.length + changes.created.length

def RelationshipChanges.size (changes : RelationshipChanges) : Nat :=
  changes.updated.length + changes.created.length

/-- A declaration changes nothing, or else the change is listed. -/
theorem TableChanges.declare_eq_or_lt [Coordinate κ] (live : List (Table κ)) (supply : Supply)
    (changes : TableChanges κ) (declaration : TableDeclaration) :
    changes.declare live supply declaration = changes ∨
      changes.size < (changes.declare live supply declaration).size := by
  rw [TableChanges.declare]
  split
  · dsimp only
    split
    · exact .inl rfl
    · right
      simp only [size, List.length_append, List.length_singleton]
      omega
  · right
    simp only [size, List.length_append, List.length_singleton]
    omega

theorem RelationshipChanges.declare_eq_or_lt (live : List (Table κ)) (linked : List Relationship)
    (stamp : Stamp) (changes : RelationshipChanges) (declaration : RelationshipDeclaration) :
    changes.declare live linked stamp declaration = changes ∨
      changes.size < (changes.declare live linked stamp declaration).size := by
  rw [RelationshipChanges.declare]
  split
  · exact .inl rfl
  · split
    · dsimp only
      split
      · exact .inl rfl
      · right
        simp only [size, List.length_append, List.length_singleton]
        omega
    · right
      simp only [size, List.length_append, List.length_singleton]
      omega

theorem TableChanges.size_le_declareAll [Coordinate κ] (live : List (Table κ)) (supply : Supply)
    (changes : TableChanges κ) (declarations : List TableDeclaration) :
    changes.size ≤ (declareAll live supply changes declarations).size := by
  induction declarations generalizing supply changes with
  | nil => exact Nat.le_refl _
  | cons declaration rest ih =>
      rw [declareAll]
      have hrest := ih (supply.drop (tableStamps declaration))
        (changes.declare live supply declaration)
      rcases changes.declare_eq_or_lt live supply declaration with hsame | hmore
      · rwa [hsame] at hrest ⊢
      · omega

/-- If nothing is listed, no declaration changes anything. -/
theorem TableChanges.declare_of_size [Coordinate κ] {live : List (Table κ)} {supply : Supply}
    {changes : TableChanges κ} {declarations : List TableDeclaration}
    (h : (declareAll live supply changes declarations).size = changes.size) :
    declareAll live supply changes declarations = changes ∧
      ∀ declaration ∈ declarations, ∃ supply,
        changes.declare live supply declaration = changes := by
  induction declarations generalizing supply with
  | nil => exact ⟨rfl, fun _ hmem => absurd hmem List.not_mem_nil⟩
  | cons first rest ih =>
      rw [declareAll] at h ⊢
      rcases changes.declare_eq_or_lt live supply first with hsame | hmore
      · rw [hsame] at h ⊢
        obtain ⟨hall, hrest⟩ := ih h
        exact ⟨hall, List.forall_mem_cons.mpr ⟨⟨supply, hsame⟩, hrest⟩⟩
      · have hle := size_le_declareAll live (supply.drop (tableStamps first))
          (changes.declare live supply first) rest
        omega

/-- A fold of steps that each do nothing or add to a size does nothing at all if nothing has been
added in the end. -/
theorem foldl_steps_of_size {α β : Type} {step : α → β → α} {size : α → Nat}
    (hstep : ∀ state item, step state item = state ∨ size state < size (step state item))
    {items : List β} {start : α} (h : size (items.foldl step start) ≤ size start) :
    ∀ item ∈ items, step start item = start := by
  have hgrows : ∀ (items : List β) (start : α), size start ≤ size (items.foldl step start) := by
    intro items
    induction items with
    | nil => exact fun _ => Nat.le_refl _
    | cons item rest ih =>
        intro start
        have hrest := ih (step start item)
        rw [List.foldl_cons]
        rcases hstep start item with hsame | hmore
        · rwa [hsame] at hrest ⊢
        · omega
  induction items with
  | nil => exact fun _ hmem => absurd hmem List.not_mem_nil
  | cons first rest ih =>
      rw [List.foldl_cons] at h
      rcases hstep start first with hsame | hmore
      · rw [hsame] at h
        exact List.forall_mem_cons.mpr ⟨hsame, ih h⟩
      · have hle := hgrows rest (step start first)
        omega

/-- If no relationship is listed, no declaration changes anything. -/
theorem RelationshipChanges.declare_of_size {declarations : List RelationshipDeclaration}
    {live : List (Table κ)} {linked : List Relationship} {supply : Supply}
    (h : (reconcileRelationships supply ⟨declarations, []⟩ live linked).size = 0) :
    ∀ declaration ∈ declarations, ∃ stamp,
      RelationshipChanges.declare live linked stamp {} declaration = {} := by
  have hsteps := foldl_steps_of_size
    (fun changes (entry : RelationshipDeclaration × Nat) =>
      changes.declare_eq_or_lt live linked (supply.get entry.2) entry.1) (Nat.le_of_eq h)
  intro declaration hmem
  obtain ⟨position, hposition, rfl⟩ := List.mem_iff_getElem.mp hmem
  refine ⟨_, hsteps (_, position) (List.mem_zipIdx_iff_getElem?.mpr ?_)⟩
  exact List.getElem?_eq_getElem hposition

/-- A declaration changes nothing only if the table it finds is equal to what is built from it. -/
theorem TableChanges.beq_of_declare_eq [Coordinate κ] {live : List (Table κ)} {supply : Supply}
    {changes : TableChanges κ} {declaration : TableDeclaration}
    (h : changes.declare live supply declaration = changes) {table : Table κ}
    (hfind : existingTable? live declaration = some table) :
    (table.apply (tablePatch (supply.drop 1) declaration table) == table) = true := by
  by_contra hdiffers
  have hlisted := congrArg TableChanges.updated h
  simp [TableChanges.declare, hfind, hdiffers] at hlisted

/-- A declared relationship changes nothing only if the relationship it finds is what it says. -/
theorem RelationshipChanges.realizes_of_declare_eq {live : List (Table κ)}
    {linked : List Relationship} {stamp : Stamp} {changes : RelationshipChanges}
    {declaration : RelationshipDeclaration}
    (h : changes.declare live linked stamp declaration = changes) {link : Relationship}
    (hfind : existingRelationship? linked declaration = some link) {ends : Endpoint × Endpoint}
    (hends : resolveEnds? live declaration = some ends) : link.Realizes live declaration := by
  by_cases hsame : link.apply (relationshipPatch declaration ends.1 ends.2) = link
  · obtain ⟨source, target⟩ := ends
    rw [← hsame]
    exact ⟨rfl, hends, rfl, rfl⟩
  · have hlisted := congrArg RelationshipChanges.updated h
    simp [RelationshipChanges.declare, hends, hfind, hsame] at hlisted

/-- If the plan is empty, every table that a declaration finds is equal to what is built from it,
and every relationship is what is said about it. -/
theorem kept_of_reconcile_eq_empty [Coordinate κ] {schema : DeclaredSchema} {live : List (Table κ)}
    {linked : List Relationship} (hnamed : Named schema live linked) {supply : Supply}
    (h : reconcile supply schema live linked = {}) :
    (∀ declaration ∈ schema.tables, ∀ table, existingTable? live declaration = some table →
      ∃ supply, (table.apply (tablePatch supply declaration table) == table) = true) ∧
    ∀ declaration ∈ schema.relationships, ∀ link,
      existingRelationship? linked declaration = some link →
        ∀ ends, resolveEnds? live declaration = some ends → link.Realizes live declaration := by
  obtain ⟨tableChanges, linkChanges, hchanges, hlinkChanges, hplan⟩ :=
    reconcile_of_named hnamed supply
  rw [h, Plan.mk.injEq] at hplan
  obtain ⟨-, hupdated, hcreated, -, hlinkUpdated, hlinkCreated⟩ := hplan
  have hsize : tableChanges.size = 0 := by
    rw [TableChanges.size, ← hupdated, ← hcreated]
    rfl
  have hlinkSize : linkChanges.size = 0 := by
    rw [RelationshipChanges.size, ← hlinkUpdated, ← hlinkCreated]
    rfl
  rw [hchanges] at hsize
  obtain ⟨hkept, htables⟩ := TableChanges.declare_of_size hsize
  rw [hchanges, hkept] at hlinkChanges
  rw [hlinkChanges] at hlinkSize
  have hlinks := RelationshipChanges.declare_of_size hlinkSize
  constructor
  · intro declaration hmem table hfind
    obtain ⟨supply, hdeclare⟩ := htables declaration hmem
    exact ⟨_, TableChanges.beq_of_declare_eq hdeclare hfind⟩
  · intro declaration hmem link hfind ends hends
    obtain ⟨stamp, hdeclare⟩ := hlinks declaration hmem
    exact RelationshipChanges.realizes_of_declare_eq hdeclare hfind hends

/-- A declaration finds the table that is settled for it. -/
theorem existingTable?_of_settles {schema : DeclaredSchema} {live : List (Table κ)}
    {linked : List Relationship} (h : schema.Settles live linked) {declaration : TableDeclaration}
    (hdeclaration : declaration ∈ schema.tables) :
    ∃ table ∈ live, existingTable? live declaration = some table ∧ table.Settled declaration := by
  obtain ⟨table, htable, hsettled⟩ := h.tables declaration hdeclaration
  refine ⟨table, htable, ?_, hsettled⟩
  rw [existingTable?, h.newTables declaration hdeclaration, ← hsettled.name]
  exact find?_key h.tableNames htable

/-- A declaration finds the relationship that is what it says. -/
theorem existingRelationship?_of_settles {schema : DeclaredSchema} {live : List (Table κ)}
    {linked : List Relationship} (h : schema.Settles live linked)
    {declaration : RelationshipDeclaration} (hdeclaration : declaration ∈ schema.relationships) :
    ∃ link, existingRelationship? linked declaration = some link ∧
      link.Realizes live declaration := by
  obtain ⟨link, hlink, hrealizes⟩ := h.links declaration hdeclaration
  refine ⟨link, ?_, hrealizes⟩
  rw [existingRelationship?, h.newLinks declaration hdeclaration, ← hrealizes.name]
  exact find?_key h.linkNames hlink

/-- The plan for a model that a schema settles is empty exactly if all coordinates are numbers. -/
theorem reconcile_eq_empty_iff [Coordinate κ] {schema : DeclaredSchema} {live : List (Table κ)}
    {linked : List Relationship} (h : schema.Settles live linked) (supply : Supply) :
    reconcile supply schema live linked = {} ↔ ∀ table ∈ live, table.Placed := by
  have hnamed : Named schema live linked := ⟨h.tablesDeclared, h.linksDeclared⟩
  constructor
  · intro hempty table htable
    obtain ⟨declaration, hdeclaration, hname⟩ := h.tablesDeclared table htable
    obtain ⟨found, hfound, hfind, hsettled⟩ := existingTable?_of_settles h hdeclaration
    obtain rfl : found = table :=
      eq_of_key h.tableNames hfound htable (hsettled.name.trans hname)
    obtain ⟨other, hsame⟩ :=
      (kept_of_reconcile_eq_empty hnamed hempty).1 declaration hdeclaration found hfind
    rw [hsettled.apply_tablePatch (h.regular declaration hdeclaration)] at hsame
    exact .of_beq_self hsame
  · intro hplaced
    apply reconcile_of_kept hnamed
    · intro declaration hdeclaration
      obtain ⟨table, htable, hfind, hsettled⟩ := existingTable?_of_settles h hdeclaration
      refine ⟨table, hfind, fun supply => ?_⟩
      rw [hsettled.apply_tablePatch (h.regular declaration hdeclaration)]
      exact (hplaced table htable).beq_self
    · exact fun declaration hdeclaration => existingRelationship?_of_settles h hdeclaration

end Reconciliation

end SchemaDiagram
