import SchemaDiagram.Proofs.Reconciliation.Afresh
import SchemaDiagram.Proofs.SchemaText.Readable
import SchemaDiagram.Proofs.Session.Converged
import SchemaDiagram.Proofs.Session.Mirrored

/-!
# Canonical texts

A text is brought into canonical form by applying it to an empty diagram and writing the diagram as
text.  Whatever the text looks like, its canonical form is its own canonical form and loses nothing
of the model, as long as the names of the types in it are sealed.  Names of types are written as
they are, so that a brace in one of them opens or closes a block when the text is read again.
-/

namespace SchemaDiagram

open Reconciliation

variable {σ τ κ : Type}

/-! ## Models that are moved -/

/-- Ends refer to the same names after tables were moved. -/
theorem endNames?_of_moved {ids : List Identifier} {before after : List (Table κ)}
    (h : List.Forall₂ (Table.Moved ids) before after) (endpoint : Endpoint) :
    ContentHash.endNames? after endpoint = ContentHash.endNames? before endpoint := by
  obtain ⟨hbefore, hafter⟩ | ⟨table, x, y, hbefore, hafter⟩ :=
    find?_of_moved (p := fun table => table.id == endpoint.tableId) (fun _ _ _ => rfl) h
  · simp only [ContentHash.endNames?, hbefore, hafter]
  · simp only [ContentHash.endNames?, hbefore, hafter]
    rfl

/-- A model states the same wherever its tables are put. -/
theorem DeclaredSchema.StatedBy.of_moved {schema : DeclaredSchema} {ids : List Identifier}
    {before after : List (Table κ)} {linked : List Relationship}
    (h : schema.StatedBy before linked)
    (hmoved : List.Forall₂ (Table.Moved ids) before after) : schema.StatedBy after linked := by
  constructor
  · rw [← h.tables]
    refine (map_eq_of_forall₂ (hmoved.imp fun first second hmove => ?_)).symm
    obtain ⟨x, y, rfl⟩ := hmove.same
    rfl
  · have hdeclared : Relationship.declared? after = Relationship.declared? before := by
      funext link
      simp only [Relationship.declared?, ContentHash.ofRelationship?, endNames?_of_moved hmoved]
    rw [hdeclared, h.relationships]

namespace Workspace

/-! ## Texts in empty diagrams -/

/-- An empty diagram of a dialect is loaded, and the identifiers that a text takes differ from each
other. -/
structure Blank (workspace : Workspace σ κ) (dialect : Dialect) (text : String) : Prop where
  loaded : ∃ diagram, workspace.session.diagram? = some diagram ∧ diagram.dialect = dialect ∧
    diagram.tables = [] ∧ diagram.relationships = []
  drawn : (workspace.session.supply.next (stamps (SchemaText.parse dialect text))).Nodup

variable [Storage σ κ] [Coordinate κ]

/-- The canonical form of a text: what is written when it has been applied, whether or not the
writes to the storage fail. -/
def formatted (workspace : Workspace σ κ) (text : String) : String :=
  (workspace.applyText text).2.session.schemaText

theorem formatted_of_loaded {workspace : Workspace σ κ} {text : String} {after : Diagram κ}
    (hafter : (workspace.applyText text).2.session.diagram? = some after) :
    workspace.formatted text = SchemaText.generate after.tables after.relationships := by
  simp only [formatted, Session.schemaText, Session.tables, Session.relationships, hafter,
    Option.map_some, Option.getD_some]

/-- A text that is applied to an empty diagram makes it state what is kept of the text. -/
theorem Blank.exists_states {workspace : Workspace σ κ} {dialect : Dialect} {text : String}
    (h : workspace.Blank dialect text) :
    ∃ after, (workspace.applyText text).2.session.diagram? = some after ∧
      (SchemaText.parse dialect text).kept.StatedBy after.tables after.relationships := by
  obtain ⟨diagram, hloaded, rfl, htables, hrelationships⟩ := h.loaded
  have hread := SchemaText.asRead_parse diagram.dialect text
  have hdialect : workspace.session.dialect = diagram.dialect := by
    simp only [Session.dialect, hloaded, Option.map_some, Option.getD_some]
  have hplan := planFor_of_loaded hloaded text
  rw [hdialect, htables, hrelationships] at hplan
  have hshows : (workspace.withSession (planFor workspace.session text).2).Shows [] [] :=
    ⟨diagram, hloaded, htables, hrelationships⟩
  have hlive : ∀ id ∈ (planFor workspace.session text).1.deletedTables,
      id ∈ ([] : List (Table κ)).map Table.id := by
    rw [hplan]
    exact (reconcile_grounded _ _ [] []).deletedTables
  obtain ⟨moved, ⟨after, hafter, rfl, hlinked⟩, hmoved⟩ := hshows.applyPlan hlive true
  have hstates := reconcile_states (κ := κ) hread h.drawn
  rw [← hplan] at hstates
  rw [applyText_of_loaded hloaded]
  refine ⟨after, hafter, ?_⟩
  rw [hlinked]
  exact hstates.of_moved hmoved

end Workspace

/-! ## Reading the canonical form -/

theorem DeclaredSchema.Readable.kept {dialect : Dialect} {schema : DeclaredSchema}
    (h : schema.Readable dialect) : schema.kept.Readable dialect := by
  constructor
  · intro table htable
    obtain ⟨declared, hdeclared, rfl⟩ := List.mem_map.mp htable
    obtain ⟨hname, hfields⟩ := h.tables declared hdeclared
    exact ⟨hname, hfields⟩
  · intro relationship hrelationship
    obtain ⟨declared, hdeclared, rfl⟩ := List.mem_map.mp hrelationship
    exact h.relationships declared (List.mem_filter.mp hdeclared).1

theorem DeclaredSchema.SealedTypes.kept {schema : DeclaredSchema} (h : schema.SealedTypes) :
    schema.kept.SealedTypes := by
  intro table htable
  obtain ⟨declared, hdeclared, rfl⟩ := List.mem_map.mp htable
  exact h declared hdeclared

namespace Workspace

variable [Storage σ κ] [Storage τ κ] [Coordinate κ]

/-- The canonical form of a text declares what is kept of the text. -/
theorem Blank.parse_formatted {workspace : Workspace σ κ} {dialect : Dialect} {text : String}
    (h : workspace.Blank dialect text)
    (hsealed : (SchemaText.parse dialect text).SealedTypes) :
    SchemaText.parse dialect (workspace.formatted text) =
      (SchemaText.parse dialect text).kept := by
  obtain ⟨after, hafter, hstates⟩ := h.exists_states
  rw [formatted_of_loaded hafter]
  exact hstates.parse_text (SchemaText.readable_parse dialect text).kept hsealed.kept

/-- The canonical form is the text of what is kept. -/
theorem Blank.formatted_eq {workspace : Workspace σ κ} {dialect : Dialect} {text : String}
    (h : workspace.Blank dialect text) :
    workspace.formatted text = String.ofList (SchemaText.parse dialect text).kept.text := by
  obtain ⟨after, hafter, hstates⟩ := h.exists_states
  rw [formatted_of_loaded hafter, generate_eq_text, hstates.declaredBy_eq]

/-- The canonical form of a text with sealed names of types is its own canonical form, and it
declares as many tables and relationships as the model has that the text leads to. -/
theorem Blank.formatted_formatted {first : Workspace σ κ} {second : Workspace τ κ}
    {dialect : Dialect} {text : String} (hfirst : first.Blank dialect text)
    (hsealed : (SchemaText.parse dialect text).SealedTypes)
    (hsecond : second.Blank dialect (first.formatted text)) :
    second.formatted (first.formatted text) = first.formatted text ∧
      (SchemaText.parse dialect (first.formatted text)).tables.length =
        (first.applyText text).2.session.tables.length ∧
      (SchemaText.parse dialect (first.formatted text)).relationships.length =
        (first.applyText text).2.session.relationships.length := by
  have hparse := hfirst.parse_formatted hsealed
  obtain ⟨after, hafter, hstates⟩ := hfirst.exists_states
  have htables := congrArg List.length hstates.tables
  have hrelationships := congrArg List.length hstates.relationships
  rw [List.length_map] at htables
  rw [List.length_map, List.length_map] at hrelationships
  refine ⟨?_, ?_, ?_⟩
  · calc
      second.formatted (first.formatted text)
          = String.ofList (SchemaText.parse dialect (first.formatted text)).kept.text :=
            hsecond.formatted_eq
      _ = String.ofList (SchemaText.parse dialect text).kept.text := by
            rw [hparse, DeclaredSchema.kept_kept]
      _ = first.formatted text := hfirst.formatted_eq.symm
  · simp only [Session.tables, hafter, Option.map_some, Option.getD_some, hparse, htables]
  · simp only [Session.relationships, hafter, Option.map_some, Option.getD_some, hparse,
      hrelationships]

/-! ## A text that is half right -/

/-- Quotes in the name of a type, a line that is no field, an index over a field that is not there,
a link that leads nowhere, and a table that is still being typed. -/
def draftText : String :=
  "Table a \x7b\n id int\n set enum('\x7b//')\n ?\n Indexes \x7b\n(id)\n(no)\n\x7d\n\x7d\n" ++
    "Rel r: N a.id, 1 a.id Rel s: N a.id, 1 b.id\nTable b \x7b"

/-- An empty diagram in a session whose stamps count upwards. -/
theorem blank_unopened (text : String)
    (h : ((unopened.createDiagram "shop" none).2.session.supply.next
      (stamps (SchemaText.parse .generic text))).Nodup) :
    (unopened.createDiagram "shop" none).2.Blank .generic text :=
  ⟨⟨_, rfl, rfl, rfl, rfl⟩, h⟩

theorem formatted_draftText :
    let blank := (unopened.createDiagram "shop" none).2
    blank.formatted (blank.formatted draftText) = blank.formatted draftText ∧
      (SchemaText.parse .generic (blank.formatted draftText)).tables.length =
        (blank.applyText draftText).2.session.tables.length ∧
      (SchemaText.parse .generic (blank.formatted draftText)).relationships.length =
        (blank.applyText draftText).2.session.relationships.length := by
  intro blank
  exact Blank.formatted_formatted (blank_unopened draftText (by decide +kernel))
    (by decide +kernel) (blank_unopened _ (by decide +kernel))

/-! ## A brace in the name of a type -/

/-- The name of a type opens a block, and an additional brace closes it. -/
def bracedText : String := "Table a \x7b\n id x \x7b\n\x7d\n\x7d"

/-- The canonical form lacks the additional brace, and nothing is read from it. -/
theorem formatted_bracedText :
    let blank := (unopened.createDiagram "shop" none).2
    blank.Blank .generic bracedText ∧ blank.Blank .generic (blank.formatted bracedText) ∧
      blank.formatted bracedText = "Table a \x7b\n\tid x \x7b\n\x7d" ∧
      blank.formatted (blank.formatted bracedText) = "" ∧
      (SchemaText.parse .generic (blank.formatted bracedText)).tables.length = 0 ∧
      (blank.applyText bracedText).2.session.tables.length = 1 := by
  intro blank
  exact ⟨blank_unopened bracedText (by decide +kernel), blank_unopened _ (by decide +kernel),
    by decide +kernel, by decide +kernel, by decide +kernel, by decide +kernel⟩

end Workspace

end SchemaDiagram
