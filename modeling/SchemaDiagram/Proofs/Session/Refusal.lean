import SchemaDiagram.Proofs.Positioned
import SchemaDiagram.Session.Basic

/-!
# Refused mutations

A mutation is refused when something that it names is not there.  What the refusal reports as
missing is missing, and the diagram that it leaves is the one it started from.  For a look-up that
fails this is plain, since nothing has been changed by then.  A removal has put together the list
without what it was to take; where nothing was taken, this list is the old one.
-/

namespace SchemaDiagram

variable {κ α β ε : Type}

/-! ## Refusals -/

/-- A session refuses by itself; a storage that fails is no refusal. -/
def SessionError.IsRefusal : SessionError → Prop
  | storage _ => False
  | _ => True

/-- What an error names is missing from a session.  The error of a storage names nothing there. -/
def SessionError.Missing (session : Session κ) : SessionError → Prop
  | noDiagramLoaded => session.diagram? = none
  | tableNotFound id => session.table? id = none
  | fieldNotFound tableId fieldId =>
    ∃ table, session.table? tableId = some table ∧ table.field? fieldId = none
  | indexNotFound tableId indexId =>
    ∃ table, session.table? tableId = some table ∧ table.index? indexId = none
  | relationshipNotFound id => session.relationship? id = none
  | dependencyNotFound id => session.dependency? id = none
  | storage _ => False

/-- What a refusal names is missing from a session, and the diagram that it leaves is the one that
the session holds. -/
structure Refusal.Harmless (refusal : Refusal κ) (session : Session κ) : Prop where
  missing : refusal.error.Missing session
  kept : session.diagram? = some refusal.diagram

namespace Mutation

theorem orRefuse_bind_eq_ok_iff {refusal : ε} {value : Option α} {next : α → Except ε β}
    {result : β} :
    (orRefuse refusal value >>= next) = .ok result ↔
      ∃ x, value = some x ∧ next x = .ok result := by
  cases value with
  | none => simp [orRefuse, bind, Except.bind]
  | some x => simp [orRefuse, bind, Except.bind]

theorem orRefuse_bind_eq_error_iff {refusal error : ε} {value : Option α}
    {next : α → Except ε β} :
    (orRefuse refusal value >>= next) = .error error ↔
      (value = none ∧ refusal = error) ∨ ∃ x, value = some x ∧ next x = .error error := by
  cases value with
  | none => simp [orRefuse, bind, Except.bind]
  | some x => simp [orRefuse, bind, Except.bind]

/-- If none of the items asked for are there, then the first of them is not there, and the list is
left as it was. -/
theorem takePositioned_of_missing {key : α → Identifier} {items : List α} {first : Identifier}
    {rest : List Identifier}
    (h : (takePositioned (fun item => (first :: rest).contains (key item)) items).1 = []) :
    items.find? (fun item => key item == first) = none ∧
      (takePositioned (fun item => (first :: rest).contains (key item)) items).2 = items := by
  rw [takePositioned_fst_eq_nil_iff] at h
  constructor
  · rw [List.find?_eq_none]
    intro item hmem hfirst
    have hnone := h item hmem
    rw [List.contains_cons, hfirst, Bool.true_or] at hnone
    cases hnone
  · rw [takePositioned_of_none h]

section

variable {session : Session κ} {diagram : Diagram κ} {refusal : Refusal κ}

theorem removeTablesChange_eq_error (hloaded : session.diagram? = some diagram)
    {ids : List Identifier} (h : removeTablesChange diagram ids = .error refusal) :
    refusal.Harmless session := by
  simp only [removeTablesChange] at h
  split at h
  · next first rest hnone =>
    obtain rfl := Except.error.inj h
    obtain ⟨hfirst, hkept⟩ := takePositioned_of_missing hnone
    refine ⟨?_, ?_⟩
    · rw [SessionError.Missing, Session.table?, hloaded]
      exact hfirst
    · rw [hloaded, hkept]
  · cases h

theorem removeRelationshipsChange_eq_error (hloaded : session.diagram? = some diagram)
    {ids : List Identifier} (h : removeRelationshipsChange diagram ids = .error refusal) :
    refusal.Harmless session := by
  simp only [removeRelationshipsChange] at h
  split at h
  · next first rest hnone =>
    obtain rfl := Except.error.inj h
    obtain ⟨hfirst, hkept⟩ := takePositioned_of_missing hnone
    refine ⟨?_, ?_⟩
    · rw [SessionError.Missing, Session.relationship?, hloaded]
      exact hfirst
    · rw [hloaded, hkept]
  · cases h

theorem removeDependenciesChange_eq_error (hloaded : session.diagram? = some diagram)
    {ids : List Identifier} (h : removeDependenciesChange diagram ids = .error refusal) :
    refusal.Harmless session := by
  simp only [removeDependenciesChange] at h
  split at h
  · next first rest hnone =>
    obtain rfl := Except.error.inj h
    obtain ⟨hfirst, hkept⟩ := takePositioned_of_missing hnone
    refine ⟨?_, ?_⟩
    · rw [SessionError.Missing, Session.dependency?, hloaded]
      exact hfirst
    · rw [hloaded, hkept]
  · cases h

/-- A look-up of a table that is refused. -/
theorem harmless_of_table? (hloaded : session.diagram? = some diagram) {id : Identifier}
    {next : Table κ → Except (Refusal κ) (Change κ)}
    (h : (orRefuse ⟨.tableNotFound id, diagram⟩ (diagram.table? id) >>= next) = .error refusal)
    (hnext : ∀ table, session.table? id = some table → next table = .error refusal →
      refusal.Harmless session) : refusal.Harmless session := by
  have htable : session.table? id = diagram.table? id := by
    rw [Session.table?, hloaded, Option.bind_some]
  obtain ⟨hnone, rfl⟩ | ⟨table, hfound, hrest⟩ := orRefuse_bind_eq_error_iff.mp h
  · exact ⟨htable.trans hnone, hloaded⟩
  · exact hnext table (htable.trans hfound) hrest

/-- A refused mutation is harmless. -/
theorem harmless_of_change_eq_error (hloaded : session.diagram? = some diagram)
    {mutation : Mutation κ} (h : mutation.change diagram = .error refusal) :
    refusal.Harmless session := by
  cases mutation with
  | renameDiagram | insertTables | addTables | setTables | insertRelationships
  | addRelationships | insertDependencies | addDependencies => cases h
  | removeTables ids => exact removeTablesChange_eq_error hloaded h
  | removeRelationships ids => exact removeRelationshipsChange_eq_error hloaded h
  | removeDependencies ids => exact removeDependenciesChange_eq_error hloaded h
  | updateTable | insertField | insertIndex =>
      exact harmless_of_table? hloaded h fun _ _ hok => by cases hok
  | updateField | removeField | updateIndex | removeIndex =>
      refine harmless_of_table? hloaded h fun table htable hpart => ?_
      obtain ⟨hnone, rfl⟩ | ⟨_, -, hok⟩ := orRefuse_bind_eq_error_iff.mp hpart
      · exact ⟨⟨table, htable, hnone⟩, hloaded⟩
      · cases hok
  | updateRelationship id =>
      obtain ⟨hnone, rfl⟩ | ⟨_, -, hok⟩ := orRefuse_bind_eq_error_iff.mp h
      · refine ⟨?_, hloaded⟩
        rw [SessionError.Missing, Session.relationship?, hloaded]
        exact hnone
      · cases hok
  | updateDependency id =>
      obtain ⟨hnone, rfl⟩ | ⟨_, -, hok⟩ := orRefuse_bind_eq_error_iff.mp h
      · refine ⟨?_, hloaded⟩
        rw [SessionError.Missing, Session.dependency?, hloaded]
        exact hnone
      · cases hok

end

end Mutation

/-- A session that refuses to carry out a mutation is left as it was. -/
theorem Session.mutate_of_refusal {session : Session κ} {diagram : Diagram κ}
    {mutation : Mutation κ} {refusal : Refusal κ} (record : Bool)
    (hloaded : session.diagram? = some diagram)
    (hchange : mutation.change diagram = .error refusal) :
    session.mutate mutation record = (.error refusal.error, session) := by
  obtain ⟨-, hkept⟩ := Mutation.harmless_of_change_eq_error hloaded hchange
  simp only [mutate, hloaded, hchange]
  rw [← hkept]

end SchemaDiagram
