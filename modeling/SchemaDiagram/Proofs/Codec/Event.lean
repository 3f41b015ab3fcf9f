import SchemaDiagram.Codec.Event
import SchemaDiagram.Proofs.Codec.Entity

/-!
# Written events

Every event is read as it was written: the name selects the reader of the data, and the data of the
event has the members that this reader asks for.
-/

namespace SchemaDiagram.Event

open Json

theorem dataMembers?_object {names : List String} (hnames : names.Nodup)
    {members : List (String × Json)} (hmembers : members.map Prod.fst = names) :
    dataMembers? names (.object members) = some members := by
  rw [dataMembers?, object?, some_bind, members?_object hnames hmembers]

@[simp]
theorem idOf?_object (member : String) (id : Identifier) :
    idOf? member (.object [(member, id.toJson)]) = some id := by
  rw [idOf?, dataMembers?_object (List.nodup_singleton member) rfl]
  simp [required?_cons]

@[simp]
theorem idsOf?_object (member : String) (ids : List Identifier) :
    idsOf? member (.object [(member, ofList Identifier.toJson ids)]) = some ids := by
  have hids : list? Identifier.ofJson? (ofList Identifier.toJson ids) = some ids :=
    list?_ofList fun id _ => id.ofJson?_toJson
  rw [idsOf?, dataMembers?_object (List.nodup_singleton member) rfl]
  simp [required?_cons, hids]

@[simp]
theorem fieldOf?_object (tableId fieldId : Identifier) :
    fieldOf? (.object [("table_id", tableId.toJson), ("field_id", fieldId.toJson)]) =
      some (tableId, fieldId) := by
  have hnames : ["table_id", "field_id"].Nodup := by decide
  rw [fieldOf?, dataMembers?_object hnames rfl]
  simp [-Option.bind_eq_bind, required?_cons]

/-- The data of an event is read under the name of the event. -/
theorem ofData?_data (event : Event) : ofData? event.name (.object event.data) = some event := by
  cases event with
  | diagramRenamed name =>
      have hmembers : dataMembers? ["name"] (.object [("name", .string name)]) =
          some [("name", .string name)] :=
        dataMembers?_object (List.nodup_singleton "name") rfl
      simp [-Option.bind_eq_bind, Event.name, data, ofData?, hmembers, required?_cons, string?]
  | _ => simp [Event.name, data, ofData?]

theorem ofJson?_toJson (event : Event) : ofJson? event.toJson = some event := by
  have hnames : ["action", "data"].Nodup := by decide
  rw [ofJson?, toJson, members?_object hnames rfl]
  simp [-Option.bind_eq_bind, required?_cons, caseName?, List.lookup_cons, ofData?_data]

theorem wellFormed_toJson (event : Event) : event.toJson.WellFormed := by
  have hdata : ∀ member ∈ event.data, member.2.WellFormed := by
    cases event <;> simp [data]
  exact .object (by simp [Json.WellFormed.object hdata])

end SchemaDiagram.Event
