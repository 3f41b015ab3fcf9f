import SchemaDiagram.Proofs.Reconciliation.Valid
import SchemaDiagram.Proofs.Session.Tidy

/-!
# Identifiers that are lent

A declared field takes over the identifier of the present field of its name, and only a field
without such a predecessor draws one of its own; it is the same for indexes.  A name that is
declared twice is lent the same identifier twice, and nothing else makes identifiers clash.
-/

namespace SchemaDiagram

variable {κ : Type}

/-- A declaration tells the parts of a table apart: no two declared fields share a name that a field
of the table has, and no two declared indexes one that an index of the table has which backs no
primary key. -/
structure TableDeclaration.TellsApart (declaration : TableDeclaration) (table : Table κ) :
    Prop where
  fields : declaration.fields.Pairwise fun first second =>
    first.name = second.name → ∀ field ∈ table.fields, field.name ≠ first.name
  indexes : declaration.indexes.Pairwise fun first second =>
    first.name = second.name →
      ∀ index ∈ table.indexes, index.isPrimaryKey = false → index.name ≠ first.name

/-- No field and no index of a table carries one of some identifiers. -/
structure Table.SparesParts (ids : List Identifier) (table : Table κ) : Prop where
  fields : ∀ id ∈ ids, id ∉ table.fields.map Field.id
  indexes : ∀ id ∈ ids, id ∉ table.indexes.map Index.id

namespace Reconciliation

/-! ## Lent or drawn -/

/-- Two identifiers that are lent or else drawn differ, if they are not lent the same and nothing
that is drawn is lent as well. -/
theorem lent_ne {supply : Supply} {count : Nat} (hdrawn : (supply.next count).Nodup)
    {lent other : Option Identifier} {first second : Nat} (hfirst : first < count)
    (hsecond : second < count) (hne : first ≠ second)
    (hapart : ∀ id, lent = some id → other ≠ some id)
    (hlent : ∀ id, lent = some id → id ∉ supply.next count)
    (hother : ∀ id, other = some id → id ∉ supply.next count) :
    lent.getD (supply.get first).id ≠ other.getD (supply.get second).id := by
  intro hsame
  cases lent with
  | some id =>
      cases other with
      | some id' => exact hapart id rfl (congrArg some hsame.symm)
      | none =>
          rw [Option.getD_some, Option.getD_none] at hsame
          exact hlent id rfl (hsame ▸ supply.get_mem_next hsecond)
  | none =>
      cases other with
      | some id' =>
          rw [Option.getD_some, Option.getD_none] at hsame
          exact hother id' rfl (hsame ▸ supply.get_mem_next hfirst)
      | none => exact hne (Supply.get_injective hdrawn hfirst hsecond hsame)

/-- Identifiers that are lent or else drawn differ, if nothing is lent twice and nothing that is
drawn is lent as well. -/
theorem nodup_lent {δ : Type} (found : δ → Option Identifier) {declarations : List δ}
    {supply : Supply} {start count : Nat} (hcount : start + declarations.length ≤ count)
    (hdrawn : (supply.next count).Nodup)
    (hapart : declarations.Pairwise fun first second =>
      ∀ id, found first = some id → found second ≠ some id)
    (hnew : ∀ declaration ∈ declarations, ∀ id, found declaration = some id →
      id ∉ supply.next count) :
    ((declarations.zipIdx start).map fun entry =>
      (found entry.1).getD (supply.get entry.2).id).Nodup := by
  induction declarations generalizing start with
  | nil => exact List.nodup_nil
  | cons declaration rest ih =>
      obtain ⟨hfirst, hrest⟩ := List.pairwise_cons.mp hapart
      rw [List.length_cons] at hcount
      rw [List.zipIdx_cons, List.map_cons, List.nodup_cons]
      refine ⟨?_, ih (by omega) hrest fun other hother =>
        hnew other (List.mem_cons_of_mem _ hother)⟩
      intro hclash
      obtain ⟨⟨other, position⟩, hentry, hsame⟩ := List.mem_map.mp hclash
      obtain ⟨hlow, hhigh, -⟩ := List.mem_zipIdx hentry
      have hother : other ∈ rest := List.fst_mem_of_mem_zipIdx hentry
      exact lent_ne hdrawn (show start < count by omega) (show position < count by omega)
        (by omega) (hfirst other hother) (hnew declaration List.mem_cons_self)
        (hnew other (List.mem_cons_of_mem _ hother)) hsame.symm

/-! ## Fields -/

theorem nodup_buildFields {supply : Supply} {current : List Field}
    {declarations : List FieldDeclaration} (hcurrent : (current.map Field.id).Nodup)
    (hdrawn : (supply.next declarations.length).Nodup)
    (hspared : ∀ id ∈ supply.next declarations.length, id ∉ current.map Field.id)
    (hapart : declarations.Pairwise fun first second =>
      first.name = second.name → ∀ field ∈ current, field.name ≠ first.name) :
    ((buildFields supply current declarations).map Field.id).Nodup := by
  have hids : (buildFields supply current declarations).map Field.id =
      declarations.zipIdx.map fun entry =>
        ((current.find? fun field => field.name == entry.1.name).map Field.id).getD
          (supply.get entry.2).id := by
    rw [buildFields, List.map_map]
    rfl
  rw [hids]
  refine nodup_lent (fun declaration : FieldDeclaration =>
    (current.find? fun field => field.name == declaration.name).map Field.id)
    (Nat.le_of_eq (Nat.zero_add _)) hdrawn ?_ ?_
  · refine hapart.imp fun {first second} h id hfirst hsecond => ?_
    obtain ⟨field, hfield, rfl⟩ := Option.map_eq_some_iff.mp hfirst
    obtain ⟨other, hother, hsame⟩ := Option.map_eq_some_iff.mp hsecond
    have hmem := List.mem_of_find?_eq_some hfield
    obtain rfl := eq_of_key hcurrent (List.mem_of_find?_eq_some hother) hmem hsame
    have hname := key_of_find? hfield
    exact h (hname.symm.trans (key_of_find? hother)) other hmem hname
  · intro declaration _ id hlent hid
    obtain ⟨field, hfield, rfl⟩ := Option.map_eq_some_iff.mp hlent
    exact hspared _ hid (List.mem_map_of_mem (List.mem_of_find?_eq_some hfield))

/-! ## Indexes -/

theorem pruneIndexes_ids_sublist (indexes : List Index) (fields : List Field) :
    ((pruneIndexes indexes fields).map Index.id).Sublist (indexes.map Index.id) := by
  induction indexes with
  | nil => exact List.nil_sublist _
  | cons index rest ih =>
      rw [pruneIndexes, List.filterMap_cons]
      dsimp only
      split
      · next hnone => exact ih.cons _
      · next pruned hsome =>
          have hid : pruned.id = index.id := by
            by_cases hempty : (index.fieldIds.filter fun id =>
                fields.any fun field => field.id == id).isEmpty = true
            · rw [if_pos hempty] at hsome
              cases hsome
            · rw [if_neg hempty] at hsome
              obtain rfl := Option.some.inj hsome
              rfl
          rw [List.map_cons, List.map_cons, hid]
          exact ih.cons_cons _

/-- The present index that a declared index takes over from. -/
def lender? (current : List Index) (declaration : IndexDeclaration) : Option Index :=
  current.find? fun index => !index.isPrimaryKey && index.name == declaration.name

theorem lender?_eq_some {current : List Index} {declaration : IndexDeclaration} {index : Index}
    (h : lender? current declaration = some index) :
    index ∈ current ∧ index.isPrimaryKey = false ∧ index.name = declaration.name := by
  have hsome := List.find?_some h
  rw [Bool.and_eq_true, Bool.not_eq_true', beq_iff_eq] at hsome
  exact ⟨List.mem_of_find?_eq_some h, hsome.1, hsome.2⟩

/-- The identifiers that declared indexes are lent, or else draw. -/
def indexIds (supply : Supply) (current : List Index) (declarations : List IndexDeclaration) :
    List Identifier :=
  declarations.zipIdx.map fun entry =>
    ((lender? current entry.1).map Index.id).getD (supply.get entry.2).id

/-- The identifier of a built index is lent, or else drawn. -/
theorem id_buildIndex? {stamp : Stamp} {current : List Index} {fields : List Field}
    {declaration : IndexDeclaration} {index : Index}
    (h : buildIndex? stamp current fields declaration = some index) :
    index.id = ((lender? current declaration).map Index.id).getD stamp.id := by
  rw [buildIndex?, Option.bind_eq_bind, Option.bind_eq_some_iff] at h
  obtain ⟨ids, -, hindex⟩ := h
  obtain rfl := Option.some.inj hindex
  rfl

theorem map_filterMap_sublist {α β γ : Type} {read : α → Option β} {key : β → γ} {expected : α → γ}
    (h : ∀ item result, read item = some result → key result = expected item) (items : List α) :
    ((items.filterMap read).map key).Sublist (items.map expected) := by
  induction items with
  | nil => exact List.nil_sublist _
  | cons item rest ih =>
      rw [List.filterMap_cons]
      split
      · exact ih.cons _
      · next result hsome =>
          rw [List.map_cons, List.map_cons, h item result hsome]
          exact ih.cons_cons _

theorem built_ids_sublist (supply : Supply) (current : List Index) (fields : List Field)
    (declarations : List IndexDeclaration) :
    ((declarations.zipIdx.filterMap fun entry =>
      buildIndex? (supply.get entry.2) current fields entry.1).map Index.id).Sublist
        (indexIds supply current declarations) :=
  map_filterMap_sublist (fun _ _ hsome => id_buildIndex? hsome) _

section

variable {supply : Supply} {current : List Index} {declarations : List IndexDeclaration}

theorem nodup_indexIds (hcurrent : (current.map Index.id).Nodup)
    (hdrawn : (supply.next declarations.length).Nodup)
    (hspared : ∀ id ∈ supply.next declarations.length, id ∉ current.map Index.id)
    (hapart : declarations.Pairwise fun first second => first.name = second.name →
      ∀ index ∈ current, index.isPrimaryKey = false → index.name ≠ first.name) :
    (indexIds supply current declarations).Nodup := by
  refine nodup_lent (fun declaration => (lender? current declaration).map Index.id)
    (Nat.le_of_eq (Nat.zero_add declarations.length)) hdrawn ?_ ?_
  · refine hapart.imp fun {first second} h id hfirst hsecond => ?_
    obtain ⟨index, hindex, rfl⟩ := Option.map_eq_some_iff.mp hfirst
    obtain ⟨other, hother, hsame⟩ := Option.map_eq_some_iff.mp hsecond
    obtain ⟨hmem, hplain, hname⟩ := lender?_eq_some hindex
    obtain ⟨hmem', -, hname'⟩ := lender?_eq_some hother
    obtain rfl := eq_of_key hcurrent hmem' hmem hsame
    exact h (hname.symm.trans hname') other hmem hplain hname
  · intro declaration _ id hsome hid
    obtain ⟨index, hindex, rfl⟩ := Option.map_eq_some_iff.mp hsome
    exact hspared _ hid (List.mem_map_of_mem (lender?_eq_some hindex).1)

/-- No declared index takes the identifier of one that backs a primary key. -/
theorem key_id_not_mem_indexIds (hcurrent : (current.map Index.id).Nodup)
    (hspared : ∀ id ∈ supply.next declarations.length, id ∉ current.map Index.id)
    {key : Index} (hkey : key ∈ current) (hprimary : key.isPrimaryKey = true) :
    key.id ∉ indexIds supply current declarations := by
  intro hmem
  obtain ⟨⟨declaration, position⟩, hentry, hsame⟩ := List.mem_map.mp hmem
  dsimp only at hsame
  cases hfind : lender? current declaration with
  | some index =>
      rw [hfind, Option.map_some, Option.getD_some] at hsame
      obtain ⟨hindex, hplain, -⟩ := lender?_eq_some hfind
      obtain rfl := eq_of_key hcurrent hindex hkey hsame
      exact absurd (hplain.symm.trans hprimary) Bool.false_ne_true
  | none =>
      rw [hfind, Option.map_none, Option.getD_none] at hsame
      obtain ⟨-, hposition, -⟩ := List.mem_zipIdx hentry
      have hdrawn := supply.get_mem_next (show position < declarations.length by omega)
      rw [hsame] at hdrawn
      exact hspared _ hdrawn (List.mem_map_of_mem hkey)

theorem nodup_buildIndexes {fields : List Field} (hcurrent : (current.map Index.id).Nodup)
    (hdrawn : (supply.next declarations.length).Nodup)
    (hspared : ∀ id ∈ supply.next declarations.length, id ∉ current.map Index.id)
    (hapart : declarations.Pairwise fun first second => first.name = second.name →
      ∀ index ∈ current, index.isPrimaryKey = false → index.name ≠ first.name) :
    ((buildIndexes supply current fields declarations).map Index.id).Nodup := by
  have hbuilt := built_ids_sublist supply current fields declarations
  rw [buildIndexes, List.map_append, List.nodup_append]
  refine ⟨?_, (nodup_indexIds hcurrent hdrawn hspared hapart).sublist hbuilt, ?_⟩
  · exact hcurrent.sublist ((pruneIndexes_ids_sublist _ fields).trans
      (List.filter_sublist.map Index.id))
  · rintro id hkey other hother rfl
    obtain ⟨key, hmem, rfl⟩ := List.mem_map.mp ((pruneIndexes_ids_sublist _ fields).subset hkey)
    obtain ⟨hpresent, hprimary⟩ := List.mem_filter.mp hmem
    exact key_id_not_mem_indexIds hcurrent hspared hpresent hprimary (hbuilt.subset hother)

end

/-! ## Tables -/

theorem distinct_tablePatch {supply : Supply} {declaration : TableDeclaration}
    {current : Table κ} (hcurrent : current.Distinct)
    (hdrawn : (supply.next (declaration.fields.length + declaration.indexes.length)).Nodup)
    (hspared : current.SparesParts
      (supply.next (declaration.fields.length + declaration.indexes.length)))
    (hapart : declaration.TellsApart current) :
    (tablePatch supply declaration current).Distinct := by
  rw [Supply.next_add] at hdrawn hspared
  have hparts := List.nodup_append.mp hdrawn
  constructor
  · intro fields hfields
    obtain rfl := Option.some.inj hfields
    exact nodup_buildFields hcurrent.fields hparts.1
      (fun id hid => hspared.fields id (List.mem_append_left _ hid)) hapart.fields
  · intro indexes hindexes
    obtain rfl := Option.some.inj hindexes
    by_cases hnone : declaration.indexes.isEmpty = true
    · rw [if_pos hnone]
      exact hcurrent.indexes.sublist (pruneIndexes_ids_sublist _ _)
    · rw [if_neg hnone]
      exact nodup_buildIndexes hcurrent.indexes hparts.2.1
        (fun id hid => hspared.indexes id (List.mem_append_right _ hid)) hapart.indexes

/-- A new table draws all of its identifiers. -/
theorem distinct_newTable [Coordinate κ] {supply : Supply} {declaration : TableDeclaration}
    (hdrawn : (supply.next (tableStamps declaration)).Nodup) :
    (newTable supply declaration : Table κ).Distinct := by
  rw [tableStamps, Nat.add_assoc, Supply.next_add, Supply.next_add, Supply.drop_drop] at hdrawn
  obtain ⟨-, hrest, -⟩ := List.nodup_append.mp hdrawn
  obtain ⟨hfields, hindexes, -⟩ := List.nodup_append.mp hrest
  constructor
  · exact nodup_buildFields List.nodup_nil hfields (fun _ _ => List.not_mem_nil)
      (List.pairwise_of_forall fun _ _ _ _ hmem => absurd hmem List.not_mem_nil)
  · exact nodup_buildIndexes List.nodup_nil hindexes (fun _ _ => List.not_mem_nil)
      (List.pairwise_of_forall fun _ _ _ _ hmem => absurd hmem List.not_mem_nil)

/-- Updates give distinct parts, and created tables have distinct parts. -/
structure TableChanges.Distinct (changes : TableChanges κ) : Prop where
  updated : ∀ update ∈ changes.updated, update.2.Distinct
  created : ∀ table ∈ changes.created, table.Distinct

theorem TableChanges.Distinct.declareAll [Coordinate κ] {live : List (Table κ)}
    (hlive : ∀ table ∈ live, table.Distinct) {supply : Supply} {changes : TableChanges κ}
    {declarations : List TableDeclaration} (h : changes.Distinct)
    (hdrawn : (supply.next (tablesStamps declarations)).Nodup)
    (hspared : ∀ table ∈ live,
      table.SparesParts (supply.next (tablesStamps declarations)))
    (hapart : ∀ declaration ∈ declarations, ∀ table,
      existingTable? live declaration = some table → declaration.TellsApart table) :
    (TableChanges.declareAll live supply changes declarations).Distinct := by
  induction declarations generalizing supply changes with
  | nil => exact h
  | cons declaration rest ih =>
      rw [tablesStamps, Supply.next_add] at hdrawn hspared
      obtain ⟨hfirst, hrest, -⟩ := List.nodup_append.mp hdrawn
      refine ih ?_ hrest ?_ fun other hother => hapart other (List.mem_cons_of_mem _ hother)
      · rcases changes.declare_cases live supply declaration with
          ⟨-, heq⟩ | ⟨table, hsome, ⟨-, heq⟩ | heq⟩
        · rw [heq]
          refine ⟨h.updated, ?_⟩
          intro table htable
          rw [List.mem_append, List.mem_singleton] at htable
          rcases htable with hold | rfl
          · exact h.created table hold
          · exact distinct_newTable hfirst
        · rwa [heq]
        · rw [heq]
          refine ⟨?_, h.created⟩
          intro update hupdate
          rw [List.mem_append, List.mem_singleton] at hupdate
          rcases hupdate with hold | rfl
          · exact h.updated update hold
          · have hmem := existingTable?_mem hsome
            rw [tableStamps, Nat.add_assoc, Supply.next_add] at hfirst hspared
            refine distinct_tablePatch (hlive table hmem) (List.nodup_append.mp hfirst).2.1 ?_
              (hapart declaration List.mem_cons_self table hsome)
            have hall := hspared table hmem
            exact ⟨fun id hid => hall.fields id
                (List.mem_append_left _ (List.mem_append_right _ hid)),
              fun id hid => hall.indexes id
                (List.mem_append_left _ (List.mem_append_right _ hid))⟩
      · intro table hmem
        exact ⟨fun id hid => (hspared table hmem).fields id (List.mem_append_right _ hid),
          fun id hid => (hspared table hmem).indexes id (List.mem_append_right _ hid)⟩

end Reconciliation

/-- A schema tells the parts of a model apart: so does every declaration for the table that it is
found to stand for. -/
def DeclaredSchema.TellsApart (schema : DeclaredSchema) (live : List (Table κ)) : Prop :=
  ∀ declaration ∈ (Reconciliation.matchTables schema.tables live).declarations, ∀ table,
    Reconciliation.existingTable? live declaration = some table → declaration.TellsApart table

namespace Reconciliation

/-- A plan for a schema that tells the parts of a model apart gives distinct parts. -/
theorem reconcile_distinct [Coordinate κ] {schema : DeclaredSchema} (hread : schema.AsRead)
    {live : List (Table κ)} (hids : (live.map Table.id).Nodup)
    (hparts : ∀ table ∈ live, table.Distinct) (linked : List Relationship) {supply : Supply}
    (hdrawn : (supply.next (stamps schema)).Nodup)
    (hspared : ∀ table ∈ live, table.SparesParts (supply.next (stamps schema)))
    (hapart : schema.TellsApart live) :
    (∀ update ∈ (reconcile supply schema live linked).updatedTables, update.2.Distinct) ∧
      ∀ table ∈ (reconcile supply schema live linked).createdTables, table.Distinct := by
  rw [stamps, Supply.next_add, ← tablesStamps_matchTables hread hids] at hdrawn hspared
  have hstart : TableChanges.Distinct
      { projected := live.filter fun table =>
          !(matchTables schema.tables live).gone.contains table.id } :=
    ⟨fun _ hmem => absurd hmem List.not_mem_nil, fun _ hmem => absurd hmem List.not_mem_nil⟩
  have hall := hstart.declareAll hparts (List.nodup_append.mp hdrawn).1
    (fun table hmem =>
      ⟨fun id hid => (hspared table hmem).fields id (List.mem_append_left _ hid),
        fun id hid => (hspared table hmem).indexes id (List.mem_append_left _ hid)⟩) hapart
  exact ⟨hall.updated, hall.created⟩

end Reconciliation

end SchemaDiagram
