import SchemaDiagram.Proofs.Reconciliation.Rescued

/-!
# Entities under new names

Whoever renames entities of a model declares as many as there are, and in every hash class as many
names are new as names are missing.  So every entity keeps a declaration, although it may be that of
another one with the same contents.  Where no two of the renamed entities have the same hash, each
of them finds its own.
-/

namespace SchemaDiagram

open Reconciliation SchemaDiagram.Text

variable {α δ : Type}

/-- Some items are to have other names: words that are distinct and that no item has. -/
structure NewNames (name : α → String) (items : List α) (newName : α → String) : Prop where
  words : ∀ item ∈ items, newName item ≠ name item → isWord (newName item).toList = true
  apart : ∀ first ∈ items, ∀ second ∈ items, newName first ≠ name first →
    newName second ≠ name second → newName first = newName second → first = second
  fresh : ∀ item ∈ items, newName item ≠ name item → newName item ∉ items.map name

namespace NewNames

variable {name newName : α → String} {items : List α} {item : α}

/-- What an item is to be called is the name of an item only if it is its own. -/
theorem newName_mem_iff (h : NewNames name items newName) (hmem : item ∈ items) :
    newName item ∈ items.map name ↔ newName item = name item := by
  constructor
  · intro hname
    by_contra hne
    exact h.fresh item hmem hne hname
  · intro hsame
    rw [hsame]
    exact List.mem_map_of_mem hmem

/-- An item loses its name to no other one. -/
theorem name_mem_iff (h : NewNames name items newName) (hnames : (items.map name).Nodup)
    (hmem : item ∈ items) : name item ∈ items.map newName ↔ newName item = name item := by
  constructor
  · intro hname
    obtain ⟨other, hother, hsame⟩ := List.mem_map.mp hname
    have hold : newName other = name other := by
      rw [← h.newName_mem_iff hother, hsame]
      exact List.mem_map_of_mem hmem
    obtain rfl := eq_of_key hnames hother hmem (hold.symm.trans hsame)
    exact hsame
  · intro hsame
    rw [← hsame]
    exact List.mem_map_of_mem hmem

/-- The items have distinct names afterwards. -/
theorem nodup (h : NewNames name items newName) (hnames : (items.map name).Nodup) :
    (items.map newName).Nodup := by
  refine hnames.of_map.map_on ?_
  intro first hfirst second hsecond hsame
  by_cases hkept : newName first = name first
  · have hname : name first ∈ items.map name := List.mem_map_of_mem hfirst
    rw [← hkept, hsame, h.newName_mem_iff hsecond] at hname
    exact eq_of_key hnames hfirst hsecond (hkept.symm.trans (hsame.trans hname))
  · refine h.apart first hfirst second hsecond hkept ?_ hsame
    rw [ne_eq, ← h.newName_mem_iff hsecond, ← hsame, h.newName_mem_iff hfirst]
    exact hkept

/-- If the items were called by words, they are afterwards. -/
theorem isWord_newName (h : NewNames name items newName)
    (hwords : ∀ item ∈ items, isWord (name item).toList = true) :
    ∀ item ∈ items, isWord (newName item).toList = true := by
  intro item hmem
  by_cases hkept : newName item = name item
  · rw [hkept]
    exact hwords item hmem
  · exact h.words item hmem hkept

end NewNames

namespace Reconciliation

variable [Declared δ]

/-- A declaration is that of an item under its new name. -/
structure DeclaresAs (entityOf : α → Entity) (newName : α → String) (declaration : δ)
    (item : α) : Prop where
  name : Declared.name declaration = newName item
  contentHash : (entityOf item).contentHash = some (Declared.contentHash declaration)
  unattached : Declared.existingId declaration = none

variable {entityOf : α → Entity} {newName : α → String} {items : List α} {item : α}
  {declarations : List δ} {declaration : δ}

/-! ## New and missing names -/

/-- A declared name is new where an item is renamed. -/
theorem DeclaresAs.isNew_eq (h : DeclaresAs entityOf newName declaration item)
    (hnew : NewNames (fun item => (entityOf item).name) items newName) (hmem : item ∈ items)
    (hash : Int32) :
    isNew (items.map entityOf) hash declaration =
      ((entityOf item).contentHash == some hash && newName item != (entityOf item).name) := by
  have hany : ((items.map entityOf).any fun entity => entity.name == newName item) =
      (newName item == (entityOf item).name) := by
    rw [Bool.eq_iff_iff, beq_iff_eq, ← hnew.newName_mem_iff hmem]
    simp
  rw [isNew, bne, ← hany, h.name, h.contentHash]
  rfl

/-- The name of an item is missing where it is renamed. -/
theorem isMissing_eq (hdeclared : List.Forall₂ (DeclaresAs entityOf newName) declarations items)
    (hnew : NewNames (fun item => (entityOf item).name) items newName)
    (hnames : (items.map fun item => (entityOf item).name).Nodup) (hmem : item ∈ items)
    (hash : Int32) :
    isMissing declarations hash (entityOf item) =
      ((entityOf item).contentHash == some hash && newName item != (entityOf item).name) := by
  have hdeclaredNames : declarations.map Declared.name = items.map newName :=
    map_eq_of_forall₂ (hdeclared.imp fun _ _ h => h.name)
  have hany : (declarations.any fun declaration =>
      Declared.name declaration == (entityOf item).name) =
        (newName item == (entityOf item).name) := by
    rw [Bool.eq_iff_iff, beq_iff_eq, ← hnew.name_mem_iff hnames hmem, ← hdeclaredNames]
    simp
  rw [isMissing, bne, ← hany]

section

variable (hdeclared : List.Forall₂ (DeclaresAs entityOf newName) declarations items)
  (hnew : NewNames (fun item => (entityOf item).name) items newName)
  (hnames : (items.map fun item => (entityOf item).name).Nodup)

include hdeclared hnew hnames

/-- In every hash class as many names are missing as are new. -/
theorem countP_isMissing_eq (hash : Int32) :
    (items.map entityOf).countP (isMissing declarations hash) =
      declarations.countP (isNew (items.map entityOf) hash) := by
  have hmap : declarations.map (isNew (items.map entityOf) hash) =
      items.map fun item => isMissing declarations hash (entityOf item) := by
    refine map_eq_of_forall₂ ((forall₂_mem hdeclared).imp ?_)
    rintro declaration item ⟨-, hitem, h⟩
    rw [h.isNew_eq hnew hitem, isMissing_eq hdeclared hnew hnames hitem]
  have hcount := congrArg (List.countP id) hmap
  rw [List.countP_map, List.countP_map] at hcount
  rw [List.countP_map]
  exact hcount.symm

variable [HashedDeclared δ]

/-- No renamed item is gone. -/
theorem matchEntities_rescuing_of_newNames :
    (matchEntities (items.map entityOf) declarations).Rescuing (items.map entityOf)
      (items.map entityOf) declarations := by
  apply matchEntities_rescuing
  · rw [List.length_map, hdeclared.length_eq]
  · intro declaration hmem
    obtain ⟨item, -, h⟩ := exists_right_of_mem hdeclared hmem
    exact h.unattached
  · refine List.forall_mem_map.mpr fun item hmem => ?_
    obtain ⟨declaration, -, h⟩ := exists_left_of_mem hdeclared hmem
    exact ⟨_, h.contentHash⟩
  · exact fun hash => Nat.le_of_eq (countP_isMissing_eq hdeclared hnew hnames hash)

/-- Every declaration stands for an item. -/
theorem standsFor?_ne_none_of_newNames
    (hmem : declaration ∈ (matchEntities (items.map entityOf) declarations).declarations) :
    standsFor? entityOf items declaration ≠ none := by
  have hrescuing := matchEntities_rescuing_of_newNames hdeclared hnew hnames
  rw [standsFor?, ← Option.isSome_iff_ne_none]
  cases hid : Declared.existingId declaration with
  | some id =>
      obtain ⟨entity, hentity, howner, -⟩ := hrescuing.owners declaration hmem id hid
      obtain ⟨item, hitem, rfl⟩ := List.mem_map.mp hentity
      exact List.find?_isSome.mpr ⟨item, hitem, beq_iff_eq.mpr howner⟩
  | none =>
      -- A declaration with a new name would have been taken.
      have hold : isNew (items.map entityOf) (Declared.contentHash declaration) declaration =
          false := by
        by_contra hisNew
        exact hrescuing.existingId_ne_none
          (Nat.le_of_eq (countP_isMissing_eq hdeclared hnew hnames _).symm) hmem
          (by simpa using hisNew) hid
      simpa [isNew] using hold

omit hnew hnames in
/-- An entity is attached only to a declaration whose name no item has. -/
theorem existingId_eq_none_of_kept (hids : (items.map fun item => (entityOf item).id).Nodup)
    (hmem : declaration ∈ (matchEntities (items.map entityOf) declarations).declarations)
    (hitem : item ∈ items) (hname : Declared.name declaration = (entityOf item).name) :
    Declared.existingId declaration = none := by
  have hunattached : ∀ original ∈ declarations, Declared.existingId original = none := by
    intro original hmem
    obtain ⟨item, -, h⟩ := exists_right_of_mem hdeclared hmem
    exact h.unattached
  have hentityIds : ((items.map entityOf).map Entity.id).Nodup := by rwa [List.map_map]
  have hsound := matchEntities_sound hentityIds hunattached
  by_contra hid
  obtain ⟨id, hid⟩ := Option.ne_none_iff_exists'.mp hid
  exact (hsound.owners declaration hmem id hid).2 _ (List.mem_map_of_mem hitem) hname.symm

/-- What is attached to a declaration under a new name is a renamed item with the hash of the
declaration. -/
theorem exists_owner_of_isNew
    (hmem : declaration ∈ (matchEntities (items.map entityOf) declarations).declarations)
    (hisNew : isNew (items.map entityOf) (Declared.contentHash declaration) declaration = true) :
    ∃ owner ∈ items, Declared.existingId declaration = some (entityOf owner).id ∧
      (entityOf owner).contentHash = some (Declared.contentHash declaration) ∧
        newName owner ≠ (entityOf owner).name := by
  have hrescuing := matchEntities_rescuing_of_newNames hdeclared hnew hnames
  have hcount := Nat.le_of_eq (countP_isMissing_eq hdeclared hnew hnames
    (Declared.contentHash declaration)).symm
  obtain ⟨id, hid⟩ :=
    Option.ne_none_iff_exists'.mp (hrescuing.existingId_ne_none hcount hmem hisNew)
  obtain ⟨entity, hentity, howner, hmissing⟩ := hrescuing.owners declaration hmem id hid
  obtain ⟨owner, hownerMem, rfl⟩ := List.mem_map.mp hentity
  rw [isMissing_eq hdeclared hnew hnames hownerMem, Bool.and_eq_true, beq_iff_eq,
    bne_iff_ne] at hmissing
  exact ⟨owner, hownerMem, hid.trans (congrArg some howner.symm), hmissing⟩

/-- Where no two renamed items have the same hash, the declaration of an item stands for it. -/
theorem standsFor?_of_newNames (hids : (items.map fun item => (entityOf item).id).Nodup)
    (hhashes : ((items.filter fun item => newName item != (entityOf item).name).map fun item =>
      (entityOf item).contentHash).Nodup)
    (hmem : declaration ∈ (matchEntities (items.map entityOf) declarations).declarations)
    (hitem : item ∈ items) {original : δ} (hattached : Attached declaration original)
    (horiginal : DeclaresAs entityOf newName original item) :
    standsFor? entityOf items declaration = some item := by
  have hname : Declared.name declaration = newName item := hattached.name.trans horiginal.name
  have hhash : (entityOf item).contentHash = some (Declared.contentHash declaration) := by
    rw [horiginal.contentHash, hattached.contentHash]
  by_cases hkept : newName item = (entityOf item).name
  · have hnone := existingId_eq_none_of_kept hdeclared hids hmem hitem (hname.trans hkept)
    rw [standsFor?, hnone, hname, hkept]
    exact find?_key hnames hitem
  · have hisNew : isNew (items.map entityOf) (Declared.contentHash declaration) declaration =
        true := by
      have hany : ((items.map entityOf).any fun entity => entity.name == newName item) = false := by
        have hfresh := mt (hnew.newName_mem_iff hitem).mp hkept
        simpa using hfresh
      rw [isNew, beq_self_eq_true, hname, hany]
      rfl
    obtain ⟨owner, hownerMem, hid, hownerHash, hrenamed⟩ :=
      exists_owner_of_isNew hdeclared hnew hnames hmem hisNew
    -- The owner has been renamed and has the hash of the item, so it is the item.
    obtain rfl : owner = item :=
      eq_of_key hhashes (List.mem_filter.mpr ⟨hownerMem, bne_iff_ne.mpr hrenamed⟩)
        (List.mem_filter.mpr ⟨hitem, bne_iff_ne.mpr hkept⟩) (hownerHash.trans hhash.symm)
    rw [standsFor?, hid]
    exact find?_key hids hitem

end

end Reconciliation

end SchemaDiagram
