import SchemaDiagram.Proofs.Keyed
import SchemaDiagram.Reconciliation

/-!
# Which declaration stands for which entity

While entities are looked for among declarations, every entity ends up in one of three ways: its
name is declared, or it is attached to a single declaration as a rename, or it is gone.  So every
declaration stands for at most one entity, and the entities that are left are stood for once each.
-/

namespace SchemaDiagram.Reconciliation

variable {α δ : Type}

/-! ## Changing one item -/

theorem mem_modify {items : List α} {position : Nat} {change : α → α} {item : α}
    (h : item ∈ items.modify position change) :
    item ∈ items ∨ ∃ old, items[position]? = some old ∧ item = change old := by
  obtain ⟨place, hplace⟩ := List.mem_iff_getElem?.mp h
  rw [List.getElem?_modify] at hplace
  obtain ⟨old, hold, rfl⟩ := Option.map_eq_some_iff.mp hplace
  by_cases hhere : position = place
  · subst hhere
    exact .inr ⟨old, hold, by rw [if_pos rfl]⟩
  · rw [if_neg hhere]
    exact .inl (List.mem_of_getElem? hold)

theorem modify_mem {items : List α} {position : Nat} {change : α → α} {old : α}
    (hold : items[position]? = some old) : change old ∈ items.modify position change := by
  refine List.mem_of_getElem? (i := position) ?_
  rw [List.getElem?_modify, hold]
  simp

/-- An item that differs from the one at a position stays in the list. -/
theorem mem_modify_of_ne {items : List α} {position : Nat} {change : α → α} {old item : α}
    (hold : items[position]? = some old) (hitem : item ∈ items) (hne : item ≠ old) :
    item ∈ items.modify position change := by
  obtain ⟨place, hplace⟩ := List.mem_iff_getElem?.mp hitem
  have hhere : position ≠ place := by
    rintro rfl
    exact hne (Option.some.inj (hplace.symm.trans hold))
  refine List.mem_of_getElem? (i := place) ?_
  rw [List.getElem?_modify, hplace]
  simp [hhere]

theorem forall₂_modify {r : α → δ → Prop} {items : List α} {declarations : List δ}
    {position : Nat} {change : α → α} {old : α} (h : List.Forall₂ r items declarations)
    (hold : items[position]? = some old) (hchange : ∀ declaration, r old declaration →
      r (change old) declaration) : List.Forall₂ r (items.modify position change) declarations := by
  induction h generalizing position with
  | nil => cases hold
  | cons hfirst hrest ih =>
      cases position with
      | zero =>
          obtain rfl := Option.some.inj hold
          exact .cons (hchange _ hfirst) hrest
      | succ position => exact .cons hfirst (ih hold)

/-! ## The closest of several -/

theorem closest?_mem {found : List (Nat × Nat)} {position : Nat}
    (h : closest? found = some position) : ∃ distance, (position, distance) ∈ found := by
  have hfold : ∀ (rest : List (Nat × Nat)) (best : Nat × Nat),
      (rest.foldl (fun best next => if next.2 < best.2 then next else best) best) ∈
        best :: rest := by
    intro rest
    induction rest with
    | nil => exact fun best => List.mem_singleton_self best
    | cons next rest ih =>
        intro best
        rw [List.foldl_cons]
        by_cases hcloser : next.2 < best.2
        · rw [if_pos hcloser]
          exact List.mem_cons_of_mem _ (ih next)
        · rw [if_neg hcloser]
          rcases List.mem_cons.mp (ih best) with heq | hmem
          · rw [heq]
            exact List.mem_cons_self
          · exact List.mem_cons_of_mem _ (List.mem_cons_of_mem _ hmem)
  cases found with
  | nil => cases h
  | cons first rest =>
      obtain rfl := Option.some.inj h
      exact ⟨_, hfold rest first⟩

/-! ## Declarations -/

variable [Declared δ]

/-- Attaching an entity to a declaration leaves the name alone. -/
class LawfulDeclared (δ : Type) [Declared δ] : Prop where
  name_attach : ∀ (id : Identifier) (declaration : δ),
    Declared.name (Declared.attach id declaration) = Declared.name declaration
  existingId_attach : ∀ (id : Identifier) (declaration : δ),
    Declared.existingId (Declared.attach id declaration) = some id

instance : LawfulDeclared TableDeclaration := ⟨fun _ _ => rfl, fun _ _ => rfl⟩

instance : LawfulDeclared RelationshipDeclaration := ⟨fun _ _ => rfl, fun _ _ => rfl⟩

/-- A declaration, perhaps with an entity attached to it. -/
def Attached (declaration original : δ) : Prop :=
  declaration = original ∨ ∃ id, declaration = Declared.attach id original

/-! ## Candidates -/

/-- The declaration that is chosen is a candidate. -/
theorem isCandidate_of_closest? {entities : List Entity} {entity : Entity} {declarations : List δ}
    {position : Nat} (h : closest? (candidates entities entity declarations) = some position) :
    ∃ declaration, declarations[position]? = some declaration ∧
      isCandidate entities entity declaration = true := by
  obtain ⟨distance, hmem⟩ := closest?_mem h
  obtain ⟨⟨declaration, place⟩, hplace, hsome⟩ := List.mem_filterMap.mp hmem
  by_cases hcandidate : isCandidate entities entity declaration = true
  · simp only [hcandidate, if_true, Option.some.injEq, Prod.mk.injEq] at hsome
    obtain ⟨rfl, -⟩ := hsome
    exact ⟨declaration, List.mem_zipIdx_iff_getElem?.mp hplace, hcandidate⟩
  · simp [hcandidate] at hsome

theorem not_named_of_isCandidate {entities : List Entity} {entity : Entity} {declaration : δ}
    (h : isCandidate entities entity declaration = true) :
    Declared.existingId declaration = none ∧
      ∀ other ∈ entities, other.name ≠ Declared.name declaration := by
  simp only [isCandidate, Bool.and_eq_true, Option.isNone_iff_eq_none, Bool.not_eq_true',
    List.any_eq_false, beq_iff_eq] at h
  exact ⟨h.1.1, h.2⟩

/-! ## The invariant -/

/-- What holds when the entities in `done` have been looked for.  Names never change, so that it
does not matter whose declarations they are taken from. -/
structure Matching.Sound (entities done : List Entity) (declarations : List δ)
    (state : Matching δ) : Prop where
  attached : List.Forall₂ Attached state.declarations declarations
  owners : ∀ declaration ∈ state.declarations, ∀ id, Declared.existingId declaration = some id →
    (∃ entity ∈ done, entity.id = id ∧ entity.name ∉ declarations.map Declared.name) ∧
      ∀ other ∈ entities, other.name ≠ Declared.name declaration
  apart : ∀ first ∈ state.declarations, ∀ second ∈ state.declarations, ∀ id,
    Declared.existingId first = some id → Declared.existingId second = some id →
      Declared.name first = Declared.name second
  gone : ∀ id ∈ state.gone,
    (∃ entity ∈ done, entity.id = id ∧ entity.name ∉ declarations.map Declared.name) ∧
      ∀ declaration ∈ state.declarations, Declared.existingId declaration ≠ some id
  settled : ∀ entity ∈ done, entity.name ∈ declarations.map Declared.name ∨
    (∃ declaration ∈ state.declarations, Declared.existingId declaration = some entity.id) ∨
      entity.id ∈ state.gone

variable {entities done : List Entity} {declarations : List δ} {state : Matching δ}
  {entity : Entity}

theorem Attached.name [LawfulDeclared δ] {declaration original : δ}
    (h : Attached declaration original) : Declared.name declaration = Declared.name original := by
  rcases h with rfl | ⟨id, rfl⟩
  · rfl
  · exact LawfulDeclared.name_attach id original

theorem map_name_of_attached [LawfulDeclared δ] {found : List δ}
    (h : List.Forall₂ Attached found declarations) :
    found.map Declared.name = declarations.map Declared.name :=
  map_eq_of_forall₂ (h.imp fun _ _ hattached => hattached.name)

/-- Attaching an entity to a declaration that has none. -/
theorem attached_modify [LawfulDeclared δ] {found : List δ}
    (h : List.Forall₂ Attached found declarations) {position : Nat} {chosen : δ}
    (hchosen : found[position]? = some chosen)
    (hunattached : Declared.existingId chosen = none) (id : Identifier) :
    List.Forall₂ Attached (found.modify position (Declared.attach id)) declarations := by
  refine forall₂_modify h hchosen ?_
  rintro original (rfl | ⟨other, rfl⟩)
  · exact .inr ⟨id, rfl⟩
  · rw [LawfulDeclared.existingId_attach] at hunattached
    cases hunattached

theorem owner_more {names : List String} {id : Identifier}
    (h : ∃ owner ∈ done, owner.id = id ∧ owner.name ∉ names) :
    ∃ owner ∈ done ++ [entity], owner.id = id ∧ owner.name ∉ names := by
  obtain ⟨owner, howner, hid⟩ := h
  exact ⟨owner, List.mem_append_left _ howner, hid⟩

/-- An entity whose name is declared is left alone. -/
theorem Matching.Sound.named (h : state.Sound entities done declarations)
    (hname : entity.name ∈ declarations.map Declared.name) :
    state.Sound entities (done ++ [entity]) declarations := by
  refine ⟨h.attached, ?_, h.apart, ?_, ?_⟩
  · intro declaration hmem id hid
    obtain ⟨howner, hother⟩ := h.owners declaration hmem id hid
    exact ⟨owner_more howner, hother⟩
  · intro id hid
    obtain ⟨hlost, hnone⟩ := h.gone id hid
    exact ⟨owner_more hlost, hnone⟩
  · intro other hother
    rcases List.mem_append.mp hother with hold | hnew
    · exact h.settled other hold
    · obtain rfl := List.mem_singleton.mp hnew
      exact .inl hname

/-- An entity that nothing is found for is gone. -/
theorem Matching.Sound.lost (h : state.Sound entities done declarations)
    (hfresh : ∀ other ∈ done, other.id ≠ entity.id)
    (hname : entity.name ∉ declarations.map Declared.name) :
    Matching.Sound entities (done ++ [entity]) declarations
      { state with gone := state.gone ++ [entity.id] } := by
  refine ⟨h.attached, ?_, h.apart, ?_, ?_⟩
  · intro declaration hmem id hid
    obtain ⟨howner, hother⟩ := h.owners declaration hmem id hid
    exact ⟨owner_more howner, hother⟩
  · intro id hid
    rcases List.mem_append.mp hid with hold | hnew
    · obtain ⟨hlost, hnone⟩ := h.gone id hold
      exact ⟨owner_more hlost, hnone⟩
    · obtain rfl := List.mem_singleton.mp hnew
      refine ⟨⟨entity, List.mem_append_right _ (List.mem_singleton_self _), rfl, hname⟩, ?_⟩
      intro declaration hmem hid
      obtain ⟨⟨owner, howner, hsame, -⟩, -⟩ := h.owners declaration hmem _ hid
      exact hfresh owner howner hsame
  · intro other hother
    rcases List.mem_append.mp hother with hold | hnew
    · rcases h.settled other hold with hnamed | hattached | hgone
      · exact .inl hnamed
      · exact .inr (.inl hattached)
      · exact .inr (.inr (List.mem_append_left _ hgone))
    · obtain rfl := List.mem_singleton.mp hnew
      exact .inr (.inr (List.mem_append_right _ (List.mem_singleton_self _)))

/-- Once an entity is attached to a declaration, what is attached to any declaration is this entity,
or it was attached before. -/
theorem Matching.Sound.attached_cases [LawfulDeclared δ]
    (h : state.Sound entities done declarations) (hfresh : ∀ other ∈ done, other.id ≠ entity.id)
    {position : Nat} {chosen : δ} (hchosen : state.declarations[position]? = some chosen) :
    ∀ declaration ∈ state.declarations.modify position (Declared.attach entity.id),
      ∀ id, Declared.existingId declaration = some id →
        (declaration ∈ state.declarations ∧ id ≠ entity.id) ∨
          (declaration = Declared.attach entity.id chosen ∧ id = entity.id) := by
  intro declaration hmem id hid
  rcases mem_modify hmem with hold | ⟨old, hat, rfl⟩
  · obtain ⟨⟨owner, howner, rfl, -⟩, -⟩ := h.owners declaration hold id hid
    exact .inl ⟨hold, hfresh owner howner⟩
  · obtain rfl := Option.some.inj (hat.symm.trans hchosen)
    rw [LawfulDeclared.existingId_attach] at hid
    exact .inr ⟨rfl, (Option.some.inj hid).symm⟩

/-- A renamed entity is attached to the declaration that is chosen for it. -/
theorem Matching.Sound.rescued [LawfulDeclared δ] (h : state.Sound entities done declarations)
    (hfresh : ∀ other ∈ done, other.id ≠ entity.id)
    (hname : entity.name ∉ declarations.map Declared.name) {position : Nat} {chosen : δ}
    (hchosen : state.declarations[position]? = some chosen)
    (hcandidate : isCandidate entities entity chosen = true) :
    Matching.Sound entities (done ++ [entity]) declarations
      { state with
        declarations := state.declarations.modify position (Declared.attach entity.id) } := by
  obtain ⟨hunattached, hunnamed⟩ := not_named_of_isCandidate hcandidate
  have hself : entity ∈ done ++ [entity] := List.mem_append_right _ (List.mem_singleton_self _)
  have hcases := h.attached_cases hfresh hchosen
  have hkept : ∀ declaration ∈ state.declarations, ∀ id,
      Declared.existingId declaration = some id →
        declaration ∈ state.declarations.modify position (Declared.attach entity.id) := by
    intro declaration hmem id hid
    apply mem_modify_of_ne hchosen hmem
    rintro rfl
    rw [hunattached] at hid
    cases hid
  constructor
  · exact attached_modify h.attached hchosen hunattached entity.id
  · intro declaration hmem id hid
    rcases hcases declaration hmem id hid with ⟨hold, -⟩ | ⟨rfl, rfl⟩
    · obtain ⟨howner, hother⟩ := h.owners declaration hold id hid
      exact ⟨owner_more howner, hother⟩
    · refine ⟨⟨entity, hself, rfl, hname⟩, ?_⟩
      rw [LawfulDeclared.name_attach]
      exact hunnamed
  · intro first hfirst second hsecond id hid hid'
    rcases hcases first hfirst id hid with ⟨hold, hne⟩ | ⟨rfl, rfl⟩
    · rcases hcases second hsecond id hid' with ⟨hold', -⟩ | ⟨-, rfl⟩
      · exact h.apart first hold second hold' id hid hid'
      · exact absurd rfl hne
    · rcases hcases second hsecond _ hid' with ⟨-, hne⟩ | ⟨rfl, -⟩
      · exact absurd rfl hne
      · rfl
  · intro id hid
    obtain ⟨howner, hnone⟩ := h.gone id hid
    refine ⟨owner_more howner, ?_⟩
    intro declaration hmem hattached
    rcases hcases declaration hmem _ hattached with ⟨hold, -⟩ | ⟨-, hsame⟩
    · exact hnone declaration hold hattached
    · obtain ⟨lost, hlost, rfl, -⟩ := howner
      exact hfresh lost hlost hsame
  · intro other hother
    rcases List.mem_append.mp hother with hold | hnew
    · rcases h.settled other hold with hnamed | ⟨declaration, hmem, hid⟩ | hgone
      · exact .inl hnamed
      · exact .inr (.inl ⟨declaration, hkept declaration hmem _ hid, hid⟩)
      · exact .inr (.inr hgone)
    · obtain rfl := List.mem_singleton.mp hnew
      exact .inr (.inl ⟨_, modify_mem hchosen, LawfulDeclared.existingId_attach _ _⟩)

/-- Looking for one more entity. -/
theorem Matching.Sound.settle [LawfulDeclared δ] (h : state.Sound entities done declarations)
    (hfresh : ∀ other ∈ done, other.id ≠ entity.id) (guess : Bool) :
    (state.settle entities guess entity).Sound entities (done ++ [entity]) declarations := by
  have hnames := map_name_of_attached h.attached
  by_cases hname : entity.name ∈ declarations.map Declared.name
  · have hany : (state.declarations.any fun declaration =>
        Declared.name declaration == entity.name) = true := by
      rw [← hnames] at hname
      obtain ⟨declaration, hmem, hsame⟩ := List.mem_map.mp hname
      exact List.any_eq_true.mpr ⟨declaration, hmem, beq_iff_eq.mpr hsame⟩
    rw [Matching.settle, if_pos hany]
    exact h.named hname
  · have hany : ¬ (state.declarations.any fun declaration =>
        Declared.name declaration == entity.name) = true := by
      rw [← hnames] at hname
      intro htrue
      obtain ⟨declaration, hmem, hsame⟩ := List.any_eq_true.mp htrue
      exact hname (List.mem_map.mpr ⟨declaration, hmem, beq_iff_eq.mp hsame⟩)
    rw [Matching.settle, if_neg hany]
    dsimp only
    split
    · next position hposition =>
        cases guess with
        | false => cases hposition
        | true =>
            obtain ⟨chosen, hchosen, hcandidate⟩ := isCandidate_of_closest? hposition
            exact h.rescued hfresh hname hchosen hcandidate
    · exact h.lost hfresh hname

/-- Looking for all entities. -/
theorem matchEntities_sound [LawfulDeclared δ] (hids : (entities.map Entity.id).Nodup)
    (hnew : ∀ declaration ∈ declarations, Declared.existingId declaration = none) :
    (matchEntities entities declarations).Sound entities entities declarations := by
  have hrun : ∀ (rest done : List Entity) (guess : Bool) (state : Matching δ),
      ((done ++ rest).map Entity.id).Nodup → state.Sound entities done declarations →
        (rest.foldl (Matching.settle entities guess) state).Sound entities (done ++ rest)
          declarations := by
    intro rest
    induction rest with
    | nil =>
        intro done guess state _ h
        rwa [List.append_nil]
    | cons entity rest ih =>
        intro done guess state hnodup h
        have hfresh : ∀ other ∈ done, other.id ≠ entity.id := by
          intro other hother heq
          rw [List.map_append, List.nodup_append] at hnodup
          exact hnodup.2.2 other.id (List.mem_map_of_mem hother) entity.id
            (List.mem_map_of_mem List.mem_cons_self) heq
        have hsplit : done ++ entity :: rest = (done ++ [entity]) ++ rest := by simp
        rw [hsplit] at hnodup ⊢
        rw [List.foldl_cons]
        exact ih (done ++ [entity]) guess _ hnodup (h.settle hfresh guess)
  refine hrun entities [] _ _ hids ⟨?_, ?_, ?_, ?_, ?_⟩
  · exact List.forall₂_same.mpr fun _ _ => .inl rfl
  · intro declaration hmem id hid
    rw [hnew declaration hmem] at hid
    cases hid
  · intro first hfirst _ _ id hid
    rw [hnew first hfirst] at hid
    cases hid
  · exact fun _ hid => absurd hid List.not_mem_nil
  · exact fun _ hmem => absurd hmem List.not_mem_nil

/-! ## Items that declarations stand for -/

/-- The item that a declaration stands for, where items are compared as entities: the one attached
to it, or else the one of the same name. -/
def standsFor? (entityOf : α → Entity) (items : List α) (declaration : δ) : Option α :=
  match Declared.existingId declaration with
  | some id => items.find? fun item => (entityOf item).id == id
  | none => items.find? fun item => (entityOf item).name == Declared.name declaration

section

variable {entityOf : α → Entity} {items : List α} {item : α}

theorem standsFor?_mem {declaration : δ} (h : standsFor? entityOf items declaration = some item) :
    item ∈ items := by
  unfold standsFor? at h
  split at h
  · exact List.mem_of_find?_eq_some h
  · exact List.mem_of_find?_eq_some h

/-- Either an item is attached to the declaration that stands for it, and then its name is not
declared, or it has the name of the declaration. -/
theorem standsFor?_cases {declaration : δ}
    (hsound : state.Sound (items.map entityOf) (items.map entityOf) declarations)
    (hids : (items.map fun item => (entityOf item).id).Nodup)
    (hmem : declaration ∈ state.declarations)
    (h : standsFor? entityOf items declaration = some item) :
    (Declared.existingId declaration = some (entityOf item).id ∧
        (entityOf item).name ∉ declarations.map Declared.name) ∨
      (Declared.existingId declaration = none ∧
        (entityOf item).name = Declared.name declaration) := by
  have hitem := standsFor?_mem h
  unfold standsFor? at h
  split at h
  · next id hid =>
      have hsame : (entityOf item).id = id := by simpa using List.find?_some h
      obtain ⟨⟨entity, hentity, howner, hname⟩, -⟩ := hsound.owners declaration hmem id hid
      obtain ⟨other, hother, rfl⟩ := List.mem_map.mp hentity
      obtain rfl := eq_of_key hids hitem hother (hsame.trans howner.symm)
      exact .inl ⟨by rw [hid, hsame], hname⟩
  · next hnone => exact .inr ⟨hnone, by simpa using List.find?_some h⟩

theorem standsFor?_not_gone [LawfulDeclared δ] {declaration : δ}
    (hsound : state.Sound (items.map entityOf) (items.map entityOf) declarations)
    (hids : (items.map fun item => (entityOf item).id).Nodup)
    (hmem : declaration ∈ state.declarations)
    (h : standsFor? entityOf items declaration = some item) :
    (entityOf item).id ∉ state.gone := by
  intro hgone
  obtain ⟨⟨entity, hentity, hlost, hname⟩, hnone⟩ := hsound.gone _ hgone
  rcases standsFor?_cases hsound hids hmem h with ⟨hid, -⟩ | ⟨-, hsame⟩
  · exact hnone declaration hmem hid
  · obtain ⟨other, hother, rfl⟩ := List.mem_map.mp hentity
    obtain rfl := eq_of_key hids (standsFor?_mem h) hother hlost.symm
    rw [hsame, ← map_name_of_attached hsound.attached] at hname
    exact hname (List.mem_map_of_mem hmem)

/-- An item that is not gone is stood for. -/
theorem exists_standsFor? [LawfulDeclared δ]
    (hsound : state.Sound (items.map entityOf) (items.map entityOf) declarations)
    (hids : (items.map fun item => (entityOf item).id).Nodup)
    (hnames : (items.map fun item => (entityOf item).name).Nodup) (hitem : item ∈ items)
    (hkept : (entityOf item).id ∉ state.gone) :
    ∃ declaration ∈ state.declarations, standsFor? entityOf items declaration = some item := by
  have hentity : entityOf item ∈ items.map entityOf := List.mem_map_of_mem hitem
  rcases hsound.settled _ hentity with hname | ⟨declaration, hmem, hid⟩ | hgone
  · rw [← map_name_of_attached hsound.attached] at hname
    obtain ⟨declaration, hmem, hsame⟩ := List.mem_map.mp hname
    have hnone : Declared.existingId declaration = none := by
      cases hid : Declared.existingId declaration with
      | none => rfl
      | some id =>
          exact absurd hsame.symm ((hsound.owners declaration hmem id hid).2 _ hentity)
    refine ⟨declaration, hmem, ?_⟩
    rw [standsFor?, hnone, hsame]
    exact find?_key hnames hitem
  · refine ⟨declaration, hmem, ?_⟩
    rw [standsFor?, hid]
    exact find?_key hids hitem
  · exact absurd hgone hkept

/-- No two declarations stand for the same item. -/
theorem standsFor?_apart [LawfulDeclared δ] {first second : δ}
    (hsound : state.Sound (items.map entityOf) (items.map entityOf) declarations)
    (hids : (items.map fun item => (entityOf item).id).Nodup)
    (hfirst : first ∈ state.declarations) (hsecond : second ∈ state.declarations)
    (h : standsFor? entityOf items first = some item)
    (h' : standsFor? entityOf items second = some item) :
    Declared.name first = Declared.name second := by
  have hdeclared : ∀ declaration ∈ state.declarations,
      Declared.name declaration ∈ declarations.map Declared.name := by
    intro declaration hmem
    rw [← map_name_of_attached hsound.attached]
    exact List.mem_map_of_mem hmem
  rcases standsFor?_cases hsound hids hfirst h with ⟨hid, hname⟩ | ⟨-, hname⟩
  · rcases standsFor?_cases hsound hids hsecond h' with ⟨hid', -⟩ | ⟨-, hname'⟩
    · exact hsound.apart first hfirst second hsecond _ hid hid'
    · rw [hname'] at hname
      exact absurd (hdeclared second hsecond) hname
  · rcases standsFor?_cases hsound hids hsecond h' with ⟨-, hname'⟩ | ⟨-, hname'⟩
    · rw [hname] at hname'
      exact absurd (hdeclared first hfirst) hname'
    · exact hname.symm.trans hname'

/-- The items that declarations with distinct names stand for are the items that are left. -/
theorem filterMap_standsFor?_perm [LawfulDeclared δ]
    (hsound : state.Sound (items.map entityOf) (items.map entityOf) declarations)
    (hids : (items.map fun item => (entityOf item).id).Nodup)
    (hnames : (items.map fun item => (entityOf item).name).Nodup)
    (hdeclared : (declarations.map Declared.name).Nodup) :
    (state.declarations.filterMap (standsFor? entityOf items)).Perm
      (items.filter fun item => !state.gone.contains (entityOf item).id) := by
  have hitems : items.Nodup := List.Nodup.of_map _ hids
  have hfound : (state.declarations.filterMap (standsFor? entityOf items)).Nodup := by
    rw [← map_name_of_attached hsound.attached, List.Nodup, List.pairwise_map] at hdeclared
    rw [List.Nodup, List.pairwise_filterMap]
    refine hdeclared.imp_of_mem ?_
    rintro first second hfirst hsecond hne item h other h' rfl
    exact hne (standsFor?_apart hsound hids hfirst hsecond h h')
  rw [List.perm_ext_iff_of_nodup hfound (hitems.filter _)]
  intro item
  simp only [List.mem_filterMap, List.mem_filter, List.contains_eq_mem, Bool.not_eq_true',
    decide_eq_false_iff_not]
  constructor
  · rintro ⟨declaration, hmem, h⟩
    exact ⟨standsFor?_mem h, standsFor?_not_gone hsound hids hmem h⟩
  · rintro ⟨hitem, hkept⟩
    exact exists_standsFor? hsound hids hnames hitem hkept

/-- After a search every declaration is what it was, up to what is attached to it, and the
declarations stand for the items that are not gone, one for one. -/
theorem matchEntities_stands [LawfulDeclared δ] (entityOf : α → Entity)
    (hids : (items.map fun item => (entityOf item).id).Nodup)
    (hnames : (items.map fun item => (entityOf item).name).Nodup)
    (hnew : ∀ declaration ∈ declarations, Declared.existingId declaration = none)
    (hdeclared : (declarations.map Declared.name).Nodup) :
    let matching := matchEntities (items.map entityOf) declarations
    let kept := items.filter fun item => !matching.gone.contains (entityOf item).id
    List.Forall₂ Attached matching.declarations declarations ∧
      (matching.declarations.filterMap (standsFor? entityOf items)).Perm kept ∧
      (kept.map fun item => (entityOf item).id).Nodup := by
  intro matching kept
  have hentityIds : ((items.map entityOf).map Entity.id).Nodup := by
    rwa [List.map_map]
  have hsound : matching.Sound (items.map entityOf) (items.map entityOf) declarations :=
    matchEntities_sound hentityIds hnew
  refine ⟨hsound.attached, ?_, ?_⟩
  · exact filterMap_standsFor?_perm hsound hids hnames hdeclared
  · exact hids.sublist (List.filter_sublist.map _)

end

end SchemaDiagram.Reconciliation
