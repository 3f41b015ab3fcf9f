import SchemaDiagram.Proofs.Reconciliation.Matching

/-!
# No rename runs out of candidates

Entities whose names are no longer declared compete for the declarations that no entity has the name
of.  They are looked for in order, and each of them takes the closest candidate with its own hash.
Whatever they take, an entity only ever takes from its own hash class: if no class has more missing
entities than new declarations, then every missing entity is attached to a declaration, and none is
gone.
-/

namespace SchemaDiagram.Reconciliation

variable {α δ : Type}

/-! ## Counting -/

/-- Changing one item changes a count by what this item counts. -/
theorem countP_modify {p : α → Bool} {items : List α} {position : Nat} {old : α}
    (hold : items[position]? = some old) (change : α → α) :
    (items.modify position change).countP p + (if p old then 1 else 0) =
      items.countP p + if p (change old) then 1 else 0 := by
  induction items generalizing position with
  | nil => cases hold
  | cons first rest ih =>
      cases position with
      | zero =>
          obtain rfl := Option.some.inj hold
          simp only [List.modify_zero_cons, List.countP_cons]
          omega
      | succ position =>
          rw [List.getElem?_cons_succ] at hold
          have hrest := ih hold
          simp only [List.modify_succ_cons, List.countP_cons]
          omega

theorem countP_split (p r : α → Bool) (items : List α) :
    items.countP p =
      items.countP (fun item => p item && r item) +
        items.countP fun item => p item && !r item := by
  induction items with
  | nil => rfl
  | cons first rest ih =>
      simp only [List.countP_cons, ih]
      cases p first <;> cases r first <;> simp <;> omega

/-! ## Candidates -/

theorem exists_closest? [Declared δ] {entities : List Entity} {entity : Entity}
    {declarations : List δ} {declaration : δ} (hmem : declaration ∈ declarations)
    (hcandidate : isCandidate entities entity declaration = true) :
    ∃ position, closest? (candidates entities entity declarations) = some position := by
  obtain ⟨position, hposition⟩ := List.mem_iff_getElem?.mp hmem
  have hfound : (position, editDistance entity.name.toList (Declared.name declaration).toList) ∈
      candidates entities entity declarations := by
    refine List.mem_filterMap.mpr
      ⟨(declaration, position), List.mem_zipIdx_iff_getElem?.mpr hposition, ?_⟩
    simp only [hcandidate, if_true]
  cases hcandidates : candidates entities entity declarations with
  | nil => exact absurd hfound (hcandidates ▸ List.not_mem_nil)
  | cons first rest => exact ⟨_, rfl⟩

/-- Attaching an entity to a declaration leaves the hash alone as well. -/
class HashedDeclared (δ : Type) [Declared δ] : Prop extends LawfulDeclared δ where
  contentHash_attach : ∀ (id : Identifier) (declaration : δ),
    Declared.contentHash (Declared.attach id declaration) = Declared.contentHash declaration

instance : HashedDeclared TableDeclaration := ⟨fun _ _ => rfl⟩

instance : HashedDeclared RelationshipDeclaration := ⟨fun _ _ => rfl⟩

section Matching

variable [Declared δ]

/-- No entity has the name of the declaration, which has a given hash. -/
def isNew (entities : List Entity) (hash : Int32) (declaration : δ) : Bool :=
  Declared.contentHash declaration == hash &&
    !(entities.any fun entity => entity.name == Declared.name declaration)

/-- An entity is attached to a new declaration. -/
def isTaken (entities : List Entity) (hash : Int32) (declaration : δ) : Bool :=
  isNew entities hash declaration && (Declared.existingId declaration).isSome

/-- No declaration has the name of the entity, which has a given hash. -/
def isMissing (declarations : List δ) (hash : Int32) (entity : Entity) : Bool :=
  entity.contentHash == some hash &&
    !(declarations.any fun declaration => Declared.name declaration == entity.name)

/-- What holds when the entities in `done` have been looked for: in every hash class as many
declarations are taken as entities were missing, and nothing is gone. -/
structure Matching.Rescuing (entities done : List Entity) (declarations : List δ)
    (state : Matching δ) : Prop where
  attached : List.Forall₂ Attached state.declarations declarations
  taken : ∀ hash, state.declarations.countP (isTaken entities hash) =
    done.countP (isMissing declarations hash)
  owners : ∀ declaration ∈ state.declarations, ∀ id, Declared.existingId declaration = some id →
    ∃ entity ∈ done, entity.id = id ∧
      isMissing declarations (Declared.contentHash declaration) entity = true
  gone : state.gone = []

variable [HashedDeclared δ] {entities done : List Entity} {declarations : List δ}
  {state : Matching δ} {entity : Entity}

theorem Attached.contentHash {declaration original : δ}
    (h : Attached declaration original) :
    Declared.contentHash declaration = Declared.contentHash original := by
  rcases h with rfl | ⟨id, rfl⟩
  · rfl
  · exact HashedDeclared.contentHash_attach id original

/-- Attaching entities makes no declaration new, and none old. -/
theorem countP_isNew_of_attached {found : List δ} (h : List.Forall₂ Attached found declarations)
    (entities : List Entity) (hash : Int32) :
    found.countP (isNew entities hash) = declarations.countP (isNew entities hash) := by
  have hmap : found.map (isNew entities hash) = declarations.map (isNew entities hash) := by
    refine map_eq_of_forall₂ (h.imp fun declaration original hattached => ?_)
    simp only [isNew, hattached.contentHash, hattached.name]
  have hcount := congrArg (List.countP id) hmap
  rwa [List.countP_map, List.countP_map] at hcount

theorem any_name_of_attached {found : List δ} (h : List.Forall₂ Attached found declarations)
    (name : String) :
    (found.any fun declaration => Declared.name declaration == name) =
      declarations.any fun declaration => Declared.name declaration == name := by
  have hnames := congrArg (fun names => names.any fun other => other == name)
    (map_name_of_attached h)
  simpa only [List.any_map, Function.comp_def] using hnames

omit [HashedDeclared δ] in
/-- New declarations are taken or still open. -/
theorem countP_isNew (entities : List Entity) (hash : Int32) (found : List δ) :
    found.countP (isNew entities hash) = found.countP (isTaken entities hash) +
      found.countP fun declaration =>
        isNew entities hash declaration && !(Declared.existingId declaration).isSome :=
  countP_split _ _ found

omit [HashedDeclared δ] in
/-- As long as fewer declarations of a class are taken than are new, one of them is a candidate. -/
theorem exists_isCandidate {found : List δ} {hash : Int32} (hhash : entity.contentHash = some hash)
    (hroom : found.countP (isTaken entities hash) < found.countP (isNew entities hash)) :
    ∃ declaration ∈ found, isCandidate entities entity declaration = true := by
  rw [countP_isNew] at hroom
  obtain ⟨declaration, hmem, hopen⟩ := List.countP_pos_iff.mp (Nat.pos_of_lt_add_right hroom)
  refine ⟨declaration, hmem, ?_⟩
  simp only [isNew, Bool.and_eq_true, beq_iff_eq, Bool.not_eq_true', Option.isSome_eq_false_iff]
    at hopen
  simp only [isCandidate, Bool.and_eq_true, beq_iff_eq, Bool.not_eq_true', hhash,
    Option.some.injEq]
  exact ⟨⟨hopen.2, hopen.1.1.symm⟩, hopen.1.2⟩

/-- An entity whose name is declared is left alone. -/
theorem Matching.Rescuing.named (h : state.Rescuing entities done declarations)
    (hname : (declarations.any fun declaration =>
      Declared.name declaration == entity.name) = true) :
    (state.settle entities true entity).Rescuing entities (done ++ [entity]) declarations := by
  have hpresent : ∀ hash, isMissing declarations hash entity = false := by
    intro hash
    rw [isMissing, hname, Bool.not_true, Bool.and_false]
  rw [Matching.settle, any_name_of_attached h.attached, if_pos hname]
  refine ⟨h.attached, ?_, ?_, h.gone⟩
  · intro hash
    rw [h.taken hash, List.countP_append, List.countP_singleton, hpresent hash]
    simp
  · intro declaration hmem id hid
    obtain ⟨owner, howner, howned⟩ := h.owners declaration hmem id hid
    exact ⟨owner, List.mem_append_left _ howner, howned⟩

/-- A missing entity is attached to a candidate, if its class is not used up. -/
theorem Matching.Rescuing.missing (h : state.Rescuing entities done declarations)
    (hname : (declarations.any fun declaration =>
      Declared.name declaration == entity.name) = false)
    {hash : Int32} (hhash : entity.contentHash = some hash)
    (hroom : done.countP (isMissing declarations hash) <
      declarations.countP (isNew entities hash)) :
    (state.settle entities true entity).Rescuing entities (done ++ [entity]) declarations := by
  have hmissing : ∀ other, isMissing declarations other entity = (hash == other) := by
    intro other
    simp [isMissing, hhash, hname]
  rw [← h.taken hash, ← countP_isNew_of_attached h.attached] at hroom
  obtain ⟨candidate, hmem, hcandidate⟩ := exists_isCandidate hhash hroom
  obtain ⟨position, hposition⟩ := exists_closest? hmem hcandidate
  obtain ⟨chosen, hchosen, hsuits⟩ := isCandidate_of_closest? hposition
  have hsettle : state.settle entities true entity =
      { state with
        declarations := state.declarations.modify position (Declared.attach entity.id) } := by
    simp only [Matching.settle, any_name_of_attached h.attached, hname, hposition, if_true,
      Bool.false_eq_true, if_false]
  simp only [isCandidate, Bool.and_eq_true, beq_iff_eq, Bool.not_eq_true', hhash,
    Option.some.injEq, Option.isNone_iff_eq_none] at hsuits
  obtain ⟨⟨hunattached, hsame⟩, hunnamed⟩ := hsuits
  rw [hsettle]
  refine ⟨?_, ?_, ?_, h.gone⟩
  · exact attached_modify h.attached hchosen hunattached entity.id
  -- One declaration more is taken in the class of the entity, and none in any other class.
  · intro other
    have hbefore : isTaken entities other chosen = false := by
      simp [isTaken, hunattached]
    have hafter : isTaken entities other (Declared.attach entity.id chosen) = (hash == other) := by
      simp [isTaken, isNew, HashedDeclared.contentHash_attach, LawfulDeclared.name_attach,
        LawfulDeclared.existingId_attach, hunnamed, hsame]
    have hcount := countP_modify (p := isTaken entities other) hchosen (Declared.attach entity.id)
    rw [hbefore, hafter, h.taken other] at hcount
    simpa only [List.countP_append, List.countP_singleton, hmissing, Bool.false_eq_true, if_false,
      Nat.add_zero] using hcount
  · intro declaration hdeclaration id hid
    rcases mem_modify hdeclaration with hold | ⟨old, hat, rfl⟩
    · obtain ⟨owner, howner, howned⟩ := h.owners declaration hold id hid
      exact ⟨owner, List.mem_append_left _ howner, howned⟩
    · obtain rfl := Option.some.inj (hat.symm.trans hchosen)
      rw [LawfulDeclared.existingId_attach] at hid
      refine ⟨entity, List.mem_append_right _ (List.mem_singleton_self _), Option.some.inj hid, ?_⟩
      rw [hmissing, HashedDeclared.contentHash_attach, hsame, beq_self_eq_true]

/-- If no class has more missing entities than new declarations, every entity that is missing is
attached to a declaration of its class. -/
theorem matchEntities_rescuing (hlength : declarations.length = entities.length)
    (hnew : ∀ declaration ∈ declarations, Declared.existingId declaration = none)
    (hhashed : ∀ entity ∈ entities, ∃ hash, entity.contentHash = some hash)
    (hroom : ∀ hash, entities.countP (isMissing declarations hash) ≤
      declarations.countP (isNew entities hash)) :
    (matchEntities entities declarations).Rescuing entities entities declarations := by
  have hrun : ∀ (rest done : List Entity) (state : Matching δ), done ++ rest = entities →
      state.Rescuing entities done declarations →
        (rest.foldl (Matching.settle entities true) state).Rescuing entities entities
          declarations := by
    intro rest
    induction rest with
    | nil =>
        rintro done state hall h
        rw [List.append_nil] at hall
        rwa [hall] at h
    | cons entity rest ih =>
        intro done state hall h
        have hsplit : (done ++ [entity]) ++ rest = entities := by simpa using hall
        refine ih (done ++ [entity]) _ hsplit ?_
        cases hname : declarations.any fun declaration =>
            Declared.name declaration == entity.name with
        | true => exact h.named hname
        | false =>
            have hmem : entity ∈ entities := by
              rw [← hall]
              exact List.mem_append_right _ List.mem_cons_self
            obtain ⟨hash, hhash⟩ := hhashed entity hmem
            -- The entity is missing itself, so fewer than all missing ones of its class are done.
            refine h.missing hname hhash (Nat.lt_of_lt_of_le ?_ (hroom hash))
            have hmissing : isMissing declarations hash entity = true := by
              simp [isMissing, hhash, hname]
            rw [← hall, List.countP_append, List.countP_cons, hmissing, if_pos rfl]
            omega
  have hguess : (declarations.length == entities.length) = true := beq_iff_eq.mpr hlength
  rw [matchEntities, hguess]
  refine hrun entities [] _ rfl ⟨List.forall₂_same.mpr fun _ _ => .inl rfl, ?_, ?_, rfl⟩
  · intro hash
    rw [List.countP_nil, List.countP_eq_zero]
    intro declaration hmem
    simp [isTaken, hnew declaration hmem]
  · intro declaration hmem id hid
    rw [hnew declaration hmem] at hid
    cases hid

/-- If a class has as many missing entities as new declarations, all of these are taken. -/
theorem Matching.Rescuing.existingId_ne_none
    (h : state.Rescuing entities entities declarations) {hash : Int32}
    (hcount : declarations.countP (isNew entities hash) ≤
      entities.countP (isMissing declarations hash)) {declaration : δ}
    (hmem : declaration ∈ state.declarations)
    (hisNew : isNew entities hash declaration = true) :
    Declared.existingId declaration ≠ none := by
  intro hnone
  rw [← h.taken hash, ← countP_isNew_of_attached h.attached, countP_isNew] at hcount
  have hopen : 0 < state.declarations.countP (fun declaration =>
      isNew entities hash declaration && !(Declared.existingId declaration).isSome) :=
    List.countP_pos_iff.mpr ⟨declaration, hmem, by simp [hisNew, hnone]⟩
  omega

end Matching

end SchemaDiagram.Reconciliation
