import Mathlib.Algebra.BigOperators.Group.List.Lemmas
import Mathlib.Algebra.GroupWithZero.Nat
import Mathlib.Data.List.Sort
import Mathlib.Data.String.Basic
import SchemaDiagram.Session.Schemas

/-!
# Tables grouped by schema

The schemas of a diagram are the names that its tables carry.  Sorting puts equal names side by
side, so that one look at the neighbour is enough to list each name once; a second sorting moves the
default name to the front and leaves the others in ascending order.  What is chosen while nothing
else is asked for is then the first schema listed.  Identifiers decide which tables are shown, and
names that differ in case or in spaces alone share theirs.
-/

namespace SchemaDiagram.Session

variable {κ : Type}

/-! ## The loaded diagram -/

theorem dialect_of_loaded {session : Session κ} {diagram : Diagram κ}
    (hloaded : session.diagram? = some diagram) : session.dialect = diagram.dialect := by
  rw [dialect, hloaded]
  rfl

theorem tables_of_loaded {session : Session κ} {diagram : Diagram κ}
    (hloaded : session.diagram? = some diagram) : session.tables = diagram.tables := by
  rw [tables, hloaded]
  rfl

/-! ## Each name once -/

/-- Dropping repeated neighbours from a sorted list leaves each of its items once.  The items kept
so far stand in reverse order, and the first of the others has not been compared yet. -/
theorem exists_eraseReps_loop {first : String} {rest : List String}
    (h : (first :: rest).Pairwise (· ≤ ·)) (kept : List String) :
    ∃ more, List.eraseRepsBy.loop (· == ·) first rest kept = kept.reverse ++ first :: more ∧
      (first :: more).Pairwise (· < ·) ∧ ∀ name, name ∈ first :: more ↔ name ∈ first :: rest := by
  induction rest generalizing first kept with
  | nil => exact ⟨[], by simp [List.eraseRepsBy.loop], List.pairwise_singleton _ _, fun _ => .rfl⟩
  | cons second rest ih =>
      obtain ⟨hfirst, hrest⟩ := List.pairwise_cons.mp h
      by_cases hsame : first = second
      · subst hsame
        obtain ⟨more, hloop, hpairwise, hmem⟩ := ih hrest kept
        refine ⟨more, by simp [List.eraseRepsBy.loop, hloop], hpairwise, fun name => ?_⟩
        rw [hmem, List.mem_cons, List.mem_cons, List.mem_cons, or_self_left]
      · obtain ⟨more, hloop, hpairwise, hmem⟩ := ih hrest (first :: kept)
        have hdiffers : (first == second) = false := beq_false_of_ne hsame
        have hbelow : first < second := lt_of_le_of_ne (hfirst second List.mem_cons_self) hsame
        refine ⟨second :: more, by simp [List.eraseRepsBy.loop, hdiffers, hloop], ?_,
          fun name => ?_⟩
        · refine List.pairwise_cons.mpr ⟨fun name hname => ?_, hpairwise⟩
          rcases List.mem_cons.mp ((hmem name).mp hname) with rfl | hname
          · exact hbelow
          · exact hbelow.trans_le ((List.pairwise_cons.mp hrest).1 name hname)
        · rw [List.mem_cons, hmem, ← List.mem_cons]

theorem eraseReps_of_sorted {names : List String} (h : names.Pairwise (· ≤ ·)) :
    names.eraseReps.Pairwise (· < ·) ∧ ∀ name, name ∈ names.eraseReps ↔ name ∈ names := by
  cases names with
  | nil => exact ⟨.nil, fun _ => .rfl⟩
  | cons first rest =>
      obtain ⟨more, hloop, hpairwise, hmem⟩ := exists_eraseReps_loop h []
      have heq : (first :: rest).eraseReps = first :: more := hloop
      rw [heq]
      exact ⟨hpairwise, hmem⟩

theorem pairwise_schemaNames (tables : List (Table κ)) :
    (schemaNames tables).Pairwise (· < ·) :=
  (eraseReps_of_sorted (List.pairwise_mergeSort' (· ≤ ·) _)).1

theorem mem_schemaNames {tables : List (Table κ)} {name : String} :
    name ∈ schemaNames tables ↔ ∃ table ∈ tables, table.schema = some name := by
  rw [schemaNames, (eraseReps_of_sorted (List.pairwise_mergeSort' (· ≤ ·) _)).2,
    List.mem_mergeSort, List.mem_filterMap]

/-! ## The default one first -/

section

variable {default : Option String}

theorem mayPrecede_trans (first second third : String)
    (h : mayPrecede default first second = true) (h' : mayPrecede default second third = true) :
    mayPrecede default first third = true := by
  unfold mayPrecede at *
  cases hfirst : some first == default <;> cases hsecond : some second == default <;>
    cases hthird : some third == default <;>
    simp only [hfirst, hsecond, hthird, decide_eq_true_eq, Bool.false_eq_true] at h h' ⊢
  all_goals exact h.trans h'

theorem mayPrecede_total (first second : String) :
    (mayPrecede default first second || mayPrecede default second first) = true := by
  unfold mayPrecede
  cases some first == default <;> cases some second == default <;> simp [le_total]

theorem pairwise_defaultFirst (default : Option String) (names : List String) :
    (defaultFirst default names).Pairwise fun left right => mayPrecede default left right = true :=
  List.pairwise_mergeSort mayPrecede_trans mayPrecede_total names

theorem defaultFirst_perm (default : Option String) (names : List String) :
    (defaultFirst default names).Perm names :=
  List.mergeSort_perm names _

theorem head?_defaultFirst {names : List String} {name : String} (hname : name ∈ names)
    (hdefault : some name = default) : (defaultFirst default names).head? = default := by
  have hsorted := pairwise_defaultFirst default names
  have hmem : name ∈ defaultFirst default names :=
    (defaultFirst_perm default names).mem_iff.mpr hname
  cases hlist : defaultFirst default names with
  | nil =>
      rw [hlist] at hmem
      cases hmem
  | cons first rest =>
      rw [hlist] at hsorted hmem
      rcases List.mem_cons.mp hmem with rfl | hbehind
      · exact hdefault
      · -- nothing but the default name itself may stand in front of it
        have hfront := (List.pairwise_cons.mp hsorted).1 name hbehind
        by_contra hother
        have hdiffers : (some first == default) = false := by simpa using hother
        simp [mayPrecede, hdefault, hdiffers] at hfront

/-- Behind the default name the others are in ascending order. -/
theorem ascending_defaultFirst {names : List String} (h : names.Nodup) :
    ((defaultFirst default names).filter fun name => some name != default).Pairwise (· < ·) := by
  have hnodup : (defaultFirst default names).Nodup :=
    (defaultFirst_perm default names).nodup_iff.mpr h
  have hboth := (pairwise_defaultFirst default names).and hnodup
  refine (hboth.filter _).imp_of_mem fun {left right} hleft hright hpair => ?_
  have hleft : (some left == default) = false := by simpa using (List.mem_filter.mp hleft).2
  have hright : (some right == default) = false := by simpa using (List.mem_filter.mp hright).2
  have hle : left ≤ right := by simpa [mayPrecede, hleft, hright] using hpair.1
  exact lt_of_le_of_ne hle hpair.2

end

/-! ## The list of schemas -/

/-- A list of schemas groups tables: it names the schemas that tables are in, each one once, the
default one first and the others in ascending order, and counts the tables of each. -/
structure Groups (default : Option String) (tables : List (Table κ)) (schemas : List SchemaInfo) :
    Prop where
  occurring : ∀ name, name ∈ schemas.map SchemaInfo.name ↔
    ∃ table ∈ tables, table.schema = some name
  once : (schemas.map SchemaInfo.name).Nodup
  default_first : ∀ name ∈ schemas.map SchemaInfo.name, some name = default →
    (schemas.map SchemaInfo.name).head? = default
  ascending : ((schemas.map SchemaInfo.name).filter fun name => some name != default).Pairwise
    (· < ·)
  identified : ∀ schema ∈ schemas, schema.id = schemaId schema.name
  counted : ∀ schema ∈ schemas, schema.tableCount =
    tables.countP fun table => table.schema == some schema.name
  total : (schemas.map SchemaInfo.tableCount).sum = tables.countP fun table => table.schema.isSome

/-- Counts for each of the names that tables carry add up to the number of tables with a name. -/
theorem sum_countP_schema {tables : List (Table κ)} {names : List String} (hnodup : names.Nodup)
    (hnames : ∀ name, name ∈ names ↔ ∃ table ∈ tables, table.schema = some name) :
    (names.map fun name => tables.countP fun table => table.schema == some name).sum =
      tables.countP fun table => table.schema.isSome := by
  let carried := tables.filterMap Table.schema
  have hperm : names.Perm carried.dedup := by
    refine (List.perm_ext_iff_of_nodup hnodup carried.nodup_dedup).mpr fun name => ?_
    rw [hnames, List.mem_dedup, List.mem_filterMap]
  have hcount : ∀ name,
      carried.count name = tables.countP fun table => table.schema == some name := by
    intro name
    rw [List.count, List.countP_filterMap]
    refine List.countP_congr fun table _ => ?_
    cases table.schema <;> simp
  calc
    (names.map fun name => tables.countP fun table => table.schema == some name).sum
        = (names.map fun name => carried.count name).sum := by simp only [hcount]
    _ = (carried.dedup.map fun name => carried.count name).sum := (hperm.map _).sum_eq
    _ = carried.length := List.sum_map_count_dedup_eq_length carried
    _ = tables.countP fun table => table.schema.isSome := List.length_filterMap_eq_countP

theorem map_name_schemaInfo (tables : List (Table κ)) (names : List String) :
    (names.map (schemaInfo tables)).map SchemaInfo.name = names := by
  rw [List.map_map]
  exact List.map_id names

theorem groups_schemas {session : Session κ} (h : session.dialect.hasSchemas = true) :
    Groups session.dialect.defaultSchema? session.tables session.schemas := by
  let default := session.dialect.defaultSchema?
  let names := defaultFirst default (schemaNames session.tables)
  have hinUse : (schemaNames session.tables).Nodup :=
    (pairwise_schemaNames session.tables).imp ne_of_lt
  have hperm : names.Perm (schemaNames session.tables) := defaultFirst_perm default _
  have hnames : ∀ name, name ∈ names ↔ ∃ table ∈ session.tables, table.schema = some name :=
    fun name => hperm.mem_iff.trans mem_schemaNames
  have hnodup : names.Nodup := hperm.nodup_iff.mpr hinUse
  have hschemas : session.schemas = names.map (schemaInfo session.tables) := if_pos h
  have hlisted : session.schemas.map SchemaInfo.name = names := by
    rw [hschemas, map_name_schemaInfo]
  constructor
  case occurring => rwa [hlisted]
  case once => rwa [hlisted]
  case default_first =>
    rw [hlisted]
    exact fun name hname => head?_defaultFirst (hperm.mem_iff.mp hname)
  case ascending =>
    rw [hlisted]
    exact ascending_defaultFirst hinUse
  case identified =>
    rw [hschemas]
    exact List.forall_mem_map.mpr fun _ _ => rfl
  case counted =>
    rw [hschemas]
    exact List.forall_mem_map.mpr fun _ _ => rfl
  case total =>
    rw [hschemas, List.map_map]
    exact sum_countP_schema hnodup hnames

/-! ## What is shown -/

/-- The default schema is found at the front if it is in use, so that the first one is chosen in any
case. -/
theorem chosenSchemas_of_unfiltered {session : Session κ}
    (h : session.dialect.hasSchemas = true) (hfilter : session.schemaFilter = none) :
    session.chosenSchemas = session.schemas.head?.map fun first => [first.id] := by
  have hgroups := groups_schemas h
  unfold chosenSchemas
  rw [hfilter]
  cases hlist : session.schemas with
  | nil => rfl
  | cons first rest =>
      rw [hlist] at hgroups
      cases hfind : (first :: rest).find? fun schema =>
          some schema.name == session.dialect.defaultSchema? with
      | none => simp [hfind]
      | some found =>
          have hdefault : some found.name = session.dialect.defaultSchema? := by
            simpa using List.find?_some hfind
          have hfirst : some first.name = session.dialect.defaultSchema? :=
            hgroups.default_first found.name
              (List.mem_map_of_mem (List.mem_of_find?_eq_some hfind)) hdefault
          obtain rfl : first = found := by simpa [hfirst] using hfind
          simp [hfind]

theorem chosenSchemas_of_filter {session : Session κ} {ids : List String}
    (hfilter : session.schemaFilter = some ids) (hschemas : session.schemas ≠ []) :
    session.chosenSchemas = some ids := by
  unfold chosenSchemas
  rw [hfilter]
  cases hlist : session.schemas with
  | nil => exact absurd hlist hschemas
  | cons first rest => rfl

theorem chosenSchemas_eq_none_iff {session : Session κ} :
    session.chosenSchemas = none ↔ session.schemas = [] := by
  unfold chosenSchemas
  cases session.schemas with
  | nil => simp
  | cons first rest => cases session.schemaFilter <;> simp

/-- Where nothing is chosen there is no table with a schema. -/
theorem visibleTables_eq {session : Session κ} (h : session.dialect.hasSchemas = true) :
    session.visibleTables = session.tables.filter fun table =>
      table.schema.all fun name => (session.chosenSchemas.getD []).contains (schemaId name) := by
  refine List.filter_congr fun table htable => ?_
  cases hschema : table.schema with
  | none => cases session.chosenSchemas <;> simp [isVisible, hschema]
  | some name =>
      cases hchosen : session.chosenSchemas with
      | some ids => simp [isVisible, hschema]
      | none =>
          have hname : name ∈ session.schemas.map SchemaInfo.name :=
            ((groups_schemas h).occurring name).mpr ⟨table, htable, hschema⟩
          rw [chosenSchemas_eq_none_iff.mp hchosen] at hname
          cases hname

/-- The list of schemas groups the tables of the diagram.  Unless others are asked for, its first
entry is the one chosen.  Shown are, in their order, the tables without a schema and those whose
schema's identifier is among the chosen ones. -/
theorem schemas_exact {session : Session κ} {diagram : Diagram κ}
    (hloaded : session.diagram? = some diagram) (hdialect : diagram.dialect.hasSchemas = true) :
    Groups diagram.dialect.defaultSchema? diagram.tables session.schemas ∧
      (session.schemaFilter = none →
        session.chosenSchemas = session.schemas.head?.map fun first => [first.id]) ∧
      (∀ ids, session.schemaFilter = some ids → session.schemas ≠ [] →
        session.chosenSchemas = some ids) ∧
      session.visibleTables = diagram.tables.filter fun table =>
        table.schema.all fun name => (session.chosenSchemas.getD []).contains (schemaId name) := by
  rw [← dialect_of_loaded hloaded] at hdialect ⊢
  rw [← tables_of_loaded hloaded]
  exact ⟨groups_schemas hdialect, chosenSchemas_of_unfiltered hdialect,
    fun _ => chosenSchemas_of_filter, visibleTables_eq hdialect⟩

/-- A diagram with two schemas whose names differ in case, and with a table in none. -/
def branches : Diagram Float :=
  let table (number : Nat) (name : String) (schema : Option String) : Table Float :=
    { Table.new ⟨Identifier.ofNat number, ⟨0, 0⟩, ""⟩ name 0 0 with schema }
  let shop : Diagram Float := .new ⟨Identifier.ofNat 9, ⟨0, 0⟩, ""⟩ "shop" .postgreSql
  { shop with
    tables := [table 1 "orders" (some "Sales"), table 2 "users" (some "public"),
      table 3 "notes" none, table 4 "bills" (some "sales"), table 5 "logs" (some "public")] }

/-- The diagram with all schemas shown that are identified by `sales`. -/
def branchSession : Session Float :=
  ((Session.new Config.standard LayoutConfig.standard
    ⟨fun n => ⟨Identifier.ofNat (n + 10), ⟨n, 0⟩, ""⟩, 0⟩).load branches).filterSchemas ["sales"]

theorem branchSession_schemas :
    branchSession.diagram? = some branches ∧ branches.dialect.hasSchemas = true ∧
      branchSession.schemaFilter = some ["sales"] ∧ branchSession.chosenSchemas = some ["sales"] ∧
      branchSession.visibleTables.map Table.name = ["orders", "notes", "bills"] ∧
      (branchSession.schemas.map SchemaInfo.name).head? = some "public" ∧
      (branchSession.schemas.map SchemaInfo.tableCount).sum = 4 := by
  obtain ⟨hgroups, -, hchosen, hvisible⟩ :=
    schemas_exact (rfl : branchSession.diagram? = some branches) rfl
  have hpublic : "public" ∈ branchSession.schemas.map SchemaInfo.name :=
    (hgroups.occurring "public").mpr (by decide)
  have hnonempty : branchSession.schemas ≠ [] := fun hnone => by simp [hnone] at hpublic
  have hsales := hchosen ["sales"] rfl hnonempty
  refine ⟨rfl, rfl, rfl, hsales, ?_, hgroups.default_first "public" hpublic rfl,
    hgroups.total.trans (by decide)⟩
  rw [hvisible, hsales]
  decide

end SchemaDiagram.Session
