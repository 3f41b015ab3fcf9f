import SchemaDiagram.Proofs.Layout

/-!
# Tables that nothing is related to

The search for a place of a table without related tables starts to the right of all others, in the
row where the canvas starts.  Exact coordinates leave this place free, so the search ends there.
-/

namespace SchemaDiagram

namespace Coordinate

theorem greatest?_concat_rat (xs : List ℚ) (x : ℚ) :
    greatest? (xs ++ [x]) =
      some (((greatest? xs).map fun y => if y < x then x else y).getD x) := by
  rw [greatest?, List.foldl_concat, ← greatest?]
  cases greatest? xs with
  | none => simp
  | some y => simp

/-- Exact coordinates have a greatest one, unless there are none. -/
theorem greatest?_rat_cases (xs : List ℚ) :
    (xs = [] ∧ greatest? xs = none) ∨
      ∃ edge ∈ xs, greatest? xs = some edge ∧ ∀ x ∈ xs, x ≤ edge := by
  induction xs using List.reverseRecOn with
  | nil => exact .inl ⟨rfl, rfl⟩
  | append_singleton xs x ih =>
      right
      rw [greatest?_concat_rat]
      obtain ⟨rfl, hnone⟩ | ⟨edge, hedge, hsome, hle⟩ := ih
      · exact ⟨x, by simp, by rw [hnone]; rfl, by simp⟩
      · rw [hsome, Option.map_some, Option.getD_some]
        by_cases hlt : edge < x
        · refine ⟨x, by simp, by rw [if_pos hlt], ?_⟩
          intro y hy
          rcases List.mem_append.mp hy with hy | hy
          · exact (hle y hy).trans hlt.le
          · exact (List.mem_singleton.mp hy).le
        · refine ⟨edge, List.mem_append_left _ hedge, by rw [if_neg hlt], ?_⟩
          intro y hy
          rcases List.mem_append.mp hy with hy | hy
          · exact hle y hy
          · exact (List.mem_singleton.mp hy).le.trans (not_lt.mp hlt)

end Coordinate

namespace LayoutConfig

variable (config : LayoutConfig ℚ)

/-- The search ends at the anchor if that is free. -/
theorem freeCell_of_free {anchor : ℚ × ℚ} {occupied : List (ℚ × ℚ)}
    (h : config.overlaps occupied anchor = false) : config.freeCell anchor occupied = anchor := by
  have hring : (ring 0).map (config.cell anchor) = [anchor] := by
    have hsteps : ring 0 = [(0, 0)] := rfl
    rw [hsteps, List.map_singleton, cell]
    simp
  have hfound : config.freeCell? anchor occupied = some anchor := by
    rw [freeCell?, List.range_succ_eq_map, List.findSome?_cons, hring, List.find?_singleton, h]
    rfl
  rw [freeCell, hfound, Option.getD_some]

/-- A place to the right of all tables, in the row where the canvas starts. -/
def IsOuter (others : List (Table ℚ)) (place : ℚ × ℚ) : Prop :=
  (others = [] ∧ place = (config.startX, config.startY)) ∨
    ∃ last ∈ others, (∀ other ∈ others, other.x ≤ last.x) ∧
      place = (last.x + config.cellWidth, config.startY)

variable {config}

/-- Such a place is beside a table exactly if that is an outermost one and stands in this row. -/
theorem IsOuter.beside_iff {others : List (Table ℚ)} {place : ℚ × ℚ}
    (h : config.IsOuter others place) {table : Table ℚ} (htable : table ∈ others) :
    place = (table.x + config.cellWidth, table.y) ↔
      table.y = config.startY ∧ ∀ other ∈ others, other.x ≤ table.x := by
  obtain ⟨rfl, -⟩ | ⟨last, hlast, houter, rfl⟩ := h
  · exact absurd htable List.not_mem_nil
  · rw [Prod.mk.injEq, add_left_inj]
    constructor
    · rintro ⟨hx, hy⟩
      exact ⟨hy.symm, fun other hother => (houter other hother).trans hx.le⟩
    · rintro ⟨hy, hmax⟩
      exact ⟨le_antisymm (hmax last hlast) (houter table htable), hy.symm⟩

end LayoutConfig

namespace Layout

theorem neighbours_of_untouched {κ : Type} {tables : List (Table κ)}
    {relationships : List Relationship} {id : Identifier}
    (h : ∀ relationship ∈ relationships, relationship.touchesAny [id] = false) :
    neighbours tables relationships id = [] := by
  rw [neighbours, List.filterMap_eq_nil_iff]
  intro relationship hmem
  have hends := h relationship hmem
  simp only [Relationship.touchesAny, List.contains_cons, List.contains_nil, Bool.or_false,
    Bool.or_eq_false_iff] at hends
  simp [hends.1, hends.2]

/-- The search for an unrelated table starts to the right of everything, where it is free. -/
theorem isOuter_anchor (config : LayoutConfig ℚ) (others : List (Table ℚ)) :
    let positions := others.map fun table => (table.id, table.x, table.y)
    config.overlaps (positions.map Prod.snd) (anchor config positions []) = false ∧
      config.IsOuter others (anchor config positions []) := by
  intro positions
  have hmap : (positions.map fun position => position.2.1) = others.map Table.x := by
    simp [positions]
  obtain ⟨hnone, hgreatest⟩ | ⟨edge, hedge, hgreatest, hle⟩ :=
    Coordinate.greatest?_rat_cases (others.map Table.x)
  · have hothers : others = [] := List.map_eq_nil_iff.mp hnone
    have hanchor : anchor config positions [] = (config.startX, config.startY) := by
      simp only [anchor, List.findSome?_nil, hmap, hgreatest]
    rw [hanchor]
    exact ⟨by simp [positions, hothers, LayoutConfig.overlaps], .inl ⟨hothers, rfl⟩⟩
  · have hanchor : anchor config positions [] = (edge + config.cellWidth, config.startY) := by
      simp only [anchor, List.findSome?_nil, hmap, hgreatest, Coordinate.isFinite_rat,
        Coordinate.add_rat, if_true]
    obtain ⟨last, hlast, rfl⟩ := List.mem_map.mp hedge
    have hrightmost : ∀ other ∈ others, other.x ≤ last.x := fun other hother =>
      hle other.x (List.mem_map_of_mem hother)
    rw [hanchor, LayoutConfig.overlaps_eq_false_iff]
    refine ⟨fun place hplace => .inl ?_, .inr ⟨last, hlast, hrightmost, rfl⟩⟩
    obtain ⟨other, hother, rfl⟩ : ∃ other ∈ others, (other.x, other.y) = place := by
      simpa [positions] using hplace
    have hdistance : config.cellWidth ≤ last.x + config.cellWidth - other.x := by
      have hother := hrightmost other hother
      linarith
    exact hdistance.trans (le_abs_self _)

/-- A table that nothing is related to is put to the right of all others. -/
theorem place_alone (config : LayoutConfig ℚ) {tables : List (Table ℚ)}
    {relationships : List Relationship} {id : Identifier} (hknown : id ∈ tables.map Table.id)
    (halone : ∀ relationship ∈ relationships, relationship.touchesAny [id] = false) :
    ∃ position, place config tables relationships [id] = [position] ∧ position.tableId = id ∧
      config.IsOuter (tables.filter fun table => table.id != id) position.place := by
  have hany : (tables.any fun table => table.id == id) = true := by
    obtain ⟨table, hmem, hid⟩ := List.mem_map.mp hknown
    exact List.any_eq_true.mpr ⟨table, hmem, beq_iff_eq.mpr hid⟩
  have hothers : (tables.filter fun table => !([id].contains table.id)) =
      tables.filter fun table => table.id != id := by
    congr 1
    funext table
    rw [Bool.eq_iff_iff]
    simp
  obtain ⟨hfree, houter⟩ := isOuter_anchor config (tables.filter fun table => table.id != id)
  let start := anchor config ((tables.filter fun table => table.id != id).map fun table =>
    (table.id, table.x, table.y)) []
  refine ⟨⟨id, start.1, start.2⟩, ?_, rfl, houter⟩
  simp only [place, placeAll, hany, if_true, hothers, neighbours_of_untouched halone]
  rw [LayoutConfig.freeCell_of_free config hfree]

end Layout

end SchemaDiagram
