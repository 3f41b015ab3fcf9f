import Mathlib.Data.Finset.Card
import Mathlib.Data.Int.Interval
import Mathlib.Data.Rat.Floor
import Mathlib.Tactic.Linarith
import SchemaDiagram.Layout

/-!
# Placed tables do not overlap

In exact arithmetic the search for a free cell always succeeds.  A table on the canvas blocks at
most two cells of a row, whatever its position on the grid, and the row of the anchor has more cells
within reach than all tables together can block.  Hence every table is placed a cell away from the
tables that stay where they are and from those placed before it.
-/

namespace SchemaDiagram

/-! ## Exact coordinates -/

instance : Coordinate ℚ where
  ofInt := Int.cast
  add := (· + ·)
  sub := (· - ·)
  mul := (· * ·)
  abs := abs
  lt left right := decide (left < right)
  isFinite _ := true

namespace Coordinate

@[simp] theorem add_rat (left right : ℚ) : add left right = left + right := rfl

@[simp] theorem lt_rat (left right : ℚ) : lt left right = decide (left < right) := rfl

@[simp] theorem isFinite_rat (x : ℚ) : isFinite x = true := rfl

@[simp] theorem advance_rat (start : ℚ) (steps : Int) (size : ℚ) :
    advance start steps size = start + steps * size := rfl

@[simp] theorem distance_rat (left right : ℚ) : distance left right = |left - right| := rfl

end Coordinate

namespace LayoutConfig

variable (config : LayoutConfig ℚ) {anchor place : ℚ × ℚ} {occupied : List (ℚ × ℚ)}

/-- Two places are at least a cell apart in one of the directions. -/
def Apart (left right : ℚ × ℚ) : Prop :=
  config.cellWidth ≤ |left.1 - right.1| ∨ config.cellHeight ≤ |left.2 - right.2|

theorem collides_eq_false_iff {left right : ℚ × ℚ} :
    config.collides left right = false ↔ config.Apart left right := by
  simp only [collides, Apart, Coordinate.lt_rat, Coordinate.distance_rat, Bool.and_eq_false_iff,
    decide_eq_false_iff_not, not_lt]

theorem overlaps_eq_false_iff :
    config.overlaps occupied place = false ↔ ∀ other ∈ occupied, config.Apart place other := by
  simp only [overlaps, List.any_eq_false, Bool.not_eq_true, collides_eq_false_iff]

/-! ## Free cells -/

/-- The steps that lead less than their size close to an obstacle are the two around it. -/
theorem steps_of_close {size start x : ℚ} {steps : Int} (hsize : 0 < size)
    (hclose : |start + steps * size - x| < size) :
    steps = ⌊(x - start) / size⌋ ∨ steps = ⌊(x - start) / size⌋ + 1 := by
  obtain ⟨hleft, hright⟩ := abs_lt.mp hclose
  have hbelow : (steps : ℚ) < (x - start) / size + 1 := by
    rw [← sub_lt_iff_lt_add, lt_div_iff₀ hsize]
    linarith
  have habove : (x - start) / size < steps + 1 := by
    rw [div_lt_iff₀ hsize]
    linarith
  have hfloor_lt : ⌊(x - start) / size⌋ < steps + 1 := by
    rw [Int.floor_lt]
    push_cast
    exact habove
  have hle_floor : steps - 1 ≤ ⌊(x - start) / size⌋ := by
    rw [Int.le_floor]
    push_cast
    linarith
  omega

/-- Of the places within one more step than there are obstacles, one is at least a step away from
all of them. -/
theorem exists_free_steps (size start : ℚ) (obstacles : List ℚ) :
    ∃ steps : Int, steps.natAbs ≤ obstacles.length + 1 ∧
      ∀ x ∈ obstacles, size ≤ |start + steps * size - x| := by
  rcases le_or_gt size 0 with hsize | hsize
  · exact ⟨0, by simp, fun x _ => hsize.trans (abs_nonneg _)⟩
  · let blocked := obstacles.flatMap fun x =>
      [⌊(x - start) / size⌋, ⌊(x - start) / size⌋ + 1]
    have hblocked : blocked.toFinset.card ≤ 2 * obstacles.length := by
      refine (List.toFinset_card_le _).trans (le_of_eq ?_)
      simp [blocked, List.length_flatMap, mul_comm]
    let reach : Int := obstacles.length + 1
    have hcells : (Finset.Icc (-reach) reach).card = 2 * obstacles.length + 3 := by
      rw [Int.card_Icc]
      omega
    obtain ⟨steps, hreach, hfree⟩ :=
      Finset.exists_mem_notMem_of_card_lt_card (hblocked.trans_lt (by omega :
        2 * obstacles.length < (Finset.Icc (-reach) reach).card))
    rw [Finset.mem_Icc] at hreach
    refine ⟨steps, by omega, ?_⟩
    intro x hx
    by_contra hclose
    apply hfree
    rw [List.mem_toFinset, List.mem_flatMap]
    exact ⟨x, hx, by simpa using steps_of_close hsize (not_le.mp hclose)⟩

theorem mem_span {radius : Nat} {steps : Int} : steps ∈ span radius ↔ steps.natAbs ≤ radius := by
  simp only [span, List.mem_map, List.mem_range]
  constructor
  · rintro ⟨i, hi, rfl⟩
    omega
  · intro hle
    exact ⟨(steps + radius).toNat, by omega, by omega⟩

theorem mem_ring {radius : Nat} {steps : Int × Int} :
    steps ∈ ring radius ↔ max steps.1.natAbs steps.2.natAbs = radius := by
  obtain ⟨right, down⟩ := steps
  simp only [ring, List.mem_flatMap, List.mem_map, List.mem_filter, mem_span, beq_iff_eq,
    Prod.mk.injEq]
  constructor
  · rintro ⟨_, -, _, ⟨-, hmax⟩, rfl, rfl⟩
    exact hmax
  · intro hmax
    exact ⟨down, by omega, right, ⟨by omega, hmax⟩, rfl, rfl⟩

/-- Some cell within reach is free: there is one in the row of the anchor. -/
theorem isSome_freeCell? (anchor : ℚ × ℚ) (occupied : List (ℚ × ℚ)) :
    (config.freeCell? anchor occupied).isSome := by
  obtain ⟨steps, hreach, hfree⟩ :=
    exists_free_steps config.cellWidth anchor.1 (occupied.map Prod.fst)
  have hplace : config.overlaps occupied (config.cell anchor (steps, 0)) = false := by
    rw [overlaps_eq_false_iff]
    intro other hother
    exact .inl (hfree other.1 (List.mem_map_of_mem hother))
  rw [freeCell?, List.findSome?_isSome_iff]
  refine ⟨steps.natAbs, ?_, ?_⟩
  · rw [List.mem_range, reach]
    rw [List.length_map] at hreach
    omega
  · have hring : (steps, 0) ∈ ring steps.natAbs := mem_ring.mpr (by simp)
    rw [List.find?_isSome]
    refine ⟨_, List.mem_map_of_mem hring, ?_⟩
    rw [hplace]
    rfl

theorem apart_of_freeCell? (h : config.freeCell? anchor occupied = some place) :
    ∀ other ∈ occupied, config.Apart place other := by
  obtain ⟨radius, -, hfound⟩ := List.exists_of_findSome?_eq_some h
  rw [← overlaps_eq_false_iff]
  simpa using List.find?_some hfound

/-- The free cell is a cell away from everything on the canvas. -/
theorem apart_freeCell (anchor : ℚ × ℚ) (occupied : List (ℚ × ℚ)) :
    ∀ other ∈ occupied, config.Apart (config.freeCell anchor occupied) other := by
  obtain ⟨place, hplace⟩ := Option.isSome_iff_exists.mp (config.isSome_freeCell? anchor occupied)
  rw [freeCell, hplace]
  exact config.apart_of_freeCell? hplace

end LayoutConfig

def TablePosition.place {κ : Type} (position : TablePosition κ) : κ × κ :=
  (position.x, position.y)

namespace Layout

/-! ## All places -/

theorem map_tableId_placeAll {κ : Type} [Coordinate κ] (config : LayoutConfig κ)
    (tables : List (Table κ)) (relationships : List Relationship) (ids : List Identifier)
    (positions : List (Identifier × κ × κ)) :
    (placeAll config tables relationships positions ids).map TablePosition.tableId =
      ids.filter fun id => tables.any fun table => table.id == id := by
  induction ids generalizing positions with
  | nil => rfl
  | cons id rest ih =>
      rw [placeAll, List.filter_cons]
      split
      · rw [List.map_cons, ih]
      · exact ih _

/-- Every table is placed a cell away from what is on the canvas when its turn comes. -/
theorem apart_placeAll (config : LayoutConfig ℚ) (tables : List (Table ℚ))
    (relationships : List Relationship) (ids : List Identifier)
    (positions : List (Identifier × ℚ × ℚ)) :
    (∀ position ∈ placeAll config tables relationships positions ids, ∀ other ∈ positions,
        config.Apart position.place other.2) ∧
      (placeAll config tables relationships positions ids).Pairwise fun earlier later =>
        config.Apart later.place earlier.place := by
  induction ids generalizing positions with
  | nil => exact ⟨fun _ hmem => absurd hmem List.not_mem_nil, .nil⟩
  | cons id rest ih =>
      rw [placeAll]
      split
      · have hfree := config.apart_freeCell
          (anchor config positions (neighbours tables relationships id)) (positions.map Prod.snd)
        dsimp only
        generalize config.freeCell _ _ = place at hfree ⊢
        obtain ⟨hcanvas, hplaced⟩ := ih (positions ++ [(id, place)])
        constructor
        · intro position hposition other hother
          obtain rfl | hlater := List.mem_cons.mp hposition
          · exact hfree other.2 (List.mem_map_of_mem hother)
          · exact hcanvas position hlater other (List.mem_append_left _ hother)
        · refine List.pairwise_cons.mpr ⟨?_, hplaced⟩
          intro later hlater
          exact hcanvas later hlater (id, place)
            (List.mem_append_right _ (List.mem_singleton.mpr rfl))
      · exact ih positions

/-- In exact arithmetic all listed tables of the canvas are placed, in the order of the list, each
of them a cell away from the tables that stay and from those placed before it.  The search for a
free cell never fails. -/
theorem place_apart (config : LayoutConfig ℚ) (tables : List (Table ℚ))
    (relationships : List Relationship) (ids : List Identifier) :
    (place config tables relationships ids).map TablePosition.tableId =
        ids.filter (fun id => tables.any fun table => table.id == id) ∧
      (∀ position ∈ place config tables relationships ids, ∀ table ∈ tables, table.id ∉ ids →
        config.Apart position.place (table.x, table.y)) ∧
      (place config tables relationships ids).Pairwise (fun earlier later =>
        config.Apart later.place earlier.place) ∧
      ∀ anchor occupied, (config.freeCell? anchor occupied).isSome := by
  obtain ⟨hcanvas, hplaced⟩ := apart_placeAll config tables relationships ids
    ((tables.filter fun table => !ids.contains table.id).map fun table =>
      (table.id, table.x, table.y))
  refine ⟨map_tableId_placeAll .., ?_, hplaced, config.isSome_freeCell?⟩
  intro position hposition table htable hstays
  refine hcanvas position hposition (table.id, table.x, table.y) (List.mem_map_of_mem ?_)
  exact List.mem_filter.mpr ⟨htable, by simpa using hstays⟩

/-! ## A canvas -/

/-- Two tables that are less than a cell apart, and a new one. -/
def canvas : List (Table ℚ) :=
  [Table.new ⟨Identifier.ofNat 1, ⟨0, 0⟩, ""⟩ "orders" 100 100,
    Table.new ⟨Identifier.ofNat 2, ⟨0, 0⟩, ""⟩ "payments" 250 150,
    Table.new ⟨Identifier.ofNat 3, ⟨0, 0⟩, ""⟩ "customers" 0 0]

theorem customers_apart :
    LayoutConfig.standard.Apart (610, 100) (100, 100) ∧
      LayoutConfig.standard.Apart (610, 100) (250, 150) := by
  obtain ⟨-, hstay, -⟩ := place_apart .standard canvas [] [Identifier.ofNat 3]
  -- The search starts to the right of everything.
  have hplaced : ∃ position ∈ place .standard canvas [] [Identifier.ofNat 3],
      position.place = (610, 100) := by
    decide +kernel
  obtain ⟨position, hposition, hplace⟩ := hplaced
  rw [← hplace]
  have horders := hstay position hposition _ (.head _) (by decide)
  have hpayments := hstay position hposition _ (.tail _ (.head _)) (by decide)
  exact ⟨horders, hpayments⟩

end Layout

end SchemaDiagram
