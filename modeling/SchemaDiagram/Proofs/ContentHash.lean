import Mathlib.Algebra.BigOperators.Fin
import Mathlib.Data.BitVec
import Mathlib.Data.List.Sort
import Mathlib.Data.String.Basic
import Mathlib.Tactic.Ring
import SchemaDiagram.ContentHash

/-!
# Content hashes in closed form

A hash is continued by a shift and by additions that wrap, and yet it is the value of a polynomial
at 31, whose coefficients are the code units of a text.  Nothing has to be said about overflow: the
numbers up to 2^32 are carried over to hashes together with their arithmetic, and the polynomial is
evaluated among the numbers.  A hash of parts rolls over the colons between them on its way, and a
hash of field names sorts the names first, so that their order does not matter.
-/

namespace SchemaDiagram.ContentHash

open SchemaDiagram.Text

/-! ## Code units -/

/-- The shift by five bits and the subtraction multiply by 31. -/
theorem step_eq (hash : Int32) (unit : Nat) : step hash unit = hash * 31 + Int32.ofNat unit := by
  have hshift : (hash <<< 5).toBitVec = hash.toBitVec * 32 :=
    BitVec.shiftLeft_eq_mul_twoPow hash.toBitVec 5
  rw [step, ← Int32.toBitVec_inj, Int32.toBitVec_add, Int32.toBitVec_sub, hshift,
    Int32.toBitVec_add, Int32.toBitVec_mul]
  have h31 : (31 : Int32).toBitVec = 31 := rfl
  rw [h31]
  ring

theorem step_ofNat (number unit : Nat) :
    step (Int32.ofNat number) unit = Int32.ofNat (number * 31 + unit) := by
  rw [step_eq, Int32.ofNat_add, Int32.ofNat_mul]
  rfl

/-- The polynomial with the given coefficients, the leading one first, at 31. -/
def polynomial (codes : List Nat) : Nat :=
  ∑ k : Fin codes.length, codes[k] * 31 ^ (codes.length - 1 - k)

theorem polynomial_cons (unit : Nat) (codes : List Nat) :
    polynomial (unit :: codes) = unit * 31 ^ codes.length + polynomial codes := by
  have hsplit := Fin.sum_univ_succ (n := codes.length) fun k =>
    (unit :: codes)[k] * 31 ^ ((unit :: codes).length - 1 - k)
  refine hsplit.trans (congrArg₂ (· + ·) rfl (Finset.sum_congr rfl fun k _ => ?_))
  have hpower : (unit :: codes).length - 1 - (k.succ : Nat) = codes.length - 1 - k := by
    rw [List.length_cons, Fin.val_succ]
    omega
  rw [hpower]
  rfl

/-- Rolling over code units evaluates the polynomial by Horner's rule. -/
theorem foldl_step_ofNat (start : Nat) (codes : List Nat) :
    codes.foldl step (Int32.ofNat start) =
      Int32.ofNat (start * 31 ^ codes.length + polynomial codes) := by
  induction codes generalizing start with
  | nil => simp [polynomial]
  | cons unit codes ih =>
      have hnumber : (start * 31 + unit) * 31 ^ codes.length + polynomial codes =
          start * 31 ^ (codes.length + 1) + (unit * 31 ^ codes.length + polynomial codes) := by
        ring
      rw [List.foldl_cons, step_ofNat, ih, polynomial_cons, List.length_cons, hnumber]

theorem ofString_eq (text : String) :
    ofString text = Int32.ofNat (polynomial (units text.toList)) := by
  have h := foldl_step_ofNat 0 (units text.toList)
  rw [Nat.zero_mul, Nat.zero_add] at h
  exact h

/-! ## Parts -/

theorem roll_append (hash : Int32) (text more : String) :
    roll hash (text ++ more) = roll (roll hash text) more := by
  rw [roll, roll, roll, String.toList_append, units, List.flatMap_append, List.foldl_append]
  rfl

/-- Rolling over parts, with a colon in front of each but the first one, is rolling over the text
that they are joined to. -/
theorem foldl_roll (hash : Int32) (first : String) (rest : List String) :
    rest.foldl (fun hash part => roll (roll hash ":") part) (roll hash first) =
      roll hash (":".intercalate (first :: rest)) := by
  induction rest generalizing hash first with
  | nil => rw [List.foldl_nil, String.intercalate_singleton]
  | cons part rest ih =>
      rw [List.foldl_cons, ih, String.intercalate_cons_cons, roll_append, roll_append]

theorem ofParts_eq (parts : List String) : ofParts parts = ofString (":".intercalate parts) := by
  cases parts with
  | nil => rfl
  | cons first rest => exact foldl_roll 0 first rest

/-! ## Field names -/

/-- The hash of field names is that of the names in ascending order. -/
theorem ofFieldNames_eq {names sorted : List String} (hperm : sorted.Perm names)
    (hsorted : sorted.Pairwise (· ≤ ·)) : ofFieldNames names = ofParts sorted := by
  let merged := names.mergeSort fun left right => decide (left ≤ right)
  have hmerged : merged.Pairwise (· ≤ ·) := List.pairwise_mergeSort' (· ≤ ·) names
  have hsame : merged.Perm sorted := (List.mergeSort_perm names _).trans hperm.symm
  exact congrArg ofParts (hsame.eq_of_pairwise' hmerged hsorted)

theorem ofFieldNames_perm {names others : List String} (h : others.Perm names) :
    ofFieldNames others = ofFieldNames names := by
  let merged := others.mergeSort fun left right => decide (left ≤ right)
  have hmerged : merged.Pairwise (· ≤ ·) := List.pairwise_mergeSort' (· ≤ ·) others
  exact (ofFieldNames_eq ((List.mergeSort_perm others _).trans h) hmerged).symm

/-! ## The hash -/

/-- The hash of parts is that of the text they make with colons between them, and this is the value
of the polynomial of its code units, wrapped to 32 bits with a sign.  The hash of field names is the
one that their ascending order has as parts, so that all orders of the names have the same. -/
theorem hash_closed_form (parts : List String) :
    let text := ":".intercalate parts
    ofParts parts = ofString text ∧
      (ofString text).toInt = Int.bmod (polynomial (units text.toList)) (2 ^ 32) ∧
      (∀ sorted : List String, sorted.Perm parts → sorted.Pairwise (· ≤ ·) →
        ofFieldNames parts = ofParts sorted) ∧
      ∀ others : List String, others.Perm parts → ofFieldNames others = ofFieldNames parts := by
  intro text
  refine ⟨ofParts_eq parts, ?_, fun _ => ofFieldNames_eq, fun _ => ofFieldNames_perm⟩
  rw [ofString_eq, Int32.toInt_ofNat']
  rfl

/-- A hash that wraps, over a surrogate pair and an empty part. -/
theorem hash_closed_form_wrapping :
    let parts := ["polygenelubricants", "", "𝄞"]
    (ofParts parts).toInt = Int.bmod
        (polynomial (units "polygenelubricants::𝄞".toList)) (2 ^ 32) ∧
      ofFieldNames ["𝄞", "polygenelubricants", ""] = ofFieldNames parts := by
  intro parts
  obtain ⟨hparts, hvalue, -, hperm⟩ := hash_closed_form parts
  refine ⟨?_, hperm _ (by decide)⟩
  rw [hparts]
  exact hvalue

end SchemaDiagram.ContentHash
