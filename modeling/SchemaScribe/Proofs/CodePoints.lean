import Mathlib.Data.List.Basic
import SchemaScribe.Text.Blank

/-!
# Sets of code points

A set of code points is a number whose bits tell which of them it has. Whether two sets are disjoint is then
decided by a single operation, however many code points they have.
-/

namespace SchemaScribe.Text

/-! ### Bit sets -/

def bitSet (codes : List Nat) : Nat :=
  codes.foldr (fun code bits => 1 <<< code ||| bits) 0

theorem testBit_bitSet {codes : List Nat} {code : Nat} : (bitSet codes).testBit code = true ↔ code ∈ codes := by
  induction codes with
  | nil => simp [bitSet]
  | cons first codes ih =>
      have hfirst : (1 <<< first).testBit code = true ↔ code = first := by
        rw [Nat.one_shiftLeft, Nat.testBit_two_pow, decide_eq_true_eq, eq_comm]
      rw [bitSet, List.foldr_cons, Nat.testBit_or, Bool.or_eq_true, hfirst, List.mem_cons]
      exact or_congr_right ih

/-- No code point is in both lists. -/
def areDisjoint (codes codes' : List Nat) : Bool :=
  Nat.beq (bitSet codes &&& bitSet codes') 0

theorem not_mem_of_areDisjoint {codes codes' : List Nat} (h : areDisjoint codes codes' = true) {code : Nat}
    (hcode : code ∈ codes) : code ∉ codes' := by
  intro hcode'
  have hboth : (bitSet codes &&& bitSet codes').testBit code = true := by
    rw [Nat.testBit_and, testBit_bitSet.mpr hcode, testBit_bitSet.mpr hcode', Bool.and_self]
  rw [Nat.eq_of_beq_eq_true h, Nat.zero_testBit] at hboth
  exact Bool.false_ne_true hboth

/-! ### Ranges -/

/-- The code points of closed ranges. -/
def codesOf (ranges : List (Nat × Nat)) : List Nat :=
  ranges.flatMap fun range => List.range' range.1 (range.2 + 1 - range.1)

theorem mem_codesOf_iff {ranges : List (Nat × Nat)} {code : Nat} :
    code ∈ codesOf ranges ↔ inRanges ranges code = true := by
  rw [codesOf, List.mem_flatMap, inRanges, List.any_eq_true]
  refine exists_congr fun range => and_congr_right fun _ => ?_
  rw [List.mem_range'_1, Bool.and_eq_true, decide_eq_true_eq, decide_eq_true_eq]
  omega

def blankCodes : List Nat :=
  codesOf (whiteSpaceRanges ++ [(0x1c, 0x1f)])

theorem isBlank_iff {c : Char} : isBlank c = true ↔ c.toNat ∈ blankCodes := by
  rw [blankCodes, mem_codesOf_iff, inRanges, List.any_append]
  rfl

theorem toNat_ofNat_of_isValidChar {code : Nat} (h : code.isValidChar) : (Char.ofNat code).toNat = code := by
  rw [Char.ofNat, dif_pos h]
  rfl

end SchemaScribe.Text
