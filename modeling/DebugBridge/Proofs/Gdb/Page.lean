import DebugBridge.Gdb
import Mathlib.Tactic.Positivity
/-!
# Where a gdb read stops

The gdb adapter never asks for bytes past the end of the page that holds the first one. It
finds that end as the address with its in-page bits set, plus one, computing the or in two's
complement on unbounded integers. For a page size that is a power of two this is the next
multiple of the page size above the address (`nextPage`), negative addresses included
(`orInt_low_ones`), and the count asked for is the request cut at that point
(`readCount_int`).
-/

namespace DebugBridge

set_option autoImplicit false

/-- The first address of the page after the one that holds `address`. -/
def nextPage (pageSize address : Int) : Int := address - address % pageSize + pageSize

theorem lor_low_ones (x k : Nat) : x ||| (2 ^ k - 1) = 2 ^ k * (x / 2 ^ k) + (2 ^ k - 1) := by
  apply Nat.eq_of_testBit_eq
  intro i
  have lowBound : 2 ^ k - 1 < 2 ^ k := Nat.sub_lt (Nat.two_pow_pos k) Nat.one_pos
  rw [Nat.testBit_or, Nat.testBit_two_pow_mul_add _ lowBound, Nat.testBit_two_pow_sub_one]
  by_cases inPage : i < k
  · simp [inPage]
  · have above : i - k + k = i := by omega
    simp [inPage, Nat.testBit_div_two_pow, above]

/-- Or-ing the in-page bits into an address keeps its page and sets its offset to the last
one, whatever the sign of the address. -/
theorem orInt_low_ones (address : Int) (k : Nat) :
    Value.orInt address (2 ^ k - 1) = address - address % 2 ^ k + (2 ^ k - 1) := by
  have pageCast : ((2 ^ k : Nat) : Int) = 2 ^ k := by push_cast; rfl
  have maskCast : ((2 ^ k - 1 : Nat) : Int) = 2 ^ k - 1 := by
    rw [Nat.cast_sub Nat.one_le_two_pow, pageCast]
    rfl
  have split := Nat.mod_add_div
  cases address with
  | ofNat x =>
      rw [← maskCast]
      show ((x ||| (2 ^ k - 1) : Nat) : Int) = _
      rw [lor_low_ones, Int.ofNat_eq_natCast, ← pageCast, ← Int.natCast_mod]
      have quotient := split x (2 ^ k)
      omega
  | negSucc x =>
      -- in two's complement `-(x+1)` has the complement of `x`'s bits: the or clears the
      -- low bits of `x` instead of setting them
      rw [← maskCast]
      show Int.negSucc (x - (x &&& (2 ^ k - 1))) = _
      rw [Nat.and_two_pow_sub_one_eq_mod, Int.negSucc_emod _ (by positivity), ← pageCast,
        ← Int.natCast_mod, Int.negSucc_eq, Int.negSucc_eq]
      have quotient := split x (2 ^ k)
      have below := Nat.mod_lt x (Nat.two_pow_pos k)
      omega

variable {t : GdbTarget} {k : Nat}

theorem pageEnd_int (page : t.pageSize = .int (2 ^ k)) (address : Int) :
    t.pageEnd (.int address) = .ok (.int (nextPage (2 ^ k) address)) := by
  simp only [GdbTarget.pageEnd, page]
  show Except.ok (Value.int (Value.orInt address (2 ^ k - 1) + 1)) = _
  rw [orInt_low_ones, nextPage]
  congr 2
  omega

theorem readCount_of_pageSize {pageSize : Int} (page : t.pageSize = .int pageSize)
    (address nbytes : Int) :
    t.readCount (.int address) (.int nbytes) =
      .ok (min nbytes (Value.orInt address (pageSize - 1) + 1 - address)) := by
  by_cases past : Value.orInt address (pageSize - 1) + 1 < address + nbytes
  · have cut : min nbytes (Value.orInt address (pageSize - 1) + 1 - address) =
        Value.orInt address (pageSize - 1) + 1 - address := by omega
    simp [GdbTarget.readCount, GdbTarget.pageEnd, page, Value.sub, Value.bitOr, Value.add,
      Value.numericSum, Value.greater, Value.toInt, Value.asInt?, past, cut, bind, Except.bind]
  · have kept : min nbytes (Value.orInt address (pageSize - 1) + 1 - address) = nbytes := by
      omega
    simp [GdbTarget.readCount, GdbTarget.pageEnd, page, Value.sub, Value.bitOr, Value.add,
      Value.numericSum, Value.greater, Value.toInt, Value.asInt?, past, kept, bind, Except.bind,
      pure, Except.pure]

theorem readCount_int (page : t.pageSize = .int (2 ^ k)) (address nbytes : Int) :
    t.readCount (.int address) (.int nbytes) =
      .ok (min nbytes (nextPage (2 ^ k) address - address)) := by
  rw [readCount_of_pageSize page, orInt_low_ones, nextPage]
  congr 2
  omega

theorem nextPage_bounds (address : Int) :
    address < nextPage (2 ^ k) address ∧ nextPage (2 ^ k) address ≤ address + 2 ^ k := by
  have positive : (0 : Int) < 2 ^ k := by positivity
  have remainder := Int.emod_nonneg address positive.ne'
  have below := Int.emod_lt_of_pos address positive
  unfold nextPage
  omega

end DebugBridge
