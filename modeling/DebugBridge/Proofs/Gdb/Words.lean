import DebugBridge.Proofs.Gdb.Faults
import Mathlib.Data.Nat.Digits.Lemmas
/-!
# Vector registers read from gdb as words

gdb gives a vector register (xmm, ymm and wider) as a list of 32-bit words, least significant
first, and the adapter joins them with a bitwise or, word `i` shifted left by `32 * i`. For
words below `2^32` the or adds, so the register reads as the number whose base-`2^32` digits
the words are: the sum of word `i` times `2^(32 * i)`. That number is below `2^(32 * k)` for
`k` words, its `i`-th 32-bit digit is word `i`, and two lists of the same length that differ
read as different numbers.
-/

namespace DebugBridge

set_option autoImplicit false

namespace GdbTarget

def registerCall (register : String) : Call :=
  { path := "target.read_register", args := [.str register] }

section Digits

variable {words : List Nat}

theorem sum_words_eq_ofDigits (words : List Nat) :
    (words.mapIdx fun i w => w * 2 ^ (32 * i)).sum = Nat.ofDigits (2 ^ 32) words := by
  rw [Nat.ofDigits_eq_sum_mapIdx]
  simp only [← Nat.pow_mul]

theorem ofDigits_words_lt (small : ∀ w ∈ words, w < 2 ^ 32) :
    Nat.ofDigits (2 ^ 32) words < 2 ^ (32 * words.length) := by
  rw [Nat.pow_mul]
  exact Nat.ofDigits_lt_base_pow_length (by decide) small

theorem ofDigits_words_digit (small : ∀ w ∈ words, w < 2 ^ 32) {i : Nat} (inside : i < words.length) :
    (Nat.ofDigits (2 ^ 32) words >>> (32 * i)) &&& 0xffffffff = words[i] := by
  have mask : (0xffffffff : Nat) = 2 ^ 32 - 1 := by decide
  have dropped : Nat.ofDigits (2 ^ 32) words / 2 ^ (32 * i) =
      Nat.ofDigits (2 ^ 32) (words.drop i) := by
    rw [Nat.pow_mul]
    exact Nat.ofDigits_div_pow_eq_ofDigits_drop i (by decide) words small
  -- the rest of the list after dropping `i` words starts with word `i`
  have head : (words.drop i).head! = words[i] := by
    rw [List.drop_eq_getElem_cons inside]
    rfl
  rw [Nat.shiftRight_eq_div_pow, mask, Nat.and_two_pow_sub_one_eq_mod, dropped,
    Nat.ofDigits_mod_eq_head!, head]
  exact Nat.mod_eq_of_lt (small _ (List.getElem_mem inside))

end Digits

variable (backend : Call → Except Fault Value)

theorem readRegister_words_run (register : String) {words : List Int}
    (reply : backend (registerCall register) = .ok (.list (words.map Value.int))) :
    (readRegister (Probe.link backend) (.str register)).run.run [] =
      (.ok (.int (packWords words)), [registerCall register]) := by
  have body : (do
      let _ ← liftFault (Value.interpolate "AvatarGDBConcreteTarget read_register at %s "
        (.one (.str register)))
      (Probe.link backend).send { path := "target.read_register", args := [.str register] } :
        Probe Value).run.run [] = (.ok (.list (words.map Value.int)), [registerCall register]) := by
    rw [liftFault_interpolate_bind rfl]
    exact send_reply backend reply
  unfold readRegister rescue
  rw [Probe.bind_ok (Probe.tryCatch_ok body)]
  show (liftFault (joinWords (words.map Value.int)) : Probe Value).run.run _ = _
  rw [joinWords_ints]
  rfl

theorem readRegister_digits_run (register : String) {words : List Nat}
    (small : ∀ w ∈ words, w < 2 ^ 32)
    (reply : backend (registerCall register) = .ok (.list (words.map fun w : Nat => .int w))) :
    (readRegister (Probe.link backend) (.str register)).run.run [] =
      (.ok (.int (Nat.ofDigits (2 ^ 32) words : Nat)), [registerCall register]) := by
  rw [← packWords_digits words small]
  apply readRegister_words_run backend register
  rw [reply, List.map_map]
  rfl

/-- The words of a vector register, each below `2^32`, read as the sum of word `i` times
`2^(32 * i)`: a number below `2^(32 * k)` for `k` words whose `i`-th 32-bit digit is word
`i`, so that lists of the same length that differ read differently. -/
theorem readRegister_joins_words (register : String) (words : List Nat)
    (small : ∀ w ∈ words, w < 2 ^ 32)
    (reply : backend (registerCall register) = .ok (.list (words.map fun w : Nat => .int w))) :
    let value : Nat := (words.mapIdx fun i w => w * 2 ^ (32 * i)).sum
    (readRegister (Probe.link backend) (.str register)).run.run [] =
        (.ok (.int value), [registerCall register]) ∧
      value < 2 ^ (32 * words.length) ∧
      (∀ i (inside : i < words.length), (value >>> (32 * i)) &&& 0xffffffff = words[i]) ∧
      ∀ (other : List Nat) (otherBackend : Call → Except Fault Value),
        other.length = words.length → (∀ w ∈ other, w < 2 ^ 32) →
        otherBackend (registerCall register) = .ok (.list (other.map fun w : Nat => .int w)) →
        ((readRegister (Probe.link otherBackend) (.str register)).run.run []).1 = .ok (.int value) →
        other = words := by
  intro value
  have digits : value = Nat.ofDigits (2 ^ 32) words := sum_words_eq_ofDigits words
  refine ⟨?run, ?below, ?digit, ?distinct⟩
  case run => rw [digits, readRegister_digits_run backend register small reply]
  case below => exact digits ▸ ofDigits_words_lt small
  case digit =>
    intro i inside
    rw [digits]
    exact ofDigits_words_digit small inside
  case distinct =>
    intro other otherBackend sameLength otherSmall otherReply sameValue
    rw [readRegister_digits_run otherBackend register otherSmall otherReply, digits] at sameValue
    have packed : Nat.ofDigits (2 ^ 32) other = Nat.ofDigits (2 ^ 32) words := by
      simpa using sameValue
    exact Nat.ofDigits_inj_of_len_eq (by decide) sameLength otherSmall small packed

theorem readRegister_joins_xmm_words :
    let words : List Nat := [0xdeadbeef, 1, 0, 0xffffffff]
    let backend : Call → Except Fault Value := fun _ => .ok (.list (words.map fun w : Nat => .int w))
    (∀ w ∈ words, w < 2 ^ 32) ∧
    backend (registerCall "xmm0") = .ok (.list (words.map fun w : Nat => .int w)) ∧
    let value : Nat := (words.mapIdx fun i w => w * 2 ^ (32 * i)).sum
    (readRegister (Probe.link backend) (.str "xmm0")).run.run [] =
        (.ok (.int value), [registerCall "xmm0"]) ∧
      value < 2 ^ (32 * words.length) ∧
      (∀ i (inside : i < words.length), (value >>> (32 * i)) &&& 0xffffffff = words[i]) ∧
      ∀ (other : List Nat) (otherBackend : Call → Except Fault Value),
        other.length = words.length → (∀ w ∈ other, w < 2 ^ 32) →
        otherBackend (registerCall "xmm0") = .ok (.list (other.map fun w : Nat => .int w)) →
        ((readRegister (Probe.link otherBackend) (.str "xmm0")).run.run []).1 = .ok (.int value) →
        other = words :=
  ⟨by decide, rfl, readRegister_joins_words _ "xmm0" _ (by decide) rfl⟩

end GdbTarget

end DebugBridge
