import DebugBridge.Text.Base64
import Mathlib.Data.List.Basic
/-!
# Base64 decoding

The decoder a debugger applies to the base64 text the adapters send: groups of four
characters of the standard alphabet, each giving three bytes, where only the last group
may end in one or two `=` that drop its last one or two bytes.

`base64Decode_base64Chars` says that it inverts `Text.base64` on every byte string. A group
of three bytes is a 24-bit number, its four characters are its six-bit digits, and they
add back up to it (`sixBit_digits`).
-/

namespace DebugBridge.Text

set_option autoImplicit false

def base64Value (c : Char) : Option Nat := base64Alphabet.idxOf? c

def groupBytes (x : Nat) : List UInt8 :=
  [(x / 65536).toUInt8, (x / 256 % 256).toUInt8, (x % 256).toUInt8]

/-- A group of four characters: two to four of the alphabet, the rest `=` padding, which
keeps one or two of the group's bytes. -/
def base64Group (c0 c1 c2 c3 : Char) : Option (List UInt8) := do
  let v0 ← base64Value c0
  let v1 ← base64Value c1
  if c2 = '=' then
    if c3 = '=' then pure ((groupBytes (v0 * 262144 + v1 * 4096)).take 1) else none
  else
    let v2 ← base64Value c2
    if c3 = '=' then pure ((groupBytes (v0 * 262144 + v1 * 4096 + v2 * 64)).take 2)
    else
      let v3 ← base64Value c3
      pure (groupBytes (v0 * 262144 + v1 * 4096 + v2 * 64 + v3))

def base64Decode : List Char → Option (List UInt8)
  | c0 :: c1 :: c2 :: c3 :: rest => do
    let group ← base64Group c0 c1 c2 c3
    if group.length = 3 then (group ++ ·) <$> base64Decode rest
    else if rest.isEmpty then pure group else none
  | [] => some []
  | _ => none

theorem base64Value_char_lt : ∀ k : Fin 64, base64Value (base64Char k) = some k := by
  decide +kernel

theorem base64Char_lt_plain : ∀ k : Fin 64, base64Char k ≠ '=' ∧ base64Char k ≠ ' ' := by
  decide +kernel

theorem base64Char_mod (n : Nat) :
    base64Char n = base64Char (⟨n % 64, Nat.mod_lt n (by decide)⟩ : Fin 64) := by
  simp [base64Char]

theorem base64Value_char (n : Nat) : base64Value (base64Char n) = some (n % 64) := by
  rw [base64Char_mod, base64Value_char_lt]
  rfl

theorem base64Char_plain (n : Nat) : base64Char n ≠ '=' ∧ base64Char n ≠ ' ' := by
  rw [base64Char_mod]
  exact base64Char_lt_plain _

theorem groupBytes_bytes (a b c : UInt8) :
    groupBytes (a.toNat * 65536 + b.toNat * 256 + c.toNat) = [a, b, c] := by
  have := a.toNat_lt
  have := b.toNat_lt
  have := c.toNat_lt
  simp only [groupBytes, List.cons.injEq, and_true]
  refine ⟨?_, ?_, ?_⟩ <;> apply UInt8.toNat.inj <;> simp <;> omega

theorem sixBit_digits (x : Nat) (small : x < 16777216) :
    x / 262144 % 64 * 262144 + x / 4096 % 64 * 4096 + x / 64 % 64 * 64 + x % 64 = x := by
  omega

/-- Decoding inverts encoding: group by group, the padded last group included. -/
theorem base64Decode_base64Chars (bytes : List UInt8) :
    base64Decode (base64Chars bytes) = some bytes := by
  have notPad (n : Nat) := (base64Char_plain n).1
  induction bytes using base64Chars.induct with
  | case1 => rfl
  | case2 a =>
    have small := a.toNat_lt
    have group : a.toNat * 65536 / 262144 % 64 * 262144 + a.toNat * 65536 / 4096 % 64 * 4096 =
        a.toNat * 65536 := by omega
    have bytes := groupBytes_bytes a 0 0
    simp only [UInt8.toNat_zero, Nat.zero_mul, Nat.add_zero] at bytes
    simp [base64Chars, base64Decode, base64Group, base64Value_char, group, bytes]
  | case3 a b =>
    have := a.toNat_lt
    have := b.toNat_lt
    have group : (a.toNat * 65536 + b.toNat * 256) / 262144 % 64 * 262144 +
        (a.toNat * 65536 + b.toNat * 256) / 4096 % 64 * 4096 +
        (a.toNat * 65536 + b.toNat * 256) / 64 % 64 * 64 = a.toNat * 65536 + b.toNat * 256 := by
      omega
    have bytes := groupBytes_bytes a b 0
    simp only [UInt8.toNat_zero, Nat.add_zero] at bytes
    simp [base64Chars, base64Decode, base64Group, base64Value_char, notPad, group, bytes]
  | case4 a b c rest ih =>
    have := a.toNat_lt
    have := b.toNat_lt
    have := c.toNat_lt
    have group := sixBit_digits (a.toNat * 65536 + b.toNat * 256 + c.toNat) (by omega)
    simp [base64Chars, base64Decode, base64Group, base64Value_char, notPad, group,
      groupBytes_bytes, ih]

theorem base64Chars_no_space (bytes : List UInt8) : ∀ c ∈ base64Chars bytes, c ≠ ' ' := by
  have notSpace (n : Nat) := (base64Char_plain n).2
  induction bytes using base64Chars.induct with
  | case1 => simp [base64Chars]
  | case2 a => simp [base64Chars, notSpace]
  | case3 a b => simp [base64Chars, notSpace]
  | case4 a b c rest ih =>
    simp only [base64Chars, List.mem_cons]
    rintro x (rfl | rfl | rfl | rfl | inRest)
    · exact notSpace _
    · exact notSpace _
    · exact notSpace _
    · exact notSpace _
    · exact ih x inRest

end DebugBridge.Text
