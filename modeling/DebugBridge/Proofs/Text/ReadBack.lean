import DebugBridge.Text.Numeral
import DebugBridge.Value.Render
import Mathlib.Data.List.TakeWhile
import Mathlib.Tactic.Ring
/-!
# Reading back what the adapters write

The adapters put integers into command text as hex literals (`0x1f`, `-0x1f`) and plain
decimals (`31`, `-31`), and read register names back after a trailing newline is cut.
`Text.readNumeral` gets back the integer that was written, whatever its sign or size, and a
name without blanks survives the cut (`trimBlanks_append_newline`). Both numeral facts come
from one: a sign, a lead the base drops and the digits of `k` read back as the signed `k`
(`readNumeral_signed`), reading the digits against `Nat.toDigits`.
-/

namespace DebugBridge.Text

set_option autoImplicit false

theorem digitValue_digitChar {base : Nat} (small : base ≤ 16) :
    ∀ d, d < base → digitValue base (Nat.digitChar d) = some d
  | 0, h | 1, h | 2, h | 3, h | 4, h | 5, h | 6, h | 7, h | 8, h | 9, h | 10, h | 11, h
  | 12, h | 13, h | 14, h | 15, h => by simp [digitValue, Nat.digitChar, h]
  | _ + 16, h => absurd h (by omega)

theorem digitChar_plain : ∀ d, d < 16 →
    (Nat.digitChar d).toNat < 127 ∧ isAsciiSpace (Nat.digitChar d) = false ∧
      Nat.digitChar d ≠ '_' ∧ Nat.digitChar d ≠ '-' ∧ Nat.digitChar d ≠ '+'
  | 0, _ | 1, _ | 2, _ | 3, _ | 4, _ | 5, _ | 6, _ | 7, _ | 8, _ | 9, _ | 10, _ | 11, _
  | 12, _ | 13, _ | 14, _ | 15, _ => by decide
  | _ + 16, h => absurd h (by omega)

theorem readDigits_digit {base : Nat} {c : Char} {d : Nat} (digit : digitValue base c = some d)
    (rest : List Char) (acc : Nat) (afterDigit : Bool) :
    readDigits base (c :: rest) acc afterDigit = readDigits base rest (acc * base + d) true := by
  have notUnderscore : c ≠ '_' := by
    rintro rfl
    simp [digitValue] at digit
  rw [readDigits.eq_4 _ _ _ _ _ notUnderscore, digit]

theorem readDigits_toDigits (base : Nat) (small : base ≤ 16) (wide : 1 < base) (n : Nat) :
    ∀ (rest : List Char) (acc : Nat) (afterDigit : Bool),
      readDigits base (Nat.toDigits base n ++ rest) acc afterDigit =
        readDigits base rest (acc * base ^ (Nat.toDigits base n).length + n) true := by
  -- `Nat.toDigits` peels the last digit off: induction on `n` through `n / base`
  induction n using Nat.strong_induction_on with
  | _ n ih =>
    intro rest acc afterDigit
    rw [Nat.toDigits_eq_if wide]
    split
    case isTrue single =>
      rw [List.singleton_append, readDigits_digit (digitValue_digitChar small n single)]
      simp
    case isFalse several =>
      have lower : n / base < n := Nat.div_lt_self (by omega) wide
      have last := digitValue_digitChar small (n % base) (Nat.mod_lt n (by omega))
      rw [List.append_assoc, List.singleton_append, ih (n / base) lower,
        readDigits_digit last, List.length_append, List.length_singleton, Nat.pow_succ]
      congr 1
      have split := Nat.div_add_mod n base
      calc (acc * base ^ (Nat.toDigits base (n / base)).length + n / base) * base + n % base
          = acc * (base ^ (Nat.toDigits base (n / base)).length * base) +
              (base * (n / base) + n % base) := by ring
        _ = _ := by rw [split]

theorem mem_toDigits {base : Nat} (wide : 1 < base) {c : Char} (n : Nat) :
    c ∈ Nat.toDigits base n → ∃ d < base, c = Nat.digitChar d := by
  induction n using Nat.strong_induction_on with
  | _ n ih =>
    rw [Nat.toDigits_eq_if wide]
    split
    case isTrue single =>
      intro mem
      exact ⟨n, single, List.mem_singleton.mp mem⟩
    case isFalse several =>
      intro mem
      rcases List.mem_append.mp mem with inHigh | isLast
      · exact ih (n / base) (Nat.div_lt_self (by omega) wide) inHigh
      · exact ⟨n % base, Nat.mod_lt n (by omega), List.mem_singleton.mp isLast⟩

theorem toDigits_plain (base : Nat) (small : base ≤ 16) (wide : 1 < base) (k : Nat) :
    ∀ c ∈ Nat.toDigits base k,
      c.toNat < 127 ∧ isAsciiSpace c = false ∧ c ≠ '_' ∧ c ≠ '-' ∧ c ≠ '+' := by
  intro c mem
  obtain ⟨d, below, rfl⟩ := mem_toDigits wide k mem
  exact digitChar_plain d (by omega)

theorem toDigits_ne_nil (base : Nat) (wide : 1 < base) (k : Nat) : Nat.toDigits base k ≠ [] := by
  rw [Nat.toDigits_eq_if wide]
  split <;> simp

theorem mapM_normalizeNumeralChar {cs : List Char} (ascii : ∀ c ∈ cs, c.toNat < 127) :
    cs.mapM normalizeNumeralChar = some cs := by
  induction cs with
  | nil => rfl
  | cons c rest ih =>
    have kept : normalizeNumeralChar c = some c := by
      simp [normalizeNumeralChar, ascii c List.mem_cons_self]
    simp [List.mapM_cons, kept, ih fun x mem => ascii x (List.mem_cons_of_mem c mem)]

theorem dropWhile_of_none {p : Char → Bool} {cs : List Char} (none : ∀ c ∈ cs, p c = false) :
    cs.dropWhile p = cs := by
  cases cs with
  | nil => rfl
  | cons c rest => simp [none c List.mem_cons_self]

theorem trim_of_no_space {cs : List Char} (noSpace : ∀ c ∈ cs, isAsciiSpace c = false) :
    ((cs.dropWhile isAsciiSpace).reverse.dropWhile isAsciiSpace).reverse = cs := by
  rw [dropWhile_of_none noSpace,
    dropWhile_of_none (fun c mem => noSpace c (List.mem_reverse.mp mem)), List.reverse_reverse]

/-- A numeral written as an optional minus sign, a lead that the base drops (`0x` in base
16, nothing in base 10), and the digits of `k`, reads back as the signed `k`. -/
theorem readNumeral_signed (base : Nat) (small : base ≤ 16) (wide : 1 < base) (s : String)
    (negative : Bool) (lead : List Char) (k : Nat)
    (chars : s.toList = (if negative then ['-'] else []) ++ lead ++ Nat.toDigits base k)
    (leadPlain : ∀ c ∈ lead, c.toNat < 127 ∧ isAsciiSpace c = false ∧ c ≠ '-' ∧ c ≠ '+')
    (dropsLead : (if base == 16 then dropHexPrefix (lead ++ Nat.toDigits base k)
      else lead ++ Nat.toDigits base k) = Nat.toDigits base k) :
    readNumeral base s = some (if negative then -(k : Int) else k) := by
  have digits : readDigits base (Nat.toDigits base k) 0 false = some k := by
    simpa [readDigits.eq_1] using readDigits_toDigits base small wide k [] 0 false
  have unsignedPlain : ∀ c ∈ lead ++ Nat.toDigits base k,
      c.toNat < 127 ∧ isAsciiSpace c = false ∧ c ≠ '-' ∧ c ≠ '+' := by
    intro c mem
    rcases List.mem_append.mp mem with inLead | inDigits
    · exact leadPlain c inLead
    · obtain ⟨ascii, noSpace, -, notMinus, notPlus⟩ := toDigits_plain base small wide k c inDigits
      exact ⟨ascii, noSpace, notMinus, notPlus⟩
  have ascii : ∀ c ∈ (if negative then ['-'] else []) ++ lead ++ Nat.toDigits base k,
      c.toNat < 127 ∧ isAsciiSpace c = false := by
    intro c mem
    rw [List.append_assoc] at mem
    rcases List.mem_append.mp mem with sign | unsigned
    · split at sign
      · rw [List.mem_singleton.mp sign]
        decide
      · cases sign
    · exact ⟨(unsignedPlain c unsigned).1, (unsignedPlain c unsigned).2.1⟩
  obtain ⟨c, rest, first⟩ := List.exists_cons_of_ne_nil
    (List.append_ne_nil_of_right_ne_nil lead (toDigits_ne_nil base wide k))
  have firstPlain := unsignedPlain c (by rw [first]; exact List.mem_cons_self)
  unfold readNumeral
  rw [chars, mapM_normalizeNumeralChar fun c mem => (ascii c mem).1]
  simp only [Option.pure_def, Option.bind_eq_bind, Option.bind_some]
  rw [trim_of_no_space fun c mem => (ascii c mem).2]
  simp only [beq_iff_eq] at dropsLead
  -- the sign decides which branch of the reader's match the text takes
  cases negative
  · simp only [Bool.false_eq_true, if_false, List.nil_append]
    rw [first]
    rw [first] at dropsLead
    simp [firstPlain.2.2.1, firstPlain.2.2.2, dropsLead, digits]
  · simp [dropsLead, digits]

theorem readNumeral_hexLiteral (n : Int) :
    readNumeral 16 ((if n < 0 then "-0x" else "0x") ++ String.ofList (Nat.toDigits 16 n.natAbs)) =
      some n := by
  obtain ⟨c, rest, first⟩ := List.exists_cons_of_ne_nil (toDigits_ne_nil 16 (by decide) n.natAbs)
  have notUnderscore := (toDigits_plain 16 (by decide) (by decide) n.natAbs c
    (by rw [first]; exact List.mem_cons_self)).2.2.1
  have prefixPlain : ∀ c ∈ ['0', 'x'],
      c.toNat < 127 ∧ isAsciiSpace c = false ∧ c ≠ '-' ∧ c ≠ '+' := by
    intro c mem
    simp only [List.mem_cons, List.not_mem_nil, or_false] at mem
    rcases mem with rfl | rfl <;> decide
  have read := readNumeral_signed 16 (by decide) (by decide)
    ((if n < 0 then "-0x" else "0x") ++ String.ofList (Nat.toDigits 16 n.natAbs)) (decide (n < 0))
    ['0', 'x'] n.natAbs (by split <;> simp_all) prefixPlain
    (by simp [first, dropHexPrefix, notUnderscore])
  rw [read]
  by_cases neg : n < 0
  · rw [decide_eq_true neg, if_pos rfl, Int.ofNat_natAbs_of_nonpos (by omega), Int.neg_neg]
  · rw [decide_eq_false neg, if_neg Bool.false_ne_true, Int.natAbs_of_nonneg (by omega)]

theorem readNumeral_intText (n : Int) : readNumeral 10 (Value.intText n) = some n := by
  have read := readNumeral_signed 10 (by decide) (by decide) (Value.intText n) (decide (n < 0)) []
    n.natAbs (by simp [Value.intText]; split <;> simp_all [Nat.repr]) (by simp) (by simp)
  rw [read]
  by_cases neg : n < 0
  · rw [decide_eq_true neg, if_pos rfl, Int.ofNat_natAbs_of_nonpos (by omega), Int.neg_neg]
  · rw [decide_eq_false neg, if_neg Bool.false_ne_true, Int.natAbs_of_nonneg (by omega)]

theorem intText_no_space (n : Int) : ∀ c ∈ (Value.intText n).toList, c ≠ ' ' := by
  intro c mem
  have digitsPlain := toDigits_plain 10 (by decide) (by decide) n.natAbs
  have spaceless : ∀ c ∈ Nat.toDigits 10 n.natAbs, c ≠ ' ' := by
    intro c inDigits isSpace
    have noSpace := (digitsPlain c inDigits).2.1
    rw [isSpace] at noSpace
    exact absurd noSpace (by decide)
  simp only [Value.intText] at mem
  split at mem
  · simp only [String.toList_append, List.mem_append] at mem
    rcases mem with sign | digits
    · simp at sign
      rw [sign]
      decide
    · exact spaceless c (by simpa [Nat.repr] using digits)
  · exact spaceless c (by simpa [Nat.repr] using mem)

theorem trimBlanks_append_newline (name : String) (plain : ∀ c ∈ name.toList, isBlank c = false) :
    trimBlanks (name ++ "\n") = name := by
  have newline : isBlank '\n' = true := by decide
  have back : ((name.toList ++ ['\n']).reverse.dropWhile isBlank).reverse = name.toList := by
    simp only [List.reverse_append, List.reverse_singleton, List.singleton_append,
      List.dropWhile_cons, newline, if_true]
    rw [dropWhile_of_none (fun c mem => plain c (List.mem_reverse.mp mem)), List.reverse_reverse]
  unfold trimBlanks
  rw [String.toList_append, show "\n".toList = ['\n'] from rfl]
  cases chars : name.toList with
  | nil =>
    rw [String.toList_eq_nil_iff.mp chars]
    decide
  | cons c rest =>
    have front : isBlank c = false := plain c (by rw [chars]; exact List.mem_cons_self)
    rw [List.cons_append, List.dropWhile_cons_of_neg (by simp [front]), ← List.cons_append,
      ← chars, back, String.ofList_toList]

end DebugBridge.Text
