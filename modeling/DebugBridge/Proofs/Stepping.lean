import DebugBridge.Link
import DebugBridge.Value.Format
import Mathlib.Algebra.Group.Nat.Defs
/-!
# Stepping through an adapter

Proofs about an adapter run it in `Run σ` against a model of its debugger. A computation that
succeeds passes its value and its new state to the rest (`run_bind_ok`), and a guarded block
that succeeds is its own result (`run_tryCatch_ok`). A log line that cannot be filled stops
an operation; `Value.fills` checks a template's conversions against the values it takes, and
a line that passes never fails, so a proof steps over it (`liftFault_interpolate_bind`)
without computing its text.
-/

namespace DebugBridge

set_option autoImplicit false

/-- Computations against a modelled debugger whose state is `σ`. -/
abbrev Run (σ : Type) := StateT σ (Except Fault)

section Run

variable {σ α β : Type}

theorem run_bind_ok {x : Run σ α} {f : α → Run σ β} {s s' : σ} {a : α}
    (succeeds : x.run s = .ok (a, s')) : (x >>= f).run s = (f a).run s' := by
  rw [StateT.run_bind, succeeds]
  rfl

theorem run_bind_error {x : Run σ α} {f : α → Run σ β} {s : σ} {e : Fault}
    (fails : x.run s = .error e) : (x >>= f).run s = .error e := by
  rw [StateT.run_bind, fails]
  rfl

theorem run_tryCatch_ok {x : Run σ α} {handler : Fault → Run σ α} {s : σ} {p : α × σ}
    (succeeds : x.run s = .ok p) : (tryCatchThe Fault x handler).run s = .ok p := by
  show tryCatchThe Fault (x.run s) (fun e => (handler e).run s) = _
  rw [succeeds]
  rfl

theorem run_liftFault_ok {a : α} {s : σ} :
    (liftFault (.ok a : Except Fault α) : Run σ α).run s = .ok (a, s) := rfl

end Run

namespace Value

/-- The conversion letters of a template, in order, or nothing when the template ends
inside a conversion. `%%` converts nothing, and `%#x` is the letter `x`. -/
def conversionLetters : List Char → Option (List Char)
  | [] => some []
  | '%' :: '%' :: more => conversionLetters more
  | '%' :: '#' :: d :: more => (conversionLetters more).map (d :: ·)
  | '%' :: '#' :: [] => Option.none
  | '%' :: d :: more => (conversionLetters more).map (d :: ·)
  | '%' :: [] => Option.none
  | _ :: more => conversionLetters more

/-- A conversion letter that takes the value without failing: text of a value that writes
no overlong integer, hex digits of an integer. -/
def takes : Char → Value → Bool
  | 's', v => v.textFits
  | 'r', v => v.textFits
  | 'x', v => v.asInt?.isSome
  | _, _ => false

def takesAll : List Char → List Value → Bool
  | [], [] => true
  | c :: cs, v :: vs => takes c v && takesAll cs vs
  | _, _ => false

/-- The template's conversions take the values given, one each. -/
def fills (template : String) (args : FormatArgs) : Bool :=
  (conversionLetters template.toList).any (takesAll · args.values)

theorem convert_ok_of_takes {c : Char} {v : Value} (alternate : Bool) (at_ : Nat)
    (accepted : takes c v = true) : ∃ piece, convert alternate c at_ v = .ok piece := by
  unfold takes at accepted
  split at accepted
  · simp only [convert, renderLimited, accepted, if_true]
    exact ⟨_, rfl⟩
  · simp only [convert, quoteLimited, accepted, if_true]
    exact ⟨_, rfl⟩
  · obtain ⟨n, hasInt⟩ := Option.isSome_iff_exists.mp accepted
    simp only [convert, hasInt]
    exact ⟨_, rfl⟩
  · cases accepted

section Filling

variable {more : List Char} {at_ : Nat} {values left : List Value} {text piece : String}

theorem fillFrom_escape (filled : fillFrom more (at_ + 2) values = .ok (text, left)) :
    fillFrom ('%' :: '%' :: more) at_ values = .ok ("%" ++ text, left) := by
  rw [fillFrom.eq_def]
  simp [filled, bind, Except.bind, pure, Except.pure]

theorem fillFrom_alternate {d : Char} {v : Value}
    (converted : convert true d (at_ + 2) v = .ok piece)
    (filled : fillFrom more (at_ + 3) values = .ok (text, left)) :
    fillFrom ('%' :: '#' :: d :: more) at_ (v :: values) = .ok (piece ++ text, left) := by
  rw [fillFrom.eq_def]
  simp [converted, filled, bind, Except.bind, pure, Except.pure]

theorem fillFrom_conversion {d : Char} {v : Value} (notEscape : d ≠ '%') (notAlternate : d ≠ '#')
    (converted : convert false d (at_ + 1) v = .ok piece)
    (filled : fillFrom more (at_ + 2) values = .ok (text, left)) :
    fillFrom ('%' :: d :: more) at_ (v :: values) = .ok (piece ++ text, left) := by
  rw [fillFrom.eq_def]
  simp [*, bind, Except.bind, pure, Except.pure]

theorem fillFrom_literal {c : Char} (plain : c ≠ '%')
    (filled : fillFrom more (at_ + 1) values = .ok (text, left)) :
    fillFrom (c :: more) at_ values = .ok (String.singleton c ++ text, left) := by
  rw [fillFrom.eq_def]
  simp [plain, filled, bind, Except.bind, pure, Except.pure]

end Filling

theorem fillFrom_ok (cs letters : List Char) (parsed : conversionLetters cs = some letters)
    (values rest : List Value) (accepted : takesAll letters values = true) (at_ : Nat) :
    ∃ text, fillFrom cs at_ (values ++ rest) = .ok (text, rest) := by
  induction cs using conversionLetters.induct generalizing letters values at_ with
  | case1 =>
      cases parsed
      cases values with
      | nil => exact ⟨"", rfl⟩
      | cons v vs => simp [takesAll] at accepted
  | case2 more ih =>
      obtain ⟨text, filled⟩ := ih letters parsed values accepted (at_ + 2)
      exact ⟨"%" ++ text, fillFrom_escape filled⟩
  | case3 d more ih =>
      simp only [conversionLetters, Option.map_eq_some_iff] at parsed
      obtain ⟨tail, parsedTail, rfl⟩ := parsed
      cases values with
      | nil => simp [takesAll] at accepted
      | cons v vs =>
          simp only [takesAll, Bool.and_eq_true] at accepted
          obtain ⟨piece, converted⟩ := convert_ok_of_takes true (at_ + 2) accepted.1
          obtain ⟨text, filled⟩ := ih tail parsedTail vs accepted.2 (at_ + 3)
          exact ⟨piece ++ text, fillFrom_alternate converted filled⟩
  | case4 => simp [conversionLetters] at parsed
  | case5 d more notEscape notAlternate notTrailing ih =>
      -- the letter is neither `%` nor `#`: those shapes were the earlier clauses
      have notHash : d ≠ '#' := by
        intro isHash
        cases more with
        | nil => exact notTrailing isHash rfl
        | cons e rest => exact notAlternate e rest isHash rfl
      rw [conversionLetters.eq_5 d more notEscape notAlternate notTrailing] at parsed
      simp only [Option.map_eq_some_iff] at parsed
      obtain ⟨tail, parsedTail, rfl⟩ := parsed
      cases values with
      | nil => simp [takesAll] at accepted
      | cons v vs =>
          simp only [takesAll, Bool.and_eq_true] at accepted
          obtain ⟨piece, converted⟩ := convert_ok_of_takes false (at_ + 1) accepted.1
          obtain ⟨text, filled⟩ := ih tail parsedTail vs accepted.2 (at_ + 2)
          exact ⟨piece ++ text, fillFrom_conversion notEscape notHash converted filled⟩
  | case6 => simp [conversionLetters] at parsed
  | case7 c more notEscape notAlternate notTrailingHash notConversion notTrailing ih =>
      have plain : c ≠ '%' := by
        intro isPercent
        cases more with
        | nil => exact notTrailing isPercent rfl
        | cons e rest => exact notConversion e rest isPercent rfl
      rw [conversionLetters.eq_7 c more notEscape notAlternate notTrailingHash notConversion
        notTrailing] at parsed
      obtain ⟨text, filled⟩ := ih letters parsed values accepted (at_ + 1)
      exact ⟨String.singleton c ++ text, fillFrom_literal plain filled⟩

theorem interpolate_ok {template : String} {args : FormatArgs}
    (filled : fills template args = true) : ∃ text, interpolate template args = .ok text := by
  obtain ⟨letters, parsed, accepted⟩ := (Option.any_eq_true _ _).mp filled
  obtain ⟨text, result⟩ := fillFrom_ok template.toList letters parsed args.values [] accepted 0
  rw [List.append_nil] at result
  exact ⟨text, by simp [interpolate, result, bind, Except.bind, pure, Except.pure]⟩

example (pc : Int) : fills "current pc %x" (.one (.int pc)) = true := rfl

/-! The steps on integers, texts and byte strings that the adapters take on the way. -/

theorem hexDigits_int (n : Int) : (Value.int n).hexDigits = .ok (hexText n) := rfl

theorem renderLimited_str (s : String) : (Value.str s).renderLimited = .ok s := rfl

theorem renderLimited_bytes (b : List UInt8) :
    (Value.bytes b).renderLimited = .ok (Value.bytes b).render := rfl

theorem length_bytes (b : List UInt8) : (Value.bytes b).length = .ok b.length := rfl

theorem length_byteString (b : List UInt8) : (Value.byteString b).length = .ok b.length := rfl

theorem add_int (a b : Int) : (Value.int a).add (.int b) = .ok (.int (a + b)) := rfl

theorem sub_int (a b : Int) : (Value.int a).sub (.int b) = .ok (.int (a - b)) := rfl

theorem toIndex_int (n : Int) : (Value.int n).toIndex = .ok n := rfl

theorem hexLiteral_int (n : Int) :
    (Value.int n).hexLiteral =
      .ok ((if n < 0 then "-0x" else "0x") ++ String.ofList (Nat.toDigits 16 n.natAbs)) := rfl

theorem renderLimited_int {value : Int} (fits : decimalFits value) :
    (Value.int value).renderLimited = .ok (intText value) := by
  simp [renderLimited, textFits, fits]

theorem decimalFits_of_word {value : Int} (word : value.natAbs < 2 ^ 64) : decimalFits value := by
  -- 2 ^ 64 has twenty decimal digits, far below the limit
  have grows : 10 ^ 20 ≤ 10 ^ decimalDigitsMax := Nat.pow_le_pow_right (by decide) (by decide)
  simp only [decimalFits, decide_eq_true_eq, Nat.pow_eq]
  omega

end Value

/-- A log line whose template its values fill can be stepped over. -/
theorem liftFault_interpolate_bind {m : Type → Type} [Monad m] [LawfulMonad m]
    [MonadExceptOf Fault m] {β : Type} {template : String} {args : Value.FormatArgs}
    (filled : Value.fills template args = true) (k : m β) :
    (liftFault (Value.interpolate template args) >>= fun _ => k) = k := by
  obtain ⟨text, interpolated⟩ := Value.interpolate_ok filled
  rw [interpolated]
  exact pure_bind text fun _ => k

theorem forIn_hexLiteral_ints {m : Type → Type} [Monad m] [LawfulMonad m] [MonadExceptOf Fault m]
    (addresses : List Int) :
    (forIn (addresses.map Value.int) PUnit.unit (fun a _ => do
      let _ ← liftFault a.hexLiteral
      pure (ForInStep.yield PUnit.unit)) : m PUnit) = pure PUnit.unit := by
  induction addresses with
  | nil => rfl
  | cons a rest ih =>
    rw [List.map_cons, List.forIn_cons, Value.hexLiteral_int]
    simp only [liftFault, pure_bind]
    exact ih

end DebugBridge
