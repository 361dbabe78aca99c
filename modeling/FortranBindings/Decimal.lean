import Mathlib.Data.Nat.Digits
import Mathlib.Tactic.IntervalCases

/-!
# Decimal suffixes

`tmp_counter` renders its counter with Python's `str` on a non-negative `int`,
which is Lean's `toString` on `Nat`: `Nat.toDigits 10`, most significant digit
first. The naming lemmas need three facts about it: the rendering is never
empty, it is made of decimal digits only (so it holds no `_`), and it is
injective. Injectivity is read back through `digitsValue`.
-/

namespace FortranBindings

/-- The value of a list of decimal digit characters, most significant first. -/
def digitsValue (ds : List Char) : Nat :=
  ds.foldl (fun acc c => 10 * acc + (c.toNat - '0'.toNat)) 0

lemma digitsValue_append_singleton (ds : List Char) (c : Char) :
    digitsValue (ds ++ [c]) = 10 * digitsValue ds + (c.toNat - '0'.toNat) := by
  simp [digitsValue, List.foldl_append]

lemma digitChar_spec {d : Nat} (h : d < 10) :
    (Nat.digitChar d).isDigit ∧ (Nat.digitChar d).toNat - '0'.toNat = d := by
  interval_cases d <;> decide

lemma toDigitsCore_append (b f n : Nat) (ds : List Char) :
    Nat.toDigitsCore b f n ds = Nat.toDigitsCore b f n [] ++ ds := by
  induction f generalizing n ds with
  | zero => rfl
  | succ f ih =>
    simp only [Nat.toDigitsCore]
    split
    · rfl
    · rw [ih _ (_ :: ds), ih _ [_], List.append_assoc, List.singleton_append]

lemma toDigitsCore_isDigit (f n : Nat) : ∀ c ∈ Nat.toDigitsCore 10 f n [], c.isDigit := by
  induction f generalizing n with
  | zero => exact fun c h => absurd h (List.not_mem_nil c)
  | succ f ih =>
    have hd := (digitChar_spec (Nat.mod_lt n (by omega : 10 > 0))).1
    intro c hc
    simp only [Nat.toDigitsCore] at hc
    split at hc
    · exact List.mem_singleton.mp hc ▸ hd
    · rw [toDigitsCore_append, List.mem_append, List.mem_singleton] at hc
      exact hc.elim (ih _ c) (· ▸ hd)

/-- Enough fuel makes `toDigitsCore` a faithful base-10 rendering. -/
lemma digitsValue_toDigitsCore (f n : Nat) (h : n < f) :
    digitsValue (Nat.toDigitsCore 10 f n []) = n := by
  induction f generalizing n with
  | zero => omega
  | succ f ih =>
    have hd := (digitChar_spec (Nat.mod_lt n (by omega : 10 > 0))).2
    simp only [Nat.toDigitsCore]
    split
    · simp only [digitsValue, List.foldl_cons, List.foldl_nil, Nat.mul_zero, Nat.zero_add, hd]
      omega
    · rw [toDigitsCore_append, digitsValue_append_singleton, ih _ (by omega), hd]
      omega

theorem toString_isDigit (n : Nat) : ∀ c ∈ (toString n).data, c.isDigit :=
  toDigitsCore_isDigit _ _

theorem underscore_not_mem_toString (n : Nat) : '_' ∉ (toString n).data := fun h =>
  absurd (toString_isDigit n _ h) (by decide)

theorem toString_data_ne_nil (n : Nat) : (toString n).data ≠ [] := by
  show Nat.toDigitsCore 10 (n + 1) n [] ≠ []
  simp only [Nat.toDigitsCore]
  split
  · simp
  · rw [toDigitsCore_append]; simp

theorem toString_injective {a b : Nat} (h : toString a = toString b) : a = b := by
  have hd : Nat.toDigits 10 a = Nat.toDigits 10 b := congrArg String.data h
  have := congrArg digitsValue hd
  rwa [Nat.toDigits, Nat.toDigits, digitsValue_toDigitsCore _ _ (Nat.lt_succ_self a),
    digitsValue_toDigitsCore _ _ (Nat.lt_succ_self b)] at this

end FortranBindings
