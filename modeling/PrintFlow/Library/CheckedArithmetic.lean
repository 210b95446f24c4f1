import Mathlib.Tactic.Linarith

/-!
# Checked 64-bit arithmetic

A sum of products that is computed in 64 bits with a test before each step. `Within total` says of a
part of such a computation that it gives its number exactly, or fails because the total has no place
in 64 bits. Parts are put together by `Within.bind` and `within_sum`, so that a computation as a
whole fails exactly if its result has no place.
-/

namespace CheckedArithmetic

/-- A computation of a part of a total. -/
inductive Within (total : Nat) : Option UInt64 → Nat → Prop where
  | exact (word : UInt64) : Within total (some word) word.toNat
  | overflow (h : 2 ^ 64 ≤ total) (value : Nat) : Within total none value

namespace Within

variable {total value next : Nat} {computed : Option UInt64}

theorem of_word {word : UInt64} (h : word.toNat = value) : Within total (some word) value :=
  h ▸ .exact word

/-- A part that is computed from another one. -/
theorem bind {step : UInt64 → Option UInt64} (h : Within total computed value)
    (hstep : ∀ word, word.toNat = value → Within total (step word) next) :
    Within total (computed.bind step) next := by
  cases h with
  | exact word => exact hstep word rfl
  | overflow h => exact .overflow h next

/-- A part that is computed in a case only. -/
theorem ite {c : Prop} [Decidable c] {yes no : Option UInt64} {yesValue noValue : Nat}
    (hyes : c → Within total yes yesValue) (hno : ¬ c → Within total no noValue) :
    Within total (if c then yes else no) (if c then yesValue else noValue) := by
  by_cases h : c
  · rw [if_pos h, if_pos h]
    exact hyes h
  · rw [if_neg h, if_neg h]
    exact hno h

/-- The computation of the total itself. -/
theorem eq_some_iff (h : Within total computed total) {word : UInt64} :
    computed = some word ↔ word.toNat = total := by
  cases h with
  | exact found =>
      exact Option.some_inj.trans ⟨fun h ↦ h ▸ rfl, fun h ↦ (UInt64.toNat_inj.mp h).symm⟩
  | overflow h =>
      have hlt := word.toNat_lt
      exact iff_of_false nofun fun h ↦ by omega

/-- It fails exactly if the total has no place in 64 bits. -/
theorem eq_none_iff (h : Within total computed total) : computed = none ↔ 2 ^ 64 ≤ total := by
  cases h with
  | exact found => exact iff_of_false nofun (not_le.mpr found.toNat_lt)
  | overflow h => exact iff_of_true rfl h

end Within

/-! ## Steps -/

/-- The product of two words, tested by a division. -/
def multiply (left right : UInt64) : Option UInt64 :=
  if right ≠ 0 ∧ 0xffffffffffffffff / right < left then none else some (left * right)

/-- The sum of two words, tested by a subtraction. -/
def add (value total : UInt64) : Option UInt64 :=
  if 0xffffffffffffffff - value < total then none else some (total + value)

/-- A product that has no place makes the total have none. -/
theorem within_multiply {total : Nat} (left right : UInt64)
    (h : 2 ^ 64 ≤ left.toNat * right.toNat → 2 ^ 64 ≤ total) :
    Within total (multiply left right) (left.toNat * right.toNat) := by
  have hmax : (0xffffffffffffffff : UInt64).toNat = 2 ^ 64 - 1 := rfl
  unfold multiply
  by_cases hright : right = 0
  · rw [if_neg (fun h ↦ h.1 hright)]
    exact .of_word (by rw [hright, UInt64.mul_zero, UInt64.toNat_zero, Nat.mul_zero])
  have hpositive : 0 < right.toNat :=
    Nat.pos_of_ne_zero fun h ↦ hright (UInt64.toNat_inj.mp h)
  by_cases htest : 0xffffffffffffffff / right < left
  · rw [if_pos ⟨hright, htest⟩]
    refine .overflow (h ?_) _
    rw [UInt64.lt_iff_toNat_lt, UInt64.toNat_div, hmax, Nat.div_lt_iff_lt_mul hpositive] at htest
    omega
  · rw [if_neg fun h ↦ htest h.2]
    rw [UInt64.lt_iff_toNat_lt, UInt64.toNat_div, hmax, Nat.div_lt_iff_lt_mul hpositive] at htest
    exact .of_word (by rw [UInt64.toNat_mul, Nat.mod_eq_of_lt (by omega)])

/-- A product that is not more than the total. -/
theorem within_product {total : Nat} {left right : UInt64} {a b : Nat} (hleft : left.toNat = a)
    (hright : right.toNat = b) (h : a * b ≤ total) :
    Within total (multiply left right) (a * b) := by
  subst hleft hright
  exact within_multiply left right fun hlarge ↦ hlarge.trans h

/-- A sum that has no place makes the total have none. -/
theorem within_add {total : Nat} (value sum : UInt64)
    (h : 2 ^ 64 ≤ sum.toNat + value.toNat → 2 ^ 64 ≤ total) :
    Within total (add value sum) (sum.toNat + value.toNat) := by
  have hmax : (0xffffffffffffffff : UInt64).toNat = 2 ^ 64 - 1 := rfl
  have hvalue := value.toNat_lt
  have hle : value ≤ 0xffffffffffffffff := by
    rw [UInt64.le_iff_toNat_le, hmax]
    omega
  unfold add
  by_cases htest : 0xffffffffffffffff - value < sum
  · rw [if_pos htest]
    rw [UInt64.lt_iff_toNat_lt, UInt64.toNat_sub_of_le _ _ hle, hmax] at htest
    exact .overflow (h (by omega)) _
  · rw [if_neg htest]
    rw [UInt64.lt_iff_toNat_lt, UInt64.toNat_sub_of_le _ _ hle, hmax] at htest
    exact .of_word (by rw [UInt64.toNat_add, Nat.mod_eq_of_lt (by omega)])

/-- Words that are added one after the other to a part of a total. -/
theorem within_sum {total : Nat} (words : List UInt64) (start : UInt64)
    (h : start.toNat + (words.map UInt64.toNat).sum ≤ total) :
    Within total (words.foldlM (fun sum word ↦ add word sum) start)
      (start.toNat + (words.map UInt64.toNat).sum) := by
  induction words generalizing start with
  | nil => exact .exact start
  | cons word words ih =>
      rw [List.map_cons, List.sum_cons] at h ⊢
      rw [List.foldlM_cons]
      refine (within_add word start fun hlarge ↦ by omega).bind fun sum hsum ↦ ?_
      have hrest := ih sum (by omega)
      rwa [hsum, Nat.add_assoc] at hrest

end CheckedArithmetic
