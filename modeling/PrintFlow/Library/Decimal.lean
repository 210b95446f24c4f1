import Mathlib.Data.List.Induction
import Mathlib.Data.List.Infix

/-!
# Decimal numerals

`decimal value` is the decimal numeral of a number, without leading zeros.
`exists_append_decimal_iff` says when a text is the beginning of another text that ends in a numeral
of any number: the boundaries of numerals that are joined without a separator are lost.
-/

namespace Decimal

/-- The decimal numeral of a number. -/
def decimal (value : Nat) : List Char := Nat.toDigits 10 value

/-- A text begins with another one and goes on. -/
def ProperPrefix (beginning text : List Char) : Prop :=
  ∃ rest, rest ≠ [] ∧ text = beginning ++ rest

/-- A text of digits only. -/
def Digits (text : List Char) : Prop := ∀ digit ∈ text, digit.isDigit

theorem decimal_ne_nil (value : Nat) : decimal value ≠ [] := Nat.toDigits_ne_nil

theorem digits_decimal (value : Nat) : Digits (decimal value) :=
  fun _ hdigit ↦ Nat.isDigit_of_mem_toDigits (by decide) (by decide) hdigit

/-- A text and another one of digits are together of digits. -/
theorem Digits.append {first second : List Char} (hfirst : Digits first) (hsecond : Digits second) :
    Digits (first ++ second) := by
  intro digit hdigit
  obtain hmem | hmem := List.mem_append.mp hdigit
  · exact hfirst digit hmem
  · exact hsecond digit hmem

/-- What follows in a text of digits is of digits. -/
theorem Digits.right {first second : List Char} (h : Digits (first ++ second)) : Digits second :=
  fun digit hdigit ↦ h digit (List.mem_append_right first hdigit)

/-- A digit is the numeral of its value. -/
theorem exists_digit {digit : Char} (h : digit.isDigit) :
    ∃ value, value < 10 ∧ decimal value = [digit] := by
  have hbounds : 48 ≤ digit.toNat ∧ digit.toNat ≤ 57 := by
    simpa [Char.isDigit, UInt32.le_iff_toNat_le] using h
  refine ⟨digit.toNat - 48, by omega, ?_⟩
  rw [decimal, Nat.toDigits_of_lt_base (by omega)]
  have hchar : (digit.toNat - 48).digitChar.toNat = digit.toNat := by
    rw [Nat.toNat_digitChar_of_lt_ten (by omega)]
    omega
  rw [Char.toNat_inj.mp hchar]

/-- A numeral of a positive number does not begin with zero. -/
theorem head_decimal_ne_zero {value : Nat} (h : 0 < value) : (decimal value).head? ≠ some '0' := by
  induction value using Nat.strongRecOn with
  | ind value ih =>
      by_cases hdigit : value < 10
      · rw [decimal, Nat.toDigits_of_lt_base hdigit, List.head?_cons]
        intro hzero
        have hchar := congrArg Char.toNat (Option.some.inj hzero)
        rw [Nat.toNat_digitChar_of_lt_ten hdigit] at hchar
        have hvalue : ('0' : Char).toNat = 48 := rfl
        omega
      · have hsplit : decimal value = decimal (value / 10) ++ [(value % 10).digitChar] :=
          Nat.toDigits_of_base_le (by decide) (by omega)
        rw [hsplit, List.head?_append_of_ne_nil _ (decimal_ne_nil _)]
        exact ih (value / 10) (by omega) (by omega)

/-- Digits without a leading zero are a numeral. -/
theorem exists_decimal_eq {text : List Char} (hne : text ≠ []) (hdigits : Digits text)
    (hhead : text.head? ≠ some '0') : ∃ value, decimal value = text := by
  induction text using List.reverseRecOn with
  | nil => exact absurd rfl hne
  | append_singleton text digit ih =>
      obtain ⟨last, hlast, hlast_eq⟩ := exists_digit (hdigits digit (by simp))
      by_cases hempty : text = []
      · exact ⟨last, by rw [hlast_eq, hempty]; rfl⟩
      · rw [List.head?_append_of_ne_nil _ hempty] at hhead
        obtain ⟨value, hvalue⟩ := ih hempty
          (fun digit hdigit ↦ hdigits digit (List.mem_append_left _ hdigit)) hhead
        have hpositive : 0 < value := by
          -- the numeral of zero begins with a zero
          by_contra hzero
          rw [Nat.eq_zero_of_not_pos hzero] at hvalue
          rw [← hvalue] at hhead
          exact hhead rfl
        refine ⟨10 * value + last, ?_⟩
        rw [← hvalue, ← hlast_eq]
        exact (Nat.toDigits_append_toDigits (by decide) hpositive hlast).symm

/-- A text of digits is the proper beginning of another text with some numeral behind it exactly
when it is a beginning of the other text, or goes on behind it without a zero first. -/
theorem exists_append_decimal_iff {text other : List Char} (hdigits : Digits text) :
    (∃ value, ProperPrefix text (other ++ decimal value)) ↔
      text <+: other ∨ ∃ rest, text = other ++ rest ∧ rest ≠ [] ∧ rest.head? ≠ some '0' := by
  constructor
  · rintro ⟨value, tail, htail, heq⟩
    obtain ⟨rest, htext, hvalue⟩ | ⟨rest, hother, -⟩ := List.append_eq_append_iff.mp heq
    · by_cases hne : rest = []
      · exact .inl ⟨[], by rw [htext, hne, List.append_nil, List.append_nil]⟩
      · refine .inr ⟨rest, htext, hne, fun hhead ↦ ?_⟩
        -- a numeral that begins with a zero is the zero alone
        have hzero : value = 0 := by
          by_contra hvalue_ne
          apply head_decimal_ne_zero (Nat.pos_of_ne_zero hvalue_ne)
          rw [hvalue, List.head?_append_of_ne_nil _ hne, hhead]
        have hlength := congrArg List.length hvalue
        rw [hzero, List.length_append] at hlength
        have hone : (decimal 0).length = 1 := rfl
        have hrest := List.length_pos_iff.mpr hne
        have htail_length := List.length_pos_iff.mpr htail
        omega
    · exact .inl ⟨rest, hother.symm⟩
  · rintro (⟨rest, rfl⟩ | ⟨rest, rfl, hne, hhead⟩)
    · refine ⟨0, rest ++ decimal 0, ?_, List.append_assoc text rest _⟩
      simp [decimal_ne_nil]
    · have hnumeral : Digits (rest ++ ['0']) :=
        hdigits.right.append (by simp [Digits])
      obtain ⟨value, hvalue⟩ := exists_decimal_eq (show rest ++ ['0'] ≠ [] by simp) hnumeral
        (by rwa [List.head?_append_of_ne_nil _ hne])
      refine ⟨value, ['0'], by simp, ?_⟩
      rw [hvalue, List.append_assoc]

end Decimal
