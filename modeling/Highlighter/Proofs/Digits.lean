import Highlighter.Number.Digits

/-!
# Digits read back

The digits that a number is written with, in a base up to sixteen, are read as that
number.
-/

namespace Highlighter.Digits

variable {base : Nat}

theorem hexValue?_digitChar : ∀ d < 16, hexValue? (Nat.digitChar d) = some d := by decide

theorem value?_digitChar (hbase : base ≤ 16) {d : Nat} (hd : d < base) :
    value? base (Nat.digitChar d) = some d := by
  rw [value?, hexValue?_digitChar d (Nat.lt_of_lt_of_le hd hbase)]
  simp [hd]

theorem extend_append (base n : Nat) (s t : Text) :
    extend base n (s ++ t) = extend base (extend base n s) t :=
  List.foldl_append

theorem extend_digitChar (hbase : base ≤ 16) {d : Nat} (hd : d < base) (n : Nat) :
    extend base n [Nat.digitChar d] = base * n + d := by
  simp [extend, value?_digitChar hbase hd]

section Written

variable (hlow : 1 < base) (hbase : base ≤ 16)
include hlow hbase

theorem extend_toDigits (n : Nat) : extend base 0 (Nat.toDigits base n) = n := by
  induction n using Nat.base_induction base hlow with
  | single d hd =>
    rw [Nat.toDigits_of_lt_base hd, extend_digitChar hbase hd, Nat.mul_zero, Nat.zero_add]
  | digit n d hd hn ih =>
    rw [← Nat.toDigits_append_toDigits hlow hn hd, extend_append, ih,
      Nat.toDigits_of_lt_base hd, extend_digitChar hbase hd]

theorem isDigit_of_mem_toDigits (n : Nat) : ∀ c ∈ Nat.toDigits base n, isDigit base c = true := by
  have hdigit : ∀ d < base, isDigit base (Nat.digitChar d) = true := fun d hd => by
    rw [isDigit, value?_digitChar hbase hd, Option.isSome_some]
  induction n using Nat.base_induction base hlow with
  | single d hd =>
    rw [Nat.toDigits_of_lt_base hd]
    simpa using hdigit d hd
  | digit n d hd hn ih =>
    rw [← Nat.toDigits_append_toDigits hlow hn hd, Nat.toDigits_of_lt_base hd]
    simp only [List.mem_append, List.mem_singleton]
    rintro c (hc | rfl)
    · exact ih c hc
    · exact hdigit d hd

/-- Only the number zero is written with a zero in front. -/
theorem eq_zero_of_head?_toDigits (n : Nat) (h : (Nat.toDigits base n).head? = some '0') :
    n = 0 := by
  induction n using Nat.base_induction base hlow with
  | single d hd =>
    have hzero : ∀ d < 16, Nat.digitChar d = '0' → d = 0 := by decide
    rw [Nat.toDigits_of_lt_base hd] at h
    exact hzero d (Nat.lt_of_lt_of_le hd hbase) (Option.some.inj h)
  | digit n d hd hn ih =>
    obtain ⟨c, digits, hdigits⟩ : ∃ c digits, Nat.toDigits base n = c :: digits :=
      List.exists_cons_of_ne_nil Nat.toDigits_ne_nil
    rw [← Nat.toDigits_append_toDigits hlow hn hd, hdigits] at h
    have hzero : n = 0 := ih (by rw [hdigits]; exact h)
    exact absurd hzero (Nat.pos_iff_ne_zero.mp hn)

/-- What is no digit does not occur in a number. -/
theorem not_mem_toDigits {c : Char} (hc : isDigit base c = false) (n : Nat) :
    c ∉ Nat.toDigits base n := by
  intro hmem
  rw [isDigit_of_mem_toDigits hlow hbase n c hmem] at hc
  cases hc

/-- The digits of a number are read as the number. -/
theorem read?_toDigits (n : Nat) : read? base (Nat.toDigits base n) = some n := by
  have hall : (Nat.toDigits base n).all (isDigit base) = true :=
    List.all_eq_true.mpr (isDigit_of_mem_toDigits hlow hbase n)
  simp [read?, Nat.toDigits_ne_nil, hall, extend_toDigits hlow hbase n]

end Written

theorem read?_ofNat (n : Nat) : read? 10 (Text.ofNat n) = some n :=
  read?_toDigits (by decide) (by decide) n

theorem isDigit_of_mem_ofNat (n : Nat) : ∀ c ∈ Text.ofNat n, isDigit 10 c = true :=
  isDigit_of_mem_toDigits (by decide) (by decide) n

/-- A decimal digit is not above the last one. -/
theorem le_nine_of_isDigit {c : Char} (hc : isDigit 10 c = true) : c ≤ '9' := by
  rw [isDigit, value?, Option.isSome_filter, hexValue?] at hc
  split at hc
  · next h => simpa using (Bool.and_eq_true_iff.mp h).2
  all_goals
    -- a letter stands for ten or more, and anything else for nothing
    exfalso
    split at hc <;> grind

theorem not_mem_ofNat {c : Char} (hc : isDigit 10 c = false) (n : Nat) : c ∉ Text.ofNat n :=
  not_mem_toDigits (by decide) (by decide) hc n

/-- A number starts with a digit. -/
theorem exists_ofNat_eq_cons (n : Nat) :
    ∃ d digits, Text.ofNat n = d :: digits ∧ ∀ c, isDigit 10 c = false → d ≠ c := by
  obtain ⟨d, digits, hdigits⟩ : ∃ d digits, Text.ofNat n = d :: digits :=
    List.exists_cons_of_ne_nil Nat.toDigits_ne_nil
  refine ⟨d, digits, hdigits, ?_⟩
  rintro c hc rfl
  exact not_mem_ofNat hc n (hdigits ▸ List.mem_cons_self ..)

end Highlighter.Digits
