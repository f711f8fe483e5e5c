import Mathlib.Data.String.Basic

/-!
# Decimal text

Two servers turn integers into decimal text and back: the JSON-RPC registry keys its
error catalog by `std::to_string(code)`, and the REST routes read numbers with
`std::stoi`.  Lean's `toString` on `Int` writes the same text as `std::to_string`: the
digits of the absolute value, after a `-` for a negative number.

This module proves once what both need of that text: its characters are digits, after
at most a leading `-`, and the value of its digits is the number, so different numbers
have different texts.
-/

namespace ArchitectureCourse

/-- The value of a run of decimal digits read after the value `acc`. -/
def digitsValue (acc : Nat) (digits : List Char) : Nat :=
  digits.foldl (fun acc c => 10 * acc + (c.toNat - '0'.toNat)) acc

theorem digitChar_digit : ∀ k < 10, (Nat.digitChar k).isDigit = true ∧
    (Nat.digitChar k).toNat - '0'.toNat = k := by
  decide

/-- The digit loop of `toString` puts the digits of `n` before what it has written. -/
theorem toDigitsCore_ten (fuel n : Nat) (ds : List Char) (h : n < fuel) :
    ∃ pre, Nat.toDigitsCore 10 fuel n ds = pre ++ ds ∧ pre ≠ [] ∧
      (∀ c ∈ pre, c.isDigit = true) ∧ digitsValue 0 pre = n := by
  induction fuel generalizing n ds with
  | zero => omega
  | succ fuel ih =>
    obtain ⟨hdigit, hvalue⟩ := digitChar_digit (n % 10) (Nat.mod_lt _ (by decide))
    have hstep : Nat.toDigitsCore 10 (fuel + 1) n ds =
        if n / 10 = 0 then Nat.digitChar (n % 10) :: ds
        else Nat.toDigitsCore 10 fuel (n / 10) (Nat.digitChar (n % 10) :: ds) := rfl
    rw [hstep]
    split
    · refine ⟨[Nat.digitChar (n % 10)], rfl, by simp, by simpa using hdigit, ?_⟩
      simp only [digitsValue, List.foldl, hvalue]
      omega
    · obtain ⟨pre, heq, -, hpre, hv⟩ := ih (n / 10) (Nat.digitChar (n % 10) :: ds) (by omega)
      refine ⟨pre ++ [Nat.digitChar (n % 10)], by simp [heq], by simp,
        List.forall_mem_append.mpr ⟨hpre, by simpa using hdigit⟩, ?_⟩
      simp only [digitsValue, List.foldl_append, List.foldl] at hv ⊢
      rw [hv, hvalue]
      omega

theorem toDigits_ten (n : Nat) :
    Nat.toDigits 10 n ≠ [] ∧ (∀ c ∈ Nat.toDigits 10 n, c.isDigit = true) ∧
      digitsValue 0 (Nat.toDigits 10 n) = n := by
  obtain ⟨pre, heq, hne, hd, hv⟩ := toDigitsCore_ten (n + 1) n [] (by omega)
  have hpre : Nat.toDigits 10 n = pre := heq.trans (List.append_nil pre)
  exact hpre ▸ ⟨hne, hd, hv⟩

/-! ## `std::to_string` of an `int` -/

theorem toString_ofNat_data (m : Nat) : (toString (Int.ofNat m)).data = Nat.toDigits 10 m :=
  rfl

theorem toString_negSucc_data (m : Nat) :
    (toString (Int.negSucc m)).data = '-' :: Nat.toDigits 10 (m + 1) :=
  rfl

/-- The text of an `int` is digits after at most a leading `-`. -/
theorem isDigit_of_mem_toString {n : Int} {c : Char} (h : c ∈ (toString n).data) :
    c.isDigit = true ∨ c = '-' := by
  cases n with
  | ofNat m => exact .inl ((toDigits_ten m).2.1 c (toString_ofNat_data m ▸ h))
  | negSucc m =>
    rw [toString_negSucc_data, List.mem_cons] at h
    exact h.elim .inr fun h => .inl ((toDigits_ten (m + 1)).2.1 c h)

/-- Different `int`s have different texts. -/
theorem toString_int_injective : Function.Injective (toString : Int → String) := by
  have hdigits : ∀ {a b : Nat}, Nat.toDigits 10 a = Nat.toDigits 10 b → a = b := fun h => by
    simpa only [(toDigits_ten _).2.2] using congrArg (digitsValue 0) h
  have hsign : ∀ (a b : Nat), Nat.toDigits 10 a ≠ '-' :: Nat.toDigits 10 (b + 1) := fun a b h =>
    absurd ((toDigits_ten a).2.1 '-' (h ▸ List.mem_cons_self _ _)) (by decide)
  intro x y h
  have h := congrArg String.data h
  cases x <;> cases y <;>
    simp only [toString_ofNat_data, toString_negSucc_data, List.cons.injEq, true_and] at h
  · rw [hdigits h]
  · exact absurd h (hsign _ _)
  · exact absurd h.symm (hsign _ _)
  · rw [Nat.succ_injective (hdigits h)]

end ArchitectureCourse
