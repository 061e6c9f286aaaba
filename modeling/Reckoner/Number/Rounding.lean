/-!
# Rounding a quotient

`roundDiv n d` is the whole number nearest to `n / d`, where an exact half goes
to the even neighbour. Every rounding of this library, to a binary fraction as
well as to a decimal place, is this one.
-/

namespace Reckoner

/-- The whole number nearest to `n / d`; a half goes to the even neighbour. -/
def roundDiv (n d : Nat) : Nat :=
  let quotient := n / d
  let twice := 2 * (n % d)
  if twice < d then quotient
  else if d < twice then quotient + 1
  else quotient + quotient % 2

/-- A multiple of the divisor is not moved. -/
theorem roundDiv_mul_left (k d : Nat) (hd : 0 < d) : roundDiv (k * d) d = k := by
  simp [roundDiv, Nat.mul_div_cancel k hd, hd]

@[simp] theorem roundDiv_one (n : Nat) : roundDiv n 1 = n := by
  simp [roundDiv, Nat.mod_one]

@[simp] theorem roundDiv_zero_left (d : Nat) : roundDiv 0 d = 0 := by
  simp [roundDiv]

/-- The result is the floor of the quotient or the number after it. -/
theorem roundDiv_eq_or (n d : Nat) : roundDiv n d = n / d ∨ roundDiv n d = n / d + 1 := by
  simp only [roundDiv]
  have := Nat.mod_two_eq_zero_or_one (n / d)
  split
  · exact .inl rfl
  · split
    · exact .inr rfl
    · omega

end Reckoner
