namespace TermView.RowMajor

variable {width : Nat}

theorem place_lt {rows row col : Nat} (hr : row < rows) (hc : col < width) :
    row * width + col < rows * width := by
  have := Nat.mul_le_mul_right width (show row + 1 ≤ rows by omega)
  rw [Nat.succ_mul] at this
  omega

theorem place_div (i : Nat) {j : Nat} (hj : j < width) : (i * width + j) / width = i := by
  rw [Nat.add_comm, Nat.add_mul_div_right _ _ (Nat.zero_lt_of_lt hj), Nat.div_eq_of_lt hj,
    Nat.zero_add]

theorem place_mod (i : Nat) {j : Nat} (hj : j < width) : (i * width + j) % width = j := by
  rw [Nat.add_comm, Nat.add_mul_mod_self_right, Nat.mod_eq_of_lt hj]

theorem place_between (i row start : Nat) {j stop : Nat} (hj : j < width) (hs : stop ≤ width) :
    row * width + start ≤ i * width + j ∧ i * width + j < row * width + stop ↔
      i = row ∧ start ≤ j ∧ j < stop := by
  constructor
  · rintro ⟨hl, hu⟩
    rcases Nat.lt_trichotomy i row with hi | rfl | hi
    · have := Nat.mul_le_mul_right width (show i + 1 ≤ row by omega)
      rw [Nat.succ_mul] at this
      omega
    · omega
    · have := Nat.mul_le_mul_right width (show row + 1 ≤ i by omega)
      rw [Nat.succ_mul] at this
      omega
  · rintro ⟨rfl, hs, hj⟩
    omega

end TermView.RowMajor
