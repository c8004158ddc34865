namespace TermView.Word

theorem toNat_max_one (n : UInt16) : (max n 1).toNat = max n.toNat 1 := by
  have hle : n ≤ 1 ↔ n.toNat ≤ 1 := UInt16.le_iff_toNat_le
  change (if n ≤ 1 then 1 else n).toNat = _
  by_cases h : n ≤ 1
  · rw [if_pos h, UInt16.toNat_one, Nat.max_eq_right (hle.mp h)]
  · rw [if_neg h, Nat.max_eq_left (Nat.le_of_not_le (mt hle.mpr h))]

theorem max_one_eq_self {n : UInt16} (h : 0 < n.toNat) : max n 1 = n := by
  rw [← UInt16.toNat_inj, toNat_max_one, Nat.max_eq_left h]

theorem max_one_max_one (n : UInt16) : max (max n 1) 1 = max n 1 := by
  apply max_one_eq_self
  rw [toNat_max_one]
  omega

theorem toNat_min (a b : UInt16) : (min a b).toNat = min a.toNat b.toNat := by
  have hle : a ≤ b ↔ a.toNat ≤ b.toNat := UInt16.le_iff_toNat_le
  change (if a ≤ b then a else b).toNat = _
  by_cases h : a ≤ b
  · rw [if_pos h, Nat.min_eq_left (hle.mp h)]
  · rw [if_neg h, Nat.min_eq_right (Nat.le_of_not_le (mt hle.mpr h))]

theorem toNat_ofNat {n : Nat} (h : n < 65536) : (UInt16.ofNat n).toNat = n :=
  UInt16.toNat_ofNat_of_lt' h

theorem toNat_add_one {n m : UInt16} (h : n.toNat < m.toNat) : (n + 1).toNat = n.toNat + 1 := by
  have := m.toNat_lt
  rw [UInt16.toNat_add, UInt16.toNat_one, Nat.mod_eq_of_lt (by omega)]

theorem one_le {n : UInt16} (h : 0 < n.toNat) : 1 ≤ n := UInt16.le_iff_toNat_le.mpr h

theorem toNat_sub_one {n : UInt16} (h : 0 < n.toNat) : (n - 1).toNat = n.toNat - 1 := by
  rw [UInt16.toNat_sub_of_le _ _ (one_le h), UInt16.toNat_one]

end TermView.Word
