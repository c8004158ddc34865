import Mathlib.Algebra.Group.Nat.Defs
import TermView.Escape.Parameters
import TermView.Text.Basic

namespace TermView

namespace Slot

def magnitude? (digits : List Char) : Option Int :=
  if digits ≠ [] ∧ digits.all Char.isDigit then
    some (min (Nat.ofDigitChars 10 digits 0) (2 ^ 63 - 1) : Nat)
  else none

def read : List Char → Option Int
  | '-' :: digits => (magnitude? digits).map fun n => -n
  | '+' :: digits => magnitude? digits
  | digits => magnitude? digits

theorem push_digit {c : Char} (h : c.isDigit) (negative : Bool) (m : Nat) :
    push (.number negative (min m largest)) c =
      .number negative (min (10 * m + (c.toNat - 48)) largest) := by
  simp only [push, h, if_true, number.injEq, true_and]
  omega

theorem foldl_push_invalid (cs : List Char) : cs.foldl push .invalid = .invalid := by
  induction cs with
  | nil => rfl
  | cons c cs ih =>
    have hc : push .invalid c = .invalid := by
      unfold push; split <;> rfl
    rw [List.foldl_cons, hc, ih]

theorem foldl_push_number (negative : Bool) (m : Nat) (cs : List Char) :
    cs.foldl push (.number negative (min m largest)) =
      if cs.all Char.isDigit then .number negative (min (Nat.ofDigitChars 10 cs m) largest)
      else .invalid := by
  induction cs generalizing m with
  | nil => rfl
  | cons c cs ih =>
    by_cases hc : c.isDigit
    · rw [List.foldl_cons, push_digit hc, ih, List.all_cons, hc, Nat.ofDigitChars_cons]
      rfl
    · have hpush : push (.number negative (min m largest)) c = .invalid := by
        simp [push, hc]
      simp [hpush, foldl_push_invalid, hc]

theorem foldl_push_digits {c : Char} (h : c.isDigit) (negative : Bool) (cs : List Char) :
    (cs.foldl push (.number negative (c.toNat - 48))).value =
      (magnitude? (c :: cs)).map fun n => if negative then -n else n := by
  have hm : c.toNat - 48 = min (c.toNat - 48) largest := by
    have hc : c.toNat ≤ 57 := (Char.isDigit_iff_toNat.mp h).2
    unfold largest
    omega
  have hcons : Nat.ofDigitChars 10 cs (c.toNat - 48) = Nat.ofDigitChars 10 (c :: cs) 0 := by
    rw [Nat.ofDigitChars_cons, Nat.mul_zero, Nat.zero_add]
    rfl
  rw [hm, foldl_push_number, hcons, magnitude?]
  by_cases hall : cs.all Char.isDigit
  · cases negative <;> simp [hall, h, value, largest]
  · simp [hall, h, value]

theorem foldl_push_signed (negative : Bool) (cs : List Char) :
    (cs.foldl push (.signed negative)).value =
      (magnitude? cs).map fun n => if negative then -n else n := by
  cases cs with
  | nil => rfl
  | cons c cs =>
    by_cases h : c.isDigit
    · have hpush : push (.signed negative) c = .number negative (c.toNat - 48) := by simp [push, h]
      rw [List.foldl_cons, hpush, foldl_push_digits h]
    · have hpush : push (.signed negative) c = .invalid := by simp [push, h]
      simp [hpush, foldl_push_invalid, magnitude?, h, value]

theorem foldl_push_empty (cs : List Char) : (cs.foldl push .empty).value = read cs := by
  unfold read
  split
  · rename_i digits
    exact foldl_push_signed true digits
  · rename_i digits
    have h := foldl_push_signed false digits
    simp only [Bool.false_eq_true, if_false, Option.map_id'] at h
    exact h
  · rename_i hminus hplus
    cases cs with
    | nil => rfl
    | cons c cs =>
      by_cases h : c.isDigit
      · have hpush : push .empty c = .number false (c.toNat - 48) := by simp [push, h]
        rw [List.foldl_cons, hpush, foldl_push_digits h]
        simp
      · have hpush : push .empty c = .invalid := by
          unfold push
          rw [if_neg h]
          split
          · exact absurd rfl (hminus cs)
          · exact absurd rfl (hplus cs)
          · rfl
        simp [hpush, foldl_push_invalid, magnitude?, h, value]

end Slot

theorem separate_eq_cons {α : Type} (p : α → Bool) (xs : List α) :
    ∃ part parts, separate p xs = part :: parts := by
  induction xs with
  | nil => exact ⟨[], [], rfl⟩
  | cons x xs ih =>
    obtain ⟨part, parts, he⟩ := ih
    unfold separate
    by_cases hx : p x
    · exact ⟨_, _, if_pos hx⟩
    · rw [if_neg hx, he]
      exact ⟨_, _, rfl⟩

namespace Parameters

def read (body : List Char) : List (Option Int) :=
  let rest := if body.head? = some '?' then body.tail else body
  if rest = [] then [] else ((separate (· == ';') rest).take 1024).map Slot.read

def readFrom (slot : Slot) : List (List Char) → List (Option Int)
  | [] => []
  | part :: parts => (part.foldl Slot.push slot).value :: parts.map Slot.read

theorem toList_closeSlot {p : Parameters} (h : p.values.size ≤ capacity) :
    p.closeSlot.values.toList = (p.values.toList ++ [p.slot.value]).take capacity ∧
      p.closeSlot.values.size ≤ capacity := by
  unfold closeSlot
  by_cases hlt : p.values.size < capacity
  · simp only [if_pos hlt, Array.toList_push, Array.size_push]
    rw [List.take_of_length_le (by simp; omega)]
    exact ⟨rfl, hlt⟩
  · simp only [if_neg hlt]
    rw [List.take_append_of_le_length (by simp; omega), List.take_of_length_le (by simp; omega)]
    exact ⟨rfl, h⟩

theorem finish_foldl_push {p : Parameters} (hs : p.started) (h : p.values.size ≤ capacity)
    (body : List Char) : (body.foldl push p).finish.toList =
      (p.values.toList ++ readFrom p.slot (separate (· == ';') body)).take capacity := by
  induction body generalizing p with
  | nil =>
    rw [List.foldl_nil, finish, if_pos hs, (toList_closeSlot h).1]
    rfl
  | cons c body ih =>
    obtain ⟨part, parts, he⟩ := separate_eq_cons (· == ';') body
    by_cases hc : c = ';'
    · have hpush : p.push c = p.closeSlot := by simp [push, hs, hc, closeSlot]
      have hsep : separate (· == ';') (c :: body) = [] :: part :: parts := by
        rw [separate, if_pos (by simp [hc]), he]
      obtain ⟨hlist, hsize⟩ := toList_closeSlot h
      have hread : readFrom .empty (part :: parts) = (part :: parts).map Slot.read := by
        rw [readFrom, Slot.foldl_push_empty, List.map_cons]
      -- slots past the capacity are cut off now or in the end
      have htake (n : Nat) (xs ys : List (Option Int)) :
          (xs.take n ++ ys).take n = (xs ++ ys).take n := by
        rw [List.take_append, List.take_append, List.take_take, Nat.min_self, List.length_take,
          show n - min n xs.length = n - xs.length by omega]
      rw [List.foldl_cons, hpush, ih (p := p.closeSlot) hs hsize, hsep, he, hlist,
        show p.closeSlot.slot = .empty from rfl, hread, readFrom, htake, List.append_assoc]
      rfl
    · have hpush : p.push c = { p with slot := p.slot.push c } := by
        simp [push, hs, hc]
      have hsep : separate (· == ';') (c :: body) = (c :: part) :: parts := by
        rw [separate, if_neg (by simp [hc]), he]
      rw [List.foldl_cons, hpush, ih (p := { p with slot := p.slot.push c }) hs h, hsep, he]
      rfl

theorem finish_foldl_push_marked (marked : Bool) {body : List Char}
    (h : marked ∨ body.head? ≠ some '?') :
    (body.foldl push ⟨#[], .empty, marked, false⟩).finish.toList =
      if body = [] then [] else ((separate (· == ';') body).take 1024).map Slot.read := by
  cases body with
  | nil => rfl
  | cons c body =>
    have hpush : push ⟨#[], .empty, marked, false⟩ c = push ⟨#[], .empty, marked, true⟩ c := by
      have hc : marked ∨ c ≠ '?' := by simpa using h
      rcases hc with rfl | hc <;> simp_all [push]
    obtain ⟨part, parts, he⟩ := separate_eq_cons (· == ';') (c :: body)
    have hlist := finish_foldl_push (p := ⟨#[], .empty, marked, true⟩) rfl (Nat.zero_le _) (c :: body)
    rw [List.foldl_cons, hpush, ← List.foldl_cons, hlist, he, readFrom, Slot.foldl_push_empty,
      ← List.map_cons, if_neg (by simp), List.map_take]
    rfl

theorem finish_eq_read (body : List Char) : (body.foldl push .empty).finish.toList = read body := by
  cases body with
  | nil => rfl
  | cons c body =>
    by_cases hc : c = '?'
    · subst hc
      exact finish_foldl_push_marked true (.inl rfl)
    · have hhead : (c :: body).head? ≠ some '?' := by simpa using hc
      rw [read, if_neg hhead]
      exact finish_foldl_push_marked false (.inr hhead)

end Parameters

end TermView
