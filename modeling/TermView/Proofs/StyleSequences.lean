import TermView.Proofs.EscapeGrammar

namespace TermView

theorem separate_append {α : Type} (p : α → Bool) {x : α} (hx : p x) (xs ys : List α) :
    separate p (xs ++ x :: ys) = separate p xs ++ separate p ys := by
  induction xs with
  | nil => simp [separate, hx]
  | cons y xs ih =>
    obtain ⟨part, parts, he⟩ := separate_eq_cons p xs
    by_cases hy : p y
    · simp [separate, hy, ih]
    · simp [separate, hy, ih, he]

namespace Parameters

def slots (body : List Char) : List (List Char) := separate (· == ';') body

def unmarked (body : List Char) : List Char := if body.head? = some '?' then body.tail else body

theorem read_eq (body : List Char) : read body =
    if unmarked body = [] then [] else ((slots (unmarked body)).take 1024).map Slot.read := rfl

theorem slots_join (p q : List Char) : slots (p ++ ';' :: q) = slots p ++ slots q :=
  separate_append _ rfl p q

theorem unmarked_join (p q : List Char) : unmarked (p ++ ';' :: q) = unmarked p ++ ';' :: q := by
  cases p with
  | nil => simp [unmarked]
  | cons c p => by_cases hc : c = '?' <;> simp [unmarked, hc]

theorem length_slots_unmarked (body : List Char) :
    (slots (unmarked body)).length = (slots body).length := by
  cases body with
  | nil => rfl
  | cons c body =>
    by_cases hc : c = '?'
    · obtain ⟨part, parts, he⟩ := separate_eq_cons (· == ';') body
      simp [unmarked, slots, separate, hc, he]
    · simp [unmarked, hc]

end Parameters

namespace Pen

open Parameters (read slots unmarked)

theorem applyAll_read (pen : Pen) {body : List Char} (h : (slots body).length ≤ 1024) :
    pen.applyAll (read body) = ((slots (unmarked body)).map Slot.read).foldl
      (fun p code => p.apply (code.getD 0)) pen := by
  rw [Parameters.read_eq]
  by_cases hempty : unmarked body = []
  -- no code at all and one absent code both reset
  · rw [if_pos hempty, hempty]
    rfl
  · rw [← Parameters.length_slots_unmarked] at h
    obtain ⟨part, parts, he⟩ := separate_eq_cons (· == ';') (unmarked body)
    rw [if_neg hempty, List.take_of_length_le h, slots, he]
    rfl

theorem applyAll_join (pen : Pen) {p q : List Char} (hmark : q.head? ≠ some '?')
    (hslots : (slots p).length + (slots q).length ≤ 1024) :
    pen.applyAll (read (p ++ ';' :: q)) = (pen.applyAll (read p)).applyAll (read q) := by
  have hboth : (slots (p ++ ';' :: q)).length ≤ 1024 := by
    rw [Parameters.slots_join, List.length_append]
    exact hslots
  have hq : unmarked q = q := if_neg hmark
  rw [applyAll_read _ hboth, applyAll_read _ (by omega), applyAll_read _ (by omega), hq,
    Parameters.unmarked_join, Parameters.slots_join, List.map_append, List.foldl_append]

end Pen

namespace Emulator

open Escape (InBody)
open Parameters (read slots)

def styleText (body : List Char) : String := String.ofList (escapeChar :: '[' :: body ++ ['m'])

theorem write_styleText (screen : Screen) {body : List Char} (h : ∀ c ∈ body, InBody c) :
    write ⟨screen, .ground⟩ (styleText body) =
      ⟨{ screen with pen := screen.pen.applyAll (read body) }, .ground⟩ := by
  rw [write, styleText, String.toList_ofList, foldl_receive_sequence screen h (by decide),
    ← Parameters.finish_eq_read]
  rfl

/-- Two style sequences act as the one whose body has the slots of the first and then those of the
second, as long as all of them are kept and a mark before the second is not taken for a slot. -/
theorem styles_join (screen : Screen) {p q : List Char} (hp : ∀ c ∈ p, InBody c)
    (hq : ∀ c ∈ q, InBody c) (hmark : q.head? ≠ some '?')
    (hslots : (slots p).length + (slots q).length ≤ 1024) :
    write ⟨screen, .ground⟩ (styleText (p ++ ';' :: q)) =
      (write ⟨screen, .ground⟩ (styleText p)).write (styleText q) := by
  have hboth : ∀ c ∈ p ++ ';' :: q, InBody c := by
    rw [List.forall_mem_append, List.forall_mem_cons]
    exact ⟨hp, by decide, hq⟩
  rw [write_styleText screen hboth, write_styleText screen hp, write_styleText _ hq,
    screen.pen.applyAll_join hmark hslots]

theorem styles_join_marked :
    let screen := (Screen.blank 4 2).setForeground (.basic 1)
    let p := ['?']
    let q := "104;99999999999999999999;-42".toList
    ((∀ c ∈ p, InBody c) ∧ (∀ c ∈ q, InBody c) ∧ q.head? ≠ some '?' ∧
      (slots p).length + (slots q).length ≤ 1024) ∧
    write ⟨screen, .ground⟩ (styleText (p ++ ';' :: q)) =
      ⟨(Screen.blank 4 2).setBackground (.bright 4), .ground⟩ := by
  intro screen p q
  have hp : ∀ c ∈ p, InBody c := by simp [p, InBody]
  have hq : ∀ c ∈ q, InBody c := by simp [q, InBody]
  have hmark : q.head? ≠ some '?' := by decide
  have hslots : (slots p).length + (slots q).length ≤ 1024 := by decide
  refine ⟨⟨hp, hq, hmark, hslots⟩, ?_⟩
  rw [styles_join screen hp hq hmark hslots]
  decide +kernel

end Emulator

end TermView
