import TermView.Proofs.ScreenInvariant

namespace TermView

def Within (size : UInt16 × UInt16) (i j : Nat) : Prop := i < size.2.toNat ∧ j < size.1.toNat

instance (size : UInt16 × UInt16) (i j : Nat) : Decidable (Within size i j) :=
  inferInstanceAs (Decidable (_ ∧ _))

def lesser (size size' : UInt16 × UInt16) : UInt16 × UInt16 :=
  (min size.1 size'.1, min size.2 size'.2)

theorem within_lesser (size size' : UInt16 × UInt16) (i j : Nat) :
    Within (lesser size size') i j ↔ Within size i j ∧ Within size' i j := by
  simp only [Within, lesser, Word.toNat_min, Nat.lt_min]
  constructor
  · rintro ⟨⟨hi, hi'⟩, hj, hj'⟩
    exact ⟨⟨hi, hj⟩, hi', hj'⟩
  · rintro ⟨⟨hi, hj⟩, hi', hj'⟩
    exact ⟨⟨hi, hi'⟩, hj, hj'⟩

theorem within_foldl_lesser (size : UInt16 × UInt16) (sizes : List (UInt16 × UInt16)) (i j : Nat) :
    Within (sizes.foldl lesser size) i j ↔ Within size i j ∧ ∀ size' ∈ sizes, Within size' i j := by
  induction sizes generalizing size with
  | nil => simp
  | cons size' sizes ih =>
    rw [List.foldl_cons, ih, within_lesser, List.forall_mem_cons, and_assoc]

def Grid.cellAt (g : Grid) (i j : Nat) : Cell := (g.get? i j).getD ⟨' ', .default, .default⟩

namespace Screen

variable {s : Screen}

theorem cellAt_outside {i j : Nat} (h : ¬ Within s.size i j) :
    s.grid.cellAt i j = ⟨' ', .default, .default⟩ := by
  rw [Grid.cellAt, Grid.get?_eq_none h]
  rfl

theorem get?_eq_cellAt (h : s.Sound) {i j : Nat} (hin : Within s.size i j) :
    s.grid.get? i j = some (s.grid.cellAt i j) := by
  obtain ⟨cell, hcell⟩ := Option.isSome_iff_exists.mp ((Grid.isSome_get? h.grid i j).mpr hin)
  rw [Grid.cellAt, hcell]
  rfl

theorem cellAt_resize (s : Screen) (cols rows : UInt16) (i j : Nat) :
    (s.perform (.resize cols rows)).grid.cellAt i j =
      if Within (max cols 1, max rows 1) i j then s.grid.cellAt i j
      else ⟨' ', .default, .default⟩ := by
  rcases perform_resize s cols rows with ⟨hcols, hrows, he⟩ | ⟨-, he⟩
  · rw [he, hcols, hrows]
    split
    · rfl
    · apply cellAt_outside
      assumption
  · rw [he]
    simp only [Grid.cellAt, Grid.get?_resize, Within, Word.toNat_max_one]
    split <;> rfl

def resizeAll (s : Screen) : List (UInt16 × UInt16) → Screen × List Bool
  | [] => (s, [])
  | (cols, rows) :: sizes =>
    let resized := s.resize? cols rows
    let (final, rest) := (resized.getD s).resizeAll sizes
    (final, resized.isSome :: rest)

theorem resizeAll_cons (s : Screen) (cols rows : UInt16) (sizes : List (UInt16 × UInt16)) :
    s.resizeAll ((cols, rows) :: sizes) =
      (((s.perform (.resize cols rows)).resizeAll sizes).1,
        (s.resize? cols rows).isSome :: ((s.perform (.resize cols rows)).resizeAll sizes).2) := rfl

def asked (sizes : List (UInt16 × UInt16)) : List (UInt16 × UInt16) :=
  sizes.map fun size => (max size.1 1, max size.2 1)

theorem sound_resizeAll (h : s.Sound) (sizes : List (UInt16 × UInt16)) :
    (s.resizeAll sizes).1.Sound := by
  induction sizes generalizing s with
  | nil => exact h
  | cons size sizes ih => exact ih (sound_resize h size.1 size.2)

theorem size_resizeAll (s : Screen) (sizes : List (UInt16 × UInt16)) :
    (s.resizeAll sizes).1.size = (s.size :: asked sizes).getLast (List.cons_ne_nil _ _) := by
  induction sizes generalizing s with
  | nil => rfl
  | cons size sizes ih =>
    rw [resizeAll_cons, ih, size_perform_resize]
    rfl

theorem pen_resizeAll (s : Screen) (sizes : List (UInt16 × UInt16)) :
    (s.resizeAll sizes).1.pen = s.pen := by
  induction sizes generalizing s with
  | nil => rfl
  | cons size sizes ih => rw [resizeAll_cons, ih, pen_resize]

theorem answers_resizeAll (s : Screen) (sizes : List (UInt16 × UInt16)) :
    (s.resizeAll sizes).2 =
      List.zipWith (fun before after => before != after) (s.size :: asked sizes) (asked sizes) := by
  induction sizes generalizing s with
  | nil => rfl
  | cons size sizes ih =>
    have hother : (s.resize? size.1 size.2).isSome = (s.size != (max size.1 1, max size.2 1)) := by
      rw [Bool.eq_iff_iff, bne_iff_ne, ne_eq, ← resize?_eq_none, Option.isSome_iff_ne_none]
    rw [resizeAll_cons, ih, hother, size_perform_resize]
    rfl

theorem cellAt_resizeAll (s : Screen) (sizes : List (UInt16 × UInt16)) (i j : Nat) :
    (s.resizeAll sizes).1.grid.cellAt i j =
      if Within ((asked sizes).foldl lesser s.size) i j then s.grid.cellAt i j
      else ⟨' ', .default, .default⟩ := by
  induction sizes generalizing s with
  | nil =>
    by_cases hin : Within s.size i j
    · simp [resizeAll, asked, hin]
    · simp [resizeAll, cellAt_outside hin]
  | cons size sizes ih =>
    have hcons : Within ((asked (size :: sizes)).foldl lesser s.size) i j ↔ Within s.size i j ∧
        Within ((asked sizes).foldl lesser (max size.1 1, max size.2 1)) i j := by
      simp only [within_foldl_lesser, asked, List.map_cons, List.forall_mem_cons]
    rw [resizeAll_cons, ih, size_perform_resize, cellAt_resize]
    by_cases hall : Within ((asked sizes).foldl lesser (max size.1 1, max size.2 1)) i j
    · have hthis : Within (max size.1 1, max size.2 1) i j :=
        ((within_foldl_lesser _ _ _ _).mp hall).1
      rw [if_pos hall, if_pos hthis]
      by_cases hin : Within s.size i j
      · rw [if_pos (hcons.mpr ⟨hin, hall⟩)]
      · rw [if_neg (fun h => hin (hcons.mp h).1), cellAt_outside hin]
    · rw [if_neg hall, if_neg (fun h => hall (hcons.mp h).2)]

theorem resizes_keep_smallest (h : s.Sound) (sizes : List (UInt16 × UInt16)) :
    let least := (asked sizes).foldl lesser s.size
    let (final, changed) := s.resizeAll sizes
    final.size = (s.size :: asked sizes).getLast (List.cons_ne_nil _ _) ∧
    (∀ row col, Within final.size row col →
      final.grid.get? row col = if Within least row col then s.grid.get? row col
        else some ⟨' ', .default, .default⟩) ∧
    final.pen = s.pen ∧
    changed =
      List.zipWith (fun before after => before != after) (s.size :: asked sizes) (asked sizes) := by
  refine ⟨size_resizeAll s sizes, ?_, pen_resizeAll s sizes, answers_resizeAll s sizes⟩
  intro row col hfinal
  rw [get?_eq_cellAt (sound_resizeAll h sizes) hfinal, cellAt_resizeAll]
  by_cases hin : Within ((asked sizes).foldl lesser s.size) row col
  · rw [if_pos hin, if_pos hin, get?_eq_cellAt h ((within_foldl_lesser _ _ _ _).mp hin).1]
  · rw [if_neg hin, if_neg hin]

theorem resizes_keep_smallest_cut :
    let s := (Screen.blank 3 2).performAll
      [.put 'a', .put 'b', .put 'c', .setBackground (.basic 4), .put 'd']
    let (final, changed) := s.resizeAll [(2, 3), (2, 3), (3, 0), (4, 2)]
    s.Sound ∧ final.grid.get? 0 1 = some ⟨'b', .default, .default⟩ ∧
      final.grid.get? 0 2 = some ⟨' ', .default, .default⟩ ∧
      final.grid.get? 1 0 = some ⟨' ', .default, .default⟩ ∧
      final.pen = ⟨.default, .basic 4⟩ ∧ changed = [true, false, true, true] := by
  intro s
  have hs : s.Sound := sound_performAll (sound_blank 3 2) _
  obtain ⟨-, hcell, hpen, hchanged⟩ :=
    resizes_keep_smallest hs [(2, 3), (2, 3), (3, 0), (4, 2)]
  refine ⟨hs, ?_, ?_, ?_, hpen, hchanged⟩
  · exact (hcell 0 1 (by decide)).trans (by decide)
  · exact (hcell 0 2 (by decide)).trans (by decide)
  · exact (hcell 1 0 (by decide)).trans (by decide)

end Screen

end TermView
