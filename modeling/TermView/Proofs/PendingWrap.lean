import TermView.Proofs.ScreenInvariant

/-!
Where a cursor acts. It is reported inside the grid and acts there, except while a wrap is pending:
then it is reported in the last column and acts from one past it. So a move to the left falls short
by one, a character after a move up or down wraps first, and erasing leaves the cell under the
cursor.
-/

namespace TermView

def Direction.offset : Direction → Int × Int
  | .up => (0, -1)
  | .down => (0, 1)
  | .left => (-1, 0)
  | .right => (1, 0)

def Direction.isVertical (d : Direction) : Bool := d.offset.1 == 0

def Cursor.place (c : Cursor) : Int × Int := (c.col.toNat, c.row.toNat)

namespace Screen

open Grid (SameShape)

def Wrapping (s : Screen) : Prop := s.cursor.col = s.cols

instance (s : Screen) : Decidable s.Wrapping := inferInstanceAs (Decidable (_ = _))

def displaced (s : Screen) (d : Direction) (n : Nat) : Int × Int :=
  let stop (i : Int) (size : UInt16) : Int := max 0 (min i (size.toNat - 1))
  (stop (s.position.place.1 + n * d.offset.1) s.cols,
    stop (s.position.place.2 + n * d.offset.2) s.rows)

def WritesAtPosition (s : Screen) : Prop :=
  ∀ c, s.put c = { s with
    grid := s.grid.set s.position.row.toNat s.position.col.toNat
      ⟨c, s.pen.foreground, s.pen.background⟩
    cursor := ⟨s.position.col + 1, s.position.row⟩ }

variable {s : Screen}

theorem not_wrapping_of_lt (h : s.cursor.col.toNat < s.cols.toNat) : ¬ s.Wrapping := col_ne_cols h

theorem lt_of_not_wrapping (h : s.Sound) (hw : ¬ s.Wrapping) :
    s.cursor.col.toNat < s.cols.toNat :=
  Nat.lt_of_le_of_ne h.col_le (mt UInt16.toNat_inj.mp hw)

theorem toNat_position_row (h : s.Sound) : s.position.row.toNat = s.cursor.row.toNat :=
  (toNat_stopAt _ _).trans (Nat.min_eq_left (Nat.le_sub_one_of_lt h.row_lt))

theorem toNat_position_col (s : Screen) :
    s.position.col.toNat = min s.cursor.col.toNat (s.cols.toNat - 1) := toNat_stopAt ..

theorem position_eq (h : s.Sound) (hw : ¬ s.Wrapping) : s.position = s.cursor := by
  apply Cursor.eq_of_toNat
  · rw [toNat_position_col]
    exact Nat.min_eq_left (Nat.le_sub_one_of_lt (lt_of_not_wrapping h hw))
  · exact toNat_position_row h

theorem writesAtPosition (h : s.Sound) (hw : ¬ s.Wrapping) : s.WritesAtPosition := by
  intro c
  rw [put, wrap_of_lt (lt_of_not_wrapping h hw), position_eq h hw]
  rfl

theorem put_of_wrapping (h : s.Sound) (hw : s.Wrapping) (c : Char) :
    s.put c = s.carriageReturn.lineFeed.put c := by
  have hcol : s.carriageReturn.lineFeed.cursor.col.toNat = 0 := by
    rw [lineFeed_col]
    rfl
  have hin : s.carriageReturn.lineFeed.cursor.col.toNat < s.carriageReturn.lineFeed.cols.toNat := by
    rw [hcol]
    exact (sound_lineFeed (sound_carriageReturn h)).cols_pos
  rw [put, put, wrap_of_eq hw, wrap_of_lt hin]

theorem wrapping_move (h : s.Sound) (d : Direction) (n : UInt16) :
    (s.move d n).Wrapping ↔ s.Wrapping ∧ d.isVertical := by
  have hcol (i : Nat) := not_wrapping_of_lt (s := { s with cursor.col := stopAt i s.cols })
    (toNat_stopAt_lt i h.cols_pos)
  cases d with
  | up | down => exact (and_iff_left rfl).symm
  | left | right => exact iff_of_false (hcol _) (by simp [Direction.isVertical, Direction.offset])

theorem place_move (h : s.Sound) (d : Direction) (n : UInt16) :
    (s.move d n).position.place =
      s.displaced d (if s.Wrapping ∧ d = .left then n.toNat - 1 else n.toNat) := by
  have hrow := h.row_lt
  have hpos := h.cols_pos
  have hcol := h.col_le
  have hinside := lt_of_not_wrapping h
  have hlast : s.Wrapping → s.cursor.col.toNat = s.cols.toNat := congrArg UInt16.toNat
  simp only [displaced, Cursor.place, toNat_position_row h, toNat_position_row (sound_move h d n),
    toNat_position_col]
  unfold cols rows at *
  cases d with
  | up | down | right =>
    rw [if_neg (by simp)]
    simp only [move, Direction.offset, toNat_stopAt, cols, rows]
    apply Prod.ext <;> dsimp only <;> omega
  | left =>
    simp only [move, Direction.offset, toNat_stopAt, cols, and_true]
    by_cases hw : s.Wrapping
    -- the last column is reported while the cursor is past it, so one step is lost
    · have := hlast hw
      rw [if_pos hw]
      apply Prod.ext <;> dsimp only <;> omega
    · have := hinside hw
      rw [if_neg hw]
      apply Prod.ext <;> dsimp only <;> omega

theorem moves_from_position (cols rows : UInt16) (ops : List Operation) :
    let s := (Screen.blank cols rows).performAll ops
    (∀ d n, (s.move d n).position.place =
      s.displaced d (if s.Wrapping ∧ d = .left then n.toNat - 1 else n.toNat)) ∧
    (∀ d n, if s.Wrapping ∧ d.isVertical
      then ∀ c, (s.move d n).put c = (s.move d n).carriageReturn.lineFeed.put c
      else (s.move d n).WritesAtPosition) ∧
    ∀ row col, (s.moveTo row col).WritesAtPosition := by
  intro s
  have h : s.Sound := sound_performAll (sound_blank cols rows) ops
  refine ⟨place_move h, ?_, ?_⟩
  · intro d n
    have hs := sound_move h d n
    have hw := wrapping_move h d n
    split
    · rename_i hp
      exact put_of_wrapping hs (hw.mpr hp)
    · rename_i hp
      exact writesAtPosition hs (mt hw.mp hp)
  · intro row col
    apply writesAtPosition (sound_moveTo h row col)
    exact not_wrapping_of_lt (toNat_stopAt_lt _ h.cols_pos)

theorem full_row_moves_short :
    let s := (Screen.blank 3 2).performAll [.put 'a', .put 'b', .put 'c']
    s.Reachable ∧ s.position.place = (2, 0) ∧
      (s.move .left 1).position.place ≠ s.displaced .left 1 ∧
      ¬ (s.move .down 1).WritesAtPosition := by
  intro s
  refine ⟨⟨3, 2, _, rfl⟩, by decide, by decide, ?_⟩
  intro h
  exact absurd (h 'd') (by decide)

def eraseStart (s : Screen) : Nat := if s.Wrapping then s.cols.toNat else s.position.col.toNat

theorem eraseStart_eq (h : s.Sound) : s.eraseStart = s.cursor.col.toNat := by
  unfold eraseStart
  split
  · rename_i hw
    exact congrArg UInt16.toNat hw.symm
  · rename_i hw
    rw [position_eq h hw]

theorem eraseStart_le_position (h : s.Sound) :
    s.eraseStart ≤ s.position.col.toNat ↔ ¬ s.Wrapping := by
  have hlt : s.position.col.toNat < s.cols.toNat := toNat_stopAt_lt _ h.cols_pos
  unfold eraseStart
  split
  · rename_i hw
    exact iff_of_false (Nat.not_le.mpr hlt) (not_not_intro hw)
  · rename_i hw
    exact iff_of_true (Nat.le_refl _) hw

theorem isSome_position (h : s.Sound) :
    (s.grid.get? s.position.row.toNat s.position.col.toNat).isSome :=
  (Grid.isSome_get? h.grid _ _).mpr
    ⟨toNat_stopAt_lt _ h.rows_pos, toNat_stopAt_lt _ h.cols_pos⟩

theorem position_of_sameShape {s' : Screen} (hs : SameShape s.grid s'.grid)
    (hc : s'.cursor = s.cursor) : s'.position = s.position := by
  have hcols : s'.cols = s.cols := hs.cols_eq
  have hrows : s'.rows = s.rows := hs.rows_eq
  rw [position, position, hc, hcols, hrows]

theorem erases_from_position (cols rows : UInt16) (ops : List Operation) :
    let s := (Screen.blank cols rows).performAll ops
    let row := s.position.row.toNat
    let col := s.position.col.toNat
    let blank : Cell := ⟨' ', s.pen.foreground, s.pen.background⟩
    (∀ i j, (s.eraseLine .fromCursor).grid.get? i j = if i = row ∧ s.eraseStart ≤ j
      then (s.grid.get? i j).map fun _ => blank else s.grid.get? i j) ∧
    (∀ i j, (s.erase .fromCursor).grid.get? i j = if row < i ∨ i = row ∧ s.eraseStart ≤ j
      then (s.grid.get? i j).map fun _ => blank else s.grid.get? i j) ∧
    ∀ erased ∈ [s.eraseLine .fromCursor, s.erase .fromCursor],
      erased.grid.get? row col = (if s.Wrapping then s.grid.get? row col else some blank) ∧
      erased.cursor = s.cursor ∧ erased.position = s.position ∧ erased.pen = s.pen := by
  intro s row col blank
  have h : s.Sound := sound_performAll (sound_blank cols rows) ops
  have hline (i j : Nat) : (s.eraseLine .fromCursor).grid.get? i j =
      if i = row ∧ s.eraseStart ≤ j
      then (s.grid.get? i j).map fun _ => blank else s.grid.get? i j := by
    rw [eraseStart_eq h, show row = _ from toNat_position_row h]
    exact Grid.get?_fillRow _ _ _ i j
  have hdisplay (i j : Nat) : (s.erase .fromCursor).grid.get? i j =
      if row < i ∨ i = row ∧ s.eraseStart ≤ j
      then (s.grid.get? i j).map fun _ => blank else s.grid.get? i j := by
    rw [eraseStart_eq h, show row = _ from toNat_position_row h]
    exact get?_erase_fromCursor s i j
  have hunder : (if ¬ s.Wrapping then (s.grid.get? row col).map fun _ => blank
      else s.grid.get? row col) = if s.Wrapping then s.grid.get? row col else some blank := by
    obtain ⟨cell, hcell⟩ := Option.isSome_iff_exists.mp (isSome_position h)
    rw [show s.grid.get? row col = some cell from hcell, ite_not]
    rfl
  have hiff : s.eraseStart ≤ col ↔ ¬ s.Wrapping := eraseStart_le_position h
  refine ⟨hline, hdisplay, ?_⟩
  simp only [List.forall_mem_cons]
  refine ⟨⟨?_, rfl, position_of_sameShape (Grid.fillRow_shape ..) rfl, rfl⟩,
    ⟨?_, rfl, position_of_sameShape (erase_shape s .fromCursor) rfl, rfl⟩, by simp⟩
  · rw [hline, ← hunder]
    simp only [hiff, true_and]
  · rw [hdisplay, ← hunder]
    simp only [hiff, true_and, Nat.lt_irrefl, false_or]

theorem full_row_keeps_last :
    let s := (Screen.blank 3 2).performAll [.put 'a', .put 'b', .put 'c']
    s.Reachable ∧ s.position = ⟨2, 0⟩ ∧
      (s.eraseLine .fromCursor).grid.get? 0 2 = some ⟨'c', .default, .default⟩ ∧
      (s.erase .fromCursor).grid.get? 0 2 = some ⟨'c', .default, .default⟩ ∧
      Cell.mk 'c' .default .default ≠ ⟨' ', s.pen.foreground, s.pen.background⟩ := by
  intro s
  exact ⟨⟨3, 2, _, rfl⟩, by decide, by decide, by decide, by decide⟩

end Screen

end TermView
