import TermView.Proofs.GridCells
import TermView.Screen

namespace TermView

inductive Operation where
  | put (c : Char)
  | lineFeed
  | carriageReturn
  | backspace
  | tab
  | clear (extent : Extent)
  | erase (extent : Extent)
  | eraseLine (extent : Extent)
  | moveTo (row col : UInt16)
  | move (direction : Direction) (amount : UInt16)
  | resize (cols rows : UInt16)
  | setForeground (color : Color)
  | setBackground (color : Color)
  | resetPen
deriving DecidableEq

def Operation.isResize : Operation → Bool
  | .resize _ _ => true
  | _ => false

theorem Cursor.eq_of_toNat {c d : Cursor} (hcol : c.col.toNat = d.col.toNat)
    (hrow : c.row.toNat = d.row.toNat) : c = d := by
  obtain ⟨col, row⟩ := c
  obtain ⟨col', row'⟩ := d
  obtain rfl : col = col' := UInt16.toNat_inj.mp hcol
  obtain rfl : row = row' := UInt16.toNat_inj.mp hrow
  rfl

namespace Screen

open Grid (SameShape)
open Word

def perform (s : Screen) : Operation → Screen
  | .put c => s.put c
  | .lineFeed => s.lineFeed
  | .carriageReturn => s.carriageReturn
  | .backspace => s.backspace
  | .tab => s.tab
  | .clear extent => s.clear extent
  | .erase extent => s.erase extent
  | .eraseLine extent => s.eraseLine extent
  | .moveTo row col => s.moveTo row col
  | .move direction amount => s.move direction amount
  | .resize cols rows => (s.resize? cols rows).getD s
  | .setForeground color => s.setForeground color
  | .setBackground color => s.setBackground color
  | .resetPen => s.resetPen

def performAll (s : Screen) (ops : List Operation) : Screen := ops.foldl perform s

theorem performAll_cons (s : Screen) (op : Operation) (ops : List Operation) :
    s.performAll (op :: ops) = (s.perform op).performAll ops := rfl

theorem performAll_append (s : Screen) (ops ops' : List Operation) :
    s.performAll (ops ++ ops') = (s.performAll ops).performAll ops' := List.foldl_append

structure Sound (s : Screen) : Prop where
  grid : s.grid.Sound
  row_lt : s.cursor.row.toNat < s.rows.toNat
  col_le : s.cursor.col.toNat ≤ s.cols.toNat

theorem sound_blank (cols rows : UInt16) : (Screen.blank cols rows).Sound :=
  ⟨Grid.sound_blank cols rows, (Grid.sound_blank cols rows).rows_pos, Nat.zero_le _⟩

variable {s s' : Screen}

theorem Sound.cols_pos (h : s.Sound) : 0 < s.cols.toNat := h.grid.cols_pos

theorem Sound.rows_pos (h : s.Sound) : 0 < s.rows.toNat := h.grid.rows_pos

theorem Sound.of_sameShape (h : s.Sound) (hs : SameShape s.grid s'.grid)
    (hr : s'.cursor.row.toNat < s.rows.toNat) (hc : s'.cursor.col.toNat ≤ s.cols.toNat) :
    s'.Sound := by
  refine ⟨hs.sound h.grid, ?_, ?_⟩
  · rwa [rows, hs.rows_eq]
  · rwa [cols, hs.cols_eq]

theorem toNat_stopAt (i : Nat) (size : UInt16) :
    (stopAt i size).toNat = min i (size.toNat - 1) := by
  have := size.toNat_lt
  rw [stopAt, toNat_ofNat (by omega)]

theorem toNat_stopAt_lt (i : Nat) {size : UInt16} (h : 0 < size.toNat) :
    (stopAt i size).toNat < size.toNat := by
  rw [toNat_stopAt]; omega

theorem position_inside (h : s.Sound) :
    s.position.col.toNat < s.cols.toNat ∧ s.position.row.toNat < s.rows.toNat :=
  ⟨toNat_stopAt_lt _ h.cols_pos, toNat_stopAt_lt _ h.rows_pos⟩

theorem lineFeed_col (s : Screen) : s.lineFeed.cursor.col = s.cursor.col := by
  unfold lineFeed; split <;> rfl

theorem lineFeed_row (h : s.Sound) :
    s.lineFeed.cursor.row.toNat = min (s.cursor.row.toNat + 1) (s.rows.toNat - 1) := by
  have hr := h.row_lt
  have hpos := h.rows_pos
  unfold lineFeed
  split
  · rw [toNat_add_one (m := s.rows) (by omega)]
    omega
  · change (s.rows - 1).toNat = _
    rw [toNat_sub_one hpos]
    omega

theorem lineFeed_shape (h : s.Sound) : SameShape s.grid s.lineFeed.grid := by
  unfold lineFeed
  split
  · exact .refl _
  · exact Grid.scroll_shape h.grid _

theorem sound_lineFeed (h : s.Sound) : s.lineFeed.Sound := by
  have hr := h.row_lt
  apply h.of_sameShape (lineFeed_shape h)
  · rw [lineFeed_row h]; omega
  · rw [lineFeed_col]; exact h.col_le

theorem sound_carriageReturn (h : s.Sound) : s.carriageReturn.Sound :=
  ⟨h.grid, h.row_lt, Nat.zero_le _⟩

theorem wrap_of_lt (h : s.cursor.col.toNat < s.cols.toNat) : s.wrap = s :=
  if_pos (UInt16.lt_iff_toNat_lt.mpr h)

theorem wrap_of_eq (h : s.cursor.col = s.cols) : s.wrap = s.carriageReturn.lineFeed := by
  rw [wrap, if_neg]
  rw [h]
  exact UInt16.lt_irrefl _

theorem wrap_spec (h : s.Sound) : s.wrap.Sound ∧ SameShape s.grid s.wrap.grid ∧
    s.wrap.cursor.col.toNat = if s.cursor.col = s.cols then 0 else s.cursor.col.toNat := by
  by_cases he : s.cursor.col = s.cols
  · have hc := sound_carriageReturn h
    rw [wrap_of_eq he, if_pos he, lineFeed_col]
    exact ⟨sound_lineFeed hc, lineFeed_shape hc, rfl⟩
  · have hlt : s.cursor.col.toNat < s.cols.toNat :=
      Nat.lt_of_le_of_ne h.col_le (mt UInt16.toNat_inj.mp he)
    rw [wrap_of_lt hlt, if_neg he]
    exact ⟨h, .refl _, rfl⟩

theorem wrap_col_lt (h : s.Sound) : s.wrap.cursor.col.toNat < s.wrap.cols.toNat := by
  obtain ⟨hw, hs, hc⟩ := wrap_spec h
  have hcols : s.wrap.cols = s.cols := hs.cols_eq
  rw [hc, hcols]
  split
  · exact h.cols_pos
  · rename_i he
    exact Nat.lt_of_le_of_ne h.col_le (mt UInt16.toNat_inj.mp he)

theorem put_col (h : s.Sound) (c : Char) :
    (s.put c).cursor.col.toNat = s.wrap.cursor.col.toNat + 1 := toNat_add_one (wrap_col_lt h)

theorem put_shape (h : s.Sound) (c : Char) : SameShape s.grid (s.put c).grid :=
  (wrap_spec h).2.1.trans (Grid.set_shape ..)

theorem backspace_col (s : Screen) :
    s.backspace.cursor.col.toNat = s.cursor.col.toNat - 1 := by
  have := s.cursor.col.toNat_lt
  exact toNat_ofNat (by omega)

theorem erase_shape (s : Screen) (extent : Extent) : SameShape s.grid (s.erase extent).grid := by
  cases extent with
  | whole => exact Grid.fillRows_shape ..
  | fromCursor => exact (Grid.fillRow_shape ..).trans (Grid.fillRows_shape ..)

theorem erase_cursor (s : Screen) (extent : Extent) : (s.erase extent).cursor = s.cursor := by
  cases extent <;> rfl

theorem get?_erase_fromCursor (s : Screen) (i j : Nat) :
    (s.erase .fromCursor).grid.get? i j =
      if s.cursor.row.toNat < i ∨ i = s.cursor.row.toNat ∧ s.cursor.col.toNat ≤ j
      then (s.grid.get? i j).map fun _ => s.pen.blank else s.grid.get? i j := by
  change ((s.grid.fillRow s.cursor.row.toNat s.cursor.col.toNat s.pen.blank).fillRows
    (s.cursor.row.toNat + 1) s.pen.blank).get? i j = _
  rw [Grid.get?_fillRows, Grid.get?_fillRow]
  by_cases hbelow : s.cursor.row.toNat < i
  · have hrow : ¬ (i = s.cursor.row.toNat ∧ s.cursor.col.toNat ≤ j) := by omega
    rw [if_pos (Nat.succ_le_of_lt hbelow), if_neg hrow, if_pos (Or.inl hbelow)]
  · simp only [Nat.succ_le_iff, hbelow, if_false, false_or]

theorem perform_resize (s : Screen) (cols rows : UInt16) :
    (max cols 1 = s.cols ∧ max rows 1 = s.rows ∧ s.perform (.resize cols rows) = s) ∨
    (¬ (max cols 1 = s.cols ∧ max rows 1 = s.rows) ∧ s.perform (.resize cols rows) = { s with
      grid := s.grid.resize cols rows
      cursor := ⟨stopAt s.cursor.col.toNat (max cols 1), stopAt s.cursor.row.toNat (max rows 1)⟩ }) := by
  by_cases hsame : max cols 1 = s.cols ∧ max rows 1 = s.rows
  · left
    refine ⟨hsame.1, hsame.2, ?_⟩
    rw [perform, resize?, if_pos hsame, Option.getD_none]
  · right
    refine ⟨hsame, ?_⟩
    rw [perform, resize?, if_neg hsame, Option.getD_some, Grid.resize_max]

theorem sound_put (h : s.Sound) (c : Char) : (s.put c).Sound := by
  obtain ⟨hw, hs, -⟩ := wrap_spec h
  have hcols : s.wrap.cols = s.cols := hs.cols_eq
  have hrows : s.wrap.rows = s.rows := hs.rows_eq
  apply h.of_sameShape (put_shape h c)
  · exact hrows ▸ hw.row_lt
  · rw [put_col h, ← hcols]
    exact wrap_col_lt h

theorem sound_backspace (h : s.Sound) : s.backspace.Sound := by
  refine h.of_sameShape (Grid.set_shape ..) h.row_lt ?_
  rw [backspace_col]
  exact Nat.le_trans (Nat.sub_le _ _) h.col_le

theorem sound_tab (h : s.Sound) : s.tab.Sound :=
  h.of_sameShape (.refl _) h.row_lt (Nat.le_of_lt (toNat_stopAt_lt _ h.cols_pos))

theorem sound_erase (h : s.Sound) (extent : Extent) : (s.erase extent).Sound := by
  apply h.of_sameShape (erase_shape s extent) <;> rw [erase_cursor]
  · exact h.row_lt
  · exact h.col_le

theorem sound_eraseLine (h : s.Sound) (extent : Extent) : (s.eraseLine extent).Sound :=
  h.of_sameShape (Grid.fillRow_shape ..) h.row_lt h.col_le

theorem sound_clear (h : s.Sound) (extent : Extent) : (s.clear extent).Sound := by
  have he := sound_erase h extent
  cases extent with
  | whole => exact ⟨he.grid, he.grid.rows_pos, Nat.zero_le _⟩
  | fromCursor => exact he

theorem sound_moveTo (h : s.Sound) (row col : UInt16) : (s.moveTo row col).Sound :=
  h.of_sameShape (.refl _) (toNat_stopAt_lt _ h.rows_pos) (Nat.le_of_lt (toNat_stopAt_lt _ h.cols_pos))

theorem sound_move (h : s.Sound) (direction : Direction) (amount : UInt16) :
    (s.move direction amount).Sound := by
  have hrow (i : Nat) := toNat_stopAt_lt i h.rows_pos
  have hcol (i : Nat) := Nat.le_of_lt (toNat_stopAt_lt i h.cols_pos)
  cases direction with
  | up => exact h.of_sameShape (.refl _) (hrow _) h.col_le
  | down => exact h.of_sameShape (.refl _) (hrow _) h.col_le
  | left => exact h.of_sameShape (.refl _) h.row_lt (hcol _)
  | right => exact h.of_sameShape (.refl _) h.row_lt (hcol _)

theorem sound_resize (h : s.Sound) (cols rows : UInt16) : (s.perform (.resize cols rows)).Sound := by
  rcases perform_resize s cols rows with ⟨-, -, he⟩ | ⟨-, he⟩
  · rwa [he]
  · rw [he]
    have hg := Grid.sound_resize s.grid cols rows
    exact ⟨hg, toNat_stopAt_lt _ hg.rows_pos, Nat.le_of_lt (toNat_stopAt_lt _ hg.cols_pos)⟩

theorem sound_perform (h : s.Sound) (op : Operation) : (s.perform op).Sound := by
  cases op with
  | put c => exact sound_put h c
  | lineFeed => exact sound_lineFeed h
  | carriageReturn => exact sound_carriageReturn h
  | backspace => exact sound_backspace h
  | tab => exact sound_tab h
  | clear extent => exact sound_clear h extent
  | erase extent => exact sound_erase h extent
  | eraseLine extent => exact sound_eraseLine h extent
  | moveTo row col => exact sound_moveTo h row col
  | move direction amount => exact sound_move h direction amount
  | resize cols rows => exact sound_resize h cols rows
  | setForeground color | setBackground color => exact ⟨h.grid, h.row_lt, h.col_le⟩
  | resetPen => exact ⟨h.grid, h.row_lt, h.col_le⟩

theorem sound_performAll (h : s.Sound) (ops : List Operation) : (s.performAll ops).Sound := by
  induction ops generalizing s with
  | nil => exact h
  | cons op ops ih => exact ih (sound_perform h op)

theorem perform_shape (h : s.Sound) {op : Operation} (hop : ¬ op.isResize) :
    SameShape s.grid (s.perform op).grid := by
  cases op with
  | put c => exact put_shape h c
  | lineFeed => exact lineFeed_shape h
  | backspace => exact Grid.set_shape ..
  | clear extent =>
    cases extent with
    | whole => exact erase_shape s .whole
    | fromCursor => exact erase_shape s .fromCursor
  | erase extent => exact erase_shape s extent
  | eraseLine extent => exact Grid.fillRow_shape ..
  | move direction amount => cases direction <;> exact .refl _
  | resize cols rows => exact absurd rfl hop
  | carriageReturn | tab | moveTo _ _ => exact .refl _
  | setForeground _ | setBackground _ | resetPen => exact .refl _

theorem performAll_shape (h : s.Sound) {ops : List Operation} (hops : ∀ op ∈ ops, ¬ op.isResize) :
    SameShape s.grid (s.performAll ops).grid := by
  induction ops generalizing s with
  | nil => exact .refl _
  | cons op ops ih =>
    obtain ⟨hop, hops⟩ := List.forall_mem_cons.mp hops
    exact (perform_shape h hop).trans (ih (sound_perform h op) hops)

theorem size_resize (s : Screen) (cols rows : UInt16) :
    (s.perform (.resize cols rows)).cols = max cols 1 ∧
      (s.perform (.resize cols rows)).rows = max rows 1 := by
  rcases perform_resize s cols rows with ⟨hcols, hrows, he⟩ | ⟨-, he⟩
  · rw [he]
    exact ⟨hcols.symm, hrows.symm⟩
  · rw [he]
    exact ⟨rfl, rfl⟩

def size (s : Screen) : UInt16 × UInt16 := (s.cols, s.rows)

theorem resize?_eq_none (s : Screen) (cols rows : UInt16) :
    s.resize? cols rows = none ↔ s.size = (max cols 1, max rows 1) := by
  rw [size, Prod.mk.injEq, resize?]
  split
  · rename_i hsame
    exact iff_of_true rfl ⟨hsame.1.symm, hsame.2.symm⟩
  · rename_i hother
    exact iff_of_false (by simp) (fun hsame => hother ⟨hsame.1.symm, hsame.2.symm⟩)

theorem size_perform_resize (s : Screen) (cols rows : UInt16) :
    (s.perform (.resize cols rows)).size = (max cols 1, max rows 1) :=
  Prod.ext (size_resize s cols rows).1 (size_resize s cols rows).2

theorem pen_resize (s : Screen) (cols rows : UInt16) :
    (s.perform (.resize cols rows)).pen = s.pen := by
  rcases perform_resize s cols rows with ⟨-, -, he⟩ | ⟨-, he⟩ <;> rw [he]

def Reachable (s : Screen) : Prop :=
  ∃ (cols rows : UInt16) (ops : List Operation), s = (Screen.blank cols rows).performAll ops

theorem Reachable.sound (h : s.Reachable) : s.Sound := by
  obtain ⟨cols, rows, ops, rfl⟩ := h
  exact sound_performAll (sound_blank cols rows) ops

/-- Whether a wrap is pending after an operation, told without the stored column where one was
pending: a character in the last column makes one pending, and whatever sets the column ends it. -/
def wrapsAfter (s : Screen) (pending : Bool) : Operation → Bool
  | .put _ => (if pending then 0 else s.cursor.col.toNat) + 1 == s.cols.toNat
  | .carriageReturn | .backspace | .tab | .clear .whole | .moveTo _ _ => false
  | .move .left _ | .move .right _ => false
  | .resize cols rows => pending && (max cols 1 == s.cols && max rows 1 == s.rows)
  | .lineFeed | .clear .fromCursor | .erase _ | .eraseLine _ => pending
  | .move .up _ | .move .down _ | .setForeground _ | .setBackground _ | .resetPen => pending

def wrapsAfterAll (s : Screen) (pending : Bool) : List Operation → Bool
  | [] => pending
  | op :: ops => (s.perform op).wrapsAfterAll (s.wrapsAfter pending op) ops

theorem col_ne_cols (h : s.cursor.col.toNat < s.cols.toNat) : ¬ s.cursor.col = s.cols := by
  intro he
  rw [he] at h
  exact Nat.lt_irrefl _ h

theorem wrapsAfter_iff (h : s.Sound) {pending : Bool} (hp : pending ↔ s.cursor.col = s.cols)
    (op : Operation) :
    s.wrapsAfter pending op ↔ (s.perform op).cursor.col = (s.perform op).cols := by
  have stops (s' : Screen) (hc : s'.cursor.col.toNat < s'.cols.toNat) :
      (false = true ↔ s'.cursor.col = s'.cols) := by simp [col_ne_cols hc]
  cases op with
  | put c =>
    have hcols : (s.put c).cols = s.cols := (put_shape h c).cols_eq
    have hcol := put_col h c
    rw [(wrap_spec h).2.2] at hcol
    simp only [wrapsAfter, perform, beq_iff_eq, ← UInt16.toNat_inj, hcols, hcol, hp]
  | lineFeed =>
    have hcols : s.lineFeed.cols = s.cols := (lineFeed_shape h).cols_eq
    rw [wrapsAfter, perform, lineFeed_col, hcols, hp]
  | carriageReturn => exact stops _ h.cols_pos
  | backspace =>
    apply stops
    have hpos := h.cols_pos
    have hle := h.col_le
    have hcols : s.backspace.cols = s.cols := (Grid.set_shape ..).cols_eq
    rw [perform, backspace_col, hcols]
    omega
  | tab => exact stops _ (toNat_stopAt_lt _ h.cols_pos)
  | clear extent =>
    cases extent with
    | whole => exact stops _ (sound_clear h .whole).cols_pos
    | fromCursor =>
      have hcols : (s.erase .fromCursor).cols = s.cols := (erase_shape s .fromCursor).cols_eq
      rw [wrapsAfter, perform, clear, erase_cursor, hcols, hp]
  | erase extent =>
    have hcols : (s.erase extent).cols = s.cols := (erase_shape s extent).cols_eq
    rw [wrapsAfter, perform, erase_cursor, hcols, hp]
  | eraseLine extent =>
    have hcols : (s.eraseLine extent).cols = s.cols := (Grid.fillRow_shape ..).cols_eq
    rw [wrapsAfter, perform, hcols, hp]
    rfl
  | moveTo row col => exact stops _ (toNat_stopAt_lt _ h.cols_pos)
  | move direction amount =>
    cases direction with
    | up | down => exact hp
    | left | right => exact stops _ (toNat_stopAt_lt _ h.cols_pos)
  | resize cols rows =>
    have hs := sound_resize h cols rows
    rw [wrapsAfter]
    rcases perform_resize s cols rows with ⟨hc, hr, he⟩ | ⟨hne, he⟩
    · simp [he, hc, hr, hp]
    -- another size holds the column inside, whatever was pending
    · have hlt := toNat_stopAt_lt s.cursor.col.toNat (Grid.sound_resize s.grid cols rows).cols_pos
      have hfalse : (max cols 1 == s.cols && max rows 1 == s.rows) = false := by simpa using hne
      rw [hfalse, Bool.and_false]
      rw [he]
      exact stops _ hlt
  | setForeground color | setBackground color => exact hp
  | resetPen => exact hp

theorem wrapsAfterAll_iff (h : s.Sound) {pending : Bool} (hp : pending ↔ s.cursor.col = s.cols)
    (ops : List Operation) :
    s.wrapsAfterAll pending ops ↔ (s.performAll ops).cursor.col = (s.performAll ops).cols := by
  induction ops generalizing s pending with
  | nil => exact hp
  | cons op ops ih => exact ih (sound_perform h op) (wrapsAfter_iff h hp op)

theorem wrapsAfterAll_blank (cols rows : UInt16) (ops : List Operation) :
    (Screen.blank cols rows).wrapsAfterAll false ops ↔
      ((Screen.blank cols rows).performAll ops).cursor.col =
        ((Screen.blank cols rows).performAll ops).cols := by
  have h := sound_blank cols rows
  have hcol : ¬ (Screen.blank cols rows).cursor.col = (Screen.blank cols rows).cols :=
    col_ne_cols h.cols_pos
  exact wrapsAfterAll_iff h (by simp [hcol]) ops

end Screen

end TermView
