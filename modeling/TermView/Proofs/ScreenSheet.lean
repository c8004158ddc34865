import TermView.Proofs.ScreenInvariant

/-!
A screen as rows of cells. Every operation on a screen is the one on its sheet, which is said row
by row and without reference to an array.
-/

namespace TermView

def fit {α : Type} (n : Nat) (x : α) (xs : List α) : List α :=
  xs.take n ++ List.replicate (n - xs.length) x

structure Sheet where
  cols : Nat
  rows : Nat
  lines : List (List Cell)
  row : Nat
  col : Nat
  pen : Pen
deriving DecidableEq

namespace Sheet

structure Shaped (p : Sheet) : Prop where
  length_lines : p.lines.length = p.rows
  length_line : ∀ line ∈ p.lines, line.length = p.cols
  row_lt : p.row < p.rows
  col_le : p.col ≤ p.cols

def blank (cols rows : Nat) : Sheet :=
  ⟨cols, rows, List.replicate rows (List.replicate cols ⟨' ', .default, .default⟩), 0, 0,
    ⟨.default, .default⟩⟩

def replace (p : Sheet) (places : Nat → Nat → Prop) [DecidableRel places] (cell : Cell) : Sheet :=
  { p with lines := p.lines.mapIdx fun i line =>
      line.mapIdx fun j old => if places i j then cell else old }

def lineFeed (p : Sheet) : Sheet :=
  if p.row + 1 < p.rows then { p with row := p.row + 1 }
  else { p with lines := p.lines.tail ++
    [List.replicate p.cols ⟨' ', p.pen.foreground, p.pen.background⟩] }

def wrap (p : Sheet) : Sheet := if p.col = p.cols then lineFeed { p with col := 0 } else p

def put (p : Sheet) (c : Char) : Sheet :=
  let p := p.wrap
  { p.replace (fun i j => i = p.row ∧ j = p.col) ⟨c, p.pen.foreground, p.pen.background⟩ with
    col := p.col + 1 }

def backspace (p : Sheet) : Sheet :=
  { p.replace (fun i j => i = p.row ∧ j = p.col - 1) ⟨' ', p.pen.foreground, p.pen.background⟩ with
    col := p.col - 1 }

def tab (p : Sheet) : Sheet := { p with col := min ((p.col / 8 + 1) * 8) (p.cols - 1) }

def erase (p : Sheet) : Extent → Sheet
  | .whole => p.replace (fun _ _ => True) ⟨' ', p.pen.foreground, p.pen.background⟩
  | .fromCursor => p.replace (fun i j => p.row < i ∨ i = p.row ∧ p.col ≤ j)
    ⟨' ', p.pen.foreground, p.pen.background⟩

def eraseLine (p : Sheet) : Extent → Sheet
  | .whole => p.replace (fun i _ => i = p.row) ⟨' ', p.pen.foreground, p.pen.background⟩
  | .fromCursor => p.replace (fun i j => i = p.row ∧ p.col ≤ j)
    ⟨' ', p.pen.foreground, p.pen.background⟩

def clear (p : Sheet) : Extent → Sheet
  | .whole => { p.erase .whole with row := 0, col := 0 }
  | .fromCursor => p.erase .fromCursor

def moveTo (p : Sheet) (row col : Nat) : Sheet :=
  { p with row := min (row - 1) (p.rows - 1), col := min (col - 1) (p.cols - 1) }

def move (p : Sheet) (direction : Direction) (n : Nat) : Sheet :=
  match direction with
  | .up => { p with row := min (p.row - n) (p.rows - 1) }
  | .down => { p with row := min (p.row + n) (p.rows - 1) }
  | .left => { p with col := min (p.col - n) (p.cols - 1) }
  | .right => { p with col := min (p.col + n) (p.cols - 1) }

def resize (p : Sheet) (cols rows : Nat) : Sheet :=
  let cols := max cols 1
  let rows := max rows 1
  if cols = p.cols ∧ rows = p.rows then p
  else { p with
    cols, rows
    lines := fit rows (List.replicate cols ⟨' ', .default, .default⟩)
      (p.lines.map (fit cols ⟨' ', .default, .default⟩))
    row := min p.row (rows - 1)
    col := min p.col (cols - 1) }

def perform (p : Sheet) : Operation → Sheet
  | .put c => p.put c
  | .lineFeed => p.lineFeed
  | .carriageReturn => { p with col := 0 }
  | .backspace => p.backspace
  | .tab => p.tab
  | .clear extent => p.clear extent
  | .erase extent => p.erase extent
  | .eraseLine extent => p.eraseLine extent
  | .moveTo row col => p.moveTo row.toNat col.toNat
  | .move direction amount => p.move direction amount.toNat
  | .resize cols rows => p.resize cols.toNat rows.toNat
  | .setForeground color => { p with pen.foreground := color }
  | .setBackground color => { p with pen.background := color }
  | .resetPen => { p with pen := ⟨.default, .default⟩ }

def performAll (p : Sheet) (ops : List Operation) : Sheet := ops.foldl perform p

theorem performAll_append (p : Sheet) (ops ops' : List Operation) :
    p.performAll (ops ++ ops') = (p.performAll ops).performAll ops' := List.foldl_append

end Sheet

theorem length_fit {α : Type} (n : Nat) (x : α) (xs : List α) : (fit n x xs).length = n := by
  rw [fit, List.length_append, List.length_take, List.length_replicate]
  omega

theorem getElem?_fit {α : Type} (n : Nat) (x : α) (xs : List α) (i : Nat) :
    (fit n x xs)[i]? = if i < n then some (xs[i]?.getD x) else none := by
  by_cases hn : i < n
  · rw [if_pos hn, fit, List.getElem?_append, List.length_take]
    by_cases hi : i < xs.length
    · rw [if_pos (by omega), List.getElem?_take, if_pos hn, List.getElem?_eq_getElem hi,
        Option.getD_some]
    · rw [if_neg (by omega), List.getElem?_replicate, if_pos (by omega),
        List.getElem?_eq_none (by omega), Option.getD_none]
  · rw [if_neg hn, List.getElem?_eq_none]
    rw [length_fit]
    omega

theorem fit_nil {α : Type} (n : Nat) (x : α) : fit n x [] = List.replicate n x := by
  rw [fit, List.take_nil, List.nil_append, List.length_nil, Nat.sub_zero]

theorem fit_append_self {α : Type} (n : Nat) (x : α) (xs : List α) :
    fit n x (xs ++ [x]) = fit n x xs := by
  apply List.ext_getElem?
  intro i
  rw [getElem?_fit, getElem?_fit, List.getElem?_append]
  by_cases hi : i < xs.length
  · rw [if_pos hi]
  · rw [if_neg hi, List.getElem?_singleton, List.getElem?_eq_none (by omega : xs.length ≤ i)]
    by_cases hlast : i - xs.length = 0 <;> simp [hlast]

theorem fit_eq_self {α : Type} {n : Nat} (x : α) {xs : List α} (h : xs.length = n) :
    fit n x xs = xs := by
  rw [fit, ← h, List.take_length, Nat.sub_self, List.replicate_zero, List.append_nil]

theorem set_fit {α : Type} (n : Nat) (x y : α) (xs : List α) :
    (fit n x xs).set xs.length y = fit n x (xs ++ [y]) := by
  apply List.ext_getElem?
  intro i
  rw [List.getElem?_set, length_fit, getElem?_fit, getElem?_fit]
  rcases Nat.lt_trichotomy i xs.length with hi | rfl | hi
  · rw [if_neg (Nat.ne_of_gt hi), List.getElem?_append_left hi]
  · rw [if_pos rfl, List.getElem?_concat_length]
    rfl
  · rw [if_neg (Nat.ne_of_lt hi), List.getElem?_eq_none (Nat.le_of_lt hi),
      List.getElem?_eq_none (by rw [List.length_append, List.length_singleton]; exact hi)]

namespace Grid

def lines (g : Grid) : List (List Cell) := (List.range g.rows.toNat).map g.row

variable {g g' : Grid}

theorem length_lines (g : Grid) : g.lines.length = g.rows.toNat := by
  rw [lines, List.length_map, List.length_range]

theorem getElem?_lines {i : Nat} (h : i < g.rows.toNat) : g.lines[i]? = some (g.row i) := by
  rw [lines, List.getElem?_map, List.getElem?_range h, Option.map_some]

theorem lines_eq {rows : List (List Cell)} (h : g.Sound) (hl : rows.length = g.rows.toNat)
    (hr : ∀ i cells, i < g.rows.toNat → rows[i]? = some cells → ∀ j, cells[j]? = g.get? i j) :
    g.lines = rows := by
  apply List.ext_getElem?
  intro i
  by_cases hi : i < g.rows.toNat
  · have hline := List.getElem?_eq_getElem (hl ▸ hi : i < rows.length)
    rw [getElem?_lines hi, hline, Option.some_inj]
    apply List.ext_getElem?
    intro j
    rw [getElem?_row h, hr i _ hi hline j]
  · rw [List.getElem?_eq_none (by rw [length_lines]; omega), List.getElem?_eq_none (by omega)]

theorem lines_replace (h : g.Sound) (hs : SameShape g g') (places : Nat → Nat → Prop)
    [DecidableRel places] (cell : Cell)
    (hget : ∀ i j, g'.get? i j = if places i j then (g.get? i j).map fun _ => cell else g.get? i j) :
    g'.lines = g.lines.mapIdx fun i line =>
      line.mapIdx fun j old => if places i j then cell else old := by
  apply lines_eq (hs.sound h)
  · rw [List.length_mapIdx, length_lines, hs.rows_eq]
  · intro i line hi hline j
    rw [hs.rows_eq] at hi
    rw [List.getElem?_mapIdx, getElem?_lines hi, Option.map_some, Option.some_inj] at hline
    rw [← hline, List.getElem?_mapIdx, getElem?_row h, hget]
    by_cases hp : places i j <;> simp [hp]

theorem lines_scroll (h : g.Sound) (cell : Cell) :
    (g.scroll cell).lines = g.lines.tail ++ [List.replicate g.cols.toNat cell] := by
  have hpos := h.rows_pos
  have htail : g.lines.tail.length = g.rows.toNat - 1 := by rw [List.length_tail, length_lines]
  apply lines_eq ((scroll_shape h cell).sound h)
  · rw [List.length_append, htail, List.length_singleton, (scroll_shape h cell).rows_eq]
    omega
  · intro i line hi hline j
    rw [(scroll_shape h cell).rows_eq] at hi
    rw [List.getElem?_append, htail] at hline
    rw [get?_scroll h]
    by_cases hlast : i + 1 = g.rows.toNat
    · rw [if_neg (by omega), show i - (g.rows.toNat - 1) = 0 by omega] at hline
      cases hline
      rw [if_pos hlast, List.getElem?_replicate]
      have hsome := isSome_get? h i j
      by_cases hj : j < g.cols.toNat
      · obtain ⟨old, ho⟩ := Option.isSome_iff_exists.mp (hsome.mpr ⟨hi, hj⟩)
        rw [if_pos hj, ho, Option.map_some]
      · rw [if_neg hj, get?_eq_none (by omega), Option.map_none]
    · rw [if_pos (by omega), List.getElem?_tail, getElem?_lines (by omega)] at hline
      cases hline
      rw [if_neg hlast, getElem?_row h]

theorem lines_resize (h : g.Sound) (cols rows : UInt16) : (g.resize cols rows).lines =
    fit (max rows.toNat 1) (List.replicate (max cols.toNat 1) .blank)
      (g.lines.map (fit (max cols.toNat 1) .blank)) := by
  have hrows : (g.resize cols rows).rows.toNat = max rows.toNat 1 := Word.toNat_max_one rows
  apply lines_eq (sound_resize g cols rows)
  · rw [length_fit, hrows]
  · intro i line hi hline j
    rw [hrows] at hi
    rw [getElem?_fit, if_pos hi, List.getElem?_map, Option.some_inj] at hline
    rw [get?_resize]
    by_cases hin : i < g.rows.toNat
    · rw [getElem?_lines hin, Option.map_some, Option.getD_some] at hline
      rw [← hline, getElem?_fit, getElem?_row h]
      simp only [hi, true_and]
    · rw [List.getElem?_eq_none (by rw [length_lines]; omega), Option.map_none,
        Option.getD_none] at hline
      rw [← hline, List.getElem?_replicate, get?_eq_none (by omega), Option.getD_none]
      simp only [hi, true_and]

end Grid

namespace Screen

open Word

def sheet (s : Screen) : Sheet where
  cols := s.cols.toNat
  rows := s.rows.toNat
  lines := s.grid.lines
  row := s.cursor.row.toNat
  col := s.cursor.col.toNat
  pen := s.pen

variable {s s' : Screen}

theorem sheet_shaped (h : s.Sound) : s.sheet.Shaped := by
  refine ⟨Grid.length_lines _, ?_, h.row_lt, h.col_le⟩
  intro line hl
  obtain ⟨i, hi, rfl⟩ := List.mem_map.mp hl
  exact Grid.length_row h.grid (List.mem_range.mp hi)

theorem sheet_blank (cols rows : UInt16) :
    (Screen.blank cols rows).sheet = .blank (max cols.toNat 1) (max rows.toNat 1) := by
  have hcols : (Grid.blank cols rows).cols.toNat = max cols.toNat 1 := toNat_max_one cols
  have hrows : (Grid.blank cols rows).rows.toNat = max rows.toNat 1 := toNat_max_one rows
  have hlines : (Grid.blank cols rows).lines =
      List.replicate (max rows.toNat 1) (List.replicate (max cols.toNat 1) .blank) := by
    apply Grid.lines_eq (Grid.sound_blank cols rows)
    · rw [List.length_replicate, hrows]
    · intro i line hi hline j
      rw [hrows] at hi
      rw [List.getElem?_replicate, if_pos hi, Option.some_inj] at hline
      rw [← hline, List.getElem?_replicate, Grid.get?_blank]
      simp only [hi, true_and]
  change Sheet.mk (Grid.blank cols rows).cols.toNat (Grid.blank cols rows).rows.toNat
    (Grid.blank cols rows).lines 0 0 .plain = _
  rw [hcols, hrows, hlines]
  rfl

theorem sheet_replace (s' : Screen) (h : s.Sound) (hs : Grid.SameShape s.grid s'.grid)
    (hp : s'.pen = s.pen) (places : Nat → Nat → Prop) [DecidableRel places] (cell : Cell)
    (hget : ∀ i j, s'.grid.get? i j =
      if places i j then (s.grid.get? i j).map fun _ => cell else s.grid.get? i j) :
    s'.sheet = { s.sheet.replace places cell with
      row := s'.cursor.row.toNat, col := s'.cursor.col.toNat } := by
  have hcols : s'.cols = s.cols := hs.cols_eq
  have hrows : s'.rows = s.rows := hs.rows_eq
  simp only [sheet, Sheet.replace, hcols, hrows, hp, Grid.lines_replace h.grid hs places cell hget]

theorem sheet_lineFeed (h : s.Sound) : s.lineFeed.sheet = s.sheet.lineFeed := by
  have hr := h.row_lt
  have hpos := h.rows_pos
  by_cases hlt : s.cursor.row.toNat + 1 < s.rows.toNat
  · have hrow : (s.cursor.row + 1).toNat = s.cursor.row.toNat + 1 := toNat_add_one hr
    rw [lineFeed, if_pos hlt, Sheet.lineFeed, if_pos (by exact hlt)]
    change { s.sheet with row := (s.cursor.row + 1).toNat } = _
    rw [hrow]
    rfl
  · have hrow : (s.rows - 1).toNat = s.cursor.row.toNat := by
      rw [toNat_sub_one hpos]
      omega
    rw [lineFeed, if_neg hlt, Sheet.lineFeed, if_neg (by exact hlt)]
    change { s.sheet with
      lines := (s.grid.scroll s.pen.blank).lines, row := (s.rows - 1).toNat } = _
    rw [hrow, Grid.lines_scroll h.grid]
    rfl

theorem sheet_wrap (h : s.Sound) : s.wrap.sheet = s.sheet.wrap := by
  have hiff : s.cursor.col = s.cols ↔ s.sheet.col = s.sheet.cols := UInt16.toNat_inj.symm
  by_cases he : s.cursor.col = s.cols
  · rw [wrap_of_eq he, Sheet.wrap, if_pos (hiff.mp he)]
    exact sheet_lineFeed (sound_carriageReturn h)
  · have hlt := Nat.lt_of_le_of_ne h.col_le (mt UInt16.toNat_inj.mp he)
    rw [wrap_of_lt hlt, Sheet.wrap, if_neg (mt hiff.mpr he)]

theorem sheet_put (h : s.Sound) (c : Char) : (s.put c).sheet = s.sheet.put c := by
  have hw := (wrap_spec h).1
  rw [sheet_replace (s.put c) hw (Grid.set_shape ..) rfl
    (fun i j => i = s.wrap.cursor.row.toNat ∧ j = s.wrap.cursor.col.toNat) (s.wrap.pen.cell c)
    (Grid.get?_set hw.grid _ _ _), put_col h, Sheet.put, ← sheet_wrap h]
  rfl

theorem sheet_backspace (h : s.Sound) : s.backspace.sheet = s.sheet.backspace := by
  rw [sheet_replace s.backspace h (Grid.set_shape ..) rfl
    (fun i j => i = s.cursor.row.toNat ∧ j = s.cursor.col.toNat - 1) s.pen.blank
    (Grid.get?_set h.grid _ _ _), backspace_col]
  rfl

theorem sheet_erase (h : s.Sound) (extent : Extent) :
    (s.erase extent).sheet = s.sheet.erase extent := by
  cases extent with
  | whole =>
    apply sheet_replace (s.erase .whole) h (erase_shape s .whole) rfl (fun _ _ => True) s.pen.blank
    intro i j
    change (s.grid.fillRows 0 s.pen.blank).get? i j = _
    rw [Grid.get?_fillRows, if_pos (Nat.zero_le i), if_pos trivial]
  | fromCursor =>
    exact sheet_replace (s.erase .fromCursor) h (erase_shape s .fromCursor) rfl
      (fun i j => s.cursor.row.toNat < i ∨ i = s.cursor.row.toNat ∧ s.cursor.col.toNat ≤ j)
      s.pen.blank (get?_erase_fromCursor s)

theorem sheet_eraseLine (h : s.Sound) (extent : Extent) :
    (s.eraseLine extent).sheet = s.sheet.eraseLine extent := by
  cases extent with
  | whole =>
    apply sheet_replace (s.eraseLine .whole) h (Grid.fillRow_shape ..) rfl
      (fun i _ => i = s.cursor.row.toNat) s.pen.blank
    intro i j
    change (s.grid.fillRow s.cursor.row.toNat 0 s.pen.blank).get? i j = _
    simp only [Grid.get?_fillRow, Nat.zero_le, and_true]
  | fromCursor =>
    exact sheet_replace (s.eraseLine .fromCursor) h (Grid.fillRow_shape ..) rfl
      (fun i j => i = s.cursor.row.toNat ∧ s.cursor.col.toNat ≤ j) s.pen.blank
      (Grid.get?_fillRow _ _ _)

theorem sheet_clear (h : s.Sound) (extent : Extent) :
    (s.clear extent).sheet = s.sheet.clear extent := by
  have he := sheet_erase h extent
  cases extent with
  | whole =>
    rw [Sheet.clear, ← he]
    rfl
  | fromCursor => exact he

theorem sheet_moveTo (s : Screen) (row col : UInt16) :
    (s.moveTo row col).sheet = s.sheet.moveTo row.toNat col.toNat := by
  change { s.sheet with
    row := (stopAt (row.toNat - 1) s.rows).toNat, col := (stopAt (col.toNat - 1) s.cols).toNat } = _
  rw [toNat_stopAt, toNat_stopAt]
  rfl

theorem sheet_move (s : Screen) (direction : Direction) (amount : UInt16) :
    (s.move direction amount).sheet = s.sheet.move direction amount.toNat := by
  have hrow (i : Nat) : { s with cursor.row := stopAt i s.rows }.sheet =
      { s.sheet with row := min i (s.sheet.rows - 1) } := by
    change { s.sheet with row := (stopAt i s.rows).toNat } = _
    rw [toNat_stopAt]
    rfl
  have hcol (i : Nat) : { s with cursor.col := stopAt i s.cols }.sheet =
      { s.sheet with col := min i (s.sheet.cols - 1) } := by
    change { s.sheet with col := (stopAt i s.cols).toNat } = _
    rw [toNat_stopAt]
    rfl
  cases direction with
  | up => exact hrow _
  | down => exact hrow _
  | left => exact hcol _
  | right => exact hcol _

theorem sheet_resize (h : s.Sound) (cols rows : UInt16) :
    (s.perform (.resize cols rows)).sheet = s.sheet.resize cols.toNat rows.toNat := by
  -- sizes are compared as words on a screen and as numbers on a sheet
  have hcols : max cols.toNat 1 = s.cols.toNat ↔ max cols 1 = s.cols := by
    rw [← toNat_max_one, UInt16.toNat_inj]
  have hrows : max rows.toNat 1 = s.rows.toNat ↔ max rows 1 = s.rows := by
    rw [← toNat_max_one, UInt16.toNat_inj]
  rcases perform_resize s cols rows with ⟨hc, hr, he⟩ | ⟨hne, he⟩
  · rw [he, Sheet.resize, if_pos ⟨hcols.mpr hc, hrows.mpr hr⟩]
  · rw [he, Sheet.resize, if_neg (by rintro ⟨hc, hr⟩; exact hne ⟨hcols.mp hc, hrows.mp hr⟩)]
    change Sheet.mk (max cols 1).toNat (max rows 1).toNat (s.grid.resize cols rows).lines
      (stopAt s.cursor.row.toNat (max rows 1)).toNat
      (stopAt s.cursor.col.toNat (max cols 1)).toNat s.pen = _
    rw [Grid.lines_resize h.grid, toNat_stopAt, toNat_stopAt, toNat_max_one, toNat_max_one]
    rfl

theorem toNat_position (s : Screen) : s.position.row.toNat = min s.sheet.row (s.sheet.rows - 1) ∧
    s.position.col.toNat = min s.sheet.col (s.sheet.cols - 1) :=
  ⟨toNat_stopAt .., toNat_stopAt ..⟩

theorem sheet_tab (s : Screen) : s.tab.sheet = s.sheet.tab := by
  change { s.sheet with col := (stopAt ((s.cursor.col.toNat / 8 + 1) * 8) s.cols).toNat } = _
  rw [toNat_stopAt]
  rfl

theorem sheet_perform (h : s.Sound) (op : Operation) :
    (s.perform op).sheet = s.sheet.perform op := by
  cases op with
  | put c => exact sheet_put h c
  | lineFeed => exact sheet_lineFeed h
  | carriageReturn => rfl
  | backspace => exact sheet_backspace h
  | tab => exact sheet_tab s
  | clear extent => exact sheet_clear h extent
  | erase extent => exact sheet_erase h extent
  | eraseLine extent => exact sheet_eraseLine h extent
  | moveTo row col => exact sheet_moveTo s row col
  | move direction amount => exact sheet_move s direction amount
  | resize cols rows => exact sheet_resize h cols rows
  | setForeground color | setBackground color => rfl
  | resetPen => rfl

theorem sheet_performAll (h : s.Sound) (ops : List Operation) :
    (s.performAll ops).sheet = s.sheet.performAll ops := by
  induction ops generalizing s with
  | nil => rfl
  | cons op ops ih =>
    rw [performAll_cons, ih (sound_perform h op), sheet_perform h op]
    rfl

theorem sheet_follows (cols rows : UInt16) (ops : List Operation) (op : Operation) :
    let s := (Screen.blank cols rows).performAll ops
    s.sheet.Shaped ∧
      s.sheet = (Sheet.blank (max cols.toNat 1) (max rows.toNat 1)).performAll ops ∧
      (s.perform op).sheet = s.sheet.perform op := by
  have hblank := sound_blank cols rows
  have h := sound_performAll hblank ops
  refine ⟨sheet_shaped h, ?_, sheet_perform h op⟩
  rw [sheet_performAll hblank, sheet_blank]

end Screen

end TermView
