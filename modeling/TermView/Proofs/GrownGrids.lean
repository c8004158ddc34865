import TermView.Proofs.LineWrapping
import TermView.Proofs.PendingWrap

namespace TermView

theorem length_le_of_mem_pieces {n : Nat} (hn : 0 < n) (line : List Char) :
    ∀ piece ∈ pieces n line, piece.length ≤ n := by
  induction line using pieces.induct n with
  | case1 line h ih =>
    rw [pieces_of_lt h.1 h.2, List.forall_mem_cons]
    refine ⟨?_, ih⟩
    rw [List.length_take]
    omega
  | case2 line h =>
    rw [pieces_of_le (by omega), List.forall_mem_singleton]
    omega

theorem getLast?_pieces (n : Nat) (line : List Char) :
    (pieces n line).getLast?.bind List.getLast? = line.getLast? := by
  induction line using pieces.induct n with
  | case1 line h ih =>
    obtain ⟨piece, rest, hrest⟩ : ∃ piece rest, pieces n (line.drop n) = piece :: rest := by
      unfold pieces
      split <;> exact ⟨_, _, rfl⟩
    rw [pieces_of_lt h.1 h.2, hrest, List.getLast?_cons_cons, ← hrest, ih, List.getLast?_drop,
      if_neg (by omega)]
  | case2 line h =>
    rw [pieces, if_neg h]
    rfl

/-- The character that a place shows of a text in pieces, of which the last ones are on the grid. -/
def typed? (cols rows : Nat) (text : List Char) (i j : Nat) : Option Char :=
  ((pieces cols text).rtake rows)[i]?.bind (·[j]?)

namespace Screen

def Precedes (s : Screen) (i j : Nat) : Prop :=
  i < s.cursor.row.toNat ∨ i = s.cursor.row.toNat ∧ j < s.cursor.col.toNat

def Scrolls (s : Screen) : Prop := s.Wrapping ∧ s.position.row.toNat + 1 = s.rows.toNat

instance (s : Screen) : Decidable s.Scrolls := inferInstanceAs (Decidable (_ ∧ _))

def LosesWrap (s : Screen) (cols rows : UInt16) : Prop :=
  s.Wrapping ∧ cols = s.cols ∧ rows ≠ s.rows

instance (s : Screen) (cols rows : UInt16) : Decidable (s.LosesWrap cols rows) :=
  inferInstanceAs (Decidable (_ ∧ _))

variable {s : Screen} {i j : Nat}

theorem get?_put (h : s.Sound) (c : Char) (i j : Nat) : (s.put c).grid.get? i j =
    if i = s.wrap.cursor.row.toNat ∧ j = s.wrap.cursor.col.toNat
    then (s.wrap.grid.get? i j).map fun _ => s.wrap.pen.cell c else s.wrap.grid.get? i j :=
  Grid.get?_set (wrap_spec h).1.grid _ _ _ i j

theorem wrap_of_scrolls (h : s.Sound) (hs : s.Scrolls) :
    s.wrap.grid = s.grid.scroll s.pen.blank ∧ s.wrap.cursor.row.toNat + 1 = s.rows.toNat := by
  obtain ⟨hw, hlast⟩ := hs
  rw [toNat_position_row h] at hlast
  have hwrap : s.wrap = s.carriageReturn.lineFeed := wrap_of_eq hw
  have hrow := lineFeed_row (sound_carriageReturn h)
  have hfeed : s.carriageReturn.lineFeed =
      { s.carriageReturn with grid := s.grid.scroll s.pen.blank, cursor.row := s.rows - 1 } :=
    if_neg (Nat.not_lt.mpr (Nat.le_of_eq hlast.symm))
  rw [← hwrap] at hrow hfeed
  refine ⟨by rw [hfeed], ?_⟩
  change s.wrap.cursor.row.toNat = min (s.cursor.row.toNat + 1) (s.rows.toNat - 1) at hrow
  omega

theorem wrap_of_not_scrolls (h : s.Sound) (hs : ¬ s.Scrolls) :
    s.wrap.grid = s.grid ∧
      ¬ s.Precedes s.wrap.cursor.row.toNat s.wrap.cursor.col.toNat := by
  unfold Precedes
  by_cases hw : s.Wrapping
  · have hroom : s.cursor.row.toNat + 1 < s.rows.toNat := by
      have hne : s.position.row.toNat + 1 ≠ s.rows.toNat := fun hlast => hs ⟨hw, hlast⟩
      rw [toNat_position_row h] at hne
      exact Nat.lt_of_le_of_ne h.row_lt hne
    have hwrap : s.wrap = s.carriageReturn.lineFeed := wrap_of_eq hw
    have hrow := lineFeed_row (sound_carriageReturn h)
    have hfeed : s.carriageReturn.lineFeed =
        { s.carriageReturn with cursor.row := s.cursor.row + 1 } := if_pos hroom
    rw [← hwrap] at hrow hfeed
    refine ⟨by rw [hfeed]; rfl, ?_⟩
    change s.wrap.cursor.row.toNat = min (s.cursor.row.toNat + 1) (s.rows.toNat - 1) at hrow
    omega
  · rw [wrap_of_lt (lt_of_not_wrapping h hw)]
    exact ⟨rfl, by omega⟩

theorem get?_put_precedes (h : s.Sound) (c : Char) (hp : s.Precedes i j) : if s.Scrolls
    then i = 0 ∨ (s.put c).grid.get? (i - 1) j = s.grid.get? i j
    else (s.put c).grid.get? i j = s.grid.get? i j := by
  have hrow := h.row_lt
  by_cases hs : s.Scrolls
  · rw [if_pos hs, or_iff_not_imp_left]
    intro hi
    obtain ⟨hgrid, hlast⟩ := wrap_of_scrolls h hs
    have hin : i < s.grid.rows.toNat := by
      change i < s.rows.toNat
      unfold Precedes at hp
      omega
    have hplace : ¬ (i - 1 = s.wrap.cursor.row.toNat ∧ j = s.wrap.cursor.col.toNat) := by
      change i < s.rows.toNat at hin
      omega
    rw [get?_put h, if_neg hplace, hgrid, Grid.get?_scroll h.grid, if_neg (by omega),
      Nat.sub_add_cancel (Nat.pos_of_ne_zero hi)]
  · rw [if_neg hs]
    obtain ⟨hgrid, hplace⟩ := wrap_of_not_scrolls h hs
    rw [get?_put h, if_neg (by rintro ⟨rfl, rfl⟩; exact hplace hp), hgrid]

variable {cols rows : UInt16}

theorem get?_grow (h : s.Sound) (hcols : s.cols ≤ cols) (hrows : s.rows ≤ rows) {cell : Cell}
    (hcell : s.grid.get? i j = some cell) :
    (s.perform (.resize cols rows)).grid.get? i j = some cell := by
  rcases perform_resize s cols rows with ⟨-, -, he⟩ | ⟨-, he⟩
  · rwa [he]
  · obtain ⟨hi, hj⟩ := (Grid.isSome_get? h.grid i j).mp (by rw [hcell]; rfl)
    have hcols' : s.grid.cols.toNat ≤ cols.toNat := UInt16.le_iff_toNat_le.mp hcols
    have hrows' : s.grid.rows.toNat ≤ rows.toNat := UInt16.le_iff_toNat_le.mp hrows
    rw [he, Grid.get?_resize, if_pos (by omega), hcell]
    rfl

theorem cursor_grow (h : s.Sound) (hcols : s.cols ≤ cols) (hrows : s.rows ≤ rows) :
    (s.perform (.resize cols rows)).cursor =
      if s.LosesWrap cols rows then s.position else s.cursor := by
  have hcols' := UInt16.le_iff_toNat_le.mp hcols
  have hrows' := UInt16.le_iff_toNat_le.mp hrows
  have hc := Word.max_one_eq_self (Nat.lt_of_lt_of_le h.cols_pos hcols')
  have hr := Word.max_one_eq_self (Nat.lt_of_lt_of_le h.rows_pos hrows')
  have hrow := h.row_lt
  rcases perform_resize s cols rows with ⟨hsame, hsame', he⟩ | ⟨hne, he⟩
  · rw [he, if_neg]
    rintro ⟨-, -, hrows⟩
    exact hrows (hr.symm.trans hsame')
  · rw [hc, hr] at hne
    rw [he, hc, hr]
    have hstop : (stopAt s.cursor.row.toNat rows).toNat = s.cursor.row.toNat := by
      rw [toNat_stopAt]
      omega
    by_cases hl : s.LosesWrap cols rows
    · rw [if_pos hl]
      apply Cursor.eq_of_toNat
      · rw [toNat_position_col, hl.2.1]
        exact toNat_stopAt ..
      · rw [toNat_position_row h]
        exact hstop
    · rw [if_neg hl]
      refine Cursor.eq_of_toNat ?_ hstop
      -- a pending wrap finds room in a further column
      have hroom : s.cursor.col.toNat < cols.toNat := by
        by_cases hw : s.Wrapping
        · have hcols : cols ≠ s.cols := fun he => hl ⟨hw, he, fun he' => hne ⟨he, he'⟩⟩
          have hcol : s.cursor.col.toNat = s.cols.toNat := congrArg UInt16.toNat hw
          have := mt UInt16.toNat_inj.mp hcols
          omega
        · exact Nat.lt_of_lt_of_le (lt_of_not_wrapping h hw) hcols'
      change (stopAt s.cursor.col.toNat cols).toNat = _
      rw [toNat_stopAt]
      omega

structure Holds (s : Screen) (text : List Char) : Prop where
  sound : s.Sound
  sheet_eq : ∃ full last, pieces s.cols.toNat text = full ++ [last] ∧
    s.sheet = .showing s.cols.toNat s.rows.toNat full last

theorem holds_performAll (cols rows : UInt16) (text : List Char) :
    ((Screen.blank cols rows).performAll (text.map .put)).Holds text := by
  have hblank := sound_blank cols rows
  refine ⟨sound_performAll hblank _, ?_⟩
  generalize hs : (Screen.blank cols rows).performAll (text.map .put) = s
  have hsheet : s.sheet = Sheet.performAll (.showing (max cols.toNat 1) (max rows.toNat 1) [] [])
      (text.map .put) := by
    rw [← hs, sheet_performAll hblank, sheet_blank, Sheet.showing_blank]
  have hpos (n : UInt16) : 0 < max n.toNat 1 := by omega
  obtain ⟨full, last, hpieces, hrun⟩ := Sheet.performAll_line (hpos cols) (hpos rows) text []
  rw [hrun, List.nil_append] at hsheet
  have hcols : s.cols.toNat = max cols.toNat 1 := congrArg Sheet.cols hsheet
  have hrows : s.rows.toNat = max rows.toNat 1 := congrArg Sheet.rows hsheet
  rw [hcols, hrows]
  exact ⟨full, last, hpieces, hsheet⟩

variable {text : List Char}

theorem Holds.shown (h : s.Holds text) : ∃ above last,
    (pieces s.cols.toNat text).rtake s.rows.toNat = above ++ [last] ∧
      s.grid.lines = fit s.rows.toNat (List.replicate s.cols.toNat ⟨' ', .default, .default⟩)
        ((above ++ [last]).map (Sheet.printed s.cols.toNat)) ∧
      above.length < s.rows.toNat ∧ s.cursor.row.toNat = above.length ∧
      s.cursor.col.toNat = last.length ∧ last.getLast? = text.getLast? := by
  obtain ⟨full, last, hpieces, hsheet⟩ := h.sheet_eq
  have hpos := h.sound.rows_pos
  have hlast := getLast?_pieces s.cols.toNat text
  rw [hpieces, List.getLast?_concat] at hlast
  refine ⟨full.rtake (s.rows.toNat - 1), last, ?_, congrArg Sheet.lines hsheet,
    Sheet.length_shown_lt full hpos, congrArg Sheet.row hsheet, congrArg Sheet.col hsheet, hlast⟩
  rw [hpieces, ← List.rtake_concat_succ, Nat.sub_add_cancel hpos]

theorem Holds.pen_eq (h : s.Holds text) : s.pen = ⟨.default, .default⟩ := by
  obtain ⟨_, _, -, hsheet⟩ := h.sheet_eq
  exact congrArg Sheet.pen hsheet

theorem Holds.typed? (h : s.Holds text) {old : Char}
    (htyped : typed? s.cols.toNat s.rows.toNat text i j = some old) :
    s.grid.get? i j = some ⟨old, .default, .default⟩ ∧ s.Precedes i j := by
  obtain ⟨above, last, hshown, hlines, hrows, hrow, hcol, -⟩ := h.shown
  obtain ⟨piece, hpiece, hold⟩ := Option.bind_eq_some_iff.mp htyped
  have hj : j < s.cols.toNat := by
    have hmem : piece ∈ pieces s.cols.toNat text :=
      List.mem_of_mem_drop (List.mem_of_getElem? hpiece)
    have hlength := length_le_of_mem_pieces h.sound.cols_pos text piece hmem
    exact Nat.lt_of_lt_of_le (List.getElem?_eq_some_iff.mp hold).1 hlength
  rw [hshown] at hpiece
  have hi := (List.getElem?_eq_some_iff.mp hpiece).1
  rw [List.length_append, List.length_singleton] at hi
  constructor
  · have hin : i < s.rows.toNat := Nat.lt_of_lt_of_le hi hrows
    have hline : s.grid.lines[i]? = some (Sheet.printed s.cols.toNat piece) := by
      rw [hlines, getElem?_fit, if_pos hin, List.getElem?_map, hpiece]
      rfl
    rw [Grid.getElem?_lines hin, Option.some_inj] at hline
    rw [← Grid.getElem?_row h.sound.grid, hline, Sheet.printed, getElem?_fit, if_pos hj,
      List.getElem?_map, hold]
    rfl
  · unfold Precedes
    rw [hrow, hcol]
    rcases Nat.lt_or_eq_of_le (Nat.le_of_lt_succ hi) with hlt | rfl
    · exact .inl hlt
    · rw [List.getElem?_concat_length, Option.some_inj] at hpiece
      exact .inr ⟨rfl, hpiece ▸ (List.getElem?_eq_some_iff.mp hold).1⟩

theorem Holds.typed?_position (h : s.Holds text) (hw : s.Wrapping) :
    TermView.typed? s.cols.toNat s.rows.toNat text s.position.row.toNat s.position.col.toNat =
      text.getLast? := by
  obtain ⟨above, last, hshown, -, -, hrow, hcol, hlast⟩ := h.shown
  have hfull : s.cursor.col.toNat = s.cols.toNat := congrArg UInt16.toNat hw
  rw [TermView.typed?, hshown, toNat_position_row h.sound, hrow, toNat_position_col, ← hfull,
    Nat.min_eq_right (Nat.sub_le _ _), hcol, List.getElem?_concat_length, ← hlast,
    List.getLast?_eq_getElem?]
  rfl

theorem inside_of_losesWrap (h : s.Sound) (hcols : s.cols ≤ cols) (hrows : s.rows ≤ rows)
    (hl : s.LosesWrap cols rows) : (s.perform (.resize cols rows)).cursor.col.toNat <
      (s.perform (.resize cols rows)).cols.toNat := by
  rw [cursor_grow h hcols hrows, if_pos hl, (size_resize s cols rows).1, hl.2.1,
    Word.max_one_eq_self h.cols_pos]
  exact toNat_stopAt_lt _ h.cols_pos

theorem get?_put_losesWrap (h : s.Sound) (hcols : s.cols ≤ cols) (hrows : s.rows ≤ rows)
    (hl : s.LosesWrap cols rows) (c : Char) (i j : Nat) :
    ((s.perform (.resize cols rows)).put c).grid.get? i j =
      if i = s.position.row.toNat ∧ j = s.position.col.toNat
      then ((s.perform (.resize cols rows)).grid.get? i j).map fun _ => s.pen.cell c
      else (s.perform (.resize cols rows)).grid.get? i j := by
  rw [get?_put (sound_resize h cols rows), wrap_of_lt (inside_of_losesWrap h hcols hrows hl),
    cursor_grow h hcols hrows, if_pos hl, pen_resize]

theorem text_kept_on_larger_grid (cols rows : UInt16) (text : List Char) (cols' rows' : UInt16)
    (c : Char) :
    let s := (Screen.blank cols rows).performAll (text.map .put)
    s.cols ≤ cols' → s.rows ≤ rows' →
    let grown := s.perform (.resize cols' rows')
    let after := (grown.put c).grid
    ∀ i j old, typed? s.cols.toNat s.rows.toNat text i j = some old →
      s.grid.get? i j = some ⟨old, .default, .default⟩ ∧
      if s.LosesWrap cols' rows' ∧ i = s.position.row.toNat ∧ j = s.position.col.toNat
      then text.getLast? = some old ∧ after.get? i j = some ⟨c, .default, .default⟩
      else if grown.Scrolls then i = 0 ∨ after.get? (i - 1) j = some ⟨old, .default, .default⟩
      else after.get? i j = some ⟨old, .default, .default⟩ := by
  intro s hcols hrows grown after i j old htyped
  have h : s.Holds text := holds_performAll cols rows text
  have hg : grown.Sound := sound_resize h.sound cols' rows'
  obtain ⟨hcell, hbefore⟩ := h.typed? htyped
  have hgrown : grown.grid.get? i j = some ⟨old, .default, .default⟩ :=
    get?_grow h.sound hcols hrows hcell
  refine ⟨hcell, ?_⟩
  by_cases hl : s.LosesWrap cols' rows'
  · have hstays : ¬ grown.Scrolls := by
      intro hscrolls
      exact not_wrapping_of_lt (inside_of_losesWrap h.sound hcols hrows hl) hscrolls.1
    have hput := get?_put_losesWrap h.sound hcols hrows hl c i j
    rw [show (s.perform (.resize cols' rows')).grid.get? i j = _ from hgrown, h.pen_eq] at hput
    by_cases hplace : i = s.position.row.toNat ∧ j = s.position.col.toNat
    · rw [if_pos ⟨hl, hplace⟩]
      have hlast := h.typed?_position hl.1
      obtain ⟨rfl, rfl⟩ := hplace
      exact ⟨hlast.symm.trans htyped, hput.trans (if_pos ⟨rfl, rfl⟩)⟩
    · rw [if_neg (fun hlost => hplace hlost.2), if_neg hstays]
      exact hput.trans (if_neg hplace)
  · have hcursor : grown.cursor = s.cursor :=
      (cursor_grow h.sound hcols hrows).trans (if_neg hl)
    have hafter : grown.Precedes i j := by
      unfold Precedes
      rw [hcursor]
      exact hbefore
    have hput := get?_put_precedes hg c hafter
    rw [hgrown] at hput
    rw [if_neg (fun hlost => hl hlost.1)]
    exact hput

theorem text_kept_on_larger_grid_widened :
    let text := ['a', 'b', 'c', 'd', 'e', 'f']
    let s := (Screen.blank 3 2).performAll (text.map .put)
    (s.cols ≤ 4 ∧ s.rows ≤ 3 ∧ typed? s.cols.toNat s.rows.toNat text 1 2 = some 'f') ∧
    ((s.perform (.resize 4 3)).put 'g').grid.get? 1 2 = some ⟨'f', .default, .default⟩ := by
  intro text s
  have hcols : s.cols ≤ 4 := by decide
  have hrows : s.rows ≤ 3 := by decide
  have htyped : typed? s.cols.toNat s.rows.toNat text 1 2 = some 'f' := by
    change ((pieces 3 text).rtake 2)[1]?.bind (·[2]?) = _
    rw [pieces_of_lt (by decide) (by decide), pieces_of_le (by decide)]
    rfl
  obtain ⟨-, hafter⟩ := text_kept_on_larger_grid 3 2 text 4 3 'g' hcols hrows 1 2 'f' htyped
  have hkept : ¬ s.LosesWrap 4 3 := by decide
  have hstays : ¬ (s.perform (.resize 4 3)).Scrolls := by decide
  rw [if_neg (fun hlost => hkept hlost.1), if_neg hstays] at hafter
  exact ⟨⟨hcols, hrows, htyped⟩, hafter⟩

theorem taller_grid_replaces_text :
    let text := ['a', 'b', 'c']
    let s := (Screen.blank 3 2).performAll (text.map .put)
    let grown := s.perform (.resize 3 3)
    s.cols ≤ 3 ∧ s.rows ≤ 3 ∧ typed? s.cols.toNat s.rows.toNat text 0 2 = some 'c' ∧
      grown.grid.get? 0 2 = some ⟨'c', .default, .default⟩ ∧ ¬ grown.Scrolls ∧
      (grown.put 'd').grid.get? 0 2 = some ⟨'d', .default, .default⟩ := by
  intro text s grown
  refine ⟨by decide, by decide, ?_, by decide, by decide, by decide⟩
  change ((pieces 3 text).rtake 2)[0]?.bind (·[2]?) = _
  rw [pieces_of_le (by decide)]
  rfl

end Screen

end TermView
