import Mathlib.Data.List.DropRight
import TermView.Canvas
import TermView.Proofs.ScreenSheet
import TermView.Proofs.TerminalRuns

namespace TermView

def pieces (n : Nat) (line : List Char) : List (List Char) :=
  if 0 < n ∧ n < line.length then line.take n :: pieces n (line.drop n) else [line]
termination_by line.length
decreasing_by
  rw [List.length_drop]
  omega

theorem pieces_of_le {n : Nat} {line : List Char} (h : line.length ≤ n) : pieces n line = [line] := by
  rw [pieces, if_neg (by omega)]

theorem pieces_of_lt {n : Nat} {line : List Char} (hn : 0 < n) (h : n < line.length) :
    pieces n line = line.take n :: pieces n (line.drop n) := by
  rw [pieces, if_pos ⟨hn, h⟩]

def controls : List Char := [escapeChar, '\n', '\r', '\x08', '\t']

theorem Operation.ofText_eq_put {c : Char} (h : c ∉ controls) : Operation.ofText c = .put c := by
  simp only [controls, List.mem_cons, List.not_mem_nil, not_or] at h
  unfold Operation.ofText
  split <;> simp_all

theorem Operation.map_ofText {line : List Char} (h : ∀ c ∈ line, c ∉ controls) :
    line.map Operation.ofText = line.map .put :=
  List.map_congr_left fun c hc => ofText_eq_put (h c hc)

namespace Sheet

def printed (cols : Nat) (piece : List Char) : List Cell :=
  fit cols ⟨' ', .default, .default⟩ (piece.map (⟨·, .default, .default⟩))

def showing (cols rows : Nat) (above : List (List Char)) (last : List Char) : Sheet where
  cols := cols
  rows := rows
  lines := fit rows (List.replicate cols ⟨' ', .default, .default⟩)
    ((above.rtake (rows - 1) ++ [last]).map (printed cols))
  row := (above.rtake (rows - 1)).length
  col := last.length
  pen := ⟨.default, .default⟩

theorem printed_nil (cols : Nat) :
    printed cols [] = List.replicate cols ⟨' ', .default, .default⟩ := fit_nil ..

theorem showing_blank (cols rows : Nat) : showing cols rows [] [] = blank cols rows := by
  have hlines := fit_append_self rows (List.replicate cols (Cell.mk ' ' .default .default)) []
  rw [List.nil_append, fit_nil] at hlines
  simp only [showing, blank, List.rtake_nil, List.nil_append, List.map_singleton, printed_nil,
    List.length_nil, hlines]

theorem replace_place {p : Sheet} {row col : Nat} {line : List Cell} {cell : Cell}
    (h : p.lines[row]? = some line) :
    (p.replace (fun i j => i = row ∧ j = col) cell).lines =
      p.lines.set row (line.set col cell) := by
  apply List.ext_getElem?
  intro i
  rw [replace, List.getElem?_mapIdx, List.getElem?_set]
  by_cases hi : i = row
  · obtain ⟨hrow, -⟩ := List.getElem?_eq_some_iff.mp h
    subst hi
    rw [if_pos rfl, if_pos hrow, h, Option.map_some, Option.some_inj]
    apply List.ext_getElem?
    intro j
    rw [List.getElem?_mapIdx, List.getElem?_set]
    by_cases hj : j = col
    · subst hj
      by_cases hl : j < line.length <;> simp [hl]
    · simp [hj, Ne.symm hj]
  · have hsame (line : List Cell) : line.mapIdx (fun _ old => old) = line := by
      apply List.ext_getElem?
      intro j
      simp
    simp [hi, Ne.symm hi, hsame]

variable {cols rows : Nat} {above : List (List Char)} {last : List Char}

theorem length_shown_lt (above : List (List Char)) (hr : 0 < rows) :
    (above.rtake (rows - 1)).length < rows := by
  rw [List.rtake, List.length_drop]
  omega

theorem printed_append (cols : Nat) (piece : List Char) (c : Char) :
    printed cols (piece ++ [c]) =
      (printed cols piece).set piece.length ⟨c, .default, .default⟩ := by
  rw [printed, printed, List.map_append, List.map_singleton, ← set_fit, List.length_map]

theorem lines_showing (cols rows : Nat) (above : List (List Char)) (last : List Char) :
    (showing cols rows above last).lines =
      (fit rows (List.replicate cols ⟨' ', .default, .default⟩)
        ((above.rtake (rows - 1)).map (printed cols))).set
          (above.rtake (rows - 1)).length (printed cols last) := by
  rw [showing, List.map_append, List.map_singleton, ← set_fit, List.length_map]

theorem replace_last (hr : 0 < rows) (above : List (List Char)) {last' : List Char} {col : Nat}
    {cell : Cell} (h : (printed cols last).set col cell = printed cols last') :
    ((showing cols rows above last).replace
      (fun i j => i = (showing cols rows above last).row ∧ j = col) cell).lines =
      (showing cols rows above last').lines := by
  have hlast : (showing cols rows above last).lines[(showing cols rows above last).row]? =
      some (printed cols last) := by
    rw [lines_showing, List.getElem?_set, showing, if_pos rfl, length_fit,
      if_pos (length_shown_lt above hr)]
  rw [replace_place hlast, lines_showing, lines_showing, h]
  exact List.set_set ..

theorem put_room (hr : 0 < rows) (hl : last.length < cols) (c : Char) :
    (showing cols rows above last).put c = showing cols rows above (last ++ [c]) := by
  have hwrap : (showing cols rows above last).wrap = showing cols rows above last :=
    if_neg (Nat.ne_of_lt hl)
  have hlines := replace_last hr above (printed_append cols last c).symm
  have hlength : (last ++ [c]).length = last.length + 1 := List.length_append
  rw [put, hwrap]
  change Sheet.mk cols rows (Sheet.lines _) _ (last.length + 1) ⟨.default, .default⟩ = _
  rw [← hlength]
  exact congrArg (Sheet.mk cols rows · _ (last ++ [c]).length ⟨.default, .default⟩) hlines

theorem newline_room (h : (above.rtake (rows - 1)).length + 1 < rows) :
    lineFeed { showing cols rows above last with col := 0 } =
      showing cols rows (above ++ [last]) [] := by
  have hlength : above.length + 1 < rows := by
    rw [List.rtake, List.length_drop] at h
    omega
  have hall (history : List (List Char)) (hh : history.length ≤ above.length + 1) :
      history.rtake (rows - 1) = history := by
    rw [List.rtake, show history.length - (rows - 1) = 0 by omega, List.drop_zero]
  have hbefore := hall above (Nat.le_succ _)
  have hafter := hall (above ++ [last]) (Nat.le_of_eq List.length_append)
  refine (if_pos h).trans ?_
  simp only [showing, hbefore, hafter, List.map_append, List.map_singleton, printed_nil,
    fit_append_self, List.length_append, List.length_singleton, List.length_nil]

theorem newline_scroll (h : (above.rtake (rows - 1)).length + 1 = rows) :
    lineFeed { showing cols rows above last with col := 0 } =
      showing cols rows (above ++ [last]) [] := by
  have hafter : (above ++ [last]).rtake (rows - 1) = (above.rtake (rows - 1) ++ [last]).tail := by
    rw [List.rtake, List.length_drop] at h
    rw [List.rtake, List.rtake, ← List.drop_append_of_le_length (by omega), List.tail_drop,
      List.length_append, List.length_singleton]
    congr 1
    omega
  have hlength : ((above.rtake (rows - 1) ++ [last]).map (printed cols)).length = rows := by
    rw [List.length_map, List.length_append]
    exact h
  have hlength' : (((above.rtake (rows - 1) ++ [last]).tail ++ [[]]).map (printed cols)).length =
      rows := by
    rw [List.length_map, List.length_append, List.length_tail, List.length_append]
    exact h
  refine (if_neg (Nat.not_lt.mpr (Nat.le_of_eq h.symm))).trans ?_
  simp only [showing, hafter]
  rw [fit_eq_self _ hlength, fit_eq_self _ hlength', ← List.map_tail, List.map_append,
    List.map_singleton, printed_nil, List.length_tail, List.length_append]
  rfl

theorem newline (hr : 0 < rows) :
    lineFeed { showing cols rows above last with col := 0 } =
      showing cols rows (above ++ [last]) [] := by
  have hshort := length_shown_lt above hr
  by_cases hroom : (above.rtake (rows - 1)).length + 1 < rows
  · exact newline_room hroom
  · exact newline_scroll (by omega)

theorem put_full (hc : 0 < cols) (hr : 0 < rows) (hl : last.length = cols) (c : Char) :
    (showing cols rows above last).put c = (showing cols rows (above ++ [last]) []).put c := by
  have hwrap : (showing cols rows above last).wrap = showing cols rows (above ++ [last]) [] :=
    (if_pos hl).trans (newline hr)
  have hwrap' : (showing cols rows (above ++ [last]) []).wrap =
      showing cols rows (above ++ [last]) [] := if_neg (Nat.ne_of_lt hc)
  rw [put, put, hwrap, hwrap']

theorem performAll_room (hr : 0 < rows) (text : List Char) (hl : last.length + text.length ≤ cols) :
    (showing cols rows above last).performAll (text.map .put) =
      showing cols rows above (last ++ text) := by
  induction text generalizing last with
  | nil => rw [List.append_nil]; rfl
  | cons c text ih =>
    rw [List.length_cons] at hl
    have hput : (showing cols rows above last).put c = showing cols rows above (last ++ [c]) :=
      put_room hr (by omega) c
    have hlength : (last ++ [c]).length = last.length + 1 := List.length_append
    have hrest := ih (by omega : (last ++ [c]).length + text.length ≤ cols)
    rw [List.append_assoc, List.singleton_append, ← hput] at hrest
    exact hrest

theorem performAll_full (hc : 0 < cols) (hr : 0 < rows) (hl : last.length = cols) {text : List Char}
    (ht : text ≠ []) : (showing cols rows above last).performAll (text.map .put) =
      (showing cols rows (above ++ [last]) []).performAll (text.map .put) := by
  obtain ⟨c, text, rfl⟩ := List.exists_cons_of_ne_nil ht
  have hput : (showing cols rows above last).put c = _ := put_full hc hr hl c
  exact congrArg (performAll · (text.map .put)) hput

theorem performAll_line (hc : 0 < cols) (hr : 0 < rows) (line : List Char)
    (above : List (List Char)) :
    ∃ full last, pieces cols line = full ++ [last] ∧
      (showing cols rows above []).performAll (line.map .put) =
        showing cols rows (above ++ full) last := by
  induction line using pieces.induct cols generalizing above with
  | case1 line h ih =>
    obtain ⟨full, last, hpieces, hrest⟩ := ih (above ++ [line.take cols])
    refine ⟨line.take cols :: full, last, ?_, ?_⟩
    · rw [pieces_of_lt hc h.2, hpieces, List.cons_append]
    · have hlength : (line.take cols).length = cols := by
        rw [List.length_take]
        omega
      -- a wrap is pending after the first piece, and the next character completes it
      have hmore : line.drop cols ≠ [] := mt List.drop_eq_nil_iff.mp (by omega)
      have hfirst : (showing cols rows above []).performAll ((line.take cols).map .put) =
          showing cols rows above (line.take cols) :=
        performAll_room hr _ (by rw [hlength, List.length_nil]; omega)
      calc (showing cols rows above []).performAll (line.map .put)
        _ = (showing cols rows above (line.take cols)).performAll ((line.drop cols).map .put) := by
          rw [← hfirst, ← performAll_append, ← List.map_append, List.take_append_drop]
        _ = (showing cols rows (above ++ [line.take cols]) []).performAll
              ((line.drop cols).map .put) := performAll_full hc hr hlength hmore
        _ = showing cols rows (above ++ (line.take cols :: full)) last := by
          rw [hrest, List.append_assoc, List.singleton_append]
  | case2 line h =>
    have hlen : line.length ≤ cols := by omega
    refine ⟨[], line, pieces_of_le hlen, ?_⟩
    · rw [performAll_room hr line (by rw [List.length_nil]; omega), List.nil_append,
        List.append_nil]

theorem performAll_lines (hc : 0 < cols) (hr : 0 < rows) (line : List Char)
    (lines : List (List Char)) (hlines : ∀ line' ∈ line :: lines, ∀ c ∈ line', c ∉ controls)
    (above : List (List Char)) :
    ∃ full last, (line :: lines).flatMap (pieces cols) = full ++ [last] ∧
      (showing cols rows above []).performAll
          ((['\r', '\n'].intercalate (line :: lines)).map .ofText) =
        showing cols rows (above ++ full) last := by
  induction lines generalizing line above with
  | nil =>
    obtain ⟨full, last, hpieces, hline⟩ := performAll_line hc hr line above
    refine ⟨full, last, ?_, ?_⟩
    · rw [List.flatMap_singleton, hpieces]
    · rw [List.intercalate_singleton, Operation.map_ofText (hlines line List.mem_cons_self), hline]
  | cons next lines ih =>
    obtain ⟨full, last, hpieces, hline⟩ := performAll_line hc hr line above
    obtain ⟨full', last', hpieces', hrest⟩ := ih next
      (fun line' hmem => hlines line' (List.mem_cons_of_mem _ hmem)) (above ++ full ++ [last])
    have hnewline : (showing cols rows (above ++ full) last).performAll
        (['\r', '\n'].map .ofText) = showing cols rows (above ++ full ++ [last]) [] := newline hr
    refine ⟨full ++ [last] ++ full', last', ?_, ?_⟩
    · rw [List.flatMap_cons, hpieces, hpieces', List.append_assoc _ full']
    · rw [List.intercalate_cons_cons, List.map_append, List.map_append, performAll_append,
        performAll_append, Operation.map_ofText (hlines line List.mem_cons_self), hline, hnewline,
        hrest, List.append_assoc, List.append_assoc, List.append_assoc]

end Sheet

theorem mem_intercalate {sep : List Char} {lines : List (List Char)} {c : Char}
    (h : c ∈ sep.intercalate lines) : c ∈ sep ∨ ∃ line ∈ lines, c ∈ line := by
  cases lines with
  | nil => simp at h
  | cons line lines =>
    induction lines generalizing line with
    | nil => exact .inr ⟨line, List.mem_cons_self, by simpa using h⟩
    | cons next lines ih =>
      rw [List.intercalate_cons_cons, List.mem_append, List.mem_append] at h
      rcases h with (hline | hsep) | hrest
      · exact .inr ⟨line, List.mem_cons_self, hline⟩
      · exact .inl hsep
      · rcases ih next hrest with hsep | ⟨line', hmem, hc⟩
        · exact .inl hsep
        · exact .inr ⟨line', List.mem_cons_of_mem _ hmem, hc⟩

theorem ne_escapeChar_of_mem {lines : List (List Char)}
    (h : ∀ line ∈ lines, ∀ c ∈ line, c ∉ controls) :
    ∀ c ∈ ['\r', '\n'].intercalate lines, c ≠ escapeChar := by
  rintro c hmem rfl
  rcases mem_intercalate hmem with hsep | ⟨line, hline, hc⟩
  · exact absurd hsep (by decide)
  · exact h line hline _ hc List.mem_cons_self

namespace Terminal

variable {σ : Type} [Surface σ]

theorem sheet_write (settings : Settings) (hc : 0 < settings.cols.toNat)
    (hr : 0 < settings.rows.toNat) (text : String) (h : ∀ c ∈ text.toList, c ≠ escapeChar) :
    ((Terminal.new settings : Terminal σ).write text).screen.sheet =
      (Sheet.showing settings.cols.toNat settings.rows.toNat [] []).performAll
        (text.toList.map .ofText) := by
  have hwrite := screen_perform (Terminal.new settings : Terminal σ) (.write text)
  have hops : operations (Terminal.new settings : Terminal σ) (.write text) =
      text.toList.map .ofText := Emulator.operations_text _ h
  have hblank : (Terminal.new settings : Terminal σ).screen.sheet =
      Sheet.blank settings.cols.toNat settings.rows.toNat := by
    have hsheet := Screen.sheet_blank settings.cols settings.rows
    rwa [Nat.max_eq_left hc, Nat.max_eq_left hr] at hsheet
  change ((Terminal.new settings : Terminal σ).perform (.write text)).screen.sheet = _
  have hsound : (Terminal.new settings : Terminal σ).screen.Sound := Screen.sound_blank _ _
  rw [hwrite, hops, Screen.sheet_performAll hsound, hblank, Sheet.showing_blank]

theorem write_lines (settings : Settings) (hc : 0 < settings.cols.toNat)
    (hr : 0 < settings.rows.toNat) (lines : List String) (hne : lines ≠ [])
    (htext : ∀ line ∈ lines, ∀ c ∈ line.toList, c ∉ controls) :
    let cols := settings.cols.toNat
    let rows := settings.rows.toNat
    let s := ((Terminal.new settings : Terminal σ).write ("\r\n".intercalate lines)).screen
    let shown := (lines.flatMap fun line => pieces cols line.toList).rtake rows
    s.grid.lines = fit rows (List.replicate cols ⟨' ', .default, .default⟩)
      (shown.map fun piece =>
        fit cols ⟨' ', .default, .default⟩ (piece.map (⟨·, .default, .default⟩))) ∧
    ∃ above last, shown = above ++ [last] ∧
      s.position.row.toNat = above.length ∧ s.position.col.toNat = min last.length (cols - 1) := by
  intro cols rows s shown
  obtain ⟨line, lines, rfl⟩ := List.exists_cons_of_ne_nil hne
  have hlines : ∀ chars ∈ line.toList :: lines.map String.toList, ∀ c ∈ chars, c ∉ controls := by
    rw [← List.map_cons, List.forall_mem_map]
    exact htext
  have hescape : ∀ c ∈ ("\r\n".intercalate (line :: lines)).toList, c ≠ escapeChar := by
    rw [String.toList_intercalate]
    exact ne_escapeChar_of_mem hlines
  obtain ⟨full, last, hpieces, hrun⟩ :=
    Sheet.performAll_lines hc hr line.toList (lines.map String.toList) hlines []
  have hsheet : s.sheet = Sheet.showing cols rows full last := by
    have hwrite := sheet_write (σ := σ) settings hc hr _ hescape
    rw [String.toList_intercalate] at hwrite
    exact hwrite.trans hrun
  have hshown : shown = full.rtake (rows - 1) ++ [last] := by
    have hrows : rows = rows - 1 + 1 := by omega
    have hall : ((line :: lines).flatMap fun line => pieces cols line.toList) = full ++ [last] := by
      rw [← hpieces, ← List.map_cons, List.flatMap_map]
    rw [← List.rtake_concat_succ, ← hrows, ← hall]
  obtain ⟨hrow, hcol⟩ := Screen.toNat_position s
  rw [hsheet] at hrow hcol
  refine ⟨?_, full.rtake (rows - 1), last, hshown, ?_, hcol⟩
  · rw [hshown]
    exact congrArg Sheet.lines hsheet
  · have hlt : (full.rtake (rows - 1)).length < rows := Sheet.length_shown_lt full hr
    exact hrow.trans (Nat.min_eq_left (Nat.le_sub_one_of_lt hlt))

theorem write_lines_scrolled :
    let settings := { Settings.standard with cols := 2, rows := 3 }
    let lines := ["abcd", "", "efg"]
    let s := ((Terminal.new settings : Terminal Canvas).write ("\r\n".intercalate lines)).screen
    (0 < settings.cols.toNat ∧ 0 < settings.rows.toNat ∧ lines ≠ [] ∧
      ∀ line ∈ lines, ∀ c ∈ line.toList, c ∉ controls) ∧
    s.grid.lines = ["  ", "ef", "g "].map (fun row => row.toList.map (⟨·, .default, .default⟩)) ∧
    s.position = ⟨1, 2⟩ := by
  intro settings lines s
  have hc : 0 < settings.cols.toNat := by decide
  have hr : 0 < settings.rows.toNat := by decide
  have hne : lines ≠ [] := by decide
  have htext : ∀ line ∈ lines, ∀ c ∈ line.toList, c ∉ controls := by
    simp [lines, controls, escapeChar]
  obtain ⟨hgrid, above, last, hshown, hrow, hcol⟩ :=
    write_lines (σ := Canvas) settings hc hr lines hne htext
  have hpieces : (lines.flatMap fun line => pieces settings.cols.toNat line.toList).rtake
      settings.rows.toNat = [[], ['e', 'f']] ++ [['g']] := by
    simp [lines, settings, pieces_of_lt, pieces_of_le, List.rtake]
  obtain ⟨rfl, hlast⟩ := List.append_inj' (hshown.symm.trans hpieces) rfl
  obtain rfl : last = ['g'] := List.singleton_inj.mp hlast
  refine ⟨⟨hc, hr, hne, htext⟩, ?_, ?_⟩
  · refine hgrid.trans ?_
    rw [hpieces]
    decide
  · have hposition : s.position.col = 1 ∧ s.position.row = 2 :=
      ⟨UInt16.toNat_inj.mp hcol, UInt16.toNat_inj.mp hrow⟩
    exact congr (congrArg Cursor.mk hposition.1) hposition.2

end Terminal

end TermView
