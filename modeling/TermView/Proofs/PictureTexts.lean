import TermView.Proofs.StoredCells
import TermView.Proofs.StyleSequences
import TermView.Proofs.TerminalFrames

namespace TermView

theorem separate_of_forall {α : Type} {p : α → Bool} {xs : List α} (h : ∀ x ∈ xs, ¬ p x) :
    separate p xs = [xs] := by
  induction xs with
  | nil => rfl
  | cons x xs ih =>
    obtain ⟨hx, hxs⟩ := List.forall_mem_cons.mp h
    simp [separate, hx, ih hxs]

theorem separate_lines {lines : List (List Char)} (h : ∀ line ∈ lines, '\n' ∉ line) :
    separate (· == '\n') (lines.flatMap (· ++ ['\n'])) = lines ++ [[]] := by
  induction lines with
  | nil => rfl
  | cons line lines ih =>
    obtain ⟨hline, hlines⟩ := List.forall_mem_cons.mp h
    have hone : separate (· == '\n') line = [line] := by
      apply separate_of_forall
      intro c hc hnewline
      exact hline (eq_of_beq hnewline ▸ hc)
    have hjoin := separate_append (· == '\n') (beq_self_eq_true '\n') line
      (lines.flatMap (· ++ ['\n']))
    rw [List.flatMap_cons, List.append_assoc, List.singleton_append, hjoin, hone, ih hlines]
    rfl

def numbersIn (cs : List Char) : List Nat :=
  ((separate (fun c => !c.isDigit) cs).filter (!·.isEmpty)).map (Nat.ofDigitChars 10 · 0)

theorem numbersIn_text {text : List Char} (h : text.all (!·.isDigit)) (rest : List Char) :
    numbersIn (text ++ rest) = numbersIn rest := by
  induction text with
  | nil => rfl
  | cons c text ih =>
    rw [List.all_cons, Bool.and_eq_true] at h
    obtain ⟨hc, htext⟩ := h
    rw [← ih htext]
    simp [numbersIn, separate, hc]

theorem numbersIn_digits (n : Nat) {c : Char} (hc : ¬ c.isDigit) (rest : List Char) :
    numbersIn (Nat.toDigits 10 n ++ c :: rest) = n :: numbersIn rest := by
  have hdigits : separate (fun c => !c.isDigit) (Nat.toDigits 10 n) = [Nat.toDigits 10 n] := by
    apply separate_of_forall
    intro d hd
    simp [Nat.isDigit_of_mem_toDigits (by decide) (by decide) hd]
  have hjoin := separate_append (fun c => !c.isDigit) (x := c) (by simpa using hc)
    (Nat.toDigits 10 n) rest
  rw [numbersIn, hjoin, hdigits]
  simp [numbersIn, Nat.toDigits_ne_nil]

theorem numbersIn_pair {start middle rest : List Char} {c d : Char} (m n : Nat)
    (hstart : start.all (!·.isDigit)) (hc : ¬ c.isDigit) (hmiddle : middle.all (!·.isDigit))
    (hd : ¬ d.isDigit) (hrest : rest.all (!·.isDigit)) :
    numbersIn (start ++ (Nat.toDigits 10 m ++ c :: (middle ++ (Nat.toDigits 10 n ++ d :: rest)))) =
      [m, n] := by
  have hnone := numbersIn_text hrest []
  rw [List.append_nil] at hnone
  rw [numbersIn_text hstart, numbersIn_digits m hc, numbersIn_text hmiddle, numbersIn_digits n hd,
    hnone]
  rfl

namespace Screen

variable {s : Screen}

def sizeLine (s : Screen) : List Char :=
  s!"=== Terminal {s.cols.toNat}x{s.rows.toNat} ===".toList

def cursorLine (s : Screen) : List Char :=
  s!"Cursor: ({s.position.col.toNat}, {s.position.row.toNat})".toList

def pictureLines (s : Screen) : List (List Char) :=
  [s.sizeLine, s.cursorLine, s.rule] ++ (List.range s.rows.toNat).map s.pictureRow ++ [s.rule]

theorem toList_picture (s : Screen) : s.picture.toList = s.pictureLines.flatMap (· ++ ['\n']) :=
  String.toList_ofList

theorem sizeLine_eq (s : Screen) : s.sizeLine = "=== Terminal ".toList ++
    (Nat.toDigits 10 s.cols.toNat ++ 'x' :: ([] ++
      (Nat.toDigits 10 s.rows.toNat ++ ' ' :: "===".toList))) := by
  have htext (t : String) : toString t = t := rfl
  simp [sizeLine, htext]

theorem cursorLine_eq (s : Screen) : s.cursorLine = "Cursor: (".toList ++
    (Nat.toDigits 10 s.position.col.toNat ++ ',' :: (" ".toList ++
      (Nat.toDigits 10 s.position.row.toNat ++ ')' :: []))) := by
  have htext (t : String) : toString t = t := rfl
  simp [cursorLine, htext]

theorem numbersIn_sizeLine (s : Screen) : numbersIn s.sizeLine = [s.cols.toNat, s.rows.toNat] := by
  rw [sizeLine_eq]
  apply numbersIn_pair <;> decide

theorem numbersIn_cursorLine (s : Screen) :
    numbersIn s.cursorLine = [s.position.col.toNat, s.position.row.toNat] := by
  rw [cursorLine_eq]
  apply numbersIn_pair <;> decide

theorem length_pictureRow (h : s.Sound) {row : Nat} (hrow : row < s.rows.toNat) :
    (s.pictureRow row).length = 1 + s.cols.toNat := by
  have hlength := Grid.length_row h.grid hrow
  unfold pictureRow
  dsimp only
  split <;> simp [hlength, cols, Nat.add_comm]

theorem getElem?_pictureRow_zero (s : Screen) (row : Nat) :
    (s.pictureRow row)[0]? = some (if row = s.position.row.toNat then '>' else ' ') := by
  unfold pictureRow
  dsimp only
  split <;> rfl

theorem getElem?_pictureRow_succ (h : s.Sound) (row col : Nat) :
    (s.pictureRow row)[col + 1]? =
      if row = s.position.row.toNat ∧ col = s.position.col.toNat then some '█'
      else (s.grid.get? row col).map Cell.char := by
  have hchars : ((s.grid.row row).map Cell.char)[col]? = (s.grid.get? row col).map Cell.char := by
    rw [List.getElem?_map, Grid.getElem?_row h.grid]
  obtain ⟨hcolumn, hline⟩ := position_inside h
  unfold pictureRow
  dsimp only
  by_cases hrow : row = s.position.row.toNat
  · subst hrow
    have hlength : ((s.grid.row s.position.row.toNat).map Cell.char).length = s.cols.toNat := by
      rw [List.length_map]
      exact Grid.length_row h.grid hline
    rw [if_pos rfl, List.getElem?_cons_succ, List.getElem?_set, hchars, hlength, if_pos hcolumn]
    by_cases hcol : s.position.col.toNat = col
    · rw [if_pos hcol, if_pos ⟨rfl, hcol.symm⟩]
    · rw [if_neg hcol, if_neg fun hcursor => hcol hcursor.2.symm]
  · rw [if_neg hrow, List.getElem?_cons_succ, hchars, if_neg fun hcursor => hrow hcursor.1]

theorem newline_not_mem_digits (n : Nat) : '\n' ∉ Nat.toDigits 10 n := by
  intro h
  have hdigit := Nat.isDigit_of_mem_toDigits (by decide) (by decide) h
  exact absurd hdigit (by decide)

theorem newline_not_mem_pictureRow (h : s.Sound) (hr : s.Regular) (row : Nat) :
    '\n' ∉ s.pictureRow row := by
  have hchars : '\n' ∉ (s.grid.row row).map Cell.char := by
    intro hmem
    obtain ⟨cell, hcell, hnewline⟩ := List.mem_map.mp hmem
    obtain ⟨col, hcol⟩ := List.mem_iff_getElem?.mp hcell
    rw [Grid.getElem?_row h.grid] at hcol
    apply (hr.cells.get? hcol).char
    rw [hnewline]
    decide
  unfold pictureRow
  dsimp only
  split
  · intro hmem
    rcases List.mem_cons.mp hmem with hmark | hmem
    · cases hmark
    · rcases List.mem_or_eq_of_mem_set hmem with hmem | hblock
      · exact hchars hmem
      · cases hblock
  · intro hmem
    rcases List.mem_cons.mp hmem with hmark | hmem
    · cases hmark
    · exact hchars hmem

theorem newline_not_mem_pictureLines (h : s.Sound) (hr : s.Regular) :
    ∀ line ∈ s.pictureLines, '\n' ∉ line := by
  have hsize : '\n' ∉ s.sizeLine := by
    rw [sizeLine_eq]
    simp [newline_not_mem_digits]
  have hcursor : '\n' ∉ s.cursorLine := by
    rw [cursorLine_eq]
    simp [newline_not_mem_digits]
  have hrule : '\n' ∉ s.rule := by simp [rule]
  simp only [pictureLines, List.forall_mem_append, List.forall_mem_cons, List.forall_mem_map]
  exact ⟨⟨⟨hsize, hcursor, hrule, List.forall_mem_nil _⟩,
    fun row _ => newline_not_mem_pictureRow h hr row⟩, hrule, List.forall_mem_nil _⟩

theorem separate_picture (h : s.Sound) (hr : s.Regular) :
    separate (· == '\n') s.picture.toList = s.pictureLines ++ [[]] := by
  rw [toList_picture, separate_lines (newline_not_mem_pictureLines h hr)]

theorem length_pictureLines (s : Screen) : s.pictureLines.length = s.rows.toNat + 4 := by
  simp [pictureLines]

theorem getElem?_pictureLines_row {row : Nat} (hrow : row < s.rows.toNat) :
    s.pictureLines[row + 3]? = some (s.pictureRow row) := by
  change ((List.range s.rows.toNat).map s.pictureRow ++ [s.rule])[row]? = _
  rw [List.getElem?_append_left (by simpa using hrow)]
  simp [hrow]

theorem getElem?_pictureLines_last (s : Screen) :
    s.pictureLines[s.rows.toNat + 3]? = some s.rule := by
  simp [pictureLines]

end Screen

structure Snapshot where
  cols : Nat
  rows : Nat
  cursor : Nat × Nat
  char : Nat → Nat → Option Char

def Screen.snapshot (s : Screen) : Snapshot where
  cols := s.cols.toNat
  rows := s.rows.toNat
  cursor := (s.position.col.toNat, s.position.row.toNat)
  char row col :=
    if row = s.position.row.toNat ∧ col = s.position.col.toNat then none
    else (s.grid.get? row col).map Cell.char

/-- Reads a picture without looking at the marks in it. -/
def Snapshot.read? (text : String) : Option Snapshot :=
  match separate (· == '\n') text.toList with
  | sizeLine :: cursorLine :: _ :: body =>
    match numbersIn sizeLine, numbersIn cursorLine with
    | [cols, rows], [col, row] => some
      { cols, rows
        cursor := (col, row)
        char := fun i j =>
          if i = row ∧ j = col then none
          else if i < rows then body[i]?.bind fun chars => chars[j + 1]? else none }
    | _, _ => none
  | _ => none

theorem Snapshot.read?_picture {s : Screen} (h : s.Sound) (hr : s.Regular) :
    read? s.picture = some s.snapshot := by
  have hlines : separate (· == '\n') s.picture.toList = s.sizeLine :: s.cursorLine :: s.rule ::
      ((List.range s.rows.toNat).map s.pictureRow ++ [s.rule, []]) := by
    rw [Screen.separate_picture h hr]
    simp [Screen.pictureLines]
  rw [read?, hlines]
  dsimp only
  rw [Screen.numbersIn_sizeLine, Screen.numbersIn_cursorLine]
  dsimp only
  rw [Screen.snapshot, Option.some_inj, Snapshot.mk.injEq]
  refine ⟨rfl, rfl, rfl, ?_⟩
  funext row col
  by_cases hcursor : row = s.position.row.toNat ∧ col = s.position.col.toNat
  · rw [if_pos hcursor, if_pos hcursor]
  · rw [if_neg hcursor, if_neg hcursor]
    -- Below the rows stands the second rule, which is no cell.
    by_cases hrow : row < s.rows.toNat
    · rw [if_pos hrow, List.getElem?_append_left (by simpa using hrow)]
      have hline : ((List.range s.rows.toNat).map s.pictureRow)[row]? = some (s.pictureRow row) := by
        simp [hrow]
      rw [hline, Option.bind_some, Screen.getElem?_pictureRow_succ h, if_neg hcursor]
    · rw [if_neg hrow, Grid.get?_eq_none fun hin => hrow hin.1]
      rfl

theorem Screen.agree_of_snapshot_eq {s s' : Screen} (h : s'.snapshot = s.snapshot) :
    s'.cols = s.cols ∧ s'.rows = s.rows ∧ s'.position = s.position ∧
      ∀ row col, ¬ (row = s.position.row.toNat ∧ col = s.position.col.toNat) →
        (s'.grid.get? row col).map Cell.char = (s.grid.get? row col).map Cell.char := by
  have hcursor := congrArg Snapshot.cursor h
  have hposition : s'.position = s.position :=
    Cursor.eq_of_toNat (congrArg Prod.fst hcursor) (congrArg Prod.snd hcursor)
  refine ⟨UInt16.toNat_inj.mp (congrArg Snapshot.cols h),
    UInt16.toNat_inj.mp (congrArg Snapshot.rows h), hposition, ?_⟩
  intro row col hne
  have hchar := congrFun (congrFun (congrArg Snapshot.char h) row) col
  simp only [Screen.snapshot, hposition, if_neg hne] at hchar
  exact hchar

namespace Terminal

variable {σ : Type} [Surface σ]

theorem sound_takeAll (settings : Settings) (steps : List (Step σ)) :
    ((new settings : Terminal σ).takeAll steps).screen.Sound := by
  apply List.foldlRecOn steps take (motive := fun t : Terminal σ => t.screen.Sound)
  · exact Screen.sound_blank settings.cols settings.rows
  · exact fun _ h step _ => sound_take h step

theorem picture_reads_back (settings : Settings) (steps : List (Step σ)) :
    let s := ((new settings : Terminal σ).takeAll steps).screen
    let (col, row) := (s.position.col.toNat, s.position.row.toNat)
    (col < s.cols.toNat ∧ row < s.rows.toNat) ∧
    (∃ lines, separate (· == '\n') s.picture.toList = lines ++ [[]] ∧
      lines.length = s.rows.toNat + 4 ∧
      lines[0]? = some s!"=== Terminal {s.cols.toNat}x{s.rows.toNat} ===".toList ∧
      lines[1]? = some s!"Cursor: ({col}, {row})".toList ∧
      lines[2]? = some (.replicate s.cols.toNat '─') ∧
      lines[s.rows.toNat + 3]? = some (.replicate s.cols.toNat '─') ∧
      ∀ i < s.rows.toNat, ∃ chars, lines[i + 3]? = some chars ∧ chars.length = 1 + s.cols.toNat ∧
        chars[0]? = some (if i = row then '>' else ' ') ∧
        ∀ j < s.cols.toNat, ∃ cell, s.grid.get? i j = some cell ∧
          chars[j + 1]? = some (if i = row ∧ j = col then '█' else cell.char)) ∧
    Snapshot.read? s.picture = some s.snapshot ∧
    ∀ {τ : Type} [Surface τ] (settings' : Settings) (steps' : List (Step τ)),
      let s' := ((new settings' : Terminal τ).takeAll steps').screen
      s'.picture = s.picture →
        s'.cols = s.cols ∧ s'.rows = s.rows ∧ s'.position = s.position ∧
        ∀ i j, ¬ (i = row ∧ j = col) →
          (s'.grid.get? i j).map Cell.char = (s.grid.get? i j).map Cell.char := by
  intro s
  have hs : s.Sound := sound_takeAll settings steps
  have hr : s.Regular := regular_takeAll settings steps
  have hread := Snapshot.read?_picture hs hr
  refine ⟨Screen.position_inside hs, ⟨s.pictureLines, Screen.separate_picture hs hr,
    s.length_pictureLines, rfl, rfl, rfl, s.getElem?_pictureLines_last, ?_⟩, hread, ?_⟩
  · intro i hi
    refine ⟨s.pictureRow i, Screen.getElem?_pictureLines_row hi, Screen.length_pictureRow hs hi,
      s.getElem?_pictureRow_zero i, ?_⟩
    intro j hj
    obtain ⟨cell, hcell⟩ := Option.isSome_iff_exists.mp ((Grid.isSome_get? hs.grid i j).mpr ⟨hi, hj⟩)
    refine ⟨cell, hcell, ?_⟩
    rw [Screen.getElem?_pictureRow_succ hs, hcell]
    split <;> rfl
  · intro τ _ settings' steps' s' hpicture
    have hread' : Snapshot.read? s'.picture = some s'.snapshot :=
      Snapshot.read?_picture (sound_takeAll settings' steps') (regular_takeAll settings' steps')
    rw [hpicture, hread] at hread'
    exact Screen.agree_of_snapshot_eq (Option.some.inj hread').symm

end Terminal

end TermView
