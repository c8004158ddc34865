import TermView.Proofs.ScreenInvariant

namespace TermView.Checked

open Grid (SameShape)
open Word

def add? (a b : UInt16) : Option UInt16 :=
  if a.toNat + b.toNat < 65536 then some (a + b) else none

def sub? (a b : UInt16) : Option UInt16 := if b ≤ a then some (a - b) else none

def addSaturating (a b : UInt16) : UInt16 := .ofNat (min (a.toNat + b.toNat) 65535)

def subSaturating (a b : UInt16) : UInt16 := .ofNat (a.toNat - b.toNat)

def mulSaturating (a b : UInt16) : UInt16 := .ofNat (min (a.toNat * b.toNat) 65535)

def slice? (cells : Array Cell) (start stop : Nat) : Option (Array Cell) :=
  if start ≤ stop ∧ stop ≤ cells.size then some (cells.extract start stop) else none

def overwrite? (cells : Array Cell) (start stop : Nat) (part : Array Cell) : Option (Array Cell) :=
  if start ≤ stop ∧ stop ≤ cells.size ∧ part.size = stop - start then
    some (cells.extract 0 start ++ part ++ cells.extract stop cells.size)
  else none

def drop? (cells : Array Cell) (n : Nat) : Option (Array Cell) := slice? cells n cells.size

def set? (g : Grid) (row col : UInt16) (cell : Cell) : Option Grid :=
  if row < g.rows ∧ col < g.cols then do
    let i := g.index row.toNat col.toNat
    let cells ← overwrite? g.cells i (i + 1) #[cell]
    some { g with cells }
  else some g

def row? (g : Grid) (row : UInt16) : Option (List Cell) :=
  if g.rows ≤ row then some []
  else do
    let start := g.index row.toNat 0
    let cells ← slice? g.cells start (start + g.cols.toNat)
    some cells.toList

def fillRow? (g : Grid) (row start stop : UInt16) (cell : Cell) : Option Grid :=
  let stop := min stop g.cols
  if g.rows ≤ row ∨ stop ≤ start then some g
  else do
    let first := g.index row.toNat start.toNat
    let last := g.index row.toNat 0 + stop.toNat
    let cells ← overwrite? g.cells first last (.replicate (last - first) cell)
    some { g with cells }

def fillRows? (g : Grid) (first : UInt16) (cell : Cell) : Option Grid :=
  (List.range' first.toNat (g.rows.toNat - first.toNat)).foldlM
    (fun g row => fillRow? g (.ofNat row) 0 g.cols cell) g

def scroll? (g : Grid) (cell : Cell) : Option Grid := do
  let cells ← drop? g.cells g.cols.toNat
  some { g with cells := cells ++ Array.replicate g.cols.toNat cell }

def copyRow? (g : Grid) (n : Nat) (target : Grid) (row : Nat) : Option Grid := do
  let part ← slice? g.cells (g.index row 0) (g.index row 0 + n)
  let cells ← overwrite? target.cells (target.index row 0) (target.index row 0 + n) part
  some { target with cells }

def resizeGrid? (g : Grid) (cols rows : UInt16) : Option Grid :=
  let target := Grid.blank cols rows
  let keepRows := min g.rows target.rows
  let keepCols := min g.cols target.cols
  (List.range keepRows.toNat).foldlM (copyRow? g keepCols.toNat) target

def scrollUp? (s : Screen) : Option Screen := do
  let grid ← scroll? s.grid s.pen.blank
  let row ← sub? s.rows 1
  some { s with grid, cursor.row := row }

def lineFeed? (s : Screen) : Option Screen :=
  let next := addSaturating s.cursor.row 1
  if s.rows ≤ next then scrollUp? s else some { s with cursor.row := next }

def wrap? (s : Screen) : Option Screen :=
  if s.cols ≤ s.cursor.col then lineFeed? { s with cursor.col := 0 } else some s

def comeUp? (s : Screen) : Option Screen :=
  if s.rows ≤ s.cursor.row then scrollUp? s else some s

def put? (s : Screen) (c : Char) : Option Screen := do
  let s ← wrap? s
  let s ← comeUp? s
  let grid ← set? s.grid s.cursor.row s.cursor.col (s.pen.cell c)
  let col ← add? s.cursor.col 1
  some { s with grid, cursor.col := col }

def backspace? (s : Screen) : Option Screen := do
  let col := subSaturating s.cursor.col 1
  let grid ← set? s.grid s.cursor.row col s.pen.blank
  some { s with grid, cursor.col := col }

def tab? (s : Screen) : Option Screen := do
  let stop ← add? (s.cursor.col / 8) 1
  let last ← sub? s.cols 1
  some { s with cursor.col := min (mulSaturating stop 8) last }

def erase? (s : Screen) : Extent → Option Screen
  | .whole => do
    let grid ← fillRows? s.grid 0 s.pen.blank
    some { s with grid }
  | .fromCursor => do
    let grid ← fillRow? s.grid s.cursor.row s.cursor.col s.cols s.pen.blank
    let grid ← fillRows? grid (addSaturating s.cursor.row 1) s.pen.blank
    some { s with grid }

def eraseLine? (s : Screen) (extent : Extent) : Option Screen := do
  let start := match extent with
    | .whole => 0
    | .fromCursor => s.cursor.col
  let grid ← fillRow? s.grid s.cursor.row start s.cols s.pen.blank
  some { s with grid }

def clear? (s : Screen) (extent : Extent) : Option Screen := do
  let erased ← erase? s extent
  some (if extent = .whole then { erased with cursor := .home } else erased)

def moveTo? (s : Screen) (row col : UInt16) : Option Screen := do
  let lastRow ← sub? s.rows 1
  let lastCol ← sub? s.cols 1
  some { s with
    cursor := ⟨min (subSaturating col 1) lastCol, min (subSaturating row 1) lastRow⟩ }

def move? (s : Screen) (direction : Direction) (amount : UInt16) : Option Screen := do
  let lastCol ← sub? s.cols 1
  let lastRow ← sub? s.rows 1
  let ⟨col, row⟩ := s.cursor
  some { s with cursor := match direction with
    | .up => ⟨col, min (subSaturating row amount) lastRow⟩
    | .down => ⟨col, min (addSaturating row amount) lastRow⟩
    | .left => ⟨min (subSaturating col amount) lastCol, row⟩
    | .right => ⟨min (addSaturating col amount) lastCol, row⟩ }

def resize? (s : Screen) (cols rows : UInt16) : Option Screen :=
  let cols := max cols 1
  let rows := max rows 1
  if cols = s.cols ∧ rows = s.rows then some s
  else do
    let grid ← resizeGrid? s.grid cols rows
    let lastCol ← sub? cols 1
    let lastRow ← sub? rows 1
    some { s with grid, cursor := ⟨min s.cursor.col lastCol, min s.cursor.row lastRow⟩ }

def position? (s : Screen) : Option Cursor := do
  let lastCol ← sub? s.cols 1
  let lastRow ← sub? s.rows 1
  some ⟨min s.cursor.col lastCol, min s.cursor.row lastRow⟩

def perform? (s : Screen) : Operation → Option Screen
  | .put c => put? s c
  | .lineFeed => lineFeed? s
  | .carriageReturn => some { s with cursor.col := 0 }
  | .backspace => backspace? s
  | .tab => tab? s
  | .clear extent => clear? s extent
  | .erase extent => erase? s extent
  | .eraseLine extent => eraseLine? s extent
  | .moveTo row col => moveTo? s row col
  | .move direction amount => move? s direction amount
  | .resize cols rows => resize? s cols rows
  | .setForeground color => some { s with pen.foreground := color }
  | .setBackground color => some { s with pen.background := color }
  | .resetPen => some { s with pen := .plain }

def performAll? (s : Screen) (ops : List Operation) : Option Screen := ops.foldlM perform? s

theorem toNat_addSaturating (a b : UInt16) :
    (addSaturating a b).toNat = min (a.toNat + b.toNat) 65535 :=
  toNat_ofNat (by omega)

theorem toNat_subSaturating (a b : UInt16) : (subSaturating a b).toNat = a.toNat - b.toNat := by
  have := a.toNat_lt
  exact toNat_ofNat (by omega)

theorem toNat_mulSaturating (a b : UInt16) :
    (mulSaturating a b).toNat = min (a.toNat * b.toNat) 65535 :=
  toNat_ofNat (by omega)

theorem add?_one {a b : UInt16} (h : a.toNat < b.toNat) : add? a 1 = some (a + 1) := by
  have := b.toNat_lt
  rw [add?, UInt16.toNat_one, if_pos (by omega)]

theorem sub?_one {n : UInt16} (h : 0 < n.toNat) : sub? n 1 = some (n - 1) :=
  if_pos (one_le h)

theorem min_sub_one {w n : UInt16} {i : Nat} (h : 0 < n.toNat) (hw : w.toNat = min i 65535) :
    min w (n - 1) = Screen.stopAt i n := by
  have := n.toNat_lt
  rw [← UInt16.toNat_inj, toNat_min, toNat_sub_one h, Screen.toNat_stopAt, hw]
  omega

theorem min_word_sub_one {w n : UInt16} (h : 0 < n.toNat) :
    min w (n - 1) = Screen.stopAt w.toNat n := by
  have := w.toNat_lt
  exact min_sub_one h (by omega)

theorem overwrite?_eq_some {cells : Array Cell} {start stop : Nat} (part : Array Cell) (h : start ≤ stop)
    (hs : stop ≤ cells.size) (hp : part.size = stop - start) :
    ∃ out, overwrite? cells start stop part = some out ∧ out.size = cells.size ∧
      ∀ k, out[k]? = if start ≤ k ∧ k < stop then part[k - start]? else cells[k]? := by
  refine ⟨_, if_pos ⟨h, hs, hp⟩, ?_, ?_⟩
  · simp only [Array.size_append, Array.size_extract]
    omega
  · intro k
    have hfirst : (cells.extract 0 start).size = start := by rw [Array.size_extract]; omega
    have hsecond : (cells.extract 0 start ++ part).size = stop := by
      rw [Array.size_append, hfirst]; omega
    by_cases hk : k < stop
    · rw [Array.getElem?_append_left (by omega)]
      by_cases hlt : k < start
      · rw [Array.getElem?_append_left (by omega), Array.getElem?_extract, if_pos (by omega),
          if_neg (by omega), Nat.zero_add]
      · rw [Array.getElem?_append_right (by omega), hfirst, if_pos (by omega)]
    · rw [Array.getElem?_append_right (by omega), hsecond, if_neg (by omega),
        Array.getElem?_extract, Nat.min_self]
      by_cases hin : k < cells.size
      · rw [if_pos (by omega), show stop + (k - stop) = k by omega]
      · rw [if_neg (by omega), Array.getElem?_eq_none (by omega)]

theorem overwrite?_eq {cells part : Array Cell} {start stop : Nat} (out : Array Cell) (h : start ≤ stop)
    (hs : stop ≤ cells.size) (hp : part.size = stop - start)
    (hout : ∀ k, out[k]? = if start ≤ k ∧ k < stop then part[k - start]? else cells[k]?) :
    overwrite? cells start stop part = some out := by
  obtain ⟨out', he, -, hget⟩ := overwrite?_eq_some part h hs hp
  rw [he, Option.some_inj]
  apply Array.ext_getElem?
  intro k
  rw [hget, hout]

variable {g : Grid}

theorem set?_eq (h : g.Sound) (row col : UInt16) (cell : Cell) :
    set? g row col cell = some (g.set row.toNat col.toNat cell) := by
  by_cases hin : row < g.rows ∧ col < g.cols
  · have hin' : row.toNat < g.rows.toNat ∧ col.toNat < g.cols.toNat := hin
    have hlt := Grid.index_lt h hin'.1 hin'.2
    rw [set?, if_pos hin, Grid.set, if_pos hin']
    dsimp only
    rw [overwrite?_eq (g.cells.setIfInBounds (g.index row.toNat col.toNat) cell)
      (by omega) (by omega) (by simp)]
    · rfl
    · intro k
      rw [Array.getElem?_setIfInBounds]
      by_cases hk : g.index row.toNat col.toNat = k
      · subst hk
        simp [hlt]
      · rw [if_neg hk, if_neg (by omega)]
  · have hin' : ¬ (row.toNat < g.rows.toNat ∧ col.toNat < g.cols.toNat) := hin
    rw [set?, if_neg hin, Grid.set, if_neg hin']

theorem row_slice (h : g.Sound) {row n : Nat} (hr : row < g.rows.toNat) (hn : n ≤ g.cols.toNat) :
    g.index row 0 + n ≤ g.cells.size := by
  have := Nat.mul_le_mul_right g.cols.toNat (show row + 1 ≤ g.rows.toNat by omega)
  rw [Nat.succ_mul, ← h.size_cells] at this
  rw [Grid.index]
  omega

theorem slice?_row (h : g.Sound) {row n : Nat} (hr : row < g.rows.toNat) (hn : n ≤ g.cols.toNat) :
    slice? g.cells (g.index row 0) (g.index row 0 + n) =
      some (g.cells.extract (g.index row 0) (g.index row 0 + n)) :=
  if_pos ⟨Nat.le_add_right _ _, row_slice h hr hn⟩

theorem row?_eq (h : g.Sound) (row : UInt16) : row? g row = some (g.row row.toNat) := by
  by_cases hr : g.rows ≤ row
  · rw [row?, if_pos hr, Grid.row, if_neg (Nat.not_lt.mpr (UInt16.le_iff_toNat_le.mp hr))]
  · have hlt : row.toNat < g.rows.toNat := Nat.lt_of_not_le (mt UInt16.le_iff_toNat_le.mpr hr)
    rw [row?, if_neg hr, Grid.row, if_pos hlt]
    dsimp only
    rw [slice?_row h hlt (Nat.le_refl _)]
    rfl

theorem fillRow?_eq (h : g.Sound) (row start : UInt16) (cell : Cell) :
    fillRow? g row start g.cols cell = some (g.fillRow row.toNat start.toNat cell) := by
  have hr : g.rows ≤ row ↔ g.rows.toNat ≤ row.toNat := UInt16.le_iff_toNat_le
  have hc : min g.cols g.cols ≤ start ↔ g.cols.toNat ≤ start.toNat := by
    rw [UInt16.le_iff_toNat_le, toNat_min, Nat.min_self]
  by_cases hskip : g.rows ≤ row ∨ min g.cols g.cols ≤ start
  · rw [fillRow?, if_pos hskip, Option.some_inj, Grid.fillRow]
    rw [hr, hc] at hskip
    split
    · rw [show g.cols.toNat - start.toNat = 0 by omega]
      rfl
    · rfl
  · rw [fillRow?, if_neg hskip]
    rw [hr, hc] at hskip
    have hslice := row_slice h (show row.toNat < g.rows.toNat by omega) (Nat.le_refl _)
    have hstart : g.index row.toNat start.toNat = g.index row.toNat 0 + start.toNat := rfl
    rw [Grid.fillRow, if_pos (by omega), toNat_min, Nat.min_self]
    dsimp only
    rw [overwrite?_eq ((List.range' (g.index row.toNat start.toNat)
      (g.cols.toNat - start.toNat)).foldl (fun cells i => cells.setIfInBounds i cell) g.cells)
      (by omega) hslice (by simp)]
    · rfl
    · intro k
      simp only [Grid.getElem?_foldl_set, Array.getElem?_replicate, List.mem_range'_1]
      by_cases hk : g.index row.toNat start.toNat ≤ k ∧ k < g.index row.toNat 0 + g.cols.toNat
      · rw [if_pos (by omega), if_pos hk, if_pos (by omega), Array.getElem?_eq_getElem (by omega),
          Option.map_some]
      · rw [if_neg (by omega), if_neg hk]

theorem foldlM_fillRow? (h : g.Sound) (cell : Cell) (rows : List Nat) (hr : ∀ row ∈ rows, row < 65536) :
    rows.foldlM (fun g row => fillRow? g (.ofNat row) 0 g.cols cell) g =
      some (rows.foldl (fun g row => g.fillRow row 0 cell) g) := by
  induction rows generalizing g with
  | nil => rfl
  | cons row rows ih =>
    have hs : (g.fillRow row 0 cell).Sound := (Grid.fillRow_shape ..).sound h
    rw [List.foldlM_cons, fillRow?_eq h, toNat_ofNat (hr row List.mem_cons_self), List.foldl_cons]
    exact ih hs fun row hm => hr row (List.mem_cons_of_mem _ hm)

theorem fillRows?_eq (h : g.Sound) (first : UInt16) (cell : Cell) :
    fillRows? g first cell = some (g.fillRows first.toNat cell) := by
  apply foldlM_fillRow? h
  intro row hm
  have := g.rows.toNat_lt
  rw [List.mem_range'_1] at hm
  omega

theorem scroll?_eq (h : g.Sound) (cell : Cell) : scroll? g cell = some (g.scroll cell) := by
  rw [scroll?, drop?, slice?, if_pos ⟨Grid.cols_le_size h, Nat.le_refl _⟩]
  rfl

theorem copyRow?_eq_some {target : Grid} (h : g.Sound) (ht : target.Sound) {n row : Nat}
    (hr : row < g.rows.toNat) (hr' : row < target.rows.toNat) (hn : n ≤ g.cols.toNat)
    (hn' : n ≤ target.cols.toNat) :
    ∃ out, copyRow? g n target row = some out ∧ SameShape target out ∧
      ∀ i j, out.get? i j = if i = row ∧ j < n then g.get? i j else target.get? i j := by
  have hslice := row_slice h hr hn
  have hsize : (g.cells.extract (g.index row 0) (g.index row 0 + n)).size = n := by
    rw [Array.size_extract]; omega
  obtain ⟨cells, he, hs, hget⟩ := overwrite?_eq_some
    (g.cells.extract (g.index row 0) (g.index row 0 + n)) (Nat.le_add_right _ n)
    (row_slice ht hr' hn') (by rw [hsize]; omega)
  refine ⟨{ target with cells }, ?_, ⟨rfl, rfl, hs⟩, ?_⟩
  · rw [copyRow?, slice?_row h hr hn]
    change (overwrite? ..).bind _ = _
    rw [he]
    rfl
  · intro i j
    by_cases hp : i < target.rows.toNat ∧ j < target.cols.toNat
    · have hb := Grid.index_between i row 0 hp.2 hn'
      rw [Grid.get?_of_lt (g := { target with cells }) hp.1 hp.2, Grid.get?_of_lt hp.1 hp.2]
      change cells[target.index i j]? = _
      rw [hget]
      simp only [hb, Nat.zero_le, true_and]
      by_cases hk : i = row ∧ j < n
      · obtain ⟨rfl, hj⟩ := hk
        -- the two grids count their places in different strides
        have hplace : g.index i 0 + (target.index i j - target.index i 0) = g.index i j := by
          simp only [Grid.index]; omega
        have hlt : target.index i j - target.index i 0 = j := by simp only [Grid.index]; omega
        rw [if_pos ⟨rfl, hj⟩, if_pos ⟨rfl, hj⟩, Grid.get?_of_lt hr (by omega),
          Array.getElem?_extract, hplace, if_pos (by omega)]
      · rw [if_neg hk, if_neg hk]
    · rw [Grid.get?_eq_none (g := { target with cells }) hp, Grid.get?_eq_none hp, if_neg (by omega)]

theorem foldlM_copyRow? {target : Grid} (h : g.Sound) (ht : target.Sound) {n : Nat}
    (hn : n ≤ g.cols.toNat) (hn' : n ≤ target.cols.toNat) (rows : Nat) (hr : rows ≤ g.rows.toNat)
    (hr' : rows ≤ target.rows.toNat) :
    ∃ out, (List.range rows).foldlM (copyRow? g n) target = some out ∧ SameShape target out ∧
      ∀ i j, out.get? i j = if i < rows ∧ j < n then g.get? i j else target.get? i j := by
  induction rows with
  | zero => exact ⟨target, rfl, .refl _, fun i j => by simp⟩
  | succ row ih =>
    obtain ⟨mid, he, hs, hget⟩ := ih (by omega) (by omega)
    obtain ⟨out, he', hs', hget'⟩ := copyRow?_eq_some h (hs.sound ht)
      (show row < g.rows.toNat by omega) (by rw [hs.rows_eq]; omega) hn (by rw [hs.cols_eq]; exact hn')
    refine ⟨out, ?_, hs.trans hs', ?_⟩
    · rw [List.range_succ, List.foldlM_append, he]
      change (copyRow? g n mid row).bind _ = _
      rw [he']
      rfl
    · intro i j
      rw [hget', hget]
      by_cases hi : i = row ∧ j < n
      · rw [if_pos hi, if_pos (by omega)]
      · rw [if_neg hi]
        congr 1
        apply propext
        omega

theorem resizeGrid?_eq (h : g.Sound) (cols rows : UInt16) :
    resizeGrid? g cols rows = some (g.resize cols rows) := by
  have ht := Grid.sound_blank cols rows
  have hcols : (Grid.blank cols rows).cols.toNat = max cols.toNat 1 := toNat_max_one cols
  have hrows : (Grid.blank cols rows).rows.toNat = max rows.toNat 1 := toNat_max_one rows
  obtain ⟨out, he, hs, hget⟩ := foldlM_copyRow? h ht
    (n := (min g.cols (Grid.blank cols rows).cols).toNat) (by rw [toNat_min]; omega)
    (by rw [toNat_min]; omega) (min g.rows (Grid.blank cols rows).rows).toNat
    (by rw [toNat_min]; omega) (by rw [toNat_min]; omega)
  rw [resizeGrid?, he, Option.some_inj]
  apply Grid.ext_get? (hs.sound ht) (Grid.sound_resize g cols rows) hs.cols_eq hs.rows_eq
  intro i j
  rw [hget, Grid.get?_resize, Grid.get?_blank, toNat_min, toNat_min, hcols, hrows]
  have hsome := Grid.isSome_get? h i j
  by_cases hin : i < g.rows.toNat ∧ j < g.cols.toNat
  · obtain ⟨cell, hc⟩ := Option.isSome_iff_exists.mp (hsome.mpr hin)
    simp only [hc, Option.getD_some]
    by_cases hout : i < max rows.toNat 1 ∧ j < max cols.toNat 1
    · rw [if_pos (by omega), if_pos hout]
    · rw [if_neg (by omega), if_neg hout, if_neg hout]
  · rw [Grid.get?_eq_none hin, if_neg (by omega), Option.getD_none]

variable {s : Screen}

theorem lineFeed?_eq (h : s.Sound) : lineFeed? s = some s.lineFeed := by
  have hr := h.row_lt
  have := s.rows.toNat_lt
  have hnext : s.rows ≤ addSaturating s.cursor.row 1 ↔ ¬ s.cursor.row.toNat + 1 < s.rows.toNat := by
    rw [UInt16.le_iff_toNat_le, toNat_addSaturating, UInt16.toNat_one]
    omega
  by_cases hlast : s.rows ≤ addSaturating s.cursor.row 1
  · rw [lineFeed?, if_pos hlast, Screen.lineFeed, if_neg (hnext.mp hlast), scrollUp?,
      scroll?_eq h.grid, sub?_one h.rows_pos]
    rfl
  · have hlt := Decidable.not_not.mp (mt hnext.mpr hlast)
    have hword : addSaturating s.cursor.row 1 = s.cursor.row + 1 := by
      rw [← UInt16.toNat_inj, toNat_addSaturating, toNat_add_one hr, UInt16.toNat_one]
      omega
    rw [lineFeed?, if_neg hlast, Screen.lineFeed, if_pos hlt, hword]

theorem wrap?_eq (h : s.Sound) : wrap? s = some s.wrap := by
  by_cases hc : s.cols ≤ s.cursor.col
  · rw [wrap?, if_pos hc, Screen.wrap, if_neg (UInt16.not_lt.mpr hc)]
    exact lineFeed?_eq (Screen.sound_carriageReturn h)
  · rw [wrap?, if_neg hc, Screen.wrap, if_pos (UInt16.not_le.mp hc)]

theorem comeUp?_eq (h : s.Sound) : comeUp? s = some s := by
  rw [comeUp?, if_neg]
  rw [UInt16.le_iff_toNat_le]
  exact Nat.not_le.mpr h.row_lt

theorem put?_eq (h : s.Sound) (c : Char) : put? s c = some (s.put c) := by
  have hw := (Screen.wrap_spec h).1
  rw [put?, wrap?_eq h]
  change (comeUp? s.wrap).bind _ = _
  rw [comeUp?_eq hw]
  change (set? s.wrap.grid _ _ (s.wrap.pen.cell c)).bind _ = _
  rw [set?_eq hw.grid]
  change (add? s.wrap.cursor.col 1).bind _ = _
  rw [add?_one (Screen.wrap_col_lt h)]
  rfl

theorem backspace?_eq (h : s.Sound) : backspace? s = some s.backspace := by
  have hcol := toNat_subSaturating s.cursor.col 1
  rw [backspace?, set?_eq h.grid, hcol]
  rfl

theorem tab?_eq (h : s.Sound) : tab? s = some s.tab := by
  have := s.cursor.col.toNat_lt
  have hdiv : (s.cursor.col / 8).toNat = s.cursor.col.toNat / 8 := rfl
  have hadd : add? (s.cursor.col / 8) 1 = some (s.cursor.col / 8 + 1) := by
    rw [add?, if_pos (by rw [hdiv, UInt16.toNat_one]; omega)]
  have hstop : (mulSaturating (s.cursor.col / 8 + 1) 8).toNat =
      min ((s.cursor.col.toNat / 8 + 1) * 8) 65535 := by
    rw [toNat_mulSaturating, UInt16.toNat_add, hdiv, UInt16.toNat_one, Nat.mod_eq_of_lt (by omega)]
    rfl
  rw [tab?, hadd, sub?_one h.cols_pos, Screen.tab, ← min_sub_one h.cols_pos hstop]
  rfl

theorem erase?_eq (h : s.Sound) (extent : Extent) : erase? s extent = some (s.erase extent) := by
  cases extent with
  | whole =>
    rw [erase?, fillRows?_eq h.grid]
    rfl
  | fromCursor =>
    have hr := h.row_lt
    have := s.rows.toNat_lt
    have hnext : (addSaturating s.cursor.row 1).toNat = s.cursor.row.toNat + 1 := by
      rw [toNat_addSaturating, UInt16.toNat_one]
      omega
    have hs := (Grid.fillRow_shape s.cursor.row.toNat s.cursor.col.toNat s.pen.blank).sound h.grid
    rw [erase?, show s.cols = s.grid.cols from rfl, fillRow?_eq h.grid]
    change (fillRows? ..).bind _ = _
    rw [fillRows?_eq hs, hnext]
    rfl

theorem eraseLine?_eq (h : s.Sound) (extent : Extent) :
    eraseLine? s extent = some (s.eraseLine extent) := by
  cases extent with
  | whole | fromCursor =>
    rw [eraseLine?, show s.cols = s.grid.cols from rfl, fillRow?_eq h.grid]
    rfl

theorem clear?_eq (h : s.Sound) (extent : Extent) : clear? s extent = some (s.clear extent) := by
  rw [clear?, erase?_eq h]
  cases extent <;> rfl

theorem moveTo?_eq (h : s.Sound) (row col : UInt16) : moveTo? s row col = some (s.moveTo row col) := by
  have hplace (n : UInt16) : (subSaturating n 1).toNat = min (n.toNat - 1) 65535 := by
    have := n.toNat_lt
    rw [toNat_subSaturating, UInt16.toNat_one]
    omega
  rw [moveTo?, sub?_one h.rows_pos, sub?_one h.cols_pos, Screen.moveTo,
    ← min_sub_one h.cols_pos (hplace col), ← min_sub_one h.rows_pos (hplace row)]
  rfl

theorem move?_eq (h : s.Sound) (direction : Direction) (amount : UInt16) :
    move? s direction amount = some (s.move direction amount) := by
  have hsub (n : UInt16) : (subSaturating n amount).toNat = min (n.toNat - amount.toNat) 65535 := by
    have := n.toNat_lt
    rw [toNat_subSaturating]
    omega
  have hadd (n : UInt16) := toNat_addSaturating n amount
  rw [move?, sub?_one h.rows_pos, sub?_one h.cols_pos]
  cases direction with
  | up => rw [Screen.move, ← min_sub_one h.rows_pos (hsub _)]; rfl
  | down => rw [Screen.move, ← min_sub_one h.rows_pos (hadd _)]; rfl
  | left => rw [Screen.move, ← min_sub_one h.cols_pos (hsub _)]; rfl
  | right => rw [Screen.move, ← min_sub_one h.cols_pos (hadd _)]; rfl

theorem resize?_eq (h : s.Sound) (cols rows : UInt16) :
    resize? s cols rows = some (s.perform (.resize cols rows)) := by
  have hpos (n : UInt16) : 0 < (max n 1).toNat := by rw [toNat_max_one]; omega
  rcases Screen.perform_resize s cols rows with ⟨hc, hr, he⟩ | ⟨hne, he⟩
  · rw [resize?, if_pos ⟨hc, hr⟩, he]
  · rw [resize?, if_neg hne, he, resizeGrid?_eq h.grid, Grid.resize_max, sub?_one (hpos cols),
      sub?_one (hpos rows), ← min_word_sub_one (hpos cols), ← min_word_sub_one (hpos rows)]
    rfl

theorem position?_eq (h : s.Sound) : position? s = some s.position := by
  rw [position?, sub?_one h.cols_pos, sub?_one h.rows_pos, Screen.position,
    ← min_word_sub_one h.cols_pos, ← min_word_sub_one h.rows_pos]
  rfl

theorem perform?_eq (h : s.Sound) (op : Operation) : perform? s op = some (s.perform op) := by
  cases op with
  | put c => exact put?_eq h c
  | lineFeed => exact lineFeed?_eq h
  | carriageReturn => rfl
  | backspace => exact backspace?_eq h
  | tab => exact tab?_eq h
  | clear extent => exact clear?_eq h extent
  | erase extent => exact erase?_eq h extent
  | eraseLine extent => exact eraseLine?_eq h extent
  | moveTo row col => exact moveTo?_eq h row col
  | move direction amount => exact move?_eq h direction amount
  | resize cols rows => exact resize?_eq h cols rows
  | setForeground color | setBackground color => rfl
  | resetPen => rfl

theorem performAll?_eq (h : s.Sound) (ops : List Operation) :
    performAll? s ops = some (s.performAll ops) := by
  induction ops generalizing s with
  | nil => rfl
  | cons op ops ih =>
    rw [performAll?, List.foldlM_cons, perform?_eq h]
    exact ih (Screen.sound_perform h op)

end TermView.Checked
