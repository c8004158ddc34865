import TermView.Grid
import TermView.Proofs.RowMajor
import TermView.Proofs.Words

namespace TermView.Grid

open Word

structure Sound (g : Grid) : Prop where
  cols_pos : 0 < g.cols.toNat
  rows_pos : 0 < g.rows.toNat
  size_cells : g.cells.size = g.rows.toNat * g.cols.toNat

structure SameShape (g g' : Grid) : Prop where
  cols_eq : g'.cols = g.cols
  rows_eq : g'.rows = g.rows
  size_eq : g'.cells.size = g.cells.size

theorem SameShape.refl (g : Grid) : SameShape g g := ⟨rfl, rfl, rfl⟩

theorem SameShape.trans {g₁ g₂ g₃ : Grid} (h : SameShape g₁ g₂) (h' : SameShape g₂ g₃) :
    SameShape g₁ g₃ :=
  ⟨h'.cols_eq.trans h.cols_eq, h'.rows_eq.trans h.rows_eq, h'.size_eq.trans h.size_eq⟩

theorem SameShape.sound {g g' : Grid} (h : SameShape g g') (hg : g.Sound) : g'.Sound := by
  obtain ⟨hc, hr, hs⟩ := h
  refine ⟨hc ▸ hg.cols_pos, hr ▸ hg.rows_pos, ?_⟩
  rw [hs, hc, hr, hg.size_cells]

variable {g : Grid}

theorem index_lt (h : g.Sound) {row col : Nat} (hr : row < g.rows.toNat) (hc : col < g.cols.toNat) :
    g.index row col < g.cells.size := h.size_cells ▸ RowMajor.place_lt hr hc

theorem index_inj {i j row col : Nat} (hj : j < g.cols.toNat) (hc : col < g.cols.toNat) :
    g.index i j = g.index row col ↔ i = row ∧ j = col := by
  constructor
  · intro h
    have hd := congrArg (· / g.cols.toNat) h
    have hm := congrArg (· % g.cols.toNat) h
    simp only [index, RowMajor.place_div _ hj, RowMajor.place_div _ hc, RowMajor.place_mod _ hj,
      RowMajor.place_mod _ hc] at hd hm
    exact ⟨hd, hm⟩
  · rintro ⟨rfl, rfl⟩; rfl

theorem index_between (i row start : Nat) {j stop : Nat} (hj : j < g.cols.toNat)
    (hs : stop ≤ g.cols.toNat) :
    g.index row start ≤ g.index i j ∧ g.index i j < g.index row 0 + stop ↔
      i = row ∧ start ≤ j ∧ j < stop := RowMajor.place_between i row start hj hs

theorem SameShape.index_eq {g' : Grid} (h : SameShape g g') (i j : Nat) :
    g'.index i j = g.index i j := by
  rw [index, h.cols_eq, index]

theorem get?_of_lt {i j : Nat} (hi : i < g.rows.toNat) (hj : j < g.cols.toNat) :
    g.get? i j = g.cells[g.index i j]? := if_pos ⟨hi, hj⟩

theorem get?_eq_none {i j : Nat} (h : ¬ (i < g.rows.toNat ∧ j < g.cols.toNat)) :
    g.get? i j = none := if_neg h

theorem isSome_get? (h : g.Sound) (i j : Nat) :
    (g.get? i j).isSome ↔ i < g.rows.toNat ∧ j < g.cols.toNat := by
  by_cases hp : i < g.rows.toNat ∧ j < g.cols.toNat
  · simp [get?_of_lt hp.1 hp.2, index_lt h hp.1 hp.2, hp]
  · simp [get?_eq_none hp, hp]

theorem get?_of_sameShape {g' : Grid} (h : SameShape g g') {i j : Nat} {p : Prop} [Decidable p]
    {cell : Cell} (hin : i < g.rows.toNat → j < g.cols.toNat →
      g'.cells[g.index i j]? =
        if p then g.cells[g.index i j]?.map fun _ => cell else g.cells[g.index i j]?) :
    g'.get? i j = if p then (g.get? i j).map fun _ => cell else g.get? i j := by
  by_cases hp : i < g.rows.toNat ∧ j < g.cols.toNat
  · rw [get?_of_lt (h.rows_eq ▸ hp.1) (h.cols_eq ▸ hp.2), get?_of_lt hp.1 hp.2, h.index_eq,
      hin hp.1 hp.2]
  · rw [get?_eq_none hp, get?_eq_none (by rwa [h.rows_eq, h.cols_eq])]
    split <;> rfl

theorem ext_get? {g g' : Grid} (h : g.Sound) (h' : g'.Sound) (hc : g.cols = g'.cols)
    (hr : g.rows = g'.rows) (he : ∀ i j, g.get? i j = g'.get? i j) : g = g' := by
  obtain ⟨cols, rows, cells⟩ := g
  obtain ⟨_, _, cells'⟩ := g'
  obtain rfl : cols = _ := hc
  obtain rfl : rows = _ := hr
  have hsize : cells.size = rows.toNat * cols.toNat := h.size_cells
  congr 1
  apply Array.ext (h.size_cells.trans h'.size_cells.symm)
  intro k hk hk'
  have hi : k / cols.toNat < rows.toNat :=
    Nat.div_lt_of_lt_mul (by rw [Nat.mul_comm, ← hsize]; exact hk)
  have hj := Nat.mod_lt k h.cols_pos
  have hplace : k / cols.toNat * cols.toNat + k % cols.toNat = k := Nat.div_add_mod' k _
  have hget := he (k / cols.toNat) (k % cols.toNat)
  simpa [get?, index, hi, hj, hplace, hk, hk'] using hget

theorem sound_blank (cols rows : UInt16) : (Grid.blank cols rows).Sound := by
  refine ⟨?_, ?_, by simp [Grid.blank]⟩
  · change 0 < (max cols 1).toNat
    rw [toNat_max_one]; omega
  · change 0 < (max rows 1).toNat
    rw [toNat_max_one]; omega

theorem get?_blank (cols rows : UInt16) (i j : Nat) : (Grid.blank cols rows).get? i j =
    if i < max rows.toNat 1 ∧ j < max cols.toNat 1 then some .blank else none := by
  rw [← toNat_max_one, ← toNat_max_one]
  by_cases hp : i < (max rows 1).toNat ∧ j < (max cols 1).toNat
  · have hlt := index_lt (sound_blank cols rows) hp.1 hp.2
    rw [if_pos hp, get?_of_lt (g := Grid.blank cols rows) hp.1 hp.2, Array.getElem?_eq_getElem hlt]
    simp [Grid.blank]
  · rw [if_neg hp, get?_eq_none (g := Grid.blank cols rows) hp]

theorem set_shape (row col : Nat) (cell : Cell) : SameShape g (g.set row col cell) := by
  unfold set
  split
  · exact ⟨rfl, rfl, Array.size_setIfInBounds⟩
  · exact .refl g

theorem get?_set (h : g.Sound) (row col : Nat) (cell : Cell) (i j : Nat) :
    (g.set row col cell).get? i j =
      if i = row ∧ j = col then (g.get? i j).map fun _ => cell else g.get? i j := by
  apply get?_of_sameShape (set_shape row col cell)
  intro hi hj
  by_cases hin : row < g.rows.toNat ∧ col < g.cols.toNat
  · rw [set, if_pos hin, Array.getElem?_setIfInBounds]
    by_cases he : i = row ∧ j = col
    · obtain ⟨rfl, rfl⟩ := he
      simp [index_lt h hi hj]
    · rw [if_neg (Ne.symm (mt (index_inj hj hin.2).mp he)), if_neg he]
  · rw [if_neg (by rintro ⟨rfl, rfl⟩; exact hin ⟨hi, hj⟩), set, if_neg hin]

theorem size_foldl_set (places : List Nat) (cells : Array Cell) (cell : Cell) :
    (places.foldl (fun cells i => cells.setIfInBounds i cell) cells).size = cells.size := by
  induction places generalizing cells with
  | nil => rfl
  | cons i places ih => rw [List.foldl_cons, ih, Array.size_setIfInBounds]

theorem getElem?_foldl_set (places : List Nat) (cells : Array Cell) (cell : Cell) (k : Nat) :
    (places.foldl (fun cells i => cells.setIfInBounds i cell) cells)[k]? =
      if k ∈ places then cells[k]?.map fun _ => cell else cells[k]? := by
  induction places generalizing cells with
  | nil => simp
  | cons i places ih =>
    rw [List.foldl_cons, ih, Array.getElem?_setIfInBounds]
    by_cases hi : i = k
    · subst hi
      by_cases hk : i < cells.size <;> simp [hk]
    · simp [hi, Ne.symm hi]

theorem fillRow_shape (row start : Nat) (cell : Cell) : SameShape g (g.fillRow row start cell) := by
  unfold fillRow
  split
  · exact ⟨rfl, rfl, size_foldl_set ..⟩
  · exact .refl g

theorem mem_places {i j row start : Nat} (hj : j < g.cols.toNat) :
    g.index i j ∈ List.range' (g.index row start) (g.cols.toNat - start) ↔ i = row ∧ start ≤ j := by
  have hb := index_between i row start hj (Nat.le_refl _)
  rw [List.mem_range'_1]
  simp only [index] at hb ⊢
  omega

theorem get?_fillRow (row start : Nat) (cell : Cell) (i j : Nat) :
    (g.fillRow row start cell).get? i j =
      if i = row ∧ start ≤ j then (g.get? i j).map fun _ => cell else g.get? i j := by
  apply get?_of_sameShape (fillRow_shape row start cell)
  intro hi hj
  by_cases hr : row < g.rows.toNat
  · simp only [fillRow, if_pos hr, getElem?_foldl_set, mem_places hj]
  · rw [if_neg (by rintro ⟨rfl, -⟩; exact hr hi), fillRow, if_neg hr]

theorem foldl_fillRow (rows : List Nat) (g : Grid) (cell : Cell) :
    let filled := rows.foldl (fun g row => g.fillRow row 0 cell) g
    SameShape g filled ∧
      ∀ i j, filled.get? i j = if i ∈ rows then (g.get? i j).map fun _ => cell else g.get? i j := by
  induction rows generalizing g with
  | nil => simp [SameShape.refl]
  | cons row rows ih =>
    obtain ⟨hshape, hget⟩ := ih (g.fillRow row 0 cell)
    refine ⟨(fillRow_shape row 0 cell).trans hshape, ?_⟩
    intro i j
    rw [List.foldl_cons, hget, get?_fillRow]
    by_cases hi : i = row <;> by_cases hm : i ∈ rows <;>
      simp [hi, hm, Option.map_map, Function.comp_def]

theorem fillRows_shape (first : Nat) (cell : Cell) : SameShape g (g.fillRows first cell) :=
  (foldl_fillRow _ g cell).1

theorem get?_fillRows (first : Nat) (cell : Cell) (i j : Nat) :
    (g.fillRows first cell).get? i j =
      if first ≤ i then (g.get? i j).map fun _ => cell else g.get? i j := by
  rw [fillRows, (foldl_fillRow _ g cell).2 i j]
  by_cases hi : i < g.rows.toNat
  · have : i ∈ List.range' first (g.rows.toNat - first) ↔ first ≤ i := by
      rw [List.mem_range'_1]; omega
    simp only [this]
  · rw [get?_eq_none (by omega)]
    simp

theorem cols_le_size (h : g.Sound) : g.cols.toNat ≤ g.cells.size := by
  have := Nat.mul_le_mul_right g.cols.toNat (show 1 ≤ g.rows.toNat from h.rows_pos)
  rw [h.size_cells]
  omega

theorem scroll_shape (h : g.Sound) (cell : Cell) : SameShape g (g.scroll cell) := by
  refine ⟨rfl, rfl, ?_⟩
  have := cols_le_size h
  simp only [scroll, Array.size_append, Array.size_extract, Array.size_replicate]
  omega

theorem getElem?_scroll (cell : Cell) (k : Nat) : (g.scroll cell).cells[k]? =
    if k < g.cells.size - g.cols.toNat then g.cells[g.cols.toNat + k]?
    else if k - (g.cells.size - g.cols.toNat) < g.cols.toNat then some cell else none := by
  rw [scroll, Array.getElem?_append, Array.size_extract, Nat.min_self, Array.getElem?_extract,
    Nat.min_self, Array.getElem?_replicate]
  split <;> rfl

theorem get?_scroll (h : g.Sound) (cell : Cell) (i j : Nat) :
    (g.scroll cell).get? i j =
      if i + 1 = g.rows.toNat then (g.get? i j).map fun _ => cell else g.get? (i + 1) j := by
  by_cases hp : i < g.rows.toNat ∧ j < g.cols.toNat
  · have hij : g.index i j = i * g.cols.toNat + j := rfl
    rw [get?_of_lt (g := g.scroll cell) hp.1 hp.2, (scroll_shape h cell).index_eq, getElem?_scroll]
    by_cases hi : i + 1 = g.rows.toNat
    · have hlt := index_lt h hp.1 hp.2
      have hlast : g.cells.size = i * g.cols.toNat + g.cols.toNat := by
        rw [h.size_cells, ← hi, Nat.succ_mul]
      rw [if_pos hi, get?_of_lt hp.1 hp.2, Array.getElem?_eq_getElem hlt, if_neg (by omega),
        if_pos (by omega), Option.map_some]
    · have hlt := index_lt h (show i + 1 < g.rows.toNat by omega) hp.2
      have hnext : g.index (i + 1) j = g.cols.toNat + g.index i j := by
        simp only [index, Nat.succ_mul]; omega
      rw [if_neg hi, get?_of_lt (by omega) hp.2, hnext, if_pos (by omega)]
  · rw [get?_eq_none (g := g.scroll cell) hp, get?_eq_none hp, get?_eq_none (by omega)]
    simp

theorem sound_resize (g : Grid) (cols rows : UInt16) : (g.resize cols rows).Sound := by
  have h := sound_blank cols rows
  exact ⟨h.cols_pos, h.rows_pos, by simp [resize]⟩

theorem get?_resize (g : Grid) (cols rows : UInt16) (i j : Nat) :
    (g.resize cols rows).get? i j =
      if i < max rows.toNat 1 ∧ j < max cols.toNat 1 then some ((g.get? i j).getD .blank)
      else none := by
  rw [← toNat_max_one, ← toNat_max_one]
  by_cases hp : i < (max rows 1).toNat ∧ j < (max cols 1).toNat
  · have hlt := index_lt (sound_resize g cols rows) hp.1 hp.2
    rw [if_pos hp, get?_of_lt (g := g.resize cols rows) hp.1 hp.2, Array.getElem?_eq_getElem hlt]
    have hd := RowMajor.place_div i hp.2
    have hm := RowMajor.place_mod i hp.2
    simp [resize, index, hd, hm]
  · rw [if_neg hp, get?_eq_none (g := g.resize cols rows) hp]

theorem resize_max (g : Grid) (cols rows : UInt16) :
    g.resize (max cols 1) (max rows 1) = g.resize cols rows := by
  apply ext_get? (sound_resize ..) (sound_resize ..) (max_one_max_one cols) (max_one_max_one rows)
  intro i j
  rw [get?_resize, get?_resize, toNat_max_one, toNat_max_one, Nat.max_assoc, Nat.max_assoc,
    Nat.max_self]

theorem getElem?_row (h : g.Sound) (i j : Nat) : (g.row i)[j]? = g.get? i j := by
  by_cases hi : i < g.rows.toNat
  · have hj : (g.index i 0 + g.cols.toNat ≤ g.cells.size) ∧ g.index i 0 + j = g.index i j := by
      have := Nat.mul_le_mul_right g.cols.toNat (show i + 1 ≤ g.rows.toNat by omega)
      rw [Nat.succ_mul, ← h.size_cells] at this
      simp only [index]
      omega
    rw [row, if_pos hi, Array.getElem?_toList, Array.getElem?_extract, hj.2, get?]
    simp only [hi, true_and]
    rw [Nat.min_eq_left hj.1, Nat.add_sub_cancel_left]
  · rw [row, if_neg hi, get?_eq_none (by omega)]
    rfl

theorem length_row (h : g.Sound) {i : Nat} (hi : i < g.rows.toNat) :
    (g.row i).length = g.cols.toNat := by
  have hle := Nat.mul_le_mul_right g.cols.toNat (show i + 1 ≤ g.rows.toNat by omega)
  rw [Nat.succ_mul, ← h.size_cells] at hle
  rw [row, if_pos hi, Array.length_toList, Array.size_extract, index]
  omega

end TermView.Grid
