import TermView.Canvas
import TermView.Proofs.RowMajor

namespace TermView.Canvas

def Sound (c : Canvas) : Prop := c.pixels.size = c.width.toNat * c.height.toNat

variable {c : Canvas}

theorem surface_fill (c : Canvas) (r : Rect) (color : Rgb) (opacity : Binary32) :
    Surface.fill c r color opacity = c.fill r color opacity := rfl

theorem surface_glyph (c : Canvas) (char : Char) (x y : UInt32) (color : Rgb) :
    Surface.glyph c char x y color = c.glyph char x y color := rfl

theorem get?_of_lt {x y : Nat} (hx : x < c.width.toNat) (hy : y < c.height.toNat) :
    c.get? x y = c.pixels[c.index x y]? := if_pos ⟨hx, hy⟩

theorem get?_eq_none {x y : Nat} (h : ¬ (x < c.width.toNat ∧ y < c.height.toNat)) :
    c.get? x y = none := if_neg h

theorem isSome_get? (h : c.Sound) (x y : Nat) :
    (c.get? x y).isSome ↔ x < c.width.toNat ∧ y < c.height.toNat := by
  by_cases hp : x < c.width.toNat ∧ y < c.height.toNat
  · have hlt : c.index x y < c.pixels.size := by
      rw [h, Nat.mul_comm]
      exact RowMajor.place_lt hp.2 hp.1
    simp [get?_of_lt hp.1 hp.2, hlt, hp]
  · simp [get?_eq_none hp, hp]

theorem sound_blank (width height : UInt32) : (blank width height).Sound := by
  simp [Sound, blank]

theorem getElem?_foldl_modify {places : List Nat} (h : places.Nodup) (pixels : Array Pixel)
    (f : Pixel → Pixel) (k : Nat) :
    (places.foldl (fun ps i => ps.modify i f) pixels)[k]? =
      if k ∈ places then pixels[k]?.map f else pixels[k]? := by
  induction places generalizing pixels with
  | nil => simp
  | cons i places ih =>
    obtain ⟨hi, hrest⟩ := List.nodup_cons.mp h
    rw [List.foldl_cons, ih hrest, Array.getElem?_modify]
    by_cases hk : i = k
    · subst hk
      simp [hi]
    · simp [hk, Ne.symm hk]

theorem mem_span {stride left n x : Nat} (y row : Nat) (hn : n = 0 ∨ left + n ≤ stride)
    (hx : x < stride) : y * stride + x ∈ List.range' (row * stride + left) n ↔
      y = row ∧ left ≤ x ∧ x < left + n := by
  rw [List.mem_range'_1, Nat.add_assoc]
  rcases hn with rfl | hn
  · omega
  · exact RowMajor.place_between y row left hx hn

theorem getElem?_foldl_spans {rows : List Nat} (h : rows.Nodup) (pixels : Array Pixel)
    (f : Pixel → Pixel) {stride left n x : Nat} (y : Nat) (hn : n = 0 ∨ left + n ≤ stride)
    (hx : x < stride) :
    (rows.foldl (fun ps row =>
        (List.range' (row * stride + left) n).foldl (fun ps i => ps.modify i f) ps)
      pixels)[y * stride + x]? =
      if y ∈ rows ∧ left ≤ x ∧ x < left + n then pixels[y * stride + x]?.map f
      else pixels[y * stride + x]? := by
  induction rows generalizing pixels with
  | nil => simp
  | cons row rows ih =>
    obtain ⟨hrow, hrest⟩ := List.nodup_cons.mp h
    rw [List.foldl_cons, ih hrest, getElem?_foldl_modify List.nodup_range']
    simp only [mem_span y row hn hx, List.mem_cons]
    by_cases hy : y = row
    · subst hy
      simp [hrow]
    · simp [hy]

theorem get?_modifyRect (c : Canvas) (r : Rect) (f : Pixel → Pixel) (x y : Nat) :
    (c.modifyRect r f).get? x y =
      if (r.x.toNat ≤ x ∧ x < r.x.toNat + r.width.toNat) ∧
          r.y.toNat ≤ y ∧ y < r.y.toNat + r.height.toNat
      then (c.get? x y).map f else c.get? x y := by
  by_cases hp : x < c.width.toNat ∧ y < c.height.toNat
  · rw [get?_of_lt (c := c.modifyRect r f) hp.1 hp.2, get?_of_lt hp.1 hp.2]
    simp only [modifyRect, index]
    rw [getElem?_foldl_spans List.nodup_range' _ _ _ (by omega) hp.1]
    have hin : (y ∈ List.range' r.y.toNat
          (min (r.y.toNat + r.height.toNat) c.height.toNat - r.y.toNat) ∧
        r.x.toNat ≤ x ∧
          x < r.x.toNat + (min (r.x.toNat + r.width.toNat) c.width.toNat - r.x.toNat)) ↔
        (r.x.toNat ≤ x ∧ x < r.x.toNat + r.width.toNat) ∧
          r.y.toNat ≤ y ∧ y < r.y.toNat + r.height.toNat := by
      rw [List.mem_range'_1]
      omega
    simp only [hin]
  · rw [get?_eq_none (c := c.modifyRect r f) hp, get?_eq_none hp]
    simp

theorem get?_fill (c : Canvas) (r : Rect) (color : Rgb) (opacity : Binary32) (x y : Nat) :
    (c.fill r color opacity).get? x y =
      if (r.x.toNat ≤ x ∧ x < r.x.toNat + r.width.toNat) ∧
          r.y.toNat ≤ y ∧ y < r.y.toNat + r.height.toNat
      then (c.get? x y).map (Pixel.fill color opacity) else c.get? x y :=
  get?_modifyRect c r _ x y

theorem glyph_shape (c : Canvas) (char : Char) (x y : UInt32) (color : Rgb) :
    (c.glyph char x y color).width = c.width ∧ (c.glyph char x y color).height = c.height ∧
      (c.glyph char x y color).font = c.font := by
  unfold glyph
  split <;> exact ⟨rfl, rfl, rfl⟩

theorem get?_glyph (c : Canvas) (char : Char) (x y : UInt32) (color : Rgb) (i j : Nat) :
    (c.glyph char x y color).get? i j =
      if i = x.toNat ∧ j = y.toNat then (c.get? i j).map (Pixel.draw char color)
      else c.get? i j := by
  obtain ⟨hwidth, hheight, -⟩ := glyph_shape c char x y color
  by_cases hp : i < c.width.toNat ∧ j < c.height.toNat
  · rw [get?_of_lt (hwidth ▸ hp.1) (hheight ▸ hp.2), get?_of_lt hp.1 hp.2, index, hwidth, glyph]
    simp only [UInt32.lt_iff_toNat_lt]
    by_cases hin : x.toNat < c.width.toNat ∧ y.toNat < c.height.toNat
    · rw [if_pos hin, Array.getElem?_modify]
      have hplace : y.toNat * c.width.toNat + x.toNat = j * c.width.toNat + i ↔
          i = x.toNat ∧ j = y.toNat := by
        have hb := RowMajor.place_between j y.toNat x.toNat hp.1
          (show x.toNat + 1 ≤ c.width.toNat from hin.1)
        omega
      simp only [index, hplace]
    · rw [if_neg hin, if_neg (by rintro ⟨rfl, rfl⟩; exact hin hp)]
      rfl
  · rw [get?_eq_none hp, get?_eq_none (by rwa [hwidth, hheight])]
    simp

end TermView.Canvas
