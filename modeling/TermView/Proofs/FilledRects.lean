import Mathlib.Data.List.Nodup
import Mathlib.Data.List.ProdSigma
import TermView.Proofs.FittedGrids

namespace TermView

instance (r : Rect) (x y : Nat) : Decidable (r.Covers x y) := inferInstanceAs (Decidable (_ ∧ _))

namespace Canvas

def addSaturating (a b : UInt32) : UInt32 := .ofNat (min (a.toNat + b.toNat) 0xffffffff)

def words (start stop : UInt32) : List UInt32 :=
  (List.range' start.toNat (stop.toNat - start.toNat)).map .ofNat

def visited (c : Canvas) (r : Rect) : List (UInt32 × UInt32) :=
  let right := min (addSaturating r.x r.width) c.width
  let bottom := min (addSaturating r.y r.height) c.height
  words r.y bottom ×ˢ words r.x right

def address (c : Canvas) (row col : UInt32) : UInt64 := row.toUInt64 * c.width.toUInt64 + col.toUInt64

def change? (f : Pixel → Pixel) (c : Canvas) (place : UInt32 × UInt32) : Option Canvas :=
  let i := (c.address place.1 place.2).toNat
  if (place.1 < c.height ∧ place.2 < c.width) ∧ i < c.pixels.size then
    some { c with pixels := c.pixels.modify i f }
  else none

def fillInPlace? (c : Canvas) (r : Rect) (color : Rgb) (opacity : Binary32) : Option Canvas :=
  (c.visited r).foldlM (change? (Pixel.fill color opacity)) c

theorem toNat_addSaturating (a b : UInt32) :
    (addSaturating a b).toNat = min (a.toNat + b.toNat) 0xffffffff :=
  UInt32.toNat_ofNat_of_lt' (show _ < 4294967296 by omega)

theorem toNat_min (a b : UInt32) : (min a b).toNat = min a.toNat b.toNat := by
  have hle : a ≤ b ↔ a.toNat ≤ b.toNat := UInt32.le_iff_toNat_le
  change (if a ≤ b then a else b).toNat = _
  by_cases h : a ≤ b
  · rw [if_pos h, Nat.min_eq_left (hle.mp h)]
  · rw [if_neg h, Nat.min_eq_right (Nat.le_of_not_le (mt hle.mpr h))]

theorem toNat_end (start length size : UInt32) :
    (min (addSaturating start length) size).toNat =
      min (start.toNat + length.toNat) size.toNat := by
  have := size.toNat_lt
  rw [toNat_min, toNat_addSaturating]
  omega

theorem map_toNat_words (start stop : UInt32) :
    (words start stop).map UInt32.toNat = List.range' start.toNat (stop.toNat - start.toNat) := by
  have := stop.toNat_lt
  have hback : ∀ n ∈ List.range' start.toNat (stop.toNat - start.toNat),
      (UInt32.toNat ∘ UInt32.ofNat) n = id n := by
    intro n hn
    rw [List.mem_range'_1] at hn
    exact UInt32.toNat_ofNat_of_lt' (show n < 4294967296 by omega)
  rw [words, List.map_map, List.map_congr_left hback, List.map_id]

theorem mem_words {start stop n : UInt32} :
    n ∈ words start stop ↔ start.toNat ≤ n.toNat ∧ n.toNat < stop.toNat := by
  rw [← List.mem_map_of_injective (f := UInt32.toNat) fun _ _ => UInt32.toNat_inj.mp,
    map_toNat_words, List.mem_range'_1]
  omega

theorem nodup_words (start stop : UInt32) : (words start stop).Nodup := by
  apply List.Nodup.of_map UInt32.toNat
  rw [map_toNat_words]
  exact List.nodup_range'

variable {c : Canvas} {r : Rect}

theorem toNat_address (c : Canvas) (row col : UInt32) :
    (c.address row col).toNat = c.index col.toNat row.toNat := by
  have hrow := row.toNat_lt
  have hcol := col.toNat_lt
  have hwidth := c.width.toNat_lt
  have hproduct := Nat.mul_le_mul (Nat.le_of_lt_succ hrow) (Nat.le_of_lt_succ hwidth)
  rw [address, index, UInt64.toNat_add, UInt64.toNat_mul]
  simp only [UInt32.toNat_toUInt64]
  omega

theorem mem_visited {row col : UInt32} : (row, col) ∈ c.visited r ↔
    r.Covers col.toNat row.toNat ∧ col < c.width ∧ row < c.height := by
  rw [visited, List.mem_product, mem_words, mem_words, toNat_end, toNat_end, Rect.Covers,
    UInt32.lt_iff_toNat_lt, UInt32.lt_iff_toNat_lt]
  omega

theorem nodup_visited (c : Canvas) (r : Rect) : (c.visited r).Nodup :=
  (nodup_words _ _).product (nodup_words _ _)

theorem change?_eq (h : c.Sound) (f : Pixel → Pixel) {row col : UInt32} (hrow : row < c.height)
    (hcol : col < c.width) : change? f c (row, col) =
      some { c with pixels := c.pixels.modify (c.index col.toNat row.toNat) f } := by
  have hlt : c.index col.toNat row.toNat < c.pixels.size := by
    rw [h, Nat.mul_comm]
    exact RowMajor.place_lt hrow hcol
  rw [change?]
  simp only [toNat_address]
  exact if_pos ⟨⟨hrow, hcol⟩, hlt⟩

theorem foldlM_change? (h : c.Sound) (f : Pixel → Pixel) {places : List (UInt32 × UInt32)}
    (hplaces : ∀ place ∈ places, place.1 < c.height ∧ place.2 < c.width) :
    places.foldlM (change? f) c = some { c with
      pixels := places.foldl
        (fun ps place => ps.modify (c.index place.2.toNat place.1.toNat) f) c.pixels } := by
  induction places generalizing c with
  | nil => rfl
  | cons place places ih =>
    obtain ⟨hplace, hrest⟩ := List.forall_mem_cons.mp hplaces
    have hnext : Sound { c with
        pixels := c.pixels.modify (c.index place.2.toNat place.1.toNat) f } :=
      Array.size_modify.trans h
    rw [List.foldlM_cons, change?_eq h f hplace.1 hplace.2, Option.bind_eq_bind, Option.bind_some]
    exact ih hnext hrest

theorem map_place_words (first : Nat) (start stop : UInt32) :
    (words start stop).map (fun n => first + n.toNat) =
      List.range' (first + start.toNat) (stop.toNat - start.toNat) := by
  rw [← List.map_add_range', ← map_toNat_words, List.map_map]
  rfl

theorem foldl_visited (c : Canvas) (r : Rect) (f : Pixel → Pixel) :
    (c.visited r).foldl (fun ps place => ps.modify (c.index place.2.toNat place.1.toNat) f) c.pixels =
      (c.modifyRect r f).pixels := by
  -- Both sides become loops over numbers; the one over pairs is a loop over rows of loops.
  have hrows := map_toNat_words r.y (min (addSaturating r.y r.height) c.height)
  have hcols (row : Nat) :=
    map_place_words (row * c.width.toNat) r.x (min (addSaturating r.x r.width) c.width)
  simp only [toNat_end] at hrows hcols
  simp only [modifyRect, ← hrows, ← hcols, List.foldl_map]
  exact List.foldl_flatMap.trans (by simp only [List.foldl_map, index])

theorem fillInPlace?_eq (h : c.Sound) (r : Rect) (color : Rgb) (opacity : Binary32) :
    c.fillInPlace? r color opacity = some (c.fill r color opacity) := by
  rw [fillInPlace?, foldlM_change? h, foldl_visited]
  · rfl
  · rintro ⟨row, col⟩ hplace
    obtain ⟨-, hcol, hrow⟩ := mem_visited.mp hplace
    exact ⟨hrow, hcol⟩

@[simp]
theorem width_fill (c : Canvas) (r : Rect) (color : Rgb) (opacity : Binary32) :
    (c.fill r color opacity).width = c.width := rfl

@[simp]
theorem height_fill (c : Canvas) (r : Rect) (color : Rgb) (opacity : Binary32) :
    (c.fill r color opacity).height = c.height := rfl

@[simp]
theorem font_fill (c : Canvas) (r : Rect) (color : Rgb) (opacity : Binary32) :
    (c.fill r color opacity).font = c.font := rfl

theorem sound_fill (h : c.Sound) (r : Rect) (color : Rgb) (opacity : Binary32) :
    (c.fill r color opacity).Sound := by
  have hsize (places : List (UInt32 × UInt32)) (f : Pixel → Pixel) :
      (places.foldl (fun ps place => ps.modify (c.index place.2.toNat place.1.toNat) f)
        c.pixels).size = c.pixels.size := by
    apply List.foldlRecOn places (motive := fun ps : Array Pixel => ps.size = c.pixels.size) _ rfl
    intro ps hps place _
    rw [Array.size_modify, hps]
  rw [Sound, fill, ← foldl_visited, hsize]
  exact h

theorem ext_get? {c' : Canvas} (h : c.Sound) (h' : c'.Sound) (hwidth : c'.width = c.width)
    (hheight : c'.height = c.height) (hfont : c'.font = c.font)
    (hget : ∀ x y, c'.get? x y = c.get? x y) : c' = c := by
  obtain ⟨width, height, font, pixels⟩ := c
  obtain ⟨width', height', font', pixels'⟩ := c'
  cases hwidth
  cases hheight
  cases hfont
  congr 1
  apply Array.ext_getElem?
  intro k
  by_cases hk : k < width.toNat * height.toNat
  · have hpos : 0 < width.toNat := Nat.pos_of_mul_pos_right (Nat.zero_lt_of_lt hk)
    have hx := Nat.mod_lt k hpos
    have hy := Nat.div_lt_of_lt_mul hk
    have hplace := hget (k % width.toNat) (k / width.toNat)
    rw [get?_of_lt hx hy, get?_of_lt hx hy] at hplace
    simpa only [index, Nat.div_add_mod'] using hplace
  · rw [Array.getElem?_eq_none, Array.getElem?_eq_none]
    · exact h ▸ Nat.le_of_not_lt hk
    · exact h' ▸ Nat.le_of_not_lt hk

theorem get?_fill_eq (c : Canvas) (r : Rect) (color : Rgb) (opacity : Binary32) (x y : Nat) :
    (c.fill r color opacity).get? x y =
      if r.Covers x y then (c.get? x y).map (Pixel.fill color opacity) else c.get? x y :=
  get?_fill c r color opacity x y

theorem fill_comm (h : c.Sound) {r r' : Rect}
    (hapart : ∀ x y, ¬ (r.Covers x y ∧ r'.Covers x y)) (color color' : Rgb)
    (opacity opacity' : Binary32) :
    (c.fill r color opacity).fill r' color' opacity' =
      (c.fill r' color' opacity').fill r color opacity := by
  have hfirst := sound_fill (sound_fill h r color opacity) r' color' opacity'
  have hsecond := sound_fill (sound_fill h r' color' opacity') r color opacity
  apply ext_get? hsecond hfirst (by simp) (by simp) (by simp)
  intro x y
  simp only [get?_fill_eq]
  by_cases hr : r.Covers x y
  · have hr' : ¬ r'.Covers x y := fun hr' => hapart x y ⟨hr, hr'⟩
    simp only [if_pos hr, if_neg hr']
  · simp only [if_neg hr]

theorem fill_paints_clipped_rect (h : c.Sound) (r : Rect) (color : Rgb) (opacity : Binary32) :
    let filled := c.fill r color opacity
    c.fillInPlace? r color opacity = some filled ∧
    ((c.visited r).Nodup ∧ ∀ row col : UInt32, (row, col) ∈ c.visited r ↔
      r.Covers col.toNat row.toNat ∧ col < c.width ∧ row < c.height) ∧
    (filled.width = c.width ∧ filled.height = c.height ∧ filled.font = c.font ∧ filled.Sound) ∧
    (∀ x y, filled.get? x y =
      if r.Covers x y then (c.get? x y).map fun p =>
        if Binary32.one ≤ opacity then ⟨' ', p.foreground, color⟩
        else ⟨p.char, color.blendOver p.foreground opacity, color.blendOver p.background opacity⟩
      else c.get? x y) ∧
    ∀ r' color' opacity', (∀ x y, ¬ (r.Covers x y ∧ r'.Covers x y)) →
      filled.fill r' color' opacity' = (c.fill r' color' opacity').fill r color opacity := by
  intro filled
  refine ⟨fillInPlace?_eq h r color opacity, ⟨nodup_visited c r, ?_⟩, ?_, ?_, ?_⟩
  · intro row col
    exact mem_visited
  · exact ⟨rfl, rfl, rfl, sound_fill h r color opacity⟩
  · exact get?_fill_eq c r color opacity
  · intro r' color' opacity' hapart
    exact fill_comm h hapart color color' opacity opacity'

theorem fill_paints_clipped_rect_beyond :
    let c := blank 3 2
    let r : Rect := ⟨1, 1, 0xffffffff, 0xffffffff⟩
    let filled := c.fill r .white .half
    c.Sound ∧ c.visited r = [(1, 1), (1, 2)] ∧ c.fillInPlace? r .white .half = some filled ∧
    filled.get? 2 1 = some ⟨' ', .white, ⟨128, 128, 128⟩⟩ ∧ filled.get? 0 1 = some .empty := by
  intro c r filled
  have hsound : c.Sound := sound_blank 3 2
  obtain ⟨hplaces, -, -, hpixel, -⟩ := fill_paints_clipped_rect hsound r .white .half
  refine ⟨hsound, by decide, hplaces, (hpixel 2 1).trans ?_, (hpixel 0 1).trans ?_⟩
  · decide +kernel
  · decide +kernel

end Canvas

end TermView
