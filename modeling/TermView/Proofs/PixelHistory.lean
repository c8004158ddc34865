import Mathlib.Data.List.Basic
import Mathlib.Data.List.Induction
import TermView.Proofs.SingleCells

/-!
What stays of earlier frames on a canvas. A frame changes the pixels of its grid and no others, so a
pixel shows the last frame whose grid has it. What a larger grid showed stays around a smaller one,
and a pixel that no grid has had stays blank.
-/

namespace TermView

namespace Screen

def Covers (s : Screen) (x y : Nat) : Prop := y < s.rows.toNat ∧ x < s.cols.toNat

instance (s : Screen) (x y : Nat) : Decidable (s.Covers x y) := inferInstanceAs (Decidable (_ ∧ _))

def lastCovering? (frames : List Screen) (x y : Nat) : Option Screen :=
  frames.reverse.find? fun s => s.Covers x y

theorem lastCovering?_concat (frames : List Screen) (s : Screen) (x y : Nat) :
    lastCovering? (frames ++ [s]) x y =
      if s.Covers x y then some s else lastCovering? frames x y := by
  rw [lastCovering?, List.reverse_concat, List.find?_cons]
  by_cases h : s.Covers x y <;> simp [h, lastCovering?]

end Screen

open Screen

theorem Canvas.eq_empty_of_mem_blank {width height : UInt32} {x y : Nat} {pixel : Pixel}
    (h : pixel ∈ (blank width height).get? x y) : pixel = .empty := by
  rw [Option.mem_def, get?, blank, Array.getElem?_replicate] at h
  split at h
  · split at h
    · exact (Option.some.inj h).symm
    · cases h
  · cases h

namespace Painter

def leaves (p : Painter) (frames : List Screen) (x y : Nat) (before : Sight) : Sight :=
  ((lastCovering? frames x y).bind fun s =>
    (s.grid.get? y x).map fun cell => p.shown .single s cell x y).getD before

variable {p : Painter}

theorem leaves_concat (frames : List Screen) {s : Screen} (hs : s.Sound) {x y : Nat}
    (before : Sight) : p.leaves (frames ++ [s]) x y before =
      ((s.grid.get? y x).map fun cell => p.shown .single s cell x y).getD
        (p.leaves frames x y before) := by
  rw [leaves, lastCovering?_concat]
  by_cases h : s.Covers x y
  · obtain ⟨cell, hcell⟩ := Option.isSome_iff_exists.mp ((Grid.isSome_get? hs.grid y x).mpr h)
    rw [if_pos h, Option.bind_some, hcell]
    rfl
  · rw [if_neg h, Grid.get?_eq_none h]
    rfl

theorem sight_foldl_painted (hp : p.cellSize = some .single) {frames : List Screen}
    (hs : ∀ s ∈ frames, s.Sound) (c : Canvas) (x y : Nat) :
    ((frames.foldl (fun c s => p.painted s c) c).get? x y).map Pixel.sight =
      (c.get? x y).map fun before => p.leaves frames x y before.sight := by
  induction frames using List.reverseRecOn with
  | nil => rfl
  | append_singleton frames s ih =>
    obtain ⟨hframes, hlast⟩ := List.forall_mem_append.mp hs
    have hsound : s.Sound := hlast s List.mem_cons_self
    have hbefore := ih hframes
    rw [List.foldl_concat]
    simp only [leaves_concat frames hsound]
    by_cases h : s.Covers x y
    · obtain ⟨cell, hcell⟩ := Option.isSome_iff_exists.mp
        ((Grid.isSome_get? hsound.grid y x).mpr h)
      have hsome := congrArg (Option.map fun _ => p.shown .single s cell x y) hbefore
      rw [Option.map_map, Option.map_map] at hsome
      rw [sight_painted_single hp hsound _ hcell, hcell]
      exact hsome
    · rw [get?_painted_single_outside hp hsound _ h, Grid.get?_eq_none h, hbefore]
      rfl

theorem char_shown (p : Painter) (s : Screen) (cell : Cell) (x y : Nat) :
    (p.shown .single s cell x y).char = ' ' ∨ (p.shown .single s cell x y).char = cell.char := by
  have hplain : (Sight.ofCell p.scheme cell (CellSize.single.Corner x y)).char = ' ' ∨
      (Sight.ofCell p.scheme cell (CellSize.single.Corner x y)).char = cell.char := by
    unfold Sight.ofCell
    split
    · exact .inr rfl
    · exact .inl rfl
  unfold shown Sight.cover
  dsimp only
  split
  · split
    · exact .inl rfl
    · exact hplain
  · exact hplain

theorem glyph_of_leaves {frames : List Screen} {x y : Nat} {before after : Pixel}
    (hbefore : before.char = ' ') (h : p.leaves frames x y before.sight = after.sight)
    (hchar : after.char ≠ ' ') : ∃ s cell, lastCovering? frames x y = some s ∧
      s.grid.get? y x = some cell ∧ after.char = cell.char := by
  have hglyph : after.sight.char ≠ ' ' := hchar
  rw [← h, leaves] at hglyph
  cases hlast : lastCovering? frames x y with
  | none =>
    rw [hlast] at hglyph
    exact absurd hbefore hglyph
  | some s =>
    rw [hlast, Option.bind_some] at hglyph
    cases hcell : s.grid.get? y x with
    | none =>
      rw [hcell] at hglyph
      exact absurd hbefore hglyph
    | some cell =>
      rw [hcell] at hglyph
      refine ⟨s, cell, rfl, hcell, ?_⟩
      have hafter : after.char = (p.shown .single s cell x y).char := by
        change after.sight.char = _
        rw [← h, leaves, hlast, Option.bind_some, hcell]
        rfl
      exact hafter.trans ((char_shown p s cell x y).resolve_left hglyph)

end Painter

namespace Terminal

theorem attach_canvas {t : Terminal Canvas} (h : t.screen.Sound) (canvas : Canvas) :
    let opened := t.perform (.attach canvas)
    opened.faulted = t.faulted ∧ opened.painter.cellSize = some .single ∧
      opened.surface =
        some (opened.painter.painted opened.screen (Surface.setFont canvas t.font)) := by
  have hmeasure : CellSize.measure (Surface.setFont canvas t.font) = .ok .single :=
    CellSize.measure_single rfl rfl
  have hsound := sound_perform h (.attach canvas)
  rw [perform_attach_eq, prepare_of_attach rfl, hmeasure] at hsound ⊢
  dsimp only at hsound ⊢
  have hframe := t.painted_holding .single (Surface.setFont canvas t.font)
  refine ⟨hframe.faulted_single rfl fun _ hs => Option.some.inj hs ▸ hsound, ?_⟩
  rw [hframe.surface_eq, hframe.painter_eq]
  exact ⟨rfl, rfl⟩

theorem faulted_performAll {t : Terminal Canvas} (h : t.screen.Sound)
    (hcell : t.painter.cellSize = some .single) {calls : List (Call Canvas)}
    (hcalls : ∀ call ∈ calls, call.keepsSurface) : (t.performAll calls).faulted = t.faulted := by
  induction calls generalizing t with
  | nil => rfl
  | cons call calls ih =>
    obtain ⟨hcall, hcalls⟩ := List.forall_mem_cons.mp hcalls
    have hstep := painted_perform t hcall
    have hrest := ih (sound_perform h call) (hstep.painter_eq ▸ hcell) hcalls
    exact hrest.trans (hstep.faulted_single hcell (sound_frame? h hcall))

theorem sight_performAll {t : Terminal Canvas} (h : t.screen.Sound) (canvas : Canvas)
    (hcell : t.painter.cellSize = some .single)
    (hsurface : t.surface = some (t.painter.painted t.screen canvas)) {calls : List (Call Canvas)}
    (hcalls : ∀ call ∈ calls, call.keepsSurface) :
    ∃ shown, (t.performAll calls).surface = some shown ∧ ∀ x y,
      (shown.get? x y).map Pixel.sight = (canvas.get? x y).map fun before =>
        (t.performAll calls).painter.leaves (t.screen :: t.frames calls) x y before.sight := by
  have hframes : ∀ screen ∈ t.screen :: t.frames calls, screen.Sound :=
    List.forall_mem_cons.mpr ⟨h, sound_frames h hcalls⟩
  rw [painter_performAll t hcalls, surface_performAll t hcalls, hsurface]
  exact ⟨_, rfl, Painter.sight_foldl_painted hcell hframes canvas⟩

/-- A pixel shows the last frame since the canvas was attached whose grid has it, and what it showed
before if there is none. So a glyph on the canvas is one of that frame. -/
theorem pixels_show_last_covering (t : Terminal Canvas) (ht : t.screen.Reachable) (canvas : Canvas)
    (hblank : ∀ x y, ∀ pixel ∈ canvas.get? x y, pixel.char = ' ') (calls : List (Call Canvas))
    (hcalls : ∀ call ∈ calls, call.keepsSurface) :
    let opened := t.perform (.attach canvas)
    let now := opened.performAll calls
    let frames := opened.screen :: opened.frames calls
    now.faulted = t.faulted ∧ frames.getLast? = some now.screen ∧
    ∃ shown, now.surface = some shown ∧ ∀ x y,
      (shown.get? x y).map Pixel.sight =
        (canvas.get? x y).map (fun before => now.painter.leaves frames x y before.sight) ∧
      ∀ pixel ∈ shown.get? x y, pixel.char ≠ ' ' → ∃ screen cell,
        lastCovering? frames x y = some screen ∧ screen.grid.get? y x = some cell ∧
          pixel.char = cell.char := by
  have hopened : (t.perform (.attach canvas)).screen.Sound := sound_perform ht.sound _
  obtain ⟨hfaulted, hcell, hsurface⟩ := attach_canvas ht.sound canvas
  generalize t.perform (.attach canvas) = opened at hopened hfaulted hcell hsurface ⊢
  intro opened now frames
  obtain ⟨shown, hshown, hsight⟩ :=
    sight_performAll hopened (Surface.setFont canvas t.font) hcell hsurface hcalls
  have hreturned := (faulted_performAll hopened hcell hcalls).trans hfaulted
  refine ⟨hreturned, getLast?_frames opened hcalls, shown, hshown, ?_⟩
  intro x y
  refine ⟨hsight x y, ?_⟩
  intro pixel hpixel hchar
  have hpixel' := hsight x y
  rw [Option.mem_def.mp hpixel] at hpixel'
  obtain ⟨before, hbefore, hleft⟩ := Option.map_eq_some_iff.mp hpixel'.symm
  exact Painter.glyph_of_leaves (hblank x y before hbefore) hleft hchar

theorem pixels_show_last_covering_shrunk :
    let t : Terminal Canvas := .new { Settings.standard with cols := 4, rows := 2 }
    let canvas := Canvas.blank 4 2
    let calls : List (Call Canvas) := [.write "abcd", .resize 2 1, .resize 3 2]
    (t.screen.Reachable ∧ (∀ x y, ∀ pixel ∈ canvas.get? x y, pixel.char = ' ') ∧
      ∀ call ∈ calls, call.keepsSurface) ∧
    ∃ shown, ((t.perform (.attach canvas)).performAll calls).surface = some shown ∧
      (shown.get? 2 0).map (·.sight.char) = some ' ' ∧
      (shown.get? 3 0).map (·.sight.char) = some 'd' := by
  intro t canvas calls
  have ht : t.screen.Reachable := ⟨4, 2, [], rfl⟩
  have hblank : ∀ x y, ∀ pixel ∈ canvas.get? x y, pixel.char = ' ' :=
    fun x y pixel hpixel => congrArg Pixel.char (Canvas.eq_empty_of_mem_blank hpixel)
  have hcalls : ∀ call ∈ calls, call.keepsSurface := by simp [calls, Call.keepsSurface]
  refine ⟨⟨ht, hblank, hcalls⟩, ?_⟩
  obtain ⟨-, -, shown, hshown, hpixels⟩ := pixels_show_last_covering t ht canvas hblank calls hcalls
  have hchar (x y : Nat) := congrArg (Option.map Sight.char) (hpixels x y).1
  simp only [Option.map_map] at hchar
  refine ⟨shown, hshown, (hchar 2 0).trans ?_, (hchar 3 0).trans ?_⟩
  · decide +kernel
  · decide +kernel

theorem smaller_grid_leaves_glyphs :
    let t : Terminal Canvas := .new { Settings.standard with cols := 4, rows := 2 }
    let shrunk := (t.perform (.attach (.blank 4 2))).performAll [.write "abcd", .resize 2 1]
    shrunk.screen.cols = 2 ∧ shrunk.screen.rows = 1 ∧
      (shrunk.surface.bind (·.get? 2 0)).map Pixel.char = some 'c' := by
  decide +kernel

end Terminal

end TermView
