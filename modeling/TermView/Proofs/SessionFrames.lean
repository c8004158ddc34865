import TermView.Proofs.SingleCells
import TermView.Session

namespace TermView

open Console (Device Display Event KeyEvent)

theorem CellSize.measure_display (d : Display) : measure d = .ok single := measure_single rfl rfl

namespace Canvas

structure Covers (c : Canvas) (cols rows : UInt16) : Prop where
  size_eq : Surface.size c = (cols.toUInt32, rows.toUInt32)
  isSome (x y : Nat) : x < cols.toNat → y < rows.toNat → (c.get? x y).isSome

theorem covers_blank (cols rows : UInt16) :
    (Canvas.blank cols.toUInt32 rows.toUInt32).Covers cols rows := by
  refine ⟨rfl, ?_⟩
  intro x y hx hy
  apply (isSome_get? (sound_blank _ _) x y).mpr
  exact ⟨by simpa [blank] using hx, by simpa [blank] using hy⟩

end Canvas

def Settings.painter (s : Settings) : Painter := ⟨s.scheme, s.opacity, some .single⟩

namespace Session

variable {settings : Settings} {cols rows : UInt16} {t : Session}

structure Ready (settings : Settings) (cols rows : UInt16) (t : Session) : Prop where
  sound : t.emulator.screen.Sound
  painter_eq : t.painter = settings.painter
  returned : t.faulted = false
  covers : ∃ display, t.surface = some display ∧ display.canvas.Covers cols rows

structure Shows (settings : Settings) (cols rows : UInt16) (screen : Screen) (c : Canvas) :
    Prop where
  cols_eq : screen.cols = max cols 1
  rows_eq : screen.rows = max rows 1
  covers : c.Covers cols rows
  sight_eq (x y : Nat) : x < cols.toNat → y < rows.toNat →
    ∃ cell, screen.grid.get? y x = some cell ∧
      (c.get? x y).map Pixel.sight = some (settings.painter.shown .single screen cell x y)

theorem shows_painted {screen : Screen} (hs : screen.Sound) (hcols : screen.cols = max cols 1)
    (hrows : screen.rows = max rows 1) {c : Canvas} (hc : c.Covers cols rows) :
    Shows settings cols rows screen (settings.painter.painted screen c) := by
  have hsight (x y : Nat) (hx : x < cols.toNat) (hy : y < rows.toNat) :
      ∃ cell, screen.grid.get? y x = some cell ∧
        ((settings.painter.painted screen c).get? x y).map Pixel.sight =
          some (settings.painter.shown .single screen cell x y) := by
    have hin : y < screen.grid.rows.toNat ∧ x < screen.grid.cols.toNat := by
      change y < screen.rows.toNat ∧ x < screen.cols.toNat
      rw [hcols, hrows, Word.toNat_max_one, Word.toNat_max_one]
      omega
    obtain ⟨cell, hcell⟩ := Option.isSome_iff_exists.mp ((Grid.isSome_get? hs.grid y x).mpr hin)
    obtain ⟨old, hold⟩ := Option.isSome_iff_exists.mp (hc.isSome x y hx hy)
    have hpaint := Painter.sight_painted_single (p := settings.painter) rfl hs c hcell
    rw [hold] at hpaint
    exact ⟨cell, hcell, hpaint⟩
  refine ⟨hcols, hrows, ⟨?_, ?_⟩, hsight⟩
  · rw [Painter.size_painted, hc.size_eq]
  · intro x y hx hy
    obtain ⟨cell, -, hpixel⟩ := hsight x y hx hy
    obtain ⟨pixel, hpixel, -⟩ := Option.map_eq_some_iff.mp hpixel
    rw [hpixel]
    rfl

structure Current (settings : Settings) (cols rows : UInt16) (t : Session) : Prop where
  sound : t.emulator.screen.Sound
  painter_eq : t.painter = settings.painter
  returned : t.faulted = false
  shows : ∃ display, t.surface = some display ∧
    Shows settings cols rows t.emulator.screen display.canvas

theorem Current.ready (h : Current settings cols rows t) : Ready settings cols rows t := by
  obtain ⟨display, hd, hshows⟩ := h.shows
  exact ⟨h.sound, h.painter_eq, h.returned, display, hd, hshows.covers⟩

theorem Ready.render (h : Ready settings cols rows t)
    (hcols : t.emulator.screen.cols = max cols 1) (hrows : t.emulator.screen.rows = max rows 1) :
    Current settings cols rows t.render := by
  obtain ⟨display, hd, hcovers⟩ := h.covers
  have hframe : t.Painted t.render (some t.emulator.screen) := Terminal.painted_display t _
  refine ⟨h.sound, h.painter_eq, ?_, t.painter.painted t.emulator.screen display, ?_, ?_⟩
  · have hcell : t.painter.cellSize = some .single := by rw [h.painter_eq]; rfl
    exact (hframe.faulted_single hcell (fun _ hs => Option.some.inj hs ▸ h.sound)).trans h.returned
  · refine hframe.surface_eq.trans ?_
    rw [hd]
    rfl
  · rw [Painter.canvas_painted, h.painter_eq]
    exact shows_painted h.sound hcols hrows hcovers

theorem Ready.refresh_eq (h : Ready settings cols rows t) :
    t.refresh = t.display (t.screen.perform (.resize (max cols 1) (max rows 1))) := by
  obtain ⟨display, hd, hcovers⟩ := h.covers
  have hcell : t.painter.cellSize = some .single := by rw [h.painter_eq]; rfl
  have hsize : Surface.size display = (cols.toUInt32, rows.toUInt32) := hcovers.size_eq
  rw [Terminal.refresh_eq hd hcell, hsize, CellSize.gridSize_single]

theorem Ready.refresh (h : Ready settings cols rows t) : Current settings cols rows t.refresh := by
  obtain ⟨hcols, hrows⟩ := t.emulator.screen.size_resize (max cols 1) (max rows 1)
  rw [Word.max_one_max_one] at hcols hrows
  rw [h.refresh_eq]
  apply Ready.render
  · exact ⟨Screen.sound_resize h.sound _ _, h.painter_eq, h.returned, h.covers⟩
  · exact hcols
  · exact hrows

theorem Current.write (h : Current settings cols rows t) (text : String) :
    Current settings cols rows (t.write text) := by
  obtain ⟨display, hd, hshows⟩ := h.shows
  have hscreen : (t.emulator.write text).screen =
      t.emulator.screen.performAll (t.emulator.operations text.toList) :=
    Emulator.screen_foldl_receive t.emulator text.toList
  have hresize := Emulator.isResize_operations t.emulator text.toList
  have hshape := Screen.performAll_shape h.sound hresize
  have hsound := Screen.sound_performAll h.sound (t.emulator.operations text.toList)
  rw [← hscreen] at hshape hsound
  apply Ready.render
  · exact ⟨hsound, h.painter_eq, h.returned, h.ready.covers⟩
  · exact hshape.cols_eq.trans hshows.cols_eq
  · exact hshape.rows_eq.trans hshows.rows_eq

theorem attach_display (d : Display) :
    (∃ e d', Surface.attach d = (.error e, d') ∧ ∃ reason, some reason ∈ d.device.outcomes.take 2) ∨
      ∃ d', Surface.attach d = (.ok (), d') ∧ d'.canvas = d.canvas := by
  obtain ⟨canvas, attached, outcomes, calls⟩ := d
  match outcomes with
  | some reason :: _ => exact .inl ⟨_, _, rfl, reason, by simp⟩
  | none :: some reason :: _ => exact .inl ⟨_, _, rfl, reason, by simp⟩
  | [] | [none] | none :: none :: _ => exact .inr ⟨_, rfl, rfl⟩

theorem attach_current (display : Display) (hsound : t.emulator.screen.Sound)
    (hscheme : t.painter.scheme = settings.scheme)
    (hopacity : t.painter.cursorOpacity = settings.opacity) (hreturned : t.faulted = false)
    (hcovers : display.canvas.Covers cols rows) :
    (∃ e d', t.attach display = .error (e, d') ∧
      ∃ reason, some reason ∈ display.device.outcomes.take 2) ∨
    ∃ t' before, t.attach display = .ok (t', before) ∧ Current settings cols rows t' := by
  unfold Terminal.attach
  rcases attach_display display with ⟨e, d', hd, hreason⟩ | ⟨d', hd, hcanvas⟩
  · left
    rw [hd]
    exact ⟨e, d', rfl, hreason⟩
  · right
    rw [hd]
    dsimp only
    rw [CellSize.measure_display]
    refine ⟨_, _, rfl, ?_⟩
    apply Ready.refresh
    refine ⟨hsound, ?_, hreturned, Surface.setFont d' t.font, rfl, ?_⟩
    · rw [Settings.painter, ← hscheme, ← hopacity]
    · rw [← hcanvas] at hcovers
      exact ⟨hcovers.size_eq, hcovers.isSome⟩

theorem start_current (device : Device) (cols rows : UInt16) (settings : Settings)
    (replay : Option String) :
    (∃ e, start device cols rows settings replay = .error e ∧
      ∃ reason, some reason ∈ device.outcomes.take 2) ∨
    ∃ t, start device cols rows settings replay = .ok t ∧ Current settings cols rows t := by
  have hattach := attach_current (t := (Terminal.new settings).listen id) (.new device cols rows)
    (Screen.sound_blank _ _) rfl rfl rfl (Canvas.covers_blank cols rows)
  unfold start
  dsimp only
  rcases hattach with ⟨e, d', hd, hreason⟩ | ⟨t, _, ht, hcurrent⟩
  · left
    rw [hd]
    exact ⟨_, rfl, hreason⟩
  · right
    rw [ht]
    refine ⟨_, rfl, ?_⟩
    apply Current.write
    cases replay with
    | none => exact hcurrent
    | some text => exact hcurrent.write text

def sizeAfter (size : UInt16 × UInt16) : Event → UInt16 × UInt16
  | .resize cols rows => (cols, rows)
  | _ => size

theorem Current.setNotes (h : Current settings cols rows t) (notes : Array String) :
    Current settings cols rows { t with notes } := ⟨h.sound, h.painter_eq, h.returned, h.shows⟩

theorem Current.answer (h : Current settings cols rows t) : Current settings cols rows t.answer := by
  unfold Terminal.answer
  dsimp only
  split
  · exact h.setNotes #[]
  · exact (h.setNotes #[]).write _

theorem Current.keyDown (h : Current settings cols rows t) (press : KeyPress) :
    Current settings cols rows ((t.keyDown? press).getD t) := by
  unfold Terminal.keyDown?
  cases press.encode with
  | none => exact h
  | some output =>
    cases hl : t.listener with
    | none => simpa [hl] using h
    | some note => simpa [hl] using h.setNotes _

theorem Current.resize (h : Current settings cols rows t) (cols' rows' : UInt16) :
    Current settings cols' rows' (t.resize cols' rows') := by
  obtain ⟨display, hd, -⟩ := h.shows
  apply Ready.refresh
  refine ⟨h.sound, h.painter_eq, h.returned, display.resize cols' rows', ?_, ?_⟩
  · rw [hd]
    rfl
  · exact ⟨rfl, (Canvas.covers_blank cols' rows').isSome⟩

def ends : Event → Bool
  | .key e => e.kind != .release && isQuit e
  | _ => false

theorem Current.handle? (h : Current settings cols rows t) {e : Event} (he : ¬ ends e) :
    ∃ t', t.handle? e = some t' ∧
      Current settings (sizeAfter (cols, rows) e).1 (sizeAfter (cols, rows) e).2 t' := by
  cases e with
  | key e =>
    by_cases hkind : e.kind = .release
    · exact ⟨t, if_pos hkind, h⟩
    · have hquit : ¬ isQuit e := by simpa [ends, hkind] using he
      refine ⟨_, (if_neg hkind).trans (if_neg hquit), ?_⟩
      exact (h.keyDown _).answer
  | resize cols' rows' => exact ⟨_, rfl, h.resize cols' rows'⟩
  | other => exact ⟨t, rfl, h⟩

theorem handle?_of_ends (t : Session) {e : Event} (he : ends e) : t.handle? e = none := by
  cases e with
  | key e =>
    obtain ⟨hkind, hquit⟩ : ¬ e.kind = .release ∧ isQuit e := by simpa [ends] using he
    exact (if_neg hkind).trans (if_pos hquit)
  | _ => cases he

def handled : List (Except String Event) → List Event
  | .ok e :: rest => if ends e then [] else e :: handled rest
  | _ => []

theorem Current.serve (h : Current settings cols rows t) (events : List (Except String Event)) :
    Current settings ((handled events).foldl sizeAfter (cols, rows)).1
      ((handled events).foldl sizeAfter (cols, rows)).2 (t.serve events).2 := by
  induction events generalizing t cols rows with
  | nil => exact h
  | cons event events ih =>
    cases event with
    | error reason => exact h
    | ok e =>
      by_cases he : ends e
      · rw [handled, if_pos he, Session.serve, handle?_of_ends t he]
        exact h
      · obtain ⟨t', ht, h'⟩ := h.handle? he
        rw [handled, if_neg he, Session.serve, ht]
        exact ih h'

/-- A session fails to start only if one of the two calls that attach the console fails. From the
start on, and after every event, it shows its screen on the whole console, as a first frame on an
empty canvas would; whether presenting fails makes no difference. -/
theorem session_shows_screen (device : Device) (cols rows : UInt16) (settings : Settings)
    (replay : Option String) :
    match start device cols rows settings replay with
    | .error _ => ∃ reason, some reason ∈ device.outcomes.take 2
    | .ok t => ∀ events : List (Except String Event),
      let screen := (t.serve events).2.screen
      let (cols, rows) := (handled events).foldl sizeAfter (cols, rows)
      (t.serve events).2.faulted = false ∧ screen.cols = max cols 1 ∧ screen.rows = max rows 1 ∧
      ∃ fresh,
        settings.painter.paint? screen (Canvas.blank cols.toUInt32 rows.toUInt32) = some fresh ∧
      ∃ display, (t.serve events).2.surface = some display ∧
        Surface.size display = (cols.toUInt32, rows.toUInt32) ∧
        ∀ x y, x < cols.toNat → y < rows.toNat →
          ∃ cell pixel, screen.grid.get? y x = some cell ∧ display.canvas.get? x y = some pixel ∧
            pixel.sight = settings.painter.shown .single screen cell x y ∧
            (fresh.get? x y).map Pixel.sight = some pixel.sight := by
  rcases start_current device cols rows settings replay with ⟨e, he, hreason⟩ | ⟨t, ht, hstart⟩
  · rw [he]
    exact hreason
  · rw [ht]
    intro events screen
    have h := hstart.serve events
    generalize (handled events).foldl sizeAfter (cols, rows) = size at h ⊢
    obtain ⟨cols, rows⟩ := size
    dsimp only at h ⊢
    obtain ⟨display, hd, hshows⟩ := h.shows
    have hfresh : Shows settings cols rows screen
        (settings.painter.painted screen (Canvas.blank cols.toUInt32 rows.toUInt32)) :=
      shows_painted h.sound hshows.cols_eq hshows.rows_eq (Canvas.covers_blank cols rows)
    have hfits : ¬ settings.painter.faults screen := Painter.not_faults_single rfl h.sound
    have hpaint := settings.painter.paint?_eq screen (Canvas.blank cols.toUInt32 rows.toUInt32)
    rw [if_neg hfits] at hpaint
    refine ⟨h.returned, hshows.cols_eq, hshows.rows_eq, _, hpaint, display, hd, hshows.covers.size_eq, ?_⟩
    intro x y hx hy
    obtain ⟨cell, hcell, hshown⟩ := hshows.sight_eq x y hx hy
    obtain ⟨pixel, hpixel, hsight⟩ := Option.map_eq_some_iff.mp hshown
    obtain ⟨cell', hcell', hfirst⟩ := hfresh.sight_eq x y hx hy
    obtain rfl : cell = cell' := Option.some.inj (hcell.symm.trans hcell')
    exact ⟨cell, pixel, hcell, hpixel, hsight, hfirst.trans (congrArg some hsight.symm)⟩

end Session

end TermView
