import TermView.Proofs.FrameFaults

/-!
How many frames are presented. A count kept beside a surface changes nothing that a terminal does, so
it tells the frames of every run. A surface is attached only with its cell size, and then a call that
returns presents one frame or none.
-/

namespace TermView

structure Counted (σ : Type) where
  surface : σ
  frames : Nat

variable {σ : Type} [Surface σ]

namespace Counted

def fresh (s : σ) : Counted σ := ⟨s, 0⟩

instance : Surface (Counted σ) where
  attach s := ((Surface.attach s.surface).1, { s with surface := (Surface.attach s.surface).2 })
  size s := Surface.size s.surface
  setFont s font := { s with surface := Surface.setFont s.surface font }
  glyphWidth s := Surface.glyphWidth s.surface
  lineHeight s := Surface.lineHeight s.surface
  fill s rect color opacity := { s with surface := Surface.fill s.surface rect color opacity }
  glyph s char x y color := { s with surface := Surface.glyph s.surface char x y color }
  present s := ((Surface.present s.surface).1, ⟨(Surface.present s.surface).2, s.frames + 1⟩)

theorem surface_painted (p : Painter) (screen : Screen) (s : Counted σ) :
    (p.painted screen s).surface = p.painted screen s.surface := by
  refine Painter.painted_related (R := fun (s : Counted σ) (t : σ) => s.surface = t)
    ?_ ?_ ?_ p screen rfl
  · rintro s _ r color opacity rfl
    rfl
  · rintro s _ char x y color rfl
    rfl
  · rintro s _ rfl
    rfl

theorem frames_painted {p : Painter} {size : CellSize} (hp : p.cellSize = some size)
    (screen : Screen) (s : Counted σ) :
    (p.painted screen s).frames = s.frames + (!p.faults screen).toNat := by
  have hdrawn (ds : List Drawing) : (ds.foldl Surface.draw s).frames = s.frames := by
    refine Painter.draw_related (R := fun (t _ : Counted σ) => t.frames = s.frames)
      ?_ ?_ ds (t := s) rfl
    · intro t _ r color opacity h
      exact h
    · intro t _ char x y color h
      exact h
  rw [Painter.faults, hp, Option.map_some, Option.getD_some, Painter.painted,
    Painter.paint?_of_cellSize screen hp]
  cases p.drawings? size screen with
  | none => rfl
  | some ds => exact congrArg (· + 1) (hdrawn ds)

end Counted

namespace Terminal

theorem fitted?_eq_none {t : Terminal σ} {surface : σ} {cell : CellSize}
    (hs : t.surface = some surface) (hc : t.painter.cellSize = some cell)
    (h : t.screen.size = cell.gridSize (Surface.size surface)) : t.fitted? = none := by
  have hnone := t.screen.resize?_eq_none (cell.gridSize (Surface.size surface)).1
    (cell.gridSize (Surface.size surface)).2
  rw [cell.gridSize_max_one] at hnone
  rw [fitted?, hs, hc]
  exact hnone.mpr h

theorem fit?_of_fitted {t : Terminal σ} {surface : σ} {cell : CellSize}
    (hc : t.painter.cellSize = some cell)
    (h : t.screen.size = cell.gridSize (Surface.size surface)) {surface' : σ}
    (hsize : Surface.size surface' = Surface.size surface) :
    ({ t with surface := some surface' } : Terminal σ).fit? = none := by
  rw [← hsize] at h
  rw [fit?_eq, fitted?_eq_none (t := { t with surface := some surface' }) rfl hc h, Option.map_none]

def Call.counted : Call σ → Call (Counted σ)
  | .write text => .write text
  | .clear => .clear
  | .resize cols rows => .resize cols rows
  | .fit => .fit
  | .render => .render
  | .attach surface => .attach (.fresh surface)
  | .detach => .detach
  | .listen note => .listen note
  | .keyDown press => .keyDown press

def Step.counted : Step σ → Step (Counted σ)
  | .call own => .call own.counted
  | .alter change => .alter fun s => { s with surface := change s.surface }

def uncounted (c : Terminal (Counted σ)) : Terminal σ where
  emulator := c.emulator
  painter := c.painter
  font := c.font
  surface := c.surface.map Counted.surface
  listener := c.listener
  notes := c.notes
  faulted := c.faulted

def count (c : Terminal (Counted σ)) : Option Nat := c.surface.map Counted.frames

variable (c : Terminal (Counted σ))

theorem uncounted_display (screen : Screen) :
    (c.display screen).uncounted = c.uncounted.display screen := by
  rw [display, display, render_eq, render_eq]
  simp only [uncounted, Option.map_map, Option.isSome_map, mk.injEq, true_and]
  exact ⟨congrArg (c.surface.map ·) (funext (Counted.surface_painted c.painter screen)), rfl⟩

theorem uncounted_getD (frame : Option Screen) {other : Terminal (Counted σ)} {t : Terminal σ}
    (h : other.uncounted = t) :
    ((frame.map c.display).getD other).uncounted = (frame.map c.uncounted.display).getD t := by
  cases frame with
  | none => exact h
  | some screen => exact c.uncounted_display screen

theorem fitted?_uncounted : c.uncounted.fitted? = c.fitted? := by
  unfold fitted?
  change (c.surface.map Counted.surface).bind _ = _
  rw [Option.bind_map]
  rfl

theorem prepare_fresh (font : Font) (surface : σ) :
    prepare font (Counted.fresh surface) =
      ((prepare font surface).1, Counted.fresh (prepare font surface).2) := by
  have hattach : Surface.attach (Counted.fresh surface) =
    ((Surface.attach surface).1, Counted.fresh (Surface.attach surface).2) := rfl
  unfold prepare
  rw [hattach]
  rcases Surface.attach surface with ⟨_ | _, attached⟩ <;> rfl

theorem uncounted_refresh : c.refresh.uncounted = c.uncounted.refresh := by
  rw [refresh, refresh, fit?_eq, fit?_eq, fitted?_uncounted]
  exact c.uncounted_getD _ (c.uncounted_display c.screen)

theorem attach_fresh (surface : σ) :
    c.attach (.fresh surface) = match prepare c.font surface with
      | (.error e, refused) => .error (e, .fresh refused)
      | (.ok cell, ready) => .ok ((c.holding cell (.fresh ready)).refresh, c.surface) := by
  rw [attach_eq, prepare_fresh]
  rcases prepare c.font surface with ⟨_ | cell, ready⟩ <;> rfl

theorem uncounted_perform (call : Call σ) :
    (c.perform call.counted).uncounted = c.uncounted.perform call := by
  cases call with
  | write text => exact uncounted_display { c with emulator := c.emulator.write text } _
  | clear => exact c.uncounted_display _
  | resize cols rows => exact c.uncounted_getD _ rfl
  | fit =>
    rw [Call.counted, perform, perform, fit?_eq, fit?_eq, fitted?_uncounted]
    exact c.uncounted_getD _ rfl
  | render => exact c.uncounted_display c.screen
  | attach surface =>
    rw [Call.counted, perform_attach_eq, perform_attach_eq, prepare_fresh]
    change _ = match prepare c.font surface with
      | (.error _, _) => c.uncounted
      | (.ok cell, ready) => (c.uncounted.holding cell ready).refresh
    rcases prepare c.font surface with ⟨_ | cell, ready⟩
    · rfl
    · exact uncounted_refresh _
  | detach => rfl
  | listen note => rfl
  | keyDown press =>
    rw [Call.counted, perform, perform, keyDown?, keyDown?]
    cases press.encode with
    | none => rfl
    | some output =>
      obtain ⟨emulator, painter, font, surface, listener, notes⟩ := c
      cases listener <;> rfl

theorem uncounted_take (step : Step σ) :
    (c.take step.counted).uncounted = c.uncounted.take step := by
  cases step with
  | call call => exact c.uncounted_perform call
  | alter change =>
    simp only [Step.counted, take, uncounted, Option.map_map]
    rfl

theorem uncounted_takeAll (steps : List (Step σ)) :
    (c.takeAll (steps.map .counted)).uncounted = c.uncounted.takeAll steps := by
  induction steps generalizing c with
  | nil => rfl
  | cons step steps ih =>
    change ((c.take step.counted).takeAll (steps.map .counted)).uncounted = _
    rw [ih, uncounted_take]
    rfl

variable {c} {cell : Option CellSize}

theorem count_perform (hc : c.LaidOut cell) (hf : c.faulted = false) (call : Call (Counted σ))
    (hkeep : call.keepsSurface) : (c.perform call).count =
      c.count.map (· + ((c.frame? call).isSome && !(c.perform call).faulted).toNat) := by
  have hstep := painted_perform c hkeep
  rw [count, hstep.surface_eq, hstep.faulted_eq, hf, count]
  cases cell with
  | none =>
    rw [hc.surface_eq]
    cases c.frame? call <;> rfl
  | some size =>
    obtain ⟨surface, hs⟩ := Option.isSome_iff_exists.mp hc.arranged.attached
    rw [hs]
    cases c.frame? call with
    | none => rfl
    | some screen => exact congrArg some (Counted.frames_painted hc.arranged.cell_eq screen surface)

theorem count_holding (hc : c.screen.Sound) (size : CellSize) (ready : σ) :
    (c.holding size (.fresh ready)).refresh.count = some 1 := by
  have hframes := Counted.frames_painted (p := (c.holding size (.fresh ready)).painter) rfl
    (c.holding size (.fresh ready)).refresh.screen (.fresh ready)
  rw [faults_holding hc] at hframes
  rw [count, (c.painted_holding size (.fresh ready)).surface_eq]
  exact congrArg some hframes

theorem isSome_resize? (t : Terminal σ) (cols rows : UInt16) :
    (t.resize? cols rows).isSome ↔
      (t.perform (.resize cols rows)).screen.size ≠ t.screen.size := by
  rw [screen_perform t (.resize cols rows), resize?_eq, Option.isSome_map,
    ← Option.ne_none_iff_isSome]
  change ¬ _ ↔ (t.screen.perform (.resize cols rows)).size ≠ t.screen.size
  rw [Screen.size_perform_resize, Screen.resize?_eq_none, ne_comm]

/-- A terminal whose calls have returned so far, and the same on counted surfaces: what each further
call returns and adds to the count. Only a resize may fault. -/
structure Accounts (t : Terminal σ) (c : Terminal (Counted σ)) : Prop where
  returns {call : Call σ} : (∀ cols rows, call ≠ .resize cols rows) →
    (t.perform call).faulted = false
  write (text : String) : (c.write text).count = c.count.map (· + 1)
  clear : c.clear.count = c.count.map (· + 1)
  render : c.render.count = c.count.map (· + 1)
  resize (cols rows : UInt16) : (c.perform (.resize cols rows)).count = c.count.map
    (· + ((t.resize? cols rows).isSome && !(t.perform (.resize cols rows)).faulted).toNat)
  resized (cols rows : UInt16) : (t.resize? cols rows).isSome ↔
    (t.perform (.resize cols rows)).screen.size ≠ t.screen.size
  fit : (c.perform .fit).count = c.count.map (· + t.fit?.isSome.toNat)
  -- What a frame or another hand does to the surface between two calls is open but for its size.
  fitted {surface surface' : σ} : t.surface = some surface →
    Surface.size surface' = Surface.size surface →
    ({ t.perform .fit with surface := some surface' } : Terminal σ).fit? = none
  refused {surface refused : σ} {e : SurfaceError} : t.attach surface = .error (e, refused) →
    c.attach (.fresh surface) = .error (e, .fresh refused) ∧
      c.perform (.attach (.fresh surface)) = c
  opened {surface : σ} {t' : Terminal σ} {before : Option σ} :
    t.attach surface = .ok (t', before) → before = t.surface ∧ ∃ c' cell ready,
      c.attach (.fresh surface) = .ok (c', c.surface) ∧ c'.uncounted = t' ∧ c'.count = some 1 ∧
      prepare t.font surface = (.ok cell, ready) ∧
      t'.screen.size = cell.gridSize (Surface.size ready) ∧
      ∀ surface', Surface.size surface' = Surface.size ready →
        ({ t' with surface := some surface' } : Terminal σ).fit? = none
  detach : c.detach.1 = c.surface ∧ c.detach.2.surface = none
  listen (note : String → String) : (c.listen note).surface = c.surface
  keyDown (press : KeyPress) : (c.perform (.keyDown press)).surface = c.surface

theorem count_returned (hc : c.LaidOut cell) (hf : c.faulted = false) (call : Call (Counted σ))
    (hkeep : call.keepsSurface) (hcall : ∀ cols rows, call ≠ .resize cols rows) :
    (c.perform call).count = c.count.map (· + (c.frame? call).isSome.toNat) := by
  rw [count_perform hc hf call hkeep, faulted_perform_eq_false hc hf call hcall, Bool.not_false,
    Bool.and_true]

theorem LaidOut.accounts {cell' : Option CellSize} (hc : c.LaidOut cell)
    (ht : c.uncounted.LaidOut cell') (hf : c.faulted = false) : Accounts c.uncounted c where
  returns := faulted_perform_eq_false ht hf _
  write text := count_returned hc hf (.write text) rfl nofun
  clear := count_returned hc hf .clear rfl nofun
  render := count_returned hc hf .render rfl nofun
  resize cols rows := by
    rw [← c.uncounted_perform (.resize cols rows), resize?_eq, Option.isSome_map]
    exact count_perform hc hf (.resize cols rows) rfl
  resized := isSome_resize? c.uncounted
  fit := by
    rw [fit?_eq, Option.isSome_map, fitted?_uncounted]
    exact count_returned hc hf .fit rfl nofun
  fitted := by
    intro surface surface' hs hsize
    cases cell' with
    | none => cases hs.symm.trans ht.surface_eq
    | some size =>
      have hstep := c.uncounted.painted_perform (show Call.keepsSurface .fit from rfl)
      have hcell := ht.arranged.cell_eq
      exact fit?_of_fitted (hstep.painter_eq ▸ hcell) (size_perform_fit hs hcell) hsize
  refused := by
    intro surface refused e h
    have hprepare : prepare c.font surface = (.error e, refused) := attach_eq_error h
    have hcounted := c.attach_fresh surface
    rw [hprepare] at hcounted
    exact ⟨hcounted, by rw [perform, hcounted]; rfl⟩
  opened := by
    intro surface t' before h
    obtain ⟨cell, ready, hprepare, rfl, rfl⟩ := attach_eq_ok h
    have hcounted := c.attach_fresh surface
    rw [show prepare c.font surface = _ from hprepare] at hcounted
    have hsize := size_holding c.uncounted cell ready
    have hcell : (c.uncounted.holding cell ready).refresh.painter.cellSize = some cell := by
      rw [(painted_holding _ _ _).painter_eq]
      rfl
    exact ⟨rfl, _, cell, ready, hcounted, uncounted_refresh _, count_holding hc.1 cell ready, hprepare,
      hsize, fun _ => fit?_of_fitted hcell hsize⟩
  detach := ⟨rfl, rfl⟩
  listen note := rfl
  keyDown press := (c.painted_keyDown press).surface_eq

theorem calls_present_frames (settings : Settings) (steps : List (Step σ)) :
    let t : Terminal σ := (new settings).takeAll steps
    let c : Terminal (Counted σ) := (new settings).takeAll (steps.map .counted)
    c.uncounted = t ∧ (t.faulted = false → Accounts t c) := by
  intro t c
  have hsame : c.uncounted = t := uncounted_takeAll (new settings) steps
  have hc : c.LaidOut _ := laidOut_takeAll settings (steps.map .counted)
  have ht : t.LaidOut _ := laidOut_takeAll settings steps
  refine ⟨hsame, ?_⟩
  rw [← hsame] at ht ⊢
  exact hc.accounts ht

theorem calls_present_frames_attached :
    let settings := { Settings.standard with cols := 3, rows := 2 }
    let steps : List (Step Canvas) := [.call (.attach (.blank 4 2)), .call (.write "a")]
    let t : Terminal Canvas := (new settings).takeAll steps
    let c : Terminal (Counted Canvas) := (new settings).takeAll (steps.map .counted)
    t.faulted = false ∧ c.count = some 2 ∧ c.clear.count = some 3 ∧
      (c.perform (.resize 2 2)).count = some 3 ∧ (c.perform .fit).count = some 2 := by
  intro settings steps t c
  obtain ⟨-, h⟩ := calls_present_frames settings steps
  have hreturned : t.faulted = false := by decide +kernel
  have hcount : c.count = some 2 := by decide +kernel
  have hafter := h hreturned
  refine ⟨hreturned, hcount, ?_, ?_, ?_⟩
  · exact hafter.clear.trans (congrArg (Option.map (· + 1)) hcount)
  · refine (hafter.resize 2 2).trans ?_
    rw [hcount]
    decide +kernel
  · refine hafter.fit.trans ?_
    rw [hcount]
    decide +kernel

end Terminal

end TermView
