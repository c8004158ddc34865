import TermView.Proofs.FrameDrawings
import TermView.Proofs.TerminalSteps

namespace TermView.Terminal

variable {σ : Type} [Surface σ]

def display (t : Terminal σ) (screen : Screen) : Terminal σ :=
  render { t with emulator.screen := screen }

theorem render_eq (t : Terminal σ) : t.render = { t with
    surface := t.surface.map (t.painter.painted t.screen)
    faulted := t.faulted || (t.surface.isSome && t.painter.faults t.screen) } := by
  have hfaulted (surface : σ) : (t.painter.paint? t.emulator.screen surface).isNone =
      t.painter.faults t.screen := t.painter.isNone_paint? t.screen surface
  have hsurface (surface : σ) : (t.painter.paint? t.emulator.screen surface).or (some surface) =
      some (t.painter.painted t.screen surface) := by
    rw [Painter.painted, screen]
    cases t.painter.paint? t.emulator.screen surface <;> rfl
  unfold render
  cases t.surface with
  | none => rfl
  | some surface => simp only [Option.bind_some, hfaulted, hsurface, Option.map_some]

theorem resize?_eq (t : Terminal σ) (cols rows : UInt16) :
    t.resize? cols rows = (t.screen.resize? cols rows).map t.display := rfl

def fitted? (t : Terminal σ) : Option Screen := do
  let surface ← t.surface
  let cell ← t.painter.cellSize
  let (cols, rows) := cell.gridSize (Surface.size surface)
  t.screen.resize? cols rows

theorem fit?_eq (t : Terminal σ) : t.fit? = t.fitted?.map t.display := by
  unfold fit? fitted?
  cases t.surface with
  | none => rfl
  | some surface => cases t.painter.cellSize <;> rfl

theorem refresh_eq {t : Terminal σ} {surface : σ} {cell : CellSize} (hs : t.surface = some surface)
    (hc : t.painter.cellSize = some cell) :
    t.refresh = t.display (t.screen.perform (.resize (cell.gridSize (Surface.size surface)).1
      (cell.gridSize (Surface.size surface)).2)) := by
  have hfitted : t.fitted? = t.screen.resize? (cell.gridSize (Surface.size surface)).1
      (cell.gridSize (Surface.size surface)).2 := by
    rw [fitted?, hs, hc]
    rfl
  rw [refresh, fit?_eq, hfitted, Screen.perform]
  cases t.screen.resize? _ _ <;> rfl

theorem refresh_holding (t : Terminal σ) (cell : CellSize) (surface : σ) :
    (t.holding cell surface).refresh = (t.holding cell surface).display
      (t.screen.perform (.resize (cell.gridSize (Surface.size surface)).1
        (cell.gridSize (Surface.size surface)).2)) :=
  refresh_eq rfl rfl

def Call.keepsSurface : Call σ → Bool
  | .attach _ | .detach => false
  | _ => true

def frame? (t : Terminal σ) : Call σ → Option Screen
  | .write text => some (t.emulator.write text).screen
  | .clear => some (t.screen.clear .whole)
  | .resize cols rows => t.screen.resize? cols rows
  | .fit => t.fitted?
  | .render => some t.screen
  | .attach _ | .detach | .listen _ | .keyDown _ => none

structure Painted (t t' : Terminal σ) (frame : Option Screen) : Prop where
  surface_eq : t'.surface = frame.elim t.surface fun screen => t.surface.map (t.painter.painted screen)
  screen_eq : t'.screen = frame.getD t.screen
  painter_eq : t'.painter = t.painter
  font_eq : t'.font = t.font
  faulted_eq : t'.faulted = (t.faulted || (t.surface.isSome && frame.any t.painter.faults))

theorem Painted.isSome_surface {t t' : Terminal σ} {frame : Option Screen}
    (h : Painted t t' frame) : t'.surface.isSome = t.surface.isSome := by
  rw [h.surface_eq]
  cases frame with
  | none => rfl
  | some screen => exact Option.isSome_map

theorem painted_refl (t : Terminal σ) : Painted t t none := by
  refine ⟨rfl, rfl, rfl, rfl, ?_⟩
  rw [Option.any_none, Bool.and_false, Bool.or_false]

theorem painted_display (t : Terminal σ) (screen : Screen) :
    Painted t (t.display screen) (some screen) := by
  rw [display, render_eq]
  exact ⟨rfl, rfl, rfl, rfl, rfl⟩

theorem painted_holding (t : Terminal σ) (cell : CellSize) (surface : σ) :
    Painted (t.holding cell surface) (t.holding cell surface).refresh
      (some (t.holding cell surface).refresh.screen) := by
  rw [refresh_holding]
  exact painted_display _ _

theorem painted_getD (t : Terminal σ) (frame : Option Screen) :
    Painted t ((frame.map t.display).getD t) frame := by
  cases frame with
  | none => exact painted_refl t
  | some screen => exact painted_display t screen

theorem painted_keyDown (t : Terminal σ) (press : KeyPress) :
    Painted t ((t.keyDown? press).getD t) none := by
  unfold keyDown?
  cases press.encode with
  | none => exact painted_refl t
  | some output =>
    rw [Option.map_some, Option.getD_some]
    cases t.listener <;> exact { painted_refl t with }

theorem painted_perform (t : Terminal σ) {call : Call σ} (h : call.keepsSurface) :
    Painted t (t.perform call) (t.frame? call) := by
  cases call with
  | write text => exact { painted_display { t with emulator := t.emulator.write text } _ with }
  | clear => exact painted_display t _
  | resize cols rows => exact painted_getD t _
  | fit =>
    rw [perform, fit?_eq]
    exact painted_getD t _
  | render => exact painted_display t _
  | attach surface | detach => cases h
  | listen note => exact { painted_refl t with }
  | keyDown press => exact painted_keyDown t press

def frames (t : Terminal σ) : List (Call σ) → List Screen
  | [] => []
  | call :: calls => (t.frame? call).toList ++ (t.perform call).frames calls

theorem surface_performAll (t : Terminal σ) {calls : List (Call σ)}
    (h : ∀ call ∈ calls, call.keepsSurface) :
    (t.performAll calls).surface = t.surface.map fun surface =>
      (t.frames calls).foldl (fun surface screen => t.painter.painted screen surface) surface := by
  induction calls generalizing t with
  | nil => simp [frames, performAll]
  | cons call calls ih =>
    obtain ⟨hcall, hcalls⟩ := List.forall_mem_cons.mp h
    have hstep := painted_perform t hcall
    change ((t.perform call).performAll calls).surface = _
    rw [ih _ hcalls, hstep.surface_eq, hstep.painter_eq, frames]
    cases t.frame? call with
    | none => rfl
    | some screen => simp [Function.comp_def]

theorem painter_performAll (t : Terminal σ) {calls : List (Call σ)}
    (h : ∀ call ∈ calls, call.keepsSurface) : (t.performAll calls).painter = t.painter := by
  induction calls generalizing t with
  | nil => rfl
  | cons call calls ih =>
    obtain ⟨hcall, hcalls⟩ := List.forall_mem_cons.mp h
    exact (ih _ hcalls).trans (painted_perform t hcall).painter_eq

theorem getLast?_frames (t : Terminal σ) {calls : List (Call σ)}
    (h : ∀ call ∈ calls, call.keepsSurface) :
    (t.screen :: t.frames calls).getLast? = some (t.performAll calls).screen := by
  induction calls generalizing t with
  | nil => rfl
  | cons call calls ih =>
    obtain ⟨hcall, hcalls⟩ := List.forall_mem_cons.mp h
    have hstep := painted_perform t hcall
    have hrest := ih (t.perform call) hcalls
    rw [hstep.screen_eq] at hrest
    change _ = some ((t.perform call).performAll calls).screen
    rw [← hrest, frames]
    cases t.frame? call with
    | none => rfl
    | some screen => exact List.getLast?_cons_cons

theorem sound_perform {t : Terminal σ} (h : t.screen.Sound) (call : Call σ) :
    (t.perform call).screen.Sound := by
  rw [screen_perform]
  exact Screen.sound_performAll h _

theorem sound_take {t : Terminal σ} (h : t.screen.Sound) (step : Step σ) :
    (t.take step).screen.Sound := by
  cases step with
  | call call => exact sound_perform h call
  | alter change => exact h

theorem sound_frame? {t : Terminal σ} (h : t.screen.Sound) {call : Call σ}
    (hcall : call.keepsSurface) : ∀ screen ∈ t.frame? call, screen.Sound := by
  have hnext := sound_perform h call
  intro screen hframe
  rw [(painted_perform t hcall).screen_eq, hframe] at hnext
  exact hnext

theorem sound_frames {t : Terminal σ} (h : t.screen.Sound) {calls : List (Call σ)}
    (hcalls : ∀ call ∈ calls, call.keepsSurface) : ∀ screen ∈ t.frames calls, screen.Sound := by
  induction calls generalizing t with
  | nil => exact List.forall_mem_nil _
  | cons call calls ih =>
    obtain ⟨hcall, hcalls⟩ := List.forall_mem_cons.mp hcalls
    rw [frames, List.forall_mem_append]
    refine ⟨?_, ih (sound_perform h call) hcalls⟩
    intro screen hframe
    exact sound_frame? h hcall screen (Option.mem_toList.mp hframe)

end TermView.Terminal
