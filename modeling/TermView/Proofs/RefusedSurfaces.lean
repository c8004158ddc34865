import TermView.Proofs.TerminalFrames
import TermView.Surface.Recorder

namespace TermView.Terminal

variable {σ : Type} [Surface σ]

/-- Takes a surface over one change at a time. An error leaves the changes made before it. -/
def attachInPlace (surface : σ) : ExceptT (SurfaceError × σ) (StateM (Terminal σ)) (Option σ) := do
  let (outcome, surface) := Surface.attach surface
  match outcome with
  | .error e => throw (e, surface)
  | .ok () =>
    let surface := Surface.setFont surface (← get).font
    match CellSize.measure surface with
    | .error e => throw (e, surface)
    | .ok cell =>
      modify fun t => { t with painter.cellSize := some cell }
      let before := (← get).surface
      modify fun t => { t with surface := some surface }
      modify refresh
      return before

theorem run_attachInPlace (t : Terminal σ) (surface : σ) :
    (attachInPlace surface).run t = match t.attach surface with
      | .error refused => (.error refused, t)
      | .ok (t', before) => (.ok before, t') := by
  have hget (next : Terminal σ → ExceptT (SurfaceError × σ) (StateM (Terminal σ)) (Option σ)) :
      (get >>= next).run t = (next t).run t := rfl
  rw [attach_eq]
  unfold attachInPlace prepare
  rcases Surface.attach surface with ⟨e | _, attached⟩
  · rfl
  · dsimp only
    rw [hget]
    cases CellSize.measure (Surface.setFont attached t.font) <;> rfl

inductive Refused (font : Font) (surface refused : σ) (e : SurfaceError) : Prop where
  | attach : Surface.attach surface = (.error e, refused) → Refused font surface refused e
  | measure (attached : σ) : Surface.attach surface = (.ok (), attached) →
    Surface.setFont attached font = refused → CellSize.measure refused = .error e →
    Refused font surface refused e

theorem prepare_eq_error {font : Font} {surface refused : σ} {e : SurfaceError} :
    prepare font surface = (.error e, refused) ↔ Refused font surface refused e := by
  constructor
  · intro h
    rcases hattach : Surface.attach surface with ⟨_ | _, attached⟩
    · rw [prepare, hattach] at h
      cases h
      exact .attach hattach
    · rw [prepare_of_attach hattach] at h
      obtain ⟨hmeasure, hrefused⟩ := Prod.mk.inj h
      exact .measure attached hattach hrefused (hrefused ▸ hmeasure)
  · rintro (hattach | ⟨attached, hattach, rfl, hmeasure⟩)
    · rw [prepare, hattach]
    · rw [prepare_of_attach hattach, hmeasure]

theorem attach_refused {t : Terminal σ} {surface refused : σ} {e : SurfaceError}
    (h : Refused t.font surface refused e) : t.attach surface = .error (e, refused) := by
  rw [attach_eq, prepare_eq_error.mpr h]

inductive Result (σ : Type) where
  | done
  | changed (changed : Bool)
  | attached (before : Option σ)
  | refused (e : SurfaceError) (surface : σ)
  | detached (surface : Option σ)

def result (t : Terminal σ) : Step σ → Result σ
  | .call (.resize cols rows) => .changed (t.resize? cols rows).isSome
  | .call .fit => .changed t.fit?.isSome
  | .call (.keyDown press) => .changed (t.keyDown? press).isSome
  | .call (.attach surface) => match t.attach surface with
    | .error (e, refused) => .refused e refused
    | .ok (_, before) => .attached before
  | .call .detach => .detached t.detach.1
  | .call (.write _) | .call .clear | .call .render | .call (.listen _) | .alter _ => .done

def results (t : Terminal σ) : List (Step σ) → List (Result σ)
  | [] => []
  | step :: steps => t.result step :: (t.take step).results steps

theorem results_append (t : Terminal σ) (earlier later : List (Step σ)) :
    t.results (earlier ++ later) = t.results earlier ++ (t.takeAll earlier).results later := by
  induction earlier generalizing t with
  | nil => rfl
  | cons step earlier ih => exact congrArg _ (ih (t.take step))

theorem font_take (t : Terminal σ) (step : Step σ) : (t.take step).font = t.font := by
  cases step with
  | alter change => rfl
  | call call =>
    cases call with
    | attach surface =>
      rw [take, perform_attach_eq]
      rcases prepare t.font surface with ⟨_ | cell, ready⟩
      · rfl
      · dsimp only
        rw [refresh_holding]
        rfl
    | detach => rfl
    | write | clear | resize | fit | render | listen | keyDown =>
      exact (painted_perform t rfl).font_eq

theorem font_takeAll (t : Terminal σ) (steps : List (Step σ)) :
    (t.takeAll steps).font = t.font := by
  induction steps generalizing t with
  | nil => rfl
  | cons step steps ih => exact (ih (t.take step)).trans (t.font_take step)

theorem refused_surface_changes_nothing {t : Terminal σ} {surface refused : σ} {e : SurfaceError}
    (h : Refused t.font surface refused e) (earlier later : List (Step σ)) :
    let opening : Step σ := .call (.attach surface)
    let reached := t.takeAll earlier
    (attachInPlace surface).run reached = (.error (e, refused), reached) ∧
    t.takeAll (earlier ++ opening :: later) = t.takeAll (earlier ++ later) ∧
    t.results (earlier ++ opening :: later) =
      t.results earlier ++ .refused e refused :: reached.results later ∧
    t.results (earlier ++ later) = t.results earlier ++ reached.results later := by
  intro opening reached
  have hattach : reached.attach surface = .error (e, refused) := by
    apply attach_refused
    rwa [font_takeAll]
  have htake : reached.take opening = reached := by
    change ((reached.attach surface).map Prod.fst).toOption.getD reached = reached
    rw [hattach]
    rfl
  have hresult : reached.result opening = .refused e refused := by
    simp only [opening, result, hattach]
  refine ⟨?_, ?_, ?_, t.results_append earlier later⟩
  · rw [run_attachInPlace, hattach]
  · rw [takeAll_append, takeAll_append]
    exact congrArg (takeAll · later) htake
  · rw [results_append, results, htake, hresult]

theorem refused_surface_changes_nothing_sequence :
    let t : Terminal Recorder := .new .standard
    let usable : Recorder := ⟨.blank 4 2, none, none, none, false, #[], 0⟩
    let flat : Recorder := { usable with metrics := some (.zero, .one) }
    let refused := Surface.setFont flat t.font
    let e : SurfaceError := .unusableMetrics .zero .one
    let earlier : List (Step Recorder) := [.call (.attach usable), .call (.write "ab\x1b[3")]
    let later : List (Step Recorder) := [.call (.write "1m"), .call .detach]
    let reached := t.takeAll earlier
    Refused t.font flat refused e ∧
    (attachInPlace flat).run reached = (.error (e, refused), reached) ∧
    t.results (earlier ++ .call (.attach flat) :: later) =
      t.results earlier ++ .refused e refused :: reached.results later := by
  intro t usable flat refused e earlier later reached
  have hmeasure : CellSize.measure refused = .error e := by
    have hnarrow : Binary32.zero < .half := by decide
    have hwidth : Surface.glyphWidth refused 'M' = .zero := rfl
    have hheight : Surface.lineHeight refused = .one := rfl
    rw [CellSize.measure, hwidth, hheight, if_pos (.inr (.inl hnarrow))]
  have hrefused : Refused t.font flat refused e := .measure flat rfl rfl hmeasure
  obtain ⟨hrun, -, hresults, -⟩ := refused_surface_changes_nothing hrefused earlier later
  exact ⟨hrefused, hrun, hresults⟩

end TermView.Terminal
