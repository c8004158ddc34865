import TermView.Proofs.SessionFrames

/-!
What a session asks of its console. From when raw mode is on, every way out of the session leaves the
console's own screen and raw mode once, and a surface that has been given back is not given back again
when it is thrown away. Frames are shown in between only.
-/

namespace TermView

namespace Console

structure Display.InUse (d : Display) : Prop where
  attached : d.attached
  calls_eq : ∃ frames : List (List Command),
    d.device.calls.toList = .enableRawMode :: .enterScreen :: frames.map .showFrame

def Restored (calls : List Call) : Prop :=
  ∃ frames : List (List Command),
    calls = .enableRawMode :: .enterScreen :: frames.map .showFrame ++ [.leaveScreen, .disableRawMode]

theorem Restored.counts {calls : List Call} (h : Restored calls) :
    calls.count .leaveScreen = 1 ∧ calls.count .disableRawMode = 1 := by
  obtain ⟨frames, rfl⟩ := h
  have hframes {call : Call} (hcall : ∀ commands, Call.showFrame commands ≠ call) :
      (frames.map Call.showFrame).count call = 0 := by
    apply List.count_eq_zero.mpr
    intro hmem
    obtain ⟨commands, -, he⟩ := List.mem_map.mp hmem
    exact hcall commands he
  constructor <;> simp [hframes]

theorem Restored.head {calls : List Call} (h : Restored calls) : calls[0]? = some .enableRawMode := by
  obtain ⟨frames, rfl⟩ := h
  rfl

theorem Restored.frame_between {calls : List Call} (h : Restored calls) {i : Nat}
    {commands : List Command} (hi : calls[i]? = some (.showFrame commands)) :
    0 < i ∧ ∀ j < i, calls[j]? ≠ some .leaveScreen ∧ calls[j]? ≠ some .disableRawMode := by
  obtain ⟨frames, rfl⟩ := h
  generalize hopening : Call.enableRawMode :: .enterScreen :: frames.map Call.showFrame = opening at hi ⊢
  have hlt : i < opening.length := by
    apply Nat.lt_of_not_le
    intro hge
    rw [List.getElem?_append_right hge] at hi
    have hmem := List.mem_of_getElem? hi
    simp at hmem
  have hkept : .leaveScreen ∉ opening ∧ .disableRawMode ∉ opening := by simp [← hopening]
  constructor
  · apply Nat.pos_of_ne_zero
    rintro rfl
    rw [← hopening] at hi
    cases hi
  · intro j hj
    rw [List.getElem?_append_left (Nat.lt_trans hj hlt)]
    constructor
    · exact fun hleave => hkept.1 (List.mem_of_getElem? hleave)
    · exact fun hdisable => hkept.2 (List.mem_of_getElem? hdisable)

namespace Display

variable {d : Display}

theorem InUse.present (h : d.InUse) : (Surface.present d).2.InUse := by
  obtain ⟨frames, hcalls⟩ := h.calls_eq
  change d.present.2.InUse
  rw [Display.present, if_pos h.attached]
  refine ⟨h.attached, frames ++ [frame d.canvas], ?_⟩
  simp [Device.call, hcalls]

theorem InUse.painted (h : d.InUse) (p : Painter) (screen : Screen) :
    (p.painted screen d).InUse := by
  refine Painter.painted_related (R := fun (d _ : Display) => d.InUse) ?_ ?_ ?_ p screen (t := d) h
  · intro d _ r color opacity h
    exact ⟨h.attached, h.calls_eq⟩
  · intro d _ char x y color h
    exact ⟨h.attached, h.calls_eq⟩
  · intro d _ h
    exact h.present

theorem InUse.restore (h : d.InUse) : Restored d.restore.2.device.calls.toList := by
  obtain ⟨frames, hcalls⟩ := h.calls_eq
  rw [Display.restore, if_pos h.attached]
  refine ⟨frames, ?_⟩
  simp [Device.call, hcalls]

theorem discard_of_not_attached (h : ¬ d.attached) : d.discard = d.device := by
  rw [discard, Display.restore, if_neg h]

theorem not_attached_restore (d : Display) : ¬ d.restore.2.attached := by
  unfold Display.restore
  split
  · exact Bool.false_ne_true
  · assumption

theorem discard_restore (d : Display) : d.restore.2.discard = d.restore.2.device :=
  discard_of_not_attached d.not_attached_restore

theorem attach_new (outcomes : List (Option String)) (cols rows : UInt16) :
    ∃ result d, Surface.attach (new ⟨outcomes, #[]⟩ cols rows) = (result, d) ∧
      if outcomes[0]?.join = none then d.InUse
      else (∃ e, result = .error e) ∧ ¬ d.attached ∧ d.device.calls.toList = [.enableRawMode] := by
  refine ⟨_, _, rfl, ?_⟩
  rcases outcomes with _ | ⟨_ | reason, outcomes⟩
  · exact ⟨rfl, [], rfl⟩
  · exact ⟨rfl, [], rfl⟩
  · exact ⟨⟨_, rfl⟩, Bool.false_ne_true, rfl⟩

end Display

end Console

namespace Session

open Console (Call Command Device Display Event Restored)

variable {t : Session}

def InUse (t : Session) : Prop := ∃ display, t.surface = some display ∧ display.InUse

theorem InUse.setNotes (h : InUse t) (notes : Array String) : InUse { t with notes } := h

theorem InUse.of_painted {t' : Session} {frame : Option Screen} (h : InUse t)
    (hpainted : Terminal.Painted t t' frame) : InUse t' := by
  obtain ⟨display, hd, hused⟩ := h
  rw [InUse, hpainted.surface_eq, hd]
  cases frame with
  | none => exact ⟨display, rfl, hused⟩
  | some screen => exact ⟨_, rfl, hused.painted t.painter screen⟩

theorem InUse.perform (h : InUse t) (call : Terminal.Call Display) (hcall : call.keepsSurface) :
    InUse (t.perform call) := h.of_painted (Terminal.painted_perform t hcall)

theorem InUse.refresh (h : InUse t) : InUse t.refresh := by
  rw [Terminal.refresh, Terminal.fit?_eq]
  cases t.fitted? with
  | none => exact h.perform .render rfl
  | some screen => exact h.of_painted (Terminal.painted_display t screen)

theorem InUse.answer (h : InUse t) : InUse t.answer := by
  unfold Terminal.answer
  dsimp only
  split
  · exact h.setNotes #[]
  · exact (h.setNotes #[]).perform (.write _) rfl

theorem InUse.handle? (h : InUse t) {e : Event} {t' : Session} (ht : t.handle? e = some t') :
    InUse t' := by
  cases e with
  | key e =>
    rw [Session.handle?] at ht
    split at ht
    · cases ht
      exact h
    · split at ht
      · cases ht
      · cases ht
        exact (h.perform (.keyDown _) rfl).answer
  | resize cols rows =>
    cases ht
    obtain ⟨display, hd, hused⟩ := h
    apply InUse.refresh
    refine ⟨display.resize cols rows, ?_, hused.attached, hused.calls_eq⟩
    rw [hd]
    rfl
  | other =>
    cases ht
    exact h

theorem InUse.serve (h : InUse t) (events : List (Except String Event)) :
    InUse (t.serve events).2 := by
  induction events generalizing t with
  | nil => exact h
  | cons event events ih =>
    cases event with
    | error reason => exact h
    | ok e =>
      rw [Session.serve]
      cases ht : t.handle? e with
      | none => exact h
      | some t' => exact ih (h.handle? ht)

theorem InUse.finish (h : InUse t) (result : Except SessionError Unit) (device : Device) :
    Restored (t.finish result device).2.calls.toList := by
  obtain ⟨display, hd, hused⟩ := h
  have hrestored := hused.restore
  -- Throwing a restored surface away asks for nothing more, also if restoring failed.
  rw [← display.discard_restore] at hrestored
  unfold Session.finish
  rw [Terminal.detach, hd]
  dsimp only
  generalize display.restore = restored at hrestored ⊢
  rcases restored with ⟨_ | _, display⟩ <;> exact hrestored

theorem start_inUse (outcomes : List (Option String)) (cols rows : UInt16) (settings : Settings)
    (replay : Option String) :
    match start ⟨outcomes, #[]⟩ cols rows settings replay with
    | .error (_, device) => if outcomes[0]?.join = none then Restored device.calls.toList
      else device.calls.toList = [.enableRawMode]
    | .ok t => outcomes[0]?.join = none ∧ InUse t := by
  obtain ⟨result, display, hattach, hd⟩ := Display.attach_new outcomes cols rows
  unfold start Terminal.attach
  dsimp only
  rw [hattach]
  by_cases hraw : outcomes[0]?.join = none
  · rw [if_pos hraw] at hd
    rcases result with e | _
    · dsimp only
      rw [if_pos hraw]
      exact hd.restore
    · dsimp only
      rw [CellSize.measure_display]
      refine ⟨hraw, ?_⟩
      refine InUse.perform ?_ (.write banner) rfl
      have hopened {t : Session} (ht : t.surface = some (Surface.setFont display t.font)) :
          InUse t.refresh := InUse.refresh ⟨_, ht, hd.attached, hd.calls_eq⟩
      cases replay with
      | none => exact hopened rfl
      | some text => exact (hopened rfl).perform (.write text) rfl
  · rw [if_neg hraw] at hd
    obtain ⟨⟨e, rfl⟩, hattached, hcalls⟩ := hd
    dsimp only
    rw [if_neg hraw, Display.discard_of_not_attached hattached]
    exact hcalls

theorem calls_run (outcomes : List (Option String)) (area : UInt16 × UInt16) (settings : Settings)
    (replay : Option String) (events : List (Except String Event)) :
    let calls := (run ⟨outcomes, #[]⟩ (.ok area) settings replay events).2.calls.toList
    if outcomes[0]?.join = none then Restored calls else calls = [.enableRawMode] := by
  have hstart := start_inUse outcomes area.1 area.2 settings replay
  dsimp only [run]
  rcases hs : start ⟨outcomes, #[]⟩ area.1 area.2 settings replay with ⟨e, device⟩ | t
  · rw [hs] at hstart
    exact hstart
  · rw [hs] at hstart
    obtain ⟨hraw, hused⟩ := hstart
    rw [if_pos hraw]
    exact (hused.serve events).finish _ _

variable {outcomes : List (Option String)} {calls : List Call}

def RawModeOn (outcomes : List (Option String)) (calls : List Call) (i : Nat) : Prop :=
  calls[i]? = some .enableRawMode ∧ outcomes[i]?.join = none

def Refused (outcomes : List (Option String)) (calls : List Call) : Prop :=
  calls = [] ∨ calls = [.enableRawMode] ∧ outcomes[0]?.join ≠ none

theorem Refused.not_on (h : Refused outcomes calls) : ¬ ∃ i, RawModeOn outcomes calls i := by
  rintro ⟨i, hi, hraw⟩
  rcases h with rfl | ⟨rfl, hoff⟩
  · cases hi
  · cases i with
    | zero => exact hoff hraw
    | succ i => cases hi

theorem Refused.eq_of_mem (h : Refused outcomes calls) {call : Call} (hcall : call ∈ calls) :
    call = .enableRawMode := by
  rcases h with rfl | ⟨rfl, -⟩
  · cases hcall
  · exact List.mem_singleton.mp hcall

theorem Refused.counts (h : Refused outcomes calls) :
    calls.count .leaveScreen = 0 ∧ calls.count .disableRawMode = 0 := by
  constructor
  · exact List.count_eq_zero.mpr fun hleave => nomatch h.eq_of_mem hleave
  · exact List.count_eq_zero.mpr fun hdisable => nomatch h.eq_of_mem hdisable

theorem restored_or_refused (outcomes : List (Option String))
    (size : Except String (UInt16 × UInt16)) (settings : Settings) (replay : Option String)
    (events : List (Except String Event)) :
    let calls := (run ⟨outcomes, #[]⟩ size settings replay events).2.calls.toList
    ((∃ area, size = .ok area) ∧ outcomes[0]?.join = none) ∧ Restored calls ∨
      ¬ ((∃ area, size = .ok area) ∧ outcomes[0]?.join = none) ∧ Refused outcomes calls := by
  intro calls
  rcases size with reason | area
  · refine .inr ⟨?_, .inl rfl⟩
    rintro ⟨⟨area, harea⟩, -⟩
    cases harea
  · have hcalls := calls_run outcomes area settings replay events
    by_cases hraw : outcomes[0]?.join = none
    · exact .inl ⟨⟨⟨area, rfl⟩, hraw⟩, (if_pos hraw).mp hcalls⟩
    · exact .inr ⟨fun h => hraw h.2, .inr ⟨(if_neg hraw).mp hcalls, hraw⟩⟩

/-- If a call switches raw mode on, the screen and raw mode are left once; if none does, neither is
left. All frames are shown in between. -/
theorem run_restores_console (outcomes : List (Option String))
    (size : Except String (UInt16 × UInt16)) (settings : Settings) (replay : Option String)
    (events : List (Except String Event)) :
    let calls := (run ⟨outcomes, #[]⟩ size settings replay events).2.calls.toList
    ((∃ i, RawModeOn outcomes calls i) ↔ (∃ area, size = .ok area) ∧ outcomes[0]?.join = none) ∧
    ((∃ i, RawModeOn outcomes calls i) →
      calls.count .leaveScreen = 1 ∧ calls.count .disableRawMode = 1) ∧
    ((¬ ∃ i, RawModeOn outcomes calls i) →
      calls.count .leaveScreen = 0 ∧ calls.count .disableRawMode = 0) ∧
    ∀ i commands, calls[i]? = some (.showFrame commands) →
      (∃ j < i, RawModeOn outcomes calls j) ∧
        ∀ j < i, calls[j]? ≠ some .leaveScreen ∧ calls[j]? ≠ some .disableRawMode := by
  intro calls
  rcases restored_or_refused outcomes size settings replay events with
    ⟨hopened, hrestored⟩ | ⟨hopened, hrefused⟩
  · have hon : RawModeOn outcomes calls 0 := ⟨hrestored.head, hopened.2⟩
    refine ⟨iff_of_true ⟨0, hon⟩ hopened, fun _ => hrestored.counts, ?_, ?_⟩
    · exact fun hoff => absurd ⟨0, hon⟩ hoff
    · intro i commands hi
      obtain ⟨hpos, hbefore⟩ := hrestored.frame_between hi
      exact ⟨⟨0, hpos, hon⟩, hbefore⟩
  · have hoff := hrefused.not_on
    refine ⟨iff_of_false hoff hopened, fun hon => absurd hon hoff, fun _ => hrefused.counts, ?_⟩
    intro i commands hi
    cases hrefused.eq_of_mem (List.mem_of_getElem? hi)

end Session

end TermView
