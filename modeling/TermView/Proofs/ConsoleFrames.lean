import Mathlib.Data.List.Basic
import TermView.Console.Surface
import TermView.Proofs.CanvasPixels
import TermView.Proofs.Words

/-!
What a console prints for a frame. Colors are sent only where they change, yet a console that carries
the commands out in order prints as if every pixel brought its colors along. So each pixel of the
canvas is printed once, at its place and in its colors, and nothing is printed elsewhere.
-/

namespace TermView

theorem Canvas.getElem?_row {c : Canvas} (h : c.Sound) (x y : Nat) :
    (c.row y)[x]? = c.get? x y := by
  by_cases hy : y < c.height.toNat
  · have hrow : c.row y = (List.range c.width.toNat).map fun x => (c.get? x y).getD .empty := by
      apply List.filterMap_eq_map_iff_forall_eq_some.mpr
      intro i hi
      obtain ⟨p, hp⟩ := Option.isSome_iff_exists.mp
        ((isSome_get? h i y).mpr ⟨List.mem_range.mp hi, hy⟩)
      rw [hp]
      rfl
    rw [hrow, List.getElem?_map]
    by_cases hx : x < c.width.toNat
    · obtain ⟨p, hp⟩ := Option.isSome_iff_exists.mp ((isSome_get? h x y).mpr ⟨hx, hy⟩)
      rw [List.getElem?_range hx, Option.map_some, hp]
      rfl
    · rw [List.getElem?_eq_none (by simpa using hx), get?_eq_none fun hp => hx hp.1]
      rfl
  · have hrow : c.row y = [] := by
      apply List.filterMap_eq_nil_iff.mpr
      intro i _
      exact get?_eq_none fun hp => hy hp.2
    rw [hrow, get?_eq_none fun hp => hy hp.2]
    rfl

namespace Console

theorem not_isControl_printable (c : Char) : ¬ isControl (printable c) := by
  unfold printable
  split
  · decide
  · assumption

structure Mark where
  char : Char
  foreground : Option Rgb
  background : Option Rgb
deriving DecidableEq

def Mark.ofPixel (p : Pixel) : Mark :=
  ⟨if isControl p.char then ' ' else p.char, some p.foreground, some p.background⟩

/-- A console as commands leave it: where it prints next and in which colors, and what it has
printed at each place, the oldest first. -/
structure Monitor where
  col : Nat
  row : Nat
  foreground : Option Rgb
  background : Option Rgb
  marks : Nat → Nat → List Mark

namespace Monitor

def print (m : Monitor) (c : Char) : Monitor :=
  { m with
    col := m.col + 1
    marks := fun x y =>
      if x = m.col ∧ y = m.row then m.marks x y ++ [⟨c, m.foreground, m.background⟩]
      else m.marks x y }

def step (m : Monitor) : Command → Monitor
  | .moveTo col row => { m with col := col.toNat, row := row.toNat }
  | .setForeground c => { m with foreground := some c }
  | .setBackground c => { m with background := some c }
  | .resetColors => { m with foreground := none, background := none }
  | .print c => m.print c
  | .enterAlternateScreen | .leaveAlternateScreen | .hideCursor | .showCursor => m

def run (m : Monitor) (commands : List Command) : Monitor := commands.foldl step m

def draw (m : Monitor) (p : Pixel) : Monitor :=
  print { m with foreground := some p.foreground, background := some p.background }
    (printable p.char)

def Tuned (m : Monitor) (last : Option (Rgb × Rgb)) : Prop :=
  ∀ colors, last = some colors → m.foreground = some colors.1 ∧ m.background = some colors.2

variable {m : Monitor} {last : Option (Rgb × Rgb)}

theorem run_append (m : Monitor) (cs ds : List Command) : m.run (cs ++ ds) = (m.run cs).run ds :=
  List.foldl_append

theorem run_showPixels_cons (h : m.Tuned last) (p : Pixel) (ps : List Pixel) :
    m.run (showPixels last (p :: ps)).1 =
      (m.draw p).run (showPixels (some (p.foreground, p.background)) ps).1 := by
  by_cases hlast : last = some (p.foreground, p.background)
  · obtain ⟨hf, hb⟩ := h _ hlast
    have hsame : { m with foreground := some p.foreground, background := some p.background } = m := by
      rw [← hf, ← hb]
    rw [draw, hsame]
    simp only [showPixels, if_pos hlast]
    rfl
  · simp only [showPixels, if_neg hlast]
    rfl

theorem run_showPixels (h : m.Tuned last) (ps : List Pixel) :
    m.run (showPixels last ps).1 = ps.foldl draw m ∧
      (ps.foldl draw m).Tuned (showPixels last ps).2 := by
  induction ps generalizing m last with
  | nil => exact ⟨rfl, h⟩
  | cons p ps ih =>
    have hp : (m.draw p).Tuned (some (p.foreground, p.background)) := by
      rintro colors ⟨⟩
      exact ⟨rfl, rfl⟩
    have hlast : (showPixels last (p :: ps)).2 =
        (showPixels (some (p.foreground, p.background)) ps).2 := by
      rw [showPixels]
      split <;> rfl
    rw [run_showPixels_cons h, hlast]
    exact ih hp

theorem marks_foldl_draw (m : Monitor) (ps : List Pixel) (x y : Nat) :
    (ps.foldl draw m).marks x y = m.marks x y ++
      if y = m.row ∧ m.col ≤ x then (ps[x - m.col]?.map Mark.ofPixel).toList else [] := by
  induction ps generalizing m with
  | nil => simp
  | cons p ps ih =>
    rw [List.foldl_cons, ih]
    simp only [draw, print]
    by_cases hy : y = m.row
    · rcases Nat.lt_trichotomy x m.col with hx | hx | hx
      · simp [hy, Nat.ne_of_lt hx, Nat.not_le.mpr hx, Nat.not_le.mpr (Nat.lt_succ_of_lt hx)]
      · have hpast : ¬ (y = m.row ∧ m.col + 1 ≤ x) := by omega
        rw [if_neg hpast]
        simp [hy, hx, Mark.ofPixel, printable]
      · obtain ⟨k, hk⟩ : ∃ k, x - m.col = k + 1 := ⟨x - (m.col + 1), by omega⟩
        have hk' : x - (m.col + 1) = k := by omega
        simp [hy, hk, hk', Nat.ne_of_gt hx, Nat.le_of_lt hx, Nat.succ_le_of_lt hx]
    · simp [hy]

theorem marks_showRows (c : Canvas) (h : m.Tuned last) {rows : List Nat} (hnodup : rows.Nodup)
    (hlt : ∀ y ∈ rows, y < 65536) (x y : Nat) :
    (m.run (showRows c last rows)).marks x y = m.marks x y ++
      if y ∈ rows then ((c.row y)[x]?.map Mark.ofPixel).toList else [] := by
  induction rows generalizing m last with
  | nil => simp [showRows, run]
  | cons row rows ih =>
    obtain ⟨hrow, hrest⟩ := List.nodup_cons.mp hnodup
    obtain ⟨hrowlt, hrestlt⟩ := List.forall_mem_cons.mp hlt
    -- going to another place leaves the colors as they are
    let moved : Monitor := { m with col := 0, row := row }
    have hmoved : moved.Tuned last := h
    obtain ⟨hrun, htuned⟩ := run_showPixels hmoved (c.row row)
    have hstep : m.run (showRows c last (row :: rows)) =
        ((c.row row).foldl draw moved).run (showRows c (showPixels last (c.row row)).2 rows) := by
      have hto : m.step (.moveTo 0 (.ofNat row)) = moved := by
        simp only [step, Word.toNat_ofNat hrowlt]
        rfl
      rw [← hrun, ← run_append, ← hto]
      rfl
    rw [hstep, ih htuned hrest hrestlt, marks_foldl_draw]
    by_cases hy : y = row
    · subst hy
      simp [moved, hrow]
    · simp [moved, hy]

theorem marks_frame {c : Canvas} (h : c.Sound) (hheight : c.height.toNat ≤ 65535) (m : Monitor)
    (x y : Nat) :
    (m.run (frame c)).marks x y = m.marks x y ++ ((c.get? x y).map Mark.ofPixel).toList := by
  have htuned : m.Tuned none := by
    rintro colors ⟨⟩
  have hlt : ∀ row ∈ List.range c.height.toNat, row < 65536 := by
    intro row hrow
    have := List.mem_range.mp hrow
    omega
  have hrows := marks_showRows c htuned List.nodup_range hlt x y
  rw [frame, run_append]
  refine Eq.trans hrows ?_
  rw [Canvas.getElem?_row h]
  by_cases hy : y < c.height.toNat
  · rw [if_pos (List.mem_range.mpr hy)]
  · rw [if_neg (mt List.mem_range.mp hy), Canvas.get?_eq_none fun hp => hy hp.2]
    rfl

end Monitor

theorem mem_showPixels {last : Option (Rgb × Rgb)} {ps : List Pixel} {c : Char}
    (h : .print c ∈ (showPixels last ps).1) : ∃ p ∈ ps, c = printable p.char := by
  induction ps generalizing last with
  | nil => cases h
  | cons p ps ih =>
    have hcons : .print c = Command.print (printable p.char) ∨
        .print c ∈ (showPixels (some (p.foreground, p.background)) ps).1 := by
      simp only [showPixels] at h
      split at h <;> simpa using h
    rcases hcons with he | hrest
    · exact ⟨p, List.mem_cons_self, Command.print.inj he⟩
    · obtain ⟨q, hq, hc⟩ := ih hrest
      exact ⟨q, List.mem_cons_of_mem p hq, hc⟩

theorem not_isControl_of_mem_showRows {canvas : Canvas} {last : Option (Rgb × Rgb)}
    {rows : List Nat} {c : Char} (h : .print c ∈ showRows canvas last rows) : ¬ isControl c := by
  induction rows generalizing last with
  | nil => cases h
  | cons row rows ih =>
    simp only [showRows, List.cons_append, List.mem_cons, List.mem_append] at h
    rcases h with hmove | hrow | hrest
    · cases hmove
    · obtain ⟨p, -, rfl⟩ := mem_showPixels hrow
      exact not_isControl_printable p.char
    · exact ih hrest

theorem not_isControl_of_mem_frame {canvas : Canvas} {c : Char} (h : .print c ∈ frame canvas) :
    ¬ isControl c := by
  rcases List.mem_append.mp h with hrows | hreset
  · exact not_isControl_of_mem_showRows hrows
  · cases List.mem_singleton.mp hreset

theorem Display.present_prints_canvas {d : Display} (hattached : d.attached)
    (hsound : d.canvas.Sound) (hheight : d.canvas.height.toNat ≤ 65535)
    (hok : d.device.outcomes.head?.join = none) (m : Monitor) :
    ∃ commands, Surface.present d = (.ok (), { d with
        device := ⟨d.device.outcomes.tail, d.device.calls.push (.showFrame commands)⟩ }) ∧
      (∀ x y, if x < d.canvas.width.toNat ∧ y < d.canvas.height.toNat
        then ∃ p, d.canvas.get? x y = some p ∧
          (m.run commands).marks x y = m.marks x y ++ [.ofPixel p]
        else (m.run commands).marks x y = m.marks x y) ∧
      ∀ c, .print c ∈ commands → ¬ isControl c := by
  refine ⟨frame d.canvas, ?_, ?_, fun c => not_isControl_of_mem_frame⟩
  · have hcall : d.device.call (.showFrame (frame d.canvas)) = (.ok (),
        ⟨d.device.outcomes.tail, d.device.calls.push (.showFrame (frame d.canvas))⟩) := by
      unfold Device.call
      match hout : d.device.outcomes with
      | [] | none :: _ => rfl
      | some reason :: _ => simp [hout] at hok
    change d.present = _
    rw [present, if_pos hattached, hcall]
    rfl
  · intro x y
    have hmarks := m.marks_frame hsound hheight x y
    split
    · rename_i hin
      obtain ⟨p, hp⟩ := Option.isSome_iff_exists.mp ((Canvas.isSome_get? hsound x y).mpr hin)
      rw [hp] at hmarks
      exact ⟨p, hp, hmarks⟩
    · rename_i hout
      rw [Canvas.get?_eq_none hout] at hmarks
      exact hmarks.trans (List.append_nil _)

theorem Display.present_prints_canvas_bell :
    let canvas : Canvas :=
      ⟨3, 1, none, #[⟨'a', .white, .black⟩, ⟨'\x07', .white, .black⟩, ⟨'b', .black, .white⟩]⟩
    let d : Display := ⟨canvas, true, .fresh⟩
    let m : Monitor := ⟨0, 0, none, none, fun _ _ => []⟩
    (d.attached ∧ d.canvas.Sound ∧ d.canvas.height.toNat ≤ 65535 ∧
      d.device.outcomes.head?.join = none) ∧
    ∃ commands, (Surface.present d).2.device.calls = #[.showFrame commands] ∧
      (m.run commands).marks 1 0 = [⟨' ', some .white, some .black⟩] ∧
      (m.run commands).marks 2 0 = [⟨'b', some .black, some .white⟩] ∧
      (m.run commands).marks 3 0 = [] := by
  intro canvas d m
  have hsound : d.canvas.Sound := by rfl
  refine ⟨⟨rfl, hsound, by decide, rfl⟩, ?_⟩
  obtain ⟨commands, hpresent, hmarks, -⟩ :=
    present_prints_canvas (d := d) rfl hsound (by decide) rfl m
  have hbell := hmarks 1 0
  have hlast := hmarks 2 0
  have houtside := hmarks 3 0
  rw [if_pos (by decide)] at hbell hlast
  rw [if_neg (by decide)] at houtside
  obtain ⟨p, hp, hbell⟩ := hbell
  obtain ⟨q, hq, hlast⟩ := hlast
  obtain rfl := Option.some.inj hp
  obtain rfl := Option.some.inj hq
  exact ⟨commands, by rw [hpresent]; rfl, hbell, hlast, houtside⟩

end Console

end TermView
