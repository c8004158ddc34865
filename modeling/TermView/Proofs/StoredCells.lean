import TermView.Proofs.LineWrapping
import TermView.Proofs.TerminalSteps

namespace TermView

def Color.InPalette : Color → Prop
  | .default => True
  | .basic n | .bright n => n.toNat ≤ 7

namespace Grid

def All (P : Cell → Prop) (g : Grid) : Prop := ∀ cell ∈ g.cells, P cell

variable {P : Cell → Prop} {g : Grid} {cell : Cell}

theorem all_blank (h : P .blank) (cols rows : UInt16) : (Grid.blank cols rows).All P := by
  intro c hc
  rw [Array.eq_of_mem_replicate hc]
  exact h

theorem All.foldl_set (h : g.All P) (hcell : P cell) (places : List Nat) :
    ∀ c ∈ places.foldl (fun cells i => cells.setIfInBounds i cell) g.cells, P c := by
  apply List.foldlRecOn places (motive := fun cells : Array Cell => ∀ c ∈ cells, P c) _ h
  intro cells hcells i _ c hc
  rcases Array.mem_or_eq_of_mem_setIfInBounds hc with hc | rfl
  · exact hcells c hc
  · exact hcell

theorem All.set (h : g.All P) (hcell : P cell) (row col : Nat) : (g.set row col cell).All P := by
  unfold Grid.set
  split
  · exact h.foldl_set hcell [g.index row col]
  · exact h

theorem All.fillRow (h : g.All P) (hcell : P cell) (row start : Nat) :
    (g.fillRow row start cell).All P := by
  unfold Grid.fillRow
  split
  · exact h.foldl_set hcell _
  · exact h

theorem All.fillRows (h : g.All P) (hcell : P cell) (first : Nat) :
    (g.fillRows first cell).All P := by
  apply List.foldlRecOn _ _ h
  intro g hg row _
  exact hg.fillRow hcell row 0

theorem All.scroll (h : g.All P) (hcell : P cell) : (g.scroll cell).All P := by
  intro c hc
  rcases Array.mem_append.mp hc with hc | hc
  · obtain ⟨k, hk, rfl⟩ := Array.mem_extract_iff_getElem.mp hc
    exact h _ (Array.getElem_mem _)
  · rw [Array.eq_of_mem_replicate hc]
    exact hcell

theorem All.get? (h : g.All P) {row col : Nat} (hget : g.get? row col = some cell) : P cell := by
  unfold Grid.get? at hget
  split at hget
  · exact h cell (Array.mem_of_getElem? hget)
  · cases hget

theorem All.resize (h : g.All P) (hblank : P .blank) (cols rows : UInt16) :
    (g.resize cols rows).All P := by
  intro c hc
  obtain ⟨i, rfl⟩ := Array.mem_ofFn.mp hc
  cases hget : g.get? (i / (max cols 1).toNat) (i % (max cols 1).toNat) with
  | none => exact hblank
  | some cell => exact h.get? hget

end Grid

structure Cell.Regular (c : Cell) : Prop where
  char : c.char ∉ controls
  foreground : c.foreground.InPalette
  background : c.background.InPalette

def Pen.Regular (p : Pen) : Prop := p.foreground.InPalette ∧ p.background.InPalette

theorem Pen.Regular.cell {p : Pen} (h : p.Regular) {c : Char} (hc : c ∉ controls) :
    (p.cell c).Regular := ⟨hc, h.1, h.2⟩

theorem Pen.Regular.blank {p : Pen} (h : p.Regular) : p.blank.Regular := h.cell (by decide)

theorem Pen.regular_plain : Pen.plain.Regular := ⟨trivial, trivial⟩

structure Screen.Regular (s : Screen) : Prop where
  cells : s.grid.All Cell.Regular
  pen : s.pen.Regular

def Operation.Regular : Operation → Prop
  | .put c => c ∉ controls
  | .setForeground color | .setBackground color => color.InPalette
  | _ => True

namespace Screen

variable {s : Screen}

theorem regular_blank (cols rows : UInt16) : (Screen.blank cols rows).Regular :=
  ⟨Grid.all_blank Pen.regular_plain.blank cols rows, Pen.regular_plain⟩

theorem regular_lineFeed (h : s.Regular) : s.lineFeed.Regular := by
  unfold lineFeed
  split
  · exact ⟨h.cells, h.pen⟩
  · exact ⟨h.cells.scroll h.pen.blank, h.pen⟩

theorem regular_wrap (h : s.Regular) : s.wrap.Regular := by
  unfold wrap
  split
  · exact h
  · exact regular_lineFeed ⟨h.cells, h.pen⟩

theorem regular_put (h : s.Regular) {c : Char} (hc : c ∉ controls) : (s.put c).Regular := by
  have hw := regular_wrap h
  exact ⟨hw.cells.set (hw.pen.cell hc) _ _, hw.pen⟩

theorem regular_erase (h : s.Regular) (extent : Extent) : (s.erase extent).Regular := by
  cases extent with
  | whole => exact ⟨h.cells.fillRows h.pen.blank _, h.pen⟩
  | fromCursor => exact ⟨(h.cells.fillRow h.pen.blank _ _).fillRows h.pen.blank _, h.pen⟩

theorem regular_clear (h : s.Regular) (extent : Extent) : (s.clear extent).Regular := by
  cases extent with
  | whole => exact ⟨(regular_erase h .whole).cells, h.pen⟩
  | fromCursor => exact regular_erase h .fromCursor

theorem regular_resize (h : s.Regular) (cols rows : UInt16) :
    (s.perform (.resize cols rows)).Regular := by
  rcases perform_resize s cols rows with ⟨-, -, he⟩ | ⟨-, he⟩
  · rwa [he]
  · rw [he]
    exact ⟨h.cells.resize Pen.regular_plain.blank cols rows, h.pen⟩

theorem regular_perform (h : s.Regular) {op : Operation} (hop : op.Regular) :
    (s.perform op).Regular := by
  cases op with
  | put c => exact regular_put h hop
  | lineFeed => exact regular_lineFeed h
  | backspace => exact ⟨h.cells.set h.pen.blank _ _, h.pen⟩
  | clear extent => exact regular_clear h extent
  | erase extent => exact regular_erase h extent
  | eraseLine extent => exact ⟨h.cells.fillRow h.pen.blank _ _, h.pen⟩
  | resize cols rows => exact regular_resize h cols rows
  | setForeground color => exact ⟨h.cells, hop, h.pen.2⟩
  | setBackground color => exact ⟨h.cells, h.pen.1, hop⟩
  | resetPen => exact ⟨h.cells, Pen.regular_plain⟩
  | move direction amount => cases direction <;> exact ⟨h.cells, h.pen⟩
  | carriageReturn | tab | moveTo row col => exact ⟨h.cells, h.pen⟩

theorem regular_performAll (h : s.Regular) {ops : List Operation} (hops : ∀ op ∈ ops, op.Regular) :
    (s.performAll ops).Regular :=
  List.foldlRecOn ops perform h fun _ hs op hop => regular_perform hs (hops op hop)

end Screen

theorem Operation.regular_ofText {c : Char} (h : c ≠ escapeChar) : (Operation.ofText c).Regular := by
  by_cases hc : c ∈ controls
  · simp only [controls, List.mem_cons, List.not_mem_nil, or_false, h, false_or] at hc
    rcases hc with rfl | rfl | rfl | rfl <;> trivial
  · rw [Operation.ofText_eq_put hc]
    exact hc

theorem Operation.regular_ofStyle (code : Int) : ∀ op ∈ Operation.ofStyle code, op.Regular := by
  -- the entry of a code is how far it is from the first one of its kind
  have hentry {first : Int} (h : first ≤ code ∧ code ≤ first + 7) :
      (UInt8.ofNat (code - first).toNat).toNat ≤ 7 := by
    rw [UInt8.toNat_ofNat']
    omega
  simp only [Operation.ofStyle]
  split
  · exact List.forall_mem_singleton.mpr trivial
  split
  · rename_i h
    exact List.forall_mem_singleton.mpr (hentry h)
  split
  · rename_i h
    exact List.forall_mem_singleton.mpr (hentry h)
  split
  · rename_i h
    exact List.forall_mem_singleton.mpr (hentry h)
  split
  · rename_i h
    exact List.forall_mem_singleton.mpr (hentry h)
  · exact List.forall_mem_nil _

theorem Command.regular_operations (command : Command) : ∀ op ∈ command.operations, op.Regular := by
  cases command with
  | style codes =>
    cases codes with
    | nil => exact List.forall_mem_singleton.mpr trivial
    | cons code codes =>
      intro op hop
      obtain ⟨code, -, hop⟩ := List.mem_flatMap.mp hop
      exact Operation.regular_ofStyle _ op hop
  | moveTo | move | erase | eraseLine => exact List.forall_mem_singleton.mpr trivial
  | ignored => exact List.forall_mem_nil _

theorem Emulator.regular_operations (e : Emulator) (cs : List Char) :
    ∀ op ∈ e.operations cs, op.Regular :=
  e.forall_operations (fun _ => Operation.regular_ofText) Command.regular_operations cs

namespace Terminal

variable {σ : Type} [Surface σ]

theorem regular_fitOperations (t : Terminal σ) : ∀ op ∈ t.fitOperations, op.Regular := by
  unfold fitOperations
  split
  · exact List.forall_mem_singleton.mpr trivial
  · exact List.forall_mem_nil _

theorem regular_operations (t : Terminal σ) (call : Call σ) :
    ∀ op ∈ t.operations call, op.Regular := by
  cases call with
  | write text => exact t.emulator.regular_operations text.toList
  | clear | resize => exact List.forall_mem_singleton.mpr trivial
  | fit => exact t.regular_fitOperations
  | attach surface =>
    rw [operations]
    cases t.attached? surface with
    | none => exact List.forall_mem_nil _
    | some attached => exact attached.regular_fitOperations
  | render | detach | listen | keyDown => exact List.forall_mem_nil _

theorem regular_take {t : Terminal σ} (h : t.screen.Regular) (step : Step σ) :
    (t.take step).screen.Regular := by
  cases step with
  | alter change => exact h
  | call call =>
    rw [take, screen_perform]
    exact Screen.regular_performAll h (t.regular_operations call)

theorem regular_takeAll (settings : Settings) (steps : List (Step σ)) :
    ((new settings : Terminal σ).takeAll steps).screen.Regular := by
  apply List.foldlRecOn steps take (motive := fun t : Terminal σ => t.screen.Regular)
  · exact Screen.regular_blank settings.cols settings.rows
  · exact fun _ h step _ => regular_take h step

end Terminal

namespace Scheme

theorem getElem?_eq_entry (colors : Vector Rgb 8) {n : UInt8} (h : n.toNat ≤ 7) :
    colors[n.toNat]? = some (entry colors n) := by
  have hlt : n.toNat < 8 := Nat.lt_succ_of_le h
  have hplace : (⟨n.toNat % 8, Nat.mod_lt _ (by decide)⟩ : Fin 8) = ⟨n.toNat, hlt⟩ :=
    Fin.ext (Nat.mod_eq_of_lt hlt)
  rw [entry, hplace]
  exact Vector.getElem?_eq_getElem hlt

def numbered : Scheme where
  name := ""
  foreground := .black
  background := .black
  basic := .ofFn fun i => ⟨0, 0, .ofNat i⟩
  bright := .ofFn fun i => ⟨0, 1, .ofNat i⟩

def numberedColor : Option Rgb → Color
  | none => .default
  | some shown => if shown.green = 0 then .basic shown.blue else .bright shown.blue

theorem numberedColor_resolve? {c : Color} (h : c.InPalette) :
    numberedColor (numbered.resolve? c) = c := by
  have hentry (f : Fin 8 → Rgb) {n : UInt8} (hn : n.toNat ≤ 7) :
      entry (.ofFn f) n = f ⟨n.toNat, Nat.lt_succ_of_le hn⟩ := by
    have hget := getElem?_eq_entry (.ofFn f) hn
    rw [Vector.getElem?_ofFn, dif_pos (Nat.lt_succ_of_le hn)] at hget
    exact (Option.some.inj hget).symm
  cases c with
  | default => rfl
  | basic n =>
    rw [resolve?, numbered, hentry _ h, numberedColor, if_pos rfl, UInt8.ofNat_toNat]
  | bright n =>
    have hone : ¬ (1 : UInt8) = 0 := by decide
    rw [resolve?, numbered, hentry _ h, numberedColor, if_neg hone, UInt8.ofNat_toNat]

end Scheme

def Screen.Stores (s : Screen) (color : Color) : Prop :=
  (color = s.pen.foreground ∨ color = s.pen.background) ∨
    ∃ cell ∈ s.grid.cells, color = cell.foreground ∨ color = cell.background

theorem Screen.Regular.inPalette {s : Screen} (h : s.Regular) {color : Color} (hc : s.Stores color) :
    color.InPalette := by
  rcases hc with (rfl | rfl) | ⟨cell, hcell, rfl | rfl⟩
  · exact h.pen.1
  · exact h.pen.2
  · exact (h.cells cell hcell).foreground
  · exact (h.cells cell hcell).background

theorem Terminal.cells_hold_text {σ : Type} [Surface σ] (settings : Settings)
    (steps : List (Step σ)) :
    let s := ((new settings : Terminal σ).takeAll steps).screen
    (∀ cell ∈ s.grid.cells, cell.char ∉ controls) ∧
    (∀ n : UInt8, s.Stores (.basic n) ∨ s.Stores (.bright n) → n.toNat ≤ 7 ∧
      ∀ colors : Vector Rgb 8, colors[n.toNat]? = some (Scheme.entry colors n)) ∧
    ∀ color color', s.Stores color → s.Stores color' →
      (∀ scheme : Scheme, scheme.resolve? color = scheme.resolve? color') → color = color' := by
  intro s
  have h : s.Regular := regular_takeAll settings steps
  refine ⟨fun cell hcell => (h.cells cell hcell).char, ?_, ?_⟩
  · intro n hn
    have hle : n.toNat ≤ 7 := by
      rcases hn with hn | hn
      · exact h.inPalette hn
      · exact h.inPalette hn
    exact ⟨hle, fun colors => Scheme.getElem?_eq_entry colors hle⟩
  · intro color color' hcolor hcolor' halike
    have hback := congrArg Scheme.numberedColor (halike .numbered)
    rwa [Scheme.numberedColor_resolve? (h.inPalette hcolor),
      Scheme.numberedColor_resolve? (h.inPalette hcolor')] at hback

end TermView
