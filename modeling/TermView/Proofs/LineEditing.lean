import Mathlib.Data.List.Infix
import TermView.Proofs.KeyEchoes

namespace TermView

structure Draft where
  finished : List (List Char)
  current : List Char

namespace Draft

def empty : Draft := ⟨[], []⟩

def lines (d : Draft) : List (List Char) := d.finished ++ [d.current]

def type (d : Draft) : Key → Draft
  | .char c => { d with current := d.current ++ [c] }
  | .backspace => { d with current := d.current.dropLast }
  | .enter => ⟨d.lines, []⟩
  | _ => d

def ofPresses (presses : List KeyPress) : Draft := presses.foldl (fun d p => d.type p.key) empty

theorem ofPresses_concat (presses : List KeyPress) (p : KeyPress) :
    ofPresses (presses ++ [p]) = (ofPresses presses).type p.key := List.foldl_concat ..

end Draft

def Key.operations : Key → List Operation
  | .char c => [.put c]
  | .backspace => [.backspace]
  | .enter => [.carriageReturn, .lineFeed]
  | _ => []

namespace KeyPress

def edits (p : KeyPress) : Bool :=
  match p.key with
  | .char c => !isControl c && !(p.modifiers.control || p.modifiers.alt || p.modifiers.metaKey)
  | .backspace | .enter => true
  | _ => false

theorem edits_char {c : Char} {m : Modifiers} :
    edits ⟨.char c, m⟩ ↔ ¬ isControl c ∧ ¬ m.control ∧ ¬ m.alt ∧ ¬ m.metaKey := by
  simp [edits, and_assoc]

theorem operations_edits {p : KeyPress} (h : p.edits) :
    p.operations = p.key.operations ∧ ¬ p.opensSequence := by
  obtain ⟨key, modifiers⟩ := p
  cases key with
  | char c =>
    obtain ⟨hc, hm, ha, hk⟩ := edits_char.mp h
    have hput : operations ⟨.char c, modifiers⟩ = [.put c] := by
      simp [operations, hc, hm, ha, hk]
    exact ⟨hput, by simp [opensSequence, ha]⟩
  | backspace | enter => exact ⟨rfl, Bool.false_ne_true⟩
  | tab | escape | arrow d | function n | modifier k | other => cases h

end KeyPress

namespace Sheet

variable {cols rows : Nat} {above : List (List Char)} {last : List Char}

theorem printed_set_blank (cols : Nat) (piece : List Char) :
    (printed cols piece).set piece.length ⟨' ', .default, .default⟩ = printed cols piece := by
  have hset := set_fit cols (Cell.mk ' ' .default .default) ⟨' ', .default, .default⟩
    (piece.map (⟨·, .default, .default⟩))
  rwa [List.length_map, fit_append_self] at hset

theorem printed_dropLast (cols : Nat) (piece : List Char) :
    (printed cols piece).set (piece.length - 1) ⟨' ', .default, .default⟩ =
      printed cols piece.dropLast := by
  rcases List.eq_nil_or_concat' piece with rfl | ⟨init, c, rfl⟩
  -- in an empty line the first cell is blanked once more
  · exact printed_set_blank cols []
  · rw [List.length_append, List.length_singleton, Nat.add_sub_cancel, List.dropLast_concat,
      printed_append, List.set_set, printed_set_blank]

theorem backspace_showing (hr : 0 < rows) :
    (showing cols rows above last).backspace = showing cols rows above last.dropLast := by
  have hlines := replace_last hr above (printed_dropLast cols last)
  change Sheet.mk cols rows (Sheet.lines _) _ (last.length - 1) ⟨.default, .default⟩ = _
  rw [← List.length_dropLast]
  exact congrArg (Sheet.mk cols rows · _ last.dropLast.length ⟨.default, .default⟩) hlines

theorem performAll_key (hr : 0 < rows) (d : Draft) (key : Key)
    (hroom : (d.type key).current.length ≤ cols) :
    (showing cols rows d.finished d.current).performAll key.operations =
      showing cols rows (d.type key).finished (d.type key).current := by
  cases key with
  | char c =>
    have hlength : (d.current ++ [c]).length ≤ cols := hroom
    rw [List.length_append, List.length_singleton] at hlength
    exact put_room hr hlength c
  | backspace => exact backspace_showing hr
  | enter => exact newline hr
  | tab | escape | arrow direction | function n | modifier k | other => rfl

end Sheet

namespace Terminal

variable {σ : Type}

structure Shows (t : Terminal σ) (cols rows : Nat) (d : Draft) : Prop where
  scanner : t.emulator.scanner = .ground
  sound : t.screen.Sound
  sheet : t.screen.sheet = .showing cols rows d.finished d.current
  listener : t.listener = some id
  notes : t.notes = #[]

theorem shows_new (settings : Settings) : Shows ((Terminal.new settings : Terminal σ).listen id)
    (max settings.cols.toNat 1) (max settings.rows.toNat 1) .empty where
  scanner := rfl
  sound := Screen.sound_blank _ _
  sheet := (Screen.sheet_blank _ _).trans (Sheet.showing_blank _ _).symm
  listener := rfl
  notes := rfl

variable [Surface σ]

def press (t : Terminal σ) (p : KeyPress) : Terminal σ := ((t.keyDown? p).getD t).answer

def pressAll (t : Terminal σ) (presses : List KeyPress) : Terminal σ := presses.foldl press t

variable {t : Terminal σ} {cols rows : Nat} {d : Draft}

theorem press_eq_echo (hlistener : t.listener = some id) (hnotes : t.notes = #[]) (p : KeyPress) :
    t.press p = t.echo p := by
  rw [press, keyDown?, echo, hlistener, hnotes]
  cases hencode : p.encode with
  | none =>
    change t.answer = t
    rw [answer, hnotes]
    dsimp only
    rw [if_pos (by simp), ← hnotes]
  | some sent =>
    have hne : sent ≠ [] := KeyPress.encode_ne_nil hencode
    have hsent : [String.ofList sent].flatMap String.toList = sent := by
      rw [List.flatMap_singleton, String.toList_ofList]
    change answer { t with listener := some id, notes := #[String.ofList sent] } = _
    rw [answer]
    dsimp only
    rw [hsent, if_neg (by simpa using hne), ← hnotes, ← hlistener]

theorem shows_press (h : t.Shows cols rows d) (hr : 0 < rows) {p : KeyPress} (hp : p.edits)
    (hroom : (d.type p.key).current.length ≤ cols) : (t.press p).Shows cols rows (d.type p.key) := by
  obtain ⟨hops, hopen⟩ := KeyPress.operations_edits hp
  have hground : t.emulator = ⟨t.screen, .ground⟩ := congrArg (Emulator.mk _) h.scanner
  have hemulator : (t.echo p).emulator = ⟨t.screen.performAll p.key.operations, .ground⟩ := by
    rw [emulator_echo, hground, Emulator.echo_eq, if_neg hopen, hops]
  have hsheet := Screen.sheet_performAll h.sound p.key.operations
  rw [h.sheet, Sheet.performAll_key hr d p.key hroom] at hsheet
  rw [press_eq_echo h.listener h.notes]
  obtain ⟨hlistener, hnotes⟩ := echo_listener t p
  constructor
  · rw [hemulator]
  · rw [screen, hemulator]
    exact Screen.sound_performAll h.sound _
  · rw [screen, hemulator]
    exact hsheet
  · exact hlistener.trans h.listener
  · exact hnotes.trans h.notes

theorem shows_pressAll (h : t.Shows cols rows .empty) (hr : 0 < rows) (presses : List KeyPress)
    (hedits : ∀ p ∈ presses, p.edits)
    (hroom : ∀ typed, typed <+: presses → (Draft.ofPresses typed).current.length ≤ cols) :
    (t.pressAll presses).Shows cols rows (.ofPresses presses) := by
  -- there has to be room after each press, so the last one is taken off the end
  induction presses using List.reverseRecOn with
  | nil => exact h
  | append_singleton presses p ih =>
    have hbefore : presses <+: presses ++ [p] := List.prefix_append ..
    have hshows := ih (fun q hq => hedits q (hbefore.subset hq))
      fun typed ht => hroom typed (ht.trans hbefore)
    have hall := hroom _ List.prefix_rfl
    rw [Draft.ofPresses_concat] at hall ⊢
    rw [pressAll, List.foldl_concat]
    exact shows_press hshows hr (hedits p (by simp)) hall

theorem typed_lines_shown (settings : Settings) (presses : List KeyPress)
    (hedits : ∀ p ∈ presses, p.edits)
    (hroom : ∀ typed, typed <+: presses →
      (Draft.ofPresses typed).current.length ≤ max settings.cols.toNat 1) :
    ∀ typed, typed <+: presses →
      let cols := max settings.cols.toNat 1
      let rows := max settings.rows.toNat 1
      let d := Draft.ofPresses typed
      let s := (((Terminal.new settings : Terminal σ).listen id).pressAll typed).screen
      let shown := d.lines.rtake rows
      s.grid.lines = fit rows (List.replicate cols ⟨' ', .default, .default⟩)
        (shown.map fun line =>
          fit cols ⟨' ', .default, .default⟩ (line.map (⟨·, .default, .default⟩))) ∧
      s.position.row.toNat = shown.length - 1 ∧
      s.position.col.toNat = min d.current.length (cols - 1) := by
  intro typed htyped cols rows d s shown
  have hr : 0 < rows := by omega
  have hshows : Shows (((Terminal.new settings : Terminal σ).listen id).pressAll typed) cols rows d :=
    shows_pressAll (shows_new settings) hr typed (fun p hp => hedits p (htyped.subset hp))
      fun before hb => hroom before (hb.trans htyped)
  have hshown : shown = d.finished.rtake (rows - 1) ++ [d.current] := by
    have hrows : rows = rows - 1 + 1 := by omega
    rw [← List.rtake_concat_succ, ← hrows]
    rfl
  obtain ⟨hrow, hcol⟩ := Screen.toNat_position s
  rw [hshows.sheet] at hrow hcol
  refine ⟨?_, ?_, hcol⟩
  · rw [hshown]
    exact congrArg Sheet.lines hshows.sheet
  · rw [hshown, List.length_append, List.length_singleton, Nat.add_sub_cancel]
    have hlt : (d.finished.rtake (rows - 1)).length < rows := Sheet.length_shown_lt d.finished hr
    exact hrow.trans (Nat.min_eq_left (Nat.le_sub_one_of_lt hlt))

theorem typed_lines_shown_retyped :
    let settings := { Settings.standard with cols := 3, rows := 2 }
    let char (c : Char) : KeyPress := ⟨.char c, { Modifiers.none with shift := true }⟩
    let enter : KeyPress := ⟨.enter, .none⟩
    let backspace : KeyPress := ⟨.backspace, { Modifiers.none with control := true }⟩
    let presses := [char 'a', char 'b', char 'c', backspace, char 'd', enter, backspace,
      char 'e', enter, char 'f', char 'g', char 'h']
    let s := (((Terminal.new settings : Terminal Canvas).listen id).pressAll presses).screen
    ((∀ p ∈ presses, p.edits) ∧ ∀ typed, typed <+: presses →
      (Draft.ofPresses typed).current.length ≤ max settings.cols.toNat 1) ∧
    s.grid.lines = ["e  ", "fgh"].map (fun row => row.toList.map (⟨·, .default, .default⟩)) ∧
    s.position = ⟨2, 1⟩ := by
  intro settings char enter backspace presses s
  have hedits : ∀ p ∈ presses, p.edits := by decide
  have hroom : ∀ typed, typed <+: presses →
      (Draft.ofPresses typed).current.length ≤ max settings.cols.toNat 1 := by
    intro typed htyped
    have hall : ∀ typed ∈ presses.inits,
        (Draft.ofPresses typed).current.length ≤ max settings.cols.toNat 1 := by decide
    exact hall typed ((List.mem_inits _ _).mpr htyped)
  obtain ⟨hgrid, hrow, hcol⟩ :=
    typed_lines_shown (σ := Canvas) settings presses hedits hroom presses List.prefix_rfl
  refine ⟨⟨hedits, hroom⟩, ?_, ?_⟩
  · refine hgrid.trans ?_
    decide
  · exact Cursor.eq_of_toNat hcol hrow

end Terminal

open Console (KeyEvent) in
theorem Session.handle?_edits (t : Session) {e : KeyEvent} (hkind : e.kind ≠ .release)
    (he : e.toPress.edits) : t.handle? (.key e) = some (t.press e.toPress) := by
  have hquit : ¬ isQuit e := by
    intro hq
    obtain ⟨hcode, hcontrol⟩ := Bool.and_eq_true_iff.mp hq
    have hpress : e.toPress = ⟨.char 'q', e.state.toModifiers⟩ :=
      congrArg (fun code => KeyPress.mk (Console.KeyCode.toKey code) _) (eq_of_beq hcode)
    rw [hpress] at he
    exact (KeyPress.edits_char.mp he).2.1 hcontrol
  rw [handle?, if_neg hkind, if_neg hquit]
  rfl

end TermView
