import TermView.Proofs.EscapeGrammar
import TermView.Proofs.SurfaceLaws
import TermView.Proofs.TerminalFrames

/-!
Sequences that arrive in parts. No part of a sequence but its last character touches the screen, and
no other call reads or resets what has been received. So a sequence written in parts, with any calls
between them, acts as if it were written whole after those calls.
-/

namespace TermView

namespace Escape

theorem Complete.unfinished_init {q : List Char} (h : Complete q) :
    ∃ init final, Unfinished init ∧ q = init ++ [final] := by
  cases h with
  | @short c _ => exact ⟨[escapeChar], c, .escape, rfl⟩
  | control hbody _ => exact ⟨_, _, .control hbody, rfl⟩

theorem Complete.held {q part chunk rest : List Char} (h : Complete q)
    (hq : part ++ chunk ++ rest = q) (hrest : rest ≠ []) :
    ∀ token ∈ (Scanner.ground.run part).tokens chunk, token = .held := by
  obtain ⟨init, final, hinit, rfl⟩ := h.unfinished_init
  rcases List.prefix_concat_iff.mp ⟨rest, hq⟩ with he | ⟨middle, rfl⟩
  · rw [he] at hq
    exact absurd (List.append_right_eq_self.mp hq) hrest
  · have htokens := (Scanner.run_unfinished hinit).2
    rw [Scanner.tokens_append, Scanner.tokens_append] at htokens
    intro token htoken
    apply List.eq_of_mem_replicate
    rw [← htokens]
    exact List.mem_append_left _ (List.mem_append_right _ htoken)

end Escape

open Escape

namespace Terminal

variable {σ : Type} [Surface σ]

namespace Call

def text : Call σ → List Char
  | .write text => text.toList
  | _ => []

def isWrite : Call σ → Bool
  | .write _ => true
  | _ => false

end Call

/-- Two terminals that differ at most in what their scanners, named here, have received and in what
has come of their frames. -/
structure Alike (s s' : Scanner) (t t' : Terminal σ) : Prop where
  scanner_left : t.emulator.scanner = s
  scanner_right : t'.emulator.scanner = s'
  screen_eq : t.emulator.screen = t'.emulator.screen
  painter_eq : t.painter = t'.painter
  font_eq : t.font = t'.font
  size_eq : t.surface.map Surface.size = t'.surface.map Surface.size
  listener_eq : t.listener = t'.listener
  notes_eq : t.notes = t'.notes

theorem Alike.refl (t : Terminal σ) : Alike t.emulator.scanner t.emulator.scanner t t :=
  ⟨rfl, rfl, rfl, rfl, rfl, rfl, rfl, rfl⟩

variable {s s' : Scanner} {t t' : Terminal σ}

theorem Alike.setScreen (h : Alike s s' t t') (screen : Screen) :
    Alike s s' { t with emulator.screen := screen } { t' with emulator.screen := screen } :=
  ⟨h.scanner_left, h.scanner_right, rfl, h.painter_eq, h.font_eq, h.size_eq, h.listener_eq,
    h.notes_eq⟩

theorem Alike.getD (h : Alike s s' t t') {o o' : Option (Terminal σ)}
    (ho : Option.Rel (Alike s s') o o') : Alike s s' (o.getD t) (o'.getD t') := by
  cases ho with
  | some ho => exact ho
  | none => exact h

theorem Alike.attached? (h : Alike s s' t t') (surface : σ) :
    Option.Rel (Alike s s') (t.attached? surface) (t'.attached? surface) := by
  unfold Terminal.attached?
  rw [← h.font_eq, ← h.painter_eq]
  split
  · exact .none
  · dsimp only
    split
    · exact .none
    · exact .some ⟨h.scanner_left, h.scanner_right, h.screen_eq, rfl, rfl, rfl,
        h.listener_eq, h.notes_eq⟩

theorem Alike.keyDown? (h : Alike s s' t t') (press : KeyPress) :
    Option.Rel (Alike s s') (t.keyDown? press) (t'.keyDown? press) := by
  unfold Terminal.keyDown?
  cases press.encode with
  | none => exact .none
  | some output =>
    rw [Option.map_some, Option.map_some, ← h.listener_eq, ← h.notes_eq]
    cases t.listener with
    | none => exact .some h
    | some note =>
      exact .some ⟨h.scanner_left, h.scanner_right, h.screen_eq, h.painter_eq, h.font_eq, h.size_eq,
        rfl, rfl⟩

variable [Surface.FixedSize σ]

theorem size_render (t : Terminal σ) :
    t.render.surface.map Surface.size = t.surface.map Surface.size := by
  rw [render_eq, Option.map_map]
  apply Option.map_congr
  intro surface _
  exact t.painter.size_painted _ surface

theorem Alike.render_left (h : Alike s s' t t') : Alike s s' t.render t' :=
  ⟨h.scanner_left, h.scanner_right, h.screen_eq, h.painter_eq, h.font_eq,
    (size_render t).trans h.size_eq, h.listener_eq, h.notes_eq⟩

theorem Alike.render (h : Alike s s' t t') : Alike s s' t.render t'.render :=
  ⟨h.scanner_left, h.scanner_right, h.screen_eq, h.painter_eq, h.font_eq,
    (size_render t).trans (h.size_eq.trans (size_render t').symm), h.listener_eq, h.notes_eq⟩

theorem Alike.resize? (h : Alike s s' t t') (cols rows : UInt16) :
    Option.Rel (Alike s s') (t.resize? cols rows) (t'.resize? cols rows) := by
  unfold Terminal.resize?
  rw [← h.screen_eq]
  cases t.emulator.screen.resize? cols rows with
  | none => exact .none
  | some screen => exact .some (h.setScreen screen).render

theorem Alike.fit? (h : Alike s s' t t') : Option.Rel (Alike s s') t.fit? t'.fit? := by
  have hsize := h.size_eq
  unfold Terminal.fit?
  rw [← h.painter_eq]
  cases hs : t.surface with
  | none =>
    rw [hs, Option.map_none] at hsize
    rw [Option.map_eq_none_iff.mp hsize.symm]
    exact .none
  | some surface =>
    rw [hs, Option.map_some] at hsize
    obtain ⟨surface', hs', hsize'⟩ := Option.map_eq_some_iff.mp hsize.symm
    rw [hs']
    cases t.painter.cellSize with
    | none => exact .none
    | some cell =>
      simp only [Option.bind_eq_bind, Option.bind_some, hsize']
      exact h.resize? _ _

theorem Alike.perform (h : Alike s s' t t') {call : Call σ} (hcall : ¬ call.isWrite) :
    Alike s s' (t.perform call) (t'.perform call) := by
  cases call with
  | write text => exact absurd rfl hcall
  | clear =>
    change Alike s s' t.clear t'.clear
    unfold Terminal.clear
    rw [← h.screen_eq]
    exact (h.setScreen _).render
  | resize cols rows => exact h.getD (h.resize? cols rows)
  | fit => exact h.getD h.fit?
  | render => exact h.render
  | attach surface =>
    rw [perform_attach, perform_attach]
    have ha := h.attached? surface
    generalize t.attached? surface = attached at ha ⊢
    generalize t'.attached? surface = attached' at ha ⊢
    cases ha with
    | none => exact h
    | some ha => exact ha.render.getD ha.fit?
  | detach =>
    exact ⟨h.scanner_left, h.scanner_right, h.screen_eq, h.painter_eq, h.font_eq, rfl,
      h.listener_eq, h.notes_eq⟩
  | listen note =>
    exact ⟨h.scanner_left, h.scanner_right, h.screen_eq, h.painter_eq, h.font_eq, h.size_eq, rfl,
      h.notes_eq⟩
  | keyDown press => exact h.getD (h.keyDown? press)

theorem Alike.write_held {part : List Char} {text : String}
    (h : Alike (.run .ground part) .ground t t')
    (hheld : ∀ token ∈ (Scanner.ground.run part).tokens text.toList, token = .held) :
    Alike (.run .ground (part ++ text.toList)) .ground (t.write text) t' := by
  have hwrite : t.emulator.write text =
      ⟨t.emulator.screen, Scanner.ground.run (part ++ text.toList)⟩ := by
    rw [Scanner.run_append, ← Emulator.foldl_receive_held t.emulator.screen hheld,
      ← h.scanner_left]
    rfl
  apply Alike.render_left
  rw [hwrite]
  exact ⟨rfl, h.scanner_right, h.screen_eq, h.painter_eq, h.font_eq, h.size_eq, h.listener_eq,
    h.notes_eq⟩

theorem Alike.performAll {q part rest : List Char} (h : Alike (.run .ground part) .ground t t')
    (hq : Complete q) {calls : List (Call σ)}
    (htext : part ++ calls.flatMap Call.text ++ rest = q) (hrest : rest ≠ []) :
    Alike (.run .ground (part ++ calls.flatMap Call.text)) .ground (t.performAll calls)
      (t'.performAll (calls.filter (!·.isWrite))) := by
  induction calls generalizing t t' part with
  | nil =>
    rw [List.flatMap_nil, List.append_nil]
    exact h
  | cons call calls ih =>
    rw [List.flatMap_cons, ← List.append_assoc] at htext ⊢
    by_cases hcall : call.isWrite
    · obtain ⟨text, rfl⟩ : ∃ text, call = .write text := by
        cases call with
        | write text => exact ⟨text, rfl⟩
        | _ => cases hcall
      have htext' : part ++ text.toList ++ (calls.flatMap Call.text ++ rest) = q := by
        rw [← List.append_assoc]
        exact htext
      have hheld := hq.held htext' (by simp [hrest])
      exact ih (h.write_held hheld) htext
    · have hnone : call.text = [] := by
        cases call with
        | write text => exact absurd rfl hcall
        | _ => rfl
      rw [hnone, List.append_nil] at htext ⊢
      rw [List.filter_cons_of_pos (by simpa using hcall)]
      exact ih (h.perform hcall) htext

theorem split_sequence_acts_last (t : Terminal σ) (ht : t.emulator.scanner.inSequence = false)
    {q : List Char} (hq : Complete q) (calls : List (Call σ)) {last : String} (hlast : last ≠ "")
    (htext : calls.flatMap Call.text ++ last.toList = q) :
    let split := (t.performAll calls).perform (.write last)
    let whole := (t.performAll (calls.filter (!·.isWrite))).perform (.write (String.ofList q))
    split.emulator = whole.emulator ∧ split.notes = whole.notes := by
  have hground : t.emulator.scanner = .ground := by simpa [Scanner.inSequence] using ht
  have hrest : last.toList ≠ [] := by simpa using hlast
  have hstart : Alike (.run .ground []) .ground t t := by
    have h := Alike.refl t
    rwa [hground] at h
  have h := hstart.performAll hq htext hrest
  have hheld : ∀ token ∈ (Scanner.ground.run []).tokens (calls.flatMap Call.text), token = .held :=
    hq.held htext hrest
  intro split whole
  have hparts : (t.performAll calls).emulator = (calls.flatMap Call.text).foldl Emulator.receive
      (t.performAll (calls.filter (!·.isWrite))).emulator := by
    have hright := congrArg (Emulator.mk (t.performAll calls).emulator.screen) h.scanner_right
    rw [h.screen_eq] at hright
    calc (t.performAll calls).emulator
        = ⟨(t.performAll calls).emulator.screen,
            Scanner.ground.run (calls.flatMap Call.text)⟩ := congrArg (Emulator.mk _) h.scanner_left
      _ = (calls.flatMap Call.text).foldl Emulator.receive
            ⟨(t.performAll calls).emulator.screen, .ground⟩ :=
          (Emulator.foldl_receive_held _ hheld).symm
      _ = (calls.flatMap Call.text).foldl Emulator.receive
            (t.performAll (calls.filter (!·.isWrite))).emulator := by
          rw [h.screen_eq, ← hright]
  constructor
  · calc split.emulator
        = last.toList.foldl Emulator.receive (t.performAll calls).emulator := rfl
      _ = (calls.flatMap Call.text ++ last.toList).foldl Emulator.receive
            (t.performAll (calls.filter (!·.isWrite))).emulator := by
          rw [hparts, List.foldl_append]
      _ = whole.emulator := by
          rw [htext]
          change _ = (String.ofList q).toList.foldl Emulator.receive _
          rw [String.toList_ofList]
  · exact h.notes_eq

theorem split_sequence_acts_last_position :
    let t : Terminal Canvas := .new { Settings.standard with cols := 5, rows := 2 }
    let q := [escapeChar, '[', '5', ';', '2', 'H']
    let calls : List (Call Canvas) := [.write "\x1b[5", .clear, .resize 10 4,
      .attach (.blank 6 3), .write ";2", .fit]
    (t.emulator.scanner.inSequence = false ∧ Complete q ∧ "H" ≠ "" ∧
      calls.flatMap Call.text ++ "H".toList = q) ∧
    ((t.performAll calls).perform (.write "H")).emulator.screen =
      { Screen.blank 6 3 with cursor := ⟨1, 2⟩ } := by
  intro t q calls
  have hq : Complete q := .control (show ∀ c ∈ ['5', ';', '2'], InBody c by simp [InBody])
    (show ¬ InBody 'H' by decide)
  have hlast : "H" ≠ "" := by decide
  have htext : calls.flatMap Call.text ++ "H".toList = q := by rfl
  refine ⟨⟨rfl, hq, hlast, htext⟩, ?_⟩
  have h := (split_sequence_acts_last t rfl hq calls hlast htext).1
  rw [h]
  decide +kernel

end Terminal

end TermView
