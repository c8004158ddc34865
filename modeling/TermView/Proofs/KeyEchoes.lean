import TermView.Proofs.EscapeGrammar
import TermView.Proofs.LineWrapping
import TermView.Session

/-!
Keys whose answers are written. What a press sends comes back through the loopback, and each press
then acts on the screen by itself. Only alt and a bracket do not: they send the opening of a control
sequence, which takes in what the next presses send.
-/

namespace TermView

def letterOperations (c : Char) : List Operation :=
  match c.toUpper with
  | 'H' => [.backspace]
  | 'I' => [.tab]
  | 'J' => [.lineFeed]
  | 'M' => [.carriageReturn, .lineFeed]
  | letter => [.put (Char.ofNat (letter.toNat - 'A'.toNat + 1))]

namespace KeyPress

def operations (p : KeyPress) : List Operation :=
  let m := p.modifiers
  match p.key with
  | .char c =>
    if isControl c then []
    else if m.control ∧ c.isAlpha then letterOperations c
    else if m.control ∨ m.alt ∨ m.metaKey then []
    else [.put c]
  | .enter => [.carriageReturn, .lineFeed]
  | .backspace => [.backspace]
  | .tab => [.tab]
  | .arrow d => [.move d 1]
  | .escape | .function _ | .modifier _ | .other => []

def opensSequence (p : KeyPress) : Bool := p.key == .char '[' && p.modifiers.alt

theorem encode_ne_nil {p : KeyPress} {sent : List Char} (h : p.encode = some sent) : sent ≠ [] := by
  rintro rfl
  obtain ⟨key, m⟩ := p
  cases key with
  | char c =>
    change encodeChar c m = some [] at h
    unfold encodeChar at h
    split at h
    · cases h
    split at h
    · cases h
    split at h
    · cases h
    split at h <;> cases h
  | enter | backspace | tab | escape | arrow d | function n | modifier k | other => cases h

theorem not_mem_controls {c : Char} (h : ¬ isControl c) : c ∉ controls := by
  intro hc
  have hcontrols : controls.all isControl := by decide
  exact h (List.all_eq_true.mp hcontrols c hc)

theorem loopback_singleton {c : Char} (h : ¬ isControl c) : loopback [c] = [c] := by
  rw [loopback, List.flatMap_singleton]
  split
  · exact absurd rfl h
  · exact absurd rfl h
  · rfl

theorem toNat_lt_of_isAlpha {c : Char} (h : c.isAlpha) : c.toNat < 128 := by
  rcases Bool.or_eq_true_iff.mp h with hupper | hlower
  · have hle : c.val ≤ 'Z'.val := (of_decide_eq_true hupper).2
    exact Nat.lt_of_le_of_lt (UInt32.le_iff_toNat_le.mp hle) (by decide)
  · have hle : c.val ≤ 'z'.val := of_decide_eq_true (Bool.and_eq_true_iff.mp hlower).2
    exact Nat.lt_of_le_of_lt (UInt32.le_iff_toNat_le.mp hle) (by decide)

theorem loopback_letter {c : Char} (h : c.isAlpha) :
    let answer := loopback [Char.ofNat (c.toUpper.toNat - 64)]
    escapeChar ∉ answer ∧ answer.map .ofText = letterOperations c := by
  have hall : ∀ n < 128, (Char.ofNat n).isAlpha →
      let answer := loopback [Char.ofNat ((Char.ofNat n).toUpper.toNat - 64)]
      escapeChar ∉ answer ∧ answer.map .ofText = letterOperations (Char.ofNat n) := by
    decide +kernel
  have hletter := hall c.toNat (toNat_lt_of_isAlpha h)
  rw [Char.ofNat_toNat] at hletter
  exact hletter h

end KeyPress

namespace Emulator

open KeyPress

def echo (e : Emulator) (p : KeyPress) : Emulator :=
  match p.encode with
  | none => e
  | some sent => (loopback sent).foldl receive e

theorem echo_none (e : Emulator) {p : KeyPress} (h : p.encode = none) : e.echo p = e := by
  rw [echo, h]

theorem echo_some (e : Emulator) {p : KeyPress} {sent : List Char} (h : p.encode = some sent) :
    e.echo p = (loopback sent).foldl receive e := by
  rw [echo, h]

theorem echo_text (screen : Screen) {p : KeyPress} {sent : List Char} (h : p.encode = some sent)
    (hsent : escapeChar ∉ loopback sent) :
    (Emulator.mk screen .ground).echo p =
      ⟨screen.performAll ((loopback sent).map .ofText), .ground⟩ := by
  rw [echo_some _ h, foldl_receive_text screen fun c hc => ne_of_mem_of_not_mem hc hsent]

theorem foldl_receive_escape (screen : Screen) (c : Char) :
    [escapeChar, c].foldl receive ⟨screen, .ground⟩ =
      ⟨screen, if c = '[' then .collecting .empty else .ground⟩ := by
  by_cases hc : c = '['
  · subst hc
    rfl
  · have hopen : Scanner.ground.step escapeChar = (.escape, .held) := rfl
    have hstep : Scanner.escape.step c = (.ground, .held) := if_neg hc
    rw [if_neg hc, List.foldl_cons, receive_of_step (e := ⟨screen, .ground⟩) hopen]
    exact receive_of_step (e := ⟨screen, .escape⟩) hstep

theorem echo_char (screen : Screen) (c : Char) (m : Modifiers) :
    let p : KeyPress := ⟨.char c, m⟩
    (Emulator.mk screen .ground).echo p =
      ⟨screen.performAll p.operations, if p.opensSequence then .collecting .empty else .ground⟩ := by
  intro p
  have hbracket : ¬ isControl '[' ∧ ¬ Char.isAlpha '[' := by decide
  -- the cases are split in the order in which a press is encoded
  by_cases hc : isControl c
  · have hne : c ≠ '[' := ne_of_apply_ne isControl fun h => hbracket.1 (h ▸ hc)
    have hencode : p.encode = none := if_pos hc
    rw [echo_none _ hencode]
    simp [p, KeyPress.operations, opensSequence, hc, hne, Screen.performAll]
  have hback : loopback [c] = [c] := loopback_singleton hc
  by_cases hletter : m.control ∧ c.isAlpha
  · have hne : c ≠ '[' := ne_of_apply_ne Char.isAlpha fun h => hbracket.2 (h ▸ hletter.2)
    have hencode : p.encode = some [Char.ofNat (c.toUpper.toNat - 64)] :=
      (if_neg hc).trans (if_pos hletter)
    obtain ⟨hsent, hops⟩ := loopback_letter hletter.2
    rw [echo_text screen hencode hsent, hops]
    simp [p, KeyPress.operations, opensSequence, hc, hletter, hne]
  by_cases halt : m.alt
  · have hencode : p.encode = some [escapeChar, c] :=
      (if_neg hc).trans ((if_neg hletter).trans (if_pos halt))
    have hescape : loopback [escapeChar, c] = [escapeChar, c] := congrArg (escapeChar :: ·) hback
    rw [echo_some _ hencode, hescape, foldl_receive_escape]
    simp [p, KeyPress.operations, opensSequence, hc, hletter, halt, Screen.performAll]
  by_cases hsilent : m.control ∨ m.metaKey
  · have hencode : p.encode = none :=
      (if_neg hc).trans ((if_neg hletter).trans ((if_neg halt).trans (if_pos hsilent)))
    rw [echo_none _ hencode]
    simp [p, KeyPress.operations, opensSequence, hc, hletter, halt, hsilent, Screen.performAll]
  · have hencode : p.encode = some [c] :=
      (if_neg hc).trans ((if_neg hletter).trans ((if_neg halt).trans (if_neg hsilent)))
    have hsent : escapeChar ∉ loopback [c] := by
      rw [hback, List.mem_singleton]
      rintro rfl
      exact hc rfl
    rw [echo_text screen hencode hsent, hback, List.map_singleton,
      Operation.ofText_eq_put (not_mem_controls hc)]
    simp [p, KeyPress.operations, opensSequence, hc, hletter, halt, hsilent]

theorem echo_eq (screen : Screen) (p : KeyPress) : (Emulator.mk screen .ground).echo p =
    ⟨screen.performAll p.operations, if p.opensSequence then .collecting .empty else .ground⟩ := by
  obtain ⟨key, m⟩ := p
  cases key with
  | char c => exact echo_char screen c m
  | arrow d => cases d <;> rfl
  | enter | backspace | tab | escape | function n | modifier k | other => rfl

theorem foldl_echo (screen : Screen) {presses : List KeyPress}
    (h : ∀ p ∈ presses, ¬ p.opensSequence) :
    presses.foldl echo ⟨screen, .ground⟩ =
      ⟨screen.performAll (presses.flatMap KeyPress.operations), .ground⟩ := by
  induction presses generalizing screen with
  | nil => rfl
  | cons p presses ih =>
    obtain ⟨hp, hpresses⟩ := List.forall_mem_cons.mp h
    rw [List.foldl_cons, echo_eq, if_neg hp, ih _ hpresses, List.flatMap_cons,
      Screen.performAll_append]

end Emulator

namespace Terminal

variable {σ : Type} [Surface σ]

def echo (t : Terminal σ) (p : KeyPress) : Terminal σ :=
  match p.encode with
  | none => t
  | some sent => t.write (String.ofList (loopback sent))

theorem emulator_echo (t : Terminal σ) (p : KeyPress) : (t.echo p).emulator = t.emulator.echo p := by
  unfold echo Emulator.echo
  cases p.encode with
  | none => rfl
  | some sent =>
    change t.emulator.write (String.ofList (loopback sent)) = _
    rw [Emulator.write, String.toList_ofList]

theorem echo_listener (t : Terminal σ) (p : KeyPress) :
    (t.echo p).listener = t.listener ∧ (t.echo p).notes = t.notes := by
  unfold echo
  cases p.encode with
  | none | some sent => exact ⟨rfl, rfl⟩

theorem emulator_foldl_echo (t : Terminal σ) (presses : List KeyPress) :
    (presses.foldl echo t).emulator = presses.foldl Emulator.echo t.emulator := by
  induction presses generalizing t with
  | nil => rfl
  | cons p presses ih => rw [List.foldl_cons, ih, emulator_echo, List.foldl_cons]

theorem echoes_act_alone (t : Terminal σ) (ht : t.emulator.scanner = .ground) :
    (∀ p : KeyPress, (t.echo p).emulator =
      ⟨t.screen.performAll p.operations, if p.opensSequence then .collecting .empty else .ground⟩) ∧
    ∀ presses : List KeyPress, (∀ p ∈ presses, ¬ p.opensSequence) →
      (presses.foldl echo t).emulator =
        ⟨t.screen.performAll (presses.flatMap KeyPress.operations), .ground⟩ := by
  have hground : t.emulator = ⟨t.screen, .ground⟩ := congrArg (Emulator.mk _) ht
  constructor
  · intro p
    rw [emulator_echo, hground, Emulator.echo_eq]
  · intro presses hpresses
    rw [emulator_foldl_echo, hground, Emulator.foldl_echo _ hpresses]

theorem echoes_act_alone_letters :
    let t : Terminal Canvas := Terminal.new { Settings.standard with cols := 4, rows := 2 }
    let control (c : Char) : KeyPress := ⟨.char c, { Modifiers.none with control := true }⟩
    let alt (c : Char) : KeyPress := ⟨.char c, { Modifiers.none with alt := true }⟩
    let presses := [⟨.char 'é', .none⟩, alt ']', control 'g', control 'M', control '[',
      ⟨.arrow .right, .none⟩, control 'h', ⟨.char 'k', .none⟩]
    (t.emulator.scanner = .ground ∧ ∀ p ∈ presses, ¬ p.opensSequence) ∧
    (presses.foldl echo t).emulator.scanner = .ground ∧
    (presses.foldl echo t).screen.grid.lines =
      ["é\x07  ", "k   "].map (fun row => row.toList.map (⟨·, .default, .default⟩)) := by
  intro t control alt presses
  have ht : t.emulator.scanner = .ground := rfl
  have hpresses : ∀ p ∈ presses, ¬ p.opensSequence := by decide
  have hechoes := (echoes_act_alone t ht).2 presses hpresses
  refine ⟨⟨ht, hpresses⟩, ?_, ?_⟩
  · rw [hechoes]
  · rw [screen, hechoes]
    decide

theorem alt_bracket_takes_next :
    let t : Terminal Canvas := Terminal.new { Settings.standard with cols := 3, rows := 1 }
    let bracket : KeyPress := ⟨.char '[', { Modifiers.none with alt := true }⟩
    let x : KeyPress := ⟨.char 'x', .none⟩
    t.emulator.scanner = .ground ∧ (t.echo bracket).emulator.scanner ≠ .ground ∧
      ((t.echo bracket).echo x).screen = t.screen ∧ (t.echo x).screen ≠ t.screen := by
  decide

end Terminal

end TermView
