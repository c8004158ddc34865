import TermView.Proofs.EmulatorRuns
import TermView.Proofs.SequenceBodies

namespace TermView

def Operation.ofSequence (final : Char) (values : List (Option Int)) : List Operation :=
  let value (i : Nat) (default : Int) : Int := (values[i]?.join).getD default
  let word (i : Nat) : UInt16 := .ofNat (max 0 (min (value i 1) 65535)).toNat
  match final with
  | 'm' =>
    if values = [] then [.resetPen] else values.flatMap fun code => Operation.ofStyle (code.getD 0)
  | 'H' | 'f' => [.moveTo (word 0) (word 1)]
  | 'A' => [.move .up (word 0)]
  | 'B' => [.move .down (word 0)]
  | 'C' => [.move .right (word 0)]
  | 'D' => [.move .left (word 0)]
  | 'J' =>
    if value 0 0 = 0 then [.erase .fromCursor] else if value 0 0 = 2 then [.erase .whole] else []
  | 'K' =>
    if value 0 0 = 0 then [.eraseLine .fromCursor]
    else if value 0 0 = 2 then [.eraseLine .whole] else []
  | _ => []

namespace Command

theorem clampWord_eq (n : Int) : clampWord n = .ofNat (max 0 (min n 65535)).toNat := by
  rw [clampWord, show min n.toNat 65535 = (max 0 (min n 65535)).toNat by omega]

theorem parameter_eq (values : Array (Option Int)) (i : Nat) (default : Int) :
    parameter values i default = (values.toList[i]?.join).getD default := by
  rw [parameter, Array.getElem?_toList]

theorem operations_extent (n : Int) (toCommand : Extent → Command) (op : Extent → Operation)
    (h : ∀ extent, (toCommand extent).operations = [op extent]) :
    ((extent? n).elim .ignored toCommand).operations =
      if n = 0 then [op .fromCursor] else if n = 2 then [op .whole] else [] := by
  unfold extent?
  split
  · exact h _
  · exact h _
  · rename_i h0 h2
    rw [if_neg h0, if_neg h2]
    rfl

theorem operations_style (codes : List (Option Int)) : (Command.style codes).operations =
    if codes = [] then [.resetPen]
    else codes.flatMap fun code => Operation.ofStyle (code.getD 0) := by
  cases codes <;> rfl

theorem operations_ofSequence (final : Char) (values : Array (Option Int)) :
    (ofSequence final values).operations = Operation.ofSequence final values.toList := by
  simp only [ofSequence, clampWord_eq, parameter_eq]
  split
  · exact operations_style _
  · rfl
  · rfl
  · rfl
  · rfl
  · rfl
  · rfl
  · exact operations_extent _ _ _ fun extent => rfl
  · exact operations_extent _ _ _ fun extent => rfl
  · simp only [Operation.ofSequence]
    rfl

end Command

namespace Emulator

def advanceAll (e : Emulator) : List Char → Emulator × List Bool
  | [] => (e, [])
  | c :: cs =>
    let (e, taken) := e.advance c
    let (e, rest) := e.advanceAll cs
    (e, taken :: rest)

theorem advanceAll_append (e : Emulator) (cs ds : List Char) :
    e.advanceAll (cs ++ ds) =
      (((e.advanceAll cs).1.advanceAll ds).1,
        (e.advanceAll cs).2 ++ ((e.advanceAll cs).1.advanceAll ds).2) := by
  induction cs generalizing e with
  | nil => rfl
  | cons c cs ih => simp only [List.cons_append, advanceAll, ih]

theorem advanceAll_body (screen : Screen) (p : Parameters) {body : List Char}
    (h : ∀ c ∈ body, ¬ isFinal c) : advanceAll ⟨screen, .collecting p⟩ body =
      (⟨screen, .collecting (body.foldl Parameters.push p)⟩, List.replicate body.length true) := by
  induction body generalizing p with
  | nil => rfl
  | cons c body ih =>
    have hc : advance ⟨screen, .collecting p⟩ c = (⟨screen, .collecting (p.push c)⟩, true) := by
      simp [advance, Scanner.step, h c List.mem_cons_self]
    have hrest := ih (p.push c) fun d hd => h d (List.mem_cons_of_mem _ hd)
    simp only [advanceAll, hc, hrest]
    rfl

theorem advanceAll_opening (screen : Screen) {body : List Char} (h : ∀ c ∈ body, ¬ isFinal c) :
    advanceAll ⟨screen, .ground⟩ (escapeChar :: '[' :: body) =
      (⟨screen, .collecting (body.foldl Parameters.push .empty)⟩,
        List.replicate (body.length + 2) true) := by
  have hescape : advance ⟨screen, .ground⟩ escapeChar = (⟨screen, .escape⟩, true) := rfl
  have hbracket : advance ⟨screen, .escape⟩ '[' = (⟨screen, .collecting .empty⟩, true) := rfl
  simp only [advanceAll, hescape, hbracket, advanceAll_body screen .empty h]
  rfl

theorem advanceAll_part (screen : Screen) {body part : List Char} (h : ∀ c ∈ body, ¬ isFinal c)
    (hp : part <+: escapeChar :: '[' :: body) :
    (advanceAll ⟨screen, .ground⟩ part).1.screen = screen ∧
      (advanceAll ⟨screen, .ground⟩ part).2 = List.replicate part.length true := by
  rw [List.prefix_cons_iff] at hp
  rcases hp with rfl | ⟨part, rfl, hp⟩
  · exact ⟨rfl, rfl⟩
  · rw [List.prefix_cons_iff] at hp
    rcases hp with rfl | ⟨part, rfl, hp⟩
    · exact ⟨rfl, rfl⟩
    · rw [advanceAll_opening screen fun c hc => h c (hp.subset hc)]
      exact ⟨rfl, rfl⟩

theorem advance_final (screen : Screen) (p : Parameters) {final : Char} (h : isFinal final) :
    advance ⟨screen, .collecting p⟩ final =
      (⟨screen.performAll (Operation.ofSequence final p.finish.toList), .ground⟩, true) := by
  have hstep : Scanner.step (.collecting p) final =
      (.ground, .command (.ofSequence final p.finish)) := by simp [Scanner.step, h]
  simp only [advance, hstep, Screen.execute_eq, Command.operations_ofSequence]

theorem sequence_acts_once (e : Emulator) (he : e.scanner.inSequence = false) (body : List Char)
    (hbody : ∀ c ∈ body, ¬ isFinal c) (final : Char) (hfinal : isFinal final) :
    (∀ part, part <+: escapeChar :: '[' :: body →
      (e.advanceAll part).1.screen = e.screen ∧
        (e.advanceAll part).2 = List.replicate part.length true) ∧
    e.advanceAll (escapeChar :: '[' :: body ++ [final]) =
      (⟨e.screen.performAll (Operation.ofSequence final (Parameters.read body)), .ground⟩,
        List.replicate (body.length + 3) true) := by
  obtain ⟨screen, scanner⟩ := e
  obtain rfl : scanner = .ground := by simpa [Scanner.inSequence] using he
  constructor
  · intro part hp
    exact advanceAll_part screen hbody hp
  · rw [advanceAll_append, advanceAll_opening screen hbody]
    simp only [advanceAll, advance_final screen _ hfinal, Parameters.finish_eq_read]
    rw [← List.replicate_succ']

theorem sequence_acts_once_styles :
    let body := ['?', '3', '1', ';', '?', ';', '+', '4', '4']
    ((Emulator.blank 4 2).scanner.inSequence = false ∧ (∀ c ∈ body, ¬ isFinal c) ∧ isFinal 'm') ∧
    (Emulator.blank 4 2).advanceAll (escapeChar :: '[' :: body ++ ['m']) =
      (⟨(Screen.blank 4 2).setBackground (.basic 4), .ground⟩, List.replicate 12 true) := by
  intro body
  have hbody : ∀ c ∈ body, ¬ isFinal c := by simp [body, isFinal]
  have hfinal : isFinal 'm' := by decide
  refine ⟨⟨rfl, hbody, hfinal⟩, ?_⟩
  exact (sequence_acts_once (.blank 4 2) rfl body hbody 'm' hfinal).2

end Emulator

end TermView
