import TermView.Emulator
import TermView.Proofs.ScreenInvariant

namespace TermView

def Operation.ofStyle (code : Int) : List Operation :=
  let entry (first : Int) : UInt8 := .ofNat (code - first).toNat
  if code = 0 then [.resetPen]
  else if 30 ≤ code ∧ code ≤ 37 then [.setForeground (.basic (entry 30))]
  else if 40 ≤ code ∧ code ≤ 47 then [.setBackground (.basic (entry 40))]
  else if 90 ≤ code ∧ code ≤ 97 then [.setForeground (.bright (entry 90))]
  else if 100 ≤ code ∧ code ≤ 107 then [.setBackground (.bright (entry 100))]
  else []

def Operation.ofText : Char → Operation
  | '\n' => .lineFeed
  | '\r' => .carriageReturn
  | '\x08' => .backspace
  | '\t' => .tab
  | c => .put c

def Command.operations : Command → List Operation
  | .style [] => [.resetPen]
  | .style codes => codes.flatMap fun code => Operation.ofStyle (code.getD 0)
  | .moveTo row col => [.moveTo row col]
  | .move direction amount => [.move direction amount]
  | .erase extent => [.erase extent]
  | .eraseLine extent => [.eraseLine extent]
  | .ignored => []

def Token.operations (c : Char) : Token → List Operation
  | .text => [.ofText c]
  | .held => []
  | .command asked => asked.operations

theorem Screen.receive_eq (s : Screen) (c : Char) : s.receive c = s.perform (.ofText c) := by
  unfold Screen.receive
  split
  · rfl
  · rfl
  · rfl
  · rfl
  · rename_i hlf hcr hbs htab
    simp only [Operation.ofText]
    rfl

theorem Screen.performAll_ofStyle (s : Screen) (code : Int) :
    s.performAll (Operation.ofStyle code) = { s with pen := s.pen.apply code } := by
  simp only [Operation.ofStyle, Pen.apply]
  split
  · rfl
  · split
    · rfl
    · split
      · rfl
      · split
        · rfl
        · split <;> rfl

theorem Screen.performAll_styles (s : Screen) (codes : List (Option Int)) :
    s.performAll (codes.flatMap fun code => Operation.ofStyle (code.getD 0)) =
      { s with pen := codes.foldl (fun p code => p.apply (code.getD 0)) s.pen } := by
  induction codes generalizing s with
  | nil => rfl
  | cons code codes ih =>
    rw [List.flatMap_cons, Screen.performAll_append, Screen.performAll_ofStyle, ih, List.foldl_cons]

theorem Screen.execute_eq (s : Screen) (command : Command) :
    s.execute command = s.performAll command.operations := by
  cases command with
  | style codes =>
    cases codes with
    | nil => rfl
    | cons code codes => exact (s.performAll_styles (code :: codes)).symm
  | moveTo row col => rfl
  | move direction amount => rfl
  | erase extent => rfl
  | eraseLine extent => rfl
  | ignored => rfl

theorem Operation.isResize_ofStyle (code : Int) :
    ∀ op ∈ Operation.ofStyle code, ¬ op.isResize := by
  simp only [Operation.ofStyle]
  repeat' split
  all_goals simp [Operation.isResize]

theorem Command.isResize_operations (command : Command) :
    ∀ op ∈ command.operations, ¬ op.isResize := by
  cases command with
  | style codes =>
    cases codes with
    | nil => simp [Command.operations, Operation.isResize]
    | cons code codes =>
      intro op hop
      obtain ⟨code, -, hop⟩ := List.mem_flatMap.mp hop
      exact Operation.isResize_ofStyle _ op hop
  | _ => simp [Command.operations, Operation.isResize]

theorem Operation.isResize_ofText (c : Char) : ¬ (Operation.ofText c).isResize := by
  unfold Operation.ofText
  split <;> exact Bool.false_ne_true

theorem Scanner.forall_operations {P : Operation → Prop}
    (htext : ∀ c, c ≠ escapeChar → P (.ofText c))
    (hcommand : ∀ command : Command, ∀ op ∈ command.operations, P op) (scanner : Scanner) (c : Char) :
    ∀ op ∈ (scanner.step c).2.operations c, P op := by
  cases scanner with
  | ground =>
    by_cases hc : c = escapeChar
    · rw [Scanner.step, if_pos hc]
      exact List.forall_mem_nil _
    · rw [Scanner.step, if_neg hc]
      exact List.forall_mem_singleton.mpr (htext c hc)
  | escape =>
    rw [Scanner.step]
    split <;> exact List.forall_mem_nil _
  | collecting p =>
    rw [Scanner.step]
    split
    · exact hcommand _
    · exact List.forall_mem_nil _

namespace Emulator

def operations (e : Emulator) : List Char → List Operation
  | [] => []
  | c :: cs => (e.scanner.step c).2.operations c ++ (e.receive c).operations cs

theorem receive_of_step {e : Emulator} {c : Char} {scanner : Scanner} {token : Token}
    (h : e.scanner.step c = (scanner, token)) :
    e.receive c = ⟨e.screen.performAll (token.operations c), scanner⟩ := by
  obtain ⟨screen, scanner₀⟩ := e
  change scanner₀.step c = _ at h
  unfold receive advance
  dsimp only
  rw [h]
  cases token with
  | text => exact congrArg (Emulator.mk · scanner) (Screen.receive_eq screen c)
  | held => rfl
  | command asked => exact congrArg (Emulator.mk · scanner) (Screen.execute_eq screen asked)

theorem screen_receive (e : Emulator) (c : Char) :
    (e.receive c).screen = e.screen.performAll ((e.scanner.step c).2.operations c) :=
  congrArg Emulator.screen (receive_of_step rfl)

theorem screen_foldl_receive (e : Emulator) (cs : List Char) :
    (cs.foldl receive e).screen = e.screen.performAll (e.operations cs) := by
  induction cs generalizing e with
  | nil => rfl
  | cons c cs ih =>
    rw [List.foldl_cons, ih, operations, Screen.performAll_append, ← screen_receive]

theorem forall_operations {P : Operation → Prop} (htext : ∀ c, c ≠ escapeChar → P (.ofText c))
    (hcommand : ∀ command : Command, ∀ op ∈ command.operations, P op) (e : Emulator)
    (cs : List Char) : ∀ op ∈ e.operations cs, P op := by
  induction cs generalizing e with
  | nil => exact List.forall_mem_nil _
  | cons c cs ih =>
    have hfirst := e.scanner.forall_operations htext hcommand c
    exact List.forall_mem_append.mpr ⟨hfirst, ih _⟩

theorem isResize_operations (e : Emulator) (cs : List Char) :
    ∀ op ∈ e.operations cs, ¬ op.isResize :=
  e.forall_operations (fun c _ => Operation.isResize_ofText c) Command.isResize_operations cs

theorem operations_text (screen : Screen) {cs : List Char} (h : ∀ c ∈ cs, c ≠ escapeChar) :
    Emulator.operations ⟨screen, .ground⟩ cs = cs.map .ofText := by
  induction cs generalizing screen with
  | nil => rfl
  | cons c cs ih =>
    have hstep : Scanner.ground.step c = (.ground, .text) := if_neg (h c List.mem_cons_self)
    have hreceive := receive_of_step (e := ⟨screen, .ground⟩) hstep
    rw [operations, hreceive, hstep, ih _ fun c' hc => h c' (List.mem_cons_of_mem c hc)]
    rfl

theorem foldl_receive_text (screen : Screen) {cs : List Char} (h : ∀ c ∈ cs, c ≠ escapeChar) :
    cs.foldl receive ⟨screen, .ground⟩ = ⟨screen.performAll (cs.map .ofText), .ground⟩ := by
  induction cs generalizing screen with
  | nil => rfl
  | cons c cs ih =>
    have hstep : Scanner.ground.step c = (.ground, .text) := if_neg (h c List.mem_cons_self)
    rw [List.foldl_cons, receive_of_step (e := ⟨screen, .ground⟩) hstep,
      ih _ fun c' hc => h c' (List.mem_cons_of_mem c hc)]
    rfl

end Emulator

end TermView
