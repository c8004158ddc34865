import TermView.Proofs.ControlSequences

/-!
The grammar of escape sequences. A text is plain characters and whole sequences, read from the left,
with at most one unfinished sequence at its end. An emulator takes exactly the sequences, whatever
its screen, however the text is cut, and whatever values the sequences have.
-/

namespace TermView

namespace Escape

def InBody (c : Char) : Prop := c.toNat < 0x40 ∨ 0x7e < c.toNat

instance (c : Char) : Decidable (InBody c) := inferInstanceAs (Decidable (_ ∨ _))

inductive Complete : List Char → Prop where
  | short {c : Char} : c ≠ '[' → Complete [escapeChar, c]
  | control {body : List Char} {final : Char} : (∀ c ∈ body, InBody c) → ¬ InBody final →
      Complete (escapeChar :: '[' :: body ++ [final])

inductive Unfinished : List Char → Prop where
  | escape : Unfinished [escapeChar]
  | control {body : List Char} : (∀ c ∈ body, InBody c) → Unfinished (escapeChar :: '[' :: body)

/-- A text, its plain characters, and whether an unfinished sequence ends it. -/
inductive Reading : List Char → List Char → Bool → Prop where
  | done : Reading [] [] false
  | unfinished {q : List Char} : Unfinished q → Reading q [] true
  | plain {c : Char} {text plain : List Char} {pending : Bool} : c ≠ escapeChar →
      Reading text plain pending → Reading (c :: text) (c :: plain) pending
  | sequence {q text plain : List Char} {pending : Bool} : Complete q →
      Reading text plain pending → Reading (q ++ text) plain pending

theorem not_isFinal_iff (c : Char) : ¬ isFinal c ↔ InBody c := by
  simp only [isFinal, InBody, Bool.and_eq_true, decide_eq_true_eq]
  omega

end Escape

open Escape

namespace Scanner

def run (s : Scanner) (cs : List Char) : Scanner := cs.foldl (fun s c => (s.step c).1) s

def tokens (s : Scanner) : List Char → List Token
  | [] => []
  | c :: cs => (s.step c).2 :: (s.step c).1.tokens cs

theorem run_append (s : Scanner) (cs ds : List Char) : s.run (cs ++ ds) = (s.run cs).run ds :=
  List.foldl_append

theorem tokens_append (s : Scanner) (cs ds : List Char) :
    s.tokens (cs ++ ds) = s.tokens cs ++ (s.run cs).tokens ds := by
  induction cs generalizing s with
  | nil => rfl
  | cons c cs ih => exact congrArg _ (ih _)

theorem length_tokens (s : Scanner) (cs : List Char) : (s.tokens cs).length = cs.length := by
  induction cs generalizing s with
  | nil => rfl
  | cons c cs ih => exact congrArg (· + 1) (ih _)

theorem run_cons {s s' : Scanner} {c : Char} {token : Token} (h : s.step c = (s', token))
    (cs : List Char) :
    s.run (c :: cs) = s'.run cs ∧ s.tokens (c :: cs) = token :: s'.tokens cs := by
  simp [run, tokens, h]

theorem step_inBody (p : Parameters) {c : Char} (h : InBody c) :
    step (.collecting p) c = (.collecting (p.push c), .held) := by
  simp [step, (not_isFinal_iff c).mpr h]

theorem step_final (p : Parameters) {c : Char} (h : ¬ InBody c) :
    step (.collecting p) c = (.ground, .command (.ofSequence c p.finish)) := by
  have hfinal : isFinal c := by
    by_cases hc : isFinal c
    · exact hc
    · exact absurd ((not_isFinal_iff c).mp hc) h
  simp [step, hfinal]

theorem run_body (p : Parameters) {body : List Char} (h : ∀ c ∈ body, InBody c) :
    run (.collecting p) body = .collecting (body.foldl Parameters.push p) ∧
      tokens (.collecting p) body = List.replicate body.length .held := by
  induction body generalizing p with
  | nil => exact ⟨rfl, rfl⟩
  | cons c body ih =>
    obtain ⟨hrun, htokens⟩ := run_cons (step_inBody p (h c List.mem_cons_self)) body
    obtain ⟨ihrun, ihtokens⟩ := ih (p.push c) fun d hd => h d (List.mem_cons_of_mem c hd)
    rw [hrun, htokens, ihrun, ihtokens]
    exact ⟨rfl, rfl⟩

theorem run_opening {body : List Char} (h : ∀ c ∈ body, InBody c) :
    ground.run (escapeChar :: '[' :: body) = .collecting (body.foldl Parameters.push .empty) ∧
      ground.tokens (escapeChar :: '[' :: body) = List.replicate (body.length + 2) .held := by
  obtain ⟨hrun, htokens⟩ := run_body .empty h
  have hopen : ground.step escapeChar = (.escape, .held) := rfl
  have hbracket : escape.step '[' = (.collecting .empty, .held) := rfl
  rw [(run_cons hopen _).1, (run_cons hopen _).2, (run_cons hbracket _).1, (run_cons hbracket _).2,
    hrun, htokens]
  exact ⟨rfl, rfl⟩

theorem run_unfinished {q : List Char} (h : Unfinished q) :
    (ground.run q).inSequence ∧ ground.tokens q = List.replicate q.length .held := by
  cases h with
  | escape => exact ⟨rfl, rfl⟩
  | control hbody =>
    rw [(run_opening hbody).1, (run_opening hbody).2]
    exact ⟨rfl, rfl⟩

theorem run_complete {q : List Char} (h : Complete q) :
    ground.run q = .ground ∧ .text ∉ ground.tokens q := by
  cases h with
  | short hc =>
    have hopen : ground.step escapeChar = (.escape, .held) := rfl
    have hstep : escape.step _ = (.ground, .held) := if_neg hc
    simp [run, tokens, hopen, hstep]
  | control hbody hfinal =>
    rw [run_append, tokens_append, (run_opening hbody).1, (run_opening hbody).2]
    simp [run, tokens, step_final _ hfinal]

def takes (s : Scanner) (cs : List Char) : List Bool := (s.tokens cs).map (· != .text)

theorem takes_collecting (p p' : Parameters) (cs : List Char) :
    takes (.collecting p) cs = takes (.collecting p') cs ∧
      (run (.collecting p) cs).inSequence = (run (.collecting p') cs).inSequence := by
  induction cs generalizing p p' with
  | nil => exact ⟨rfl, rfl⟩
  | cons c cs ih =>
    unfold takes at ih ⊢
    by_cases hc : InBody c
    · obtain ⟨hr, ht⟩ := run_cons (step_inBody p hc) cs
      obtain ⟨hr', ht'⟩ := run_cons (step_inBody p' hc) cs
      obtain ⟨htakes, hrun⟩ := ih (p.push c) (p'.push c)
      rw [ht, ht', hr, hr', List.map_cons, List.map_cons, htakes]
      exact ⟨rfl, hrun⟩
    · obtain ⟨hr, ht⟩ := run_cons (step_final p hc) cs
      obtain ⟨hr', ht'⟩ := run_cons (step_final p' hc) cs
      rw [ht, ht', hr, hr']
      exact ⟨rfl, rfl⟩

end Scanner

def untaken (cs : List Char) (taken : List Bool) : List Char :=
  ((cs.zip taken).filter fun (_, taken) => !taken).map Prod.fst

theorem untaken_append (cs ds : List Char) {taken : List Bool} (rest : List Bool)
    (h : cs.length = taken.length) :
    untaken (cs ++ ds) (taken ++ rest) = untaken cs taken ++ untaken ds rest := by
  rw [untaken, List.zip_append h, List.filter_append, List.map_append]
  rfl

theorem untaken_eq_nil (cs : List Char) {taken : List Bool} (h : false ∉ taken) :
    untaken cs taken = [] := by
  rw [untaken, List.map_eq_nil_iff, List.filter_eq_nil_iff]
  rintro ⟨c, t⟩ hc
  have ht := (List.of_mem_zip hc).2
  cases t
  · exact absurd ht h
  · simp

namespace Escape

theorem untaken_of_complete {q : List Char} (h : Complete q) (text : List Char) :
    untaken (q ++ text) (Scanner.ground.takes (q ++ text)) =
      untaken text (Scanner.ground.takes text) := by
  obtain ⟨hrun, htokens⟩ := Scanner.run_complete h
  have hnone : false ∉ (Scanner.ground.tokens q).map (· != .text) := by simpa using htokens
  rw [Scanner.takes, Scanner.tokens_append, hrun, List.map_append,
    untaken_append _ _ _ (by simp [Scanner.length_tokens]), untaken_eq_nil q hnone]
  rfl

theorem untaken_of_reading {text plain : List Char} {pending : Bool}
    (h : Reading text plain pending) : untaken text (Scanner.ground.takes text) = plain ∧
      (Scanner.ground.run text).inSequence = pending := by
  induction h with
  | done => exact ⟨rfl, rfl⟩
  | @unfinished q hq =>
    obtain ⟨hrun, htokens⟩ := Scanner.run_unfinished hq
    refine ⟨untaken_eq_nil q ?_, hrun⟩
    simp [Scanner.takes, htokens]
  | @plain c text plain pending hc _ ih =>
    obtain ⟨hrun, htokens⟩ := Scanner.run_cons (s := .ground) (if_neg hc) text
    rw [Scanner.takes, hrun, htokens, ← ih.1]
    exact ⟨rfl, ih.2⟩
  | @sequence q text plain pending hq _ ih =>
    rw [untaken_of_complete hq, Scanner.run_append, (Scanner.run_complete hq).1]
    exact ih

theorem reading_untaken (text : List Char) :
    Reading text (untaken text (Scanner.ground.takes text)) (Scanner.ground.run text).inSequence ∧
    Reading (escapeChar :: text) (untaken text (Scanner.escape.takes text))
      (Scanner.escape.run text).inSequence ∧
    ∀ (p : Parameters) (body : List Char), (∀ c ∈ body, InBody c) →
      Reading (escapeChar :: '[' :: body ++ text)
        (untaken text (Scanner.takes (.collecting p) text))
        (Scanner.run (.collecting p) text).inSequence := by
  unfold Scanner.takes
  -- the three stages at once: what is open of a sequence stands before the rest of the text
  induction text with
  | nil =>
    refine ⟨.done, .unfinished .escape, ?_⟩
    intro p body hbody
    rw [List.append_nil]
    exact .unfinished (.control hbody)
  | cons c text ih =>
    obtain ⟨hground, hescape, hcollecting⟩ := ih
    refine ⟨?_, ?_, ?_⟩
    · by_cases hc : c = escapeChar
      · subst hc
        exact hescape
      · obtain ⟨hr, ht⟩ := Scanner.run_cons (s := .ground) (if_neg hc) text
        rw [hr, ht]
        exact .plain hc hground
    · by_cases hc : c = '['
      · subst hc
        exact hcollecting .empty [] (by simp)
      · obtain ⟨hr, ht⟩ := Scanner.run_cons (s := .escape) (if_neg hc) text
        rw [hr, ht]
        exact .sequence (.short hc) hground
    · intro p body hbody
      rw [List.append_cons]
      by_cases hc : InBody c
      · obtain ⟨hr, ht⟩ := Scanner.run_cons (Scanner.step_inBody p hc) text
        have hbody' : ∀ d ∈ body ++ [c], InBody d := by
          simpa [or_imp, forall_and] using ⟨hbody, hc⟩
        rw [hr, ht]
        exact hcollecting (p.push c) (body ++ [c]) hbody'
      · obtain ⟨hr, ht⟩ := Scanner.run_cons (Scanner.step_final p hc) text
        rw [hr, ht]
        exact .sequence (.control hbody hc) hground

end Escape

namespace Emulator

theorem advance_eq (screen : Screen) (s : Scanner) (c : Char) : ∃ screen',
    advance ⟨screen, s⟩ c = (⟨screen', (s.step c).1⟩, (s.step c).2 != .text) := by
  simp only [advance]
  rcases s.step c with ⟨s', token⟩
  cases token <;> exact ⟨_, rfl⟩

theorem advanceAll_eq (screen : Screen) (s : Scanner) (cs : List Char) : ∃ screen',
    advanceAll ⟨screen, s⟩ cs = (⟨screen', s.run cs⟩, s.takes cs) := by
  induction cs generalizing screen s with
  | nil => exact ⟨screen, rfl⟩
  | cons c cs ih =>
    obtain ⟨screen₁, hstep⟩ := advance_eq screen s c
    obtain ⟨screen₂, hrest⟩ := ih screen₁ (s.step c).1
    refine ⟨screen₂, ?_⟩
    simp only [advanceAll, hstep, hrest]
    rfl

theorem foldl_receive_held (screen : Screen) {s : Scanner} {cs : List Char}
    (h : ∀ token ∈ s.tokens cs, token = .held) :
    cs.foldl receive ⟨screen, s⟩ = ⟨screen, s.run cs⟩ := by
  induction cs generalizing s with
  | nil => rfl
  | cons c cs ih =>
    obtain ⟨hc, hcs⟩ := List.forall_mem_cons.mp h
    have hstep : s.step c = ((s.step c).1, .held) := Prod.ext rfl hc
    rw [List.foldl_cons, receive_of_step (e := ⟨screen, s⟩) hstep]
    exact ih hcs

theorem foldl_receive_sequence (screen : Screen) {body : List Char} {final : Char}
    (hbody : ∀ c ∈ body, InBody c) (hfinal : ¬ InBody final) :
    (escapeChar :: '[' :: body ++ [final]).foldl receive ⟨screen, .ground⟩ =
      ⟨screen.execute (.ofSequence final (body.foldl Parameters.push .empty).finish), .ground⟩ := by
  obtain ⟨hrun, htokens⟩ := Scanner.run_opening hbody
  have hheld : ∀ token ∈ Scanner.ground.tokens (escapeChar :: '[' :: body), token = .held := by
    intro token htoken
    rw [htokens] at htoken
    exact List.eq_of_mem_replicate htoken
  have hstep := Scanner.step_final (body.foldl Parameters.push .empty) hfinal
  rw [List.foldl_append, foldl_receive_held screen hheld, hrun, List.foldl_cons, List.foldl_nil,
    receive_of_step (e := ⟨screen, .collecting _⟩) hstep, Screen.execute_eq]
  rfl

end Emulator

namespace Scanner

def advanceCalls (s : Scanner) : List (Screen × List Char) → Scanner × List Bool
  | [] => (s, [])
  | (screen, cs) :: calls =>
    let (e, taken) := Emulator.advanceAll ⟨screen, s⟩ cs
    let (s, rest) := e.scanner.advanceCalls calls
    (s, taken ++ rest)

theorem advanceCalls_eq (s : Scanner) (calls : List (Screen × List Char)) :
    s.advanceCalls calls =
      (s.run (calls.flatMap Prod.snd), s.takes (calls.flatMap Prod.snd)) := by
  induction calls generalizing s with
  | nil => rfl
  | cons call calls ih =>
    obtain ⟨screen, cs⟩ := call
    obtain ⟨screen', hcall⟩ := Emulator.advanceAll_eq screen s cs
    simp only [advanceCalls, hcall, ih, List.flatMap_cons, run_append, takes, tokens_append,
      List.map_append]

/-- Exactly the sequences of a text are taken, and a scanner is in a sequence at the end exactly if
one is unfinished. Neither the screens nor the cuts nor the values received play a part in it. -/
theorem sequences_taken :
    (∀ (calls : List (Screen × List Char)) (plain : List Char) (pending : Bool),
      let text := calls.flatMap Prod.snd
      let (scanner, taken) := ground.advanceCalls calls
      Reading text plain pending ↔ untaken text taken = plain ∧ scanner.inSequence = pending) ∧
    (∀ (s : Scanner) (calls : List (Screen × List Char)) (screen : Screen),
      let (e, taken) := Emulator.advanceAll ⟨screen, s⟩ (calls.flatMap Prod.snd)
      s.advanceCalls calls = (e.scanner, taken)) ∧
    ∀ (p p' : Parameters) (calls : List (Screen × List Char)),
      (advanceCalls (.collecting p) calls).2 = (advanceCalls (.collecting p') calls).2 ∧
      (advanceCalls (.collecting p) calls).1.inSequence =
        (advanceCalls (.collecting p') calls).1.inSequence := by
  refine ⟨?_, ?_, ?_⟩
  · intro calls plain pending
    simp only [advanceCalls_eq]
    constructor
    · exact untaken_of_reading
    · rintro ⟨rfl, rfl⟩
      exact (reading_untaken _).1
  · intro s calls screen
    obtain ⟨screen', h⟩ := Emulator.advanceAll_eq screen s (calls.flatMap Prod.snd)
    simp only [h, advanceCalls_eq]
  · intro p p' calls
    simp only [advanceCalls_eq]
    exact takes_collecting p p' _

example :
    let text := ['a', '\x1b', '[', '3', '\x1b', 'm', 'b', '\x1b', '\x1b', 'c', '\x1b', '[', ';']
    untaken text (ground.takes text) = ['a', 'b', 'c'] ∧ (ground.run text).inSequence := by decide

end Scanner

end TermView
