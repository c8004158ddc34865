namespace TermView.Text

/-- What a leading byte says: the bits it gives, how many bytes follow, and the range of the first
of them. The ranges leave out long forms, surrogates, and numbers that are too large. -/
def leading? (b : UInt8) : Option (Nat × Nat × UInt8 × UInt8) :=
  if b < 0x80 then some (b.toNat, 0, 0x80, 0xbf)
  else if b < 0xc2 then none
  else if b < 0xe0 then some (b.toNat % 32, 1, 0x80, 0xbf)
  else if b = 0xe0 then some (0, 2, 0xa0, 0xbf)
  else if b = 0xed then some (13, 2, 0x80, 0x9f)
  else if b < 0xf0 then some (b.toNat % 16, 2, 0x80, 0xbf)
  else if b = 0xf0 then some (0, 3, 0x90, 0xbf)
  else if b < 0xf4 then some (b.toNat % 8, 3, 0x80, 0xbf)
  else if b = 0xf4 then some (4, 3, 0x80, 0x8f)
  else none

def continued (bits n : Nat) (low high : UInt8) (bs : List UInt8) : Option Nat × List UInt8 :=
  match n, bs with
  | 0, bs => (some bits, bs)
  | _ + 1, [] => (none, [])
  | n + 1, b :: bs =>
    if low ≤ b ∧ b ≤ high then continued (bits * 64 + b.toNat % 64) n 0x80 0xbf bs
    else (none, b :: bs)

theorem continued_length (bits n : Nat) (low high : UInt8) (bs : List UInt8) :
    (continued bits n low high bs).2.length ≤ bs.length := by
  fun_induction continued bits n low high bs <;> grind

def decode (bs : List UInt8) : List (Option Char) :=
  match bs with
  | [] => []
  | b :: bs =>
    match leading? b with
    | none => none :: decode bs
    | some (bits, n, low, high) =>
      (continued bits n low high bs).1.map Char.ofNat :: decode (continued bits n low high bs).2
termination_by bs.length
decreasing_by
  · simp
  · have := continued_length bits n low high bs
    simp
    omega

def decode? (bs : List UInt8) : Option String := ((decode bs).mapM id).map String.ofList

def decodeLossy (bs : List UInt8) : String :=
  String.ofList ((decode bs).map (·.getD '\ufffd'))

end TermView.Text
