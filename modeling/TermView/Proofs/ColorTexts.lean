import Mathlib.Data.List.DropRight
import Mathlib.Data.List.Forall2
import TermView.Rgb.Text

namespace TermView

def WritesDigit (c : Char) (d : Nat) : Prop := d < 16 ∧ c.toLower = Nat.digitChar d

theorem toNat_toLower (c : Char) : c.toLower.toNat =
    if 65 ≤ c.toNat ∧ c.toNat ≤ 90 then c.toNat + 32 else c.toNat := by
  have hupper : c.val ≥ 'A'.val ∧ c.val ≤ 'Z'.val ↔ 65 ≤ c.toNat ∧ c.toNat ≤ 90 :=
    and_congr UInt32.le_iff_toNat_le UInt32.le_iff_toNat_le
  unfold Char.toLower
  by_cases h : 65 ≤ c.toNat ∧ c.toNat ≤ 90
  · rw [dif_pos (hupper.mpr h), if_pos h]
    change (c.val + 32).toNat = c.val.toNat + 32
    have hle : c.val.toNat ≤ 90 := h.2
    rw [UInt32.toNat_add]
    exact Nat.mod_eq_of_lt (show c.val.toNat + 32 < 4294967296 by omega)
  · rw [dif_neg (mt hupper.mp h), if_neg h]

theorem toNat_digitChar : ∀ d < 16, (Nat.digitChar d).toNat = if d < 10 then d + 48 else d + 87 := by
  decide

theorem writesDigit_iff (c : Char) (d : Nat) : WritesDigit c d ↔
    d < 10 ∧ c.toNat = d + 48 ∨ (10 ≤ d ∧ d < 16) ∧ (c.toNat = d + 87 ∨ c.toNat = d + 55) := by
  rw [WritesDigit, ← Char.toNat_inj, toNat_toLower]
  constructor
  · rintro ⟨hd, h⟩
    rw [toNat_digitChar d hd] at h
    split at h <;> split at h <;> omega
  · intro h
    have hd : d < 16 := by omega
    refine ⟨hd, ?_⟩
    rw [toNat_digitChar d hd]
    split <;> split <;> omega

theorem hexDigit?_eq_some {c : Char} {d : Nat} : hexDigit? c = some d ↔ WritesDigit c d := by
  have hle (a b : Char) : a ≤ b ↔ a.toNat ≤ b.toNat := UInt32.le_iff_toNat_le
  have hnumbers : '0'.toNat = 48 ∧ '9'.toNat = 57 ∧ 'a'.toNat = 97 ∧ 'f'.toNat = 102 ∧
    'A'.toNat = 65 ∧ 'F'.toNat = 70 := by decide
  rw [writesDigit_iff, hexDigit?]
  simp only [hle, hnumbers]
  split
  · rw [Option.some.injEq]
    omega
  · split
    · rw [Option.some.injEq]
      omega
    · split
      · rw [Option.some.injEq]
        omega
      · apply iff_of_false nofun
        omega

variable {c : Char} {d : Nat} {cs : List Char} {ds : List Nat}

theorem WritesDigit.toNat_lt (h : WritesDigit c d) : c.toNat < 128 := by
  rw [writesDigit_iff] at h
  omega

theorem WritesDigit.not_isBlank (h : WritesDigit c d) : ¬ Text.isBlank c := by
  rw [writesDigit_iff] at h
  simp only [Text.isBlank, Bool.or_eq_true, Bool.and_eq_true, decide_eq_true_eq, beq_iff_eq]
  omega

theorem WritesDigit.ne_sign (h : WritesDigit c d) : c ≠ '#' ∧ c ≠ '+' := by
  have hnone : hexDigit? '#' = none ∧ hexDigit? '+' = none := by decide
  have hread := hexDigit?_eq_some.mpr h
  constructor
  · rintro rfl
    rw [hnone.1] at hread
    cases hread
  · rintro rfl
    rw [hnone.2] at hread
    cases hread

theorem utf8ByteSize_digits (h : List.Forall₂ WritesDigit cs ds) :
    (String.ofList cs).utf8ByteSize = cs.length := by
  induction h with
  | nil => rfl
  | cons hc _ ih =>
    have hsize : Char.utf8Size _ = 1 := Char.utf8Size_eq_one_iff.mpr
      (UInt32.le_iff_toNat_le.mpr (Nat.le_of_lt_succ hc.toNat_lt))
    rw [String.ofList_cons, String.utf8ByteSize_append, String.utf8ByteSize_singleton, hsize, ih,
      List.length_cons, Nat.add_comm]

theorem foldlM_hexDigit? (cs : List Char) (n m : Nat) :
    cs.foldlM (fun n c => (hexDigit? c).map (16 * n + ·)) n = some m ↔
      ∃ ds, List.Forall₂ WritesDigit cs ds ∧ ds.foldl (fun n d => 16 * n + d) n = m := by
  -- over the digits, whatever number those before them wrote
  induction cs generalizing n with
  | nil => simp
  | cons c cs ih =>
    rw [List.foldlM_cons]
    constructor
    · intro h
      obtain ⟨n', hn', h⟩ := Option.bind_eq_some_iff.mp h
      obtain ⟨d, hd, rfl⟩ := Option.map_eq_some_iff.mp hn'
      obtain ⟨ds, hds, hm⟩ := (ih _).mp h
      exact ⟨d :: ds, .cons (hexDigit?_eq_some.mp hd) hds, hm⟩
    · rintro ⟨ds, hds, hm⟩
      cases hds with
      | cons hd hds =>
        rw [hexDigit?_eq_some.mpr hd]
        exact (ih _).mpr ⟨_, hds, hm⟩

def WritesByte (high low : Char) (b : UInt8) : Prop :=
  ∃ h l, WritesDigit high h ∧ WritesDigit low l ∧ b.toNat = 16 * h + l

namespace Rgb

def Writes (digits : List Char) (c : Rgb) : Prop :=
  ∃ r₁ r₀ g₁ g₀ b₁ b₀, digits = [r₁, r₀, g₁, g₀, b₁, b₀] ∧
    WritesByte r₁ r₀ c.red ∧ WritesByte g₁ g₀ c.green ∧ WritesByte b₁ b₀ c.blue

theorem ofHex_eq_iff {d₁ d₂ d₃ d₄ d₅ d₆ : Nat} (h₁ : d₁ < 16) (h₂ : d₂ < 16) (h₃ : d₃ < 16)
    (h₄ : d₄ < 16) (h₅ : d₅ < 16) (h₆ : d₆ < 16) (c : Rgb) :
    ofHex ([d₁, d₂, d₃, d₄, d₅, d₆].foldl (fun n d => 16 * n + d) 0) = c ↔
      c.red.toNat = 16 * d₁ + d₂ ∧ c.green.toNat = 16 * d₃ + d₄ ∧ c.blue.toNat = 16 * d₅ + d₆ := by
  have hsplit (x y z : UInt8) : (⟨x, y, z⟩ : Rgb) = c ↔
      c.red.toNat = x.toNat ∧ c.green.toNat = y.toNat ∧ c.blue.toNat = z.toNat := by
    obtain ⟨red, green, blue⟩ := c
    simp only [Rgb.mk.injEq, UInt8.toNat_inj, eq_comm]
  rw [ofHex, hsplit]
  simp only [List.foldl_cons, List.foldl_nil, UInt8.toNat_ofNat']
  omega

theorem hexNumber?_eq_some (hcs : cs ≠ []) (m : Nat) : hexNumber? cs = some m ↔
    ∃ ds, List.Forall₂ WritesDigit cs ds ∧ ds.foldl (fun n d => 16 * n + d) 0 = m := by
  rw [← foldlM_hexDigit?]
  cases cs with
  | nil => exact absurd rfl hcs
  | cons c cs => rfl

theorem writes_iff {digits : List Char} (hlength : digits.length = 6) (c : Rgb) :
    Writes digits c ↔ ∃ n, hexNumber? digits = some n ∧ ofHex n = c := by
  have hne : digits ≠ [] := by
    rintro rfl
    cases hlength
  simp only [hexNumber?_eq_some hne]
  constructor
  · rintro ⟨r₁, r₀, g₁, g₀, b₁, b₀, rfl, ⟨d₁, d₂, h₁, h₂, hr⟩, ⟨d₃, d₄, h₃, h₄, hg⟩,
      d₅, d₆, h₅, h₆, hb⟩
    refine ⟨_, ⟨[d₁, d₂, d₃, d₄, d₅, d₆], ?_, rfl⟩, ?_⟩
    · exact .cons h₁ (.cons h₂ (.cons h₃ (.cons h₄ (.cons h₅ (.cons h₆ .nil)))))
    · exact (ofHex_eq_iff h₁.1 h₂.1 h₃.1 h₄.1 h₅.1 h₆.1 c).mpr ⟨hr, hg, hb⟩
  · rintro ⟨_, ⟨ds, hds, rfl⟩, hc⟩
    match digits, ds, hlength, hds with
    | [r₁, r₀, g₁, g₀, b₁, b₀], [d₁, d₂, d₃, d₄, d₅, d₆], _,
        .cons h₁ (.cons h₂ (.cons h₃ (.cons h₄ (.cons h₅ (.cons h₆ .nil))))) =>
      obtain ⟨hr, hg, hb⟩ := (ofHex_eq_iff h₁.1 h₂.1 h₃.1 h₄.1 h₅.1 h₆.1 c).mp hc
      exact ⟨r₁, r₀, g₁, g₀, b₁, b₀, rfl, ⟨d₁, d₂, h₁, h₂, hr⟩, ⟨d₃, d₄, h₃, h₄, hg⟩,
        d₅, d₆, h₅, h₆, hb⟩

def signless : List Char → List Char
  | '+' :: digits => '0' :: digits
  | digits => digits

theorem length_signless (body : List Char) : (signless body).length = body.length := by
  unfold signless
  split <;> rfl

theorem signless_of_head? {body : List Char} (h : body.head? ≠ some '+') : signless body = body := by
  unfold signless
  split
  · exact absurd rfl h
  · rfl

theorem hexNumber?_signless {body : List Char} (h : body ≠ ['+']) :
    hexNumber? (if body.head? = some '+' then body.tail else body) = hexNumber? (signless body) := by
  by_cases hhead : body.head? = some '+'
  · rw [if_pos hhead]
    obtain ⟨digits, rfl⟩ := List.head?_eq_some_iff.mp hhead
    cases digits with
    | nil => exact absurd rfl h
    | cons c digits => rfl
  · rw [if_neg hhead, signless_of_head? hhead]

theorem utf8ByteSize_signless {body : List Char} {n : Nat}
    (h : hexNumber? (signless body) = some n) :
    (String.ofList body).utf8ByteSize = body.length := by
  have hne : signless body ≠ [] := by
    intro hnil
    rw [hnil] at h
    cases h
  obtain ⟨ds, hds, -⟩ := (hexNumber?_eq_some hne n).mp h
  unfold signless at hds
  split at hds
  · cases hds with
    | cons _ hdigits =>
      rw [String.ofList_cons, String.utf8ByteSize_append, utf8ByteSize_digits hdigits,
        List.length_cons, Nat.add_comm]
      rfl
  · exact utf8ByteSize_digits hds

theorem parse_eq (s : String) : parse s =
    if (String.ofList (core s)).utf8ByteSize = 6 then
      (hexNumber? (signless (core s))).elim (.error (.digits s)) fun n => .ok (ofHex n)
    else .error (.length s) := by
  unfold parse
  by_cases hsize : (String.ofList (core s)).utf8ByteSize = 6
  -- a sign with nothing behind it is too short to get so far
  · have hbody : core s ≠ ['+'] := by
      intro hplus
      rw [hplus] at hsize
      revert hsize
      decide
    simp only [hsize, ne_eq, not_true_eq_false, if_false, if_true, hexNumber?_signless hbody]
    cases hexNumber? (signless (core s)) <;> rfl
  · simp only [hsize, ne_eq, not_false_eq_true, if_true, if_false]

theorem parse_eq_ok (s : String) (c : Rgb) : parse s = .ok c ↔ Writes (signless (core s)) c := by
  rw [parse_eq]
  constructor
  · intro h
    split at h
    · rename_i hsize
      cases hn : hexNumber? (signless (core s)) with
      | none =>
        rw [hn] at h
        cases h
      | some n =>
        rw [hn] at h
        rw [utf8ByteSize_signless hn, ← length_signless] at hsize
        exact (writes_iff hsize c).mpr ⟨n, hn, Except.ok.inj h⟩
    · cases h
  · intro h
    have hlength : (signless (core s)).length = 6 := by
      obtain ⟨r₁, r₀, g₁, g₀, b₁, b₀, he, -⟩ := h
      rw [he]
      rfl
    obtain ⟨n, hn, rfl⟩ := (writes_iff hlength c).mp h
    rw [utf8ByteSize_signless hn, ← length_signless, if_pos hlength, hn]
    rfl

end Rgb

theorem dropWhile_eq_iff {p : Char → Bool} {rest : List Char} : cs.dropWhile p = rest ↔
    ∃ dropped, cs = dropped ++ rest ∧ (∀ c ∈ dropped, p c) ∧ ∀ c ∈ rest.head?, ¬ p c := by
  constructor
  · rintro rfl
    refine ⟨cs.takeWhile p, List.takeWhile_append_dropWhile.symm, ?_, ?_⟩
    · exact fun c => List.mem_takeWhile_imp
    · intro c hc
      have hhead := List.head?_dropWhile_not p cs
      rw [Option.mem_def.mp hc] at hhead
      simp [hhead]
  · rintro ⟨dropped, rfl, hdropped, hrest⟩
    rw [List.dropWhile_append_of_pos hdropped]
    cases rest with
    | nil => rfl
    | cons c rest => exact List.dropWhile_cons_of_neg (hrest c rfl)

theorem trim_eq_iff {inner : List Char} : Text.trim cs = inner ↔
    ∃ before after, cs = before ++ inner ++ after ∧ (∀ c ∈ before ++ after, Text.isBlank c) ∧
      (∀ c ∈ inner.head?, ¬ Text.isBlank c) ∧ ∀ c ∈ inner.getLast?, ¬ Text.isBlank c := by
  have hright (cs : List Char) : Text.trimRight cs = inner ↔
      ∃ after, cs = inner ++ after ∧ (∀ c ∈ after, Text.isBlank c) ∧
        ∀ c ∈ inner.getLast?, ¬ Text.isBlank c := by
    rw [Text.trimRight, List.reverse_eq_iff, dropWhile_eq_iff, List.head?_reverse]
    constructor
    · rintro ⟨dropped, hcs, hdropped, hlast⟩
      refine ⟨dropped.reverse, ?_, by simpa using hdropped, hlast⟩
      rw [← List.reverse_reverse cs, hcs, List.reverse_append, List.reverse_reverse]
    · rintro ⟨after, rfl, hafter, hlast⟩
      exact ⟨after.reverse, List.reverse_append, by simpa using hafter, hlast⟩
  rw [Text.trim, hright]
  constructor
  · rintro ⟨after, hleft, hafter, hlast⟩
    obtain ⟨before, hcs, hbefore, hhead⟩ := dropWhile_eq_iff.mp hleft
    refine ⟨before, after, ?_, ?_, ?_, hlast⟩
    · rw [hcs, List.append_assoc]
    · exact List.forall_mem_append.mpr ⟨hbefore, hafter⟩
    · exact fun c hc => hhead c (List.mem_head?_append_of_mem_head? hc)
  · rintro ⟨before, after, rfl, hblank, hhead, hlast⟩
    cases inner with
    -- where nothing is left, the text may be cut anywhere
    | nil =>
      rw [List.append_nil]
      exact ⟨[], List.dropWhile_eq_nil_iff.mpr hblank, List.forall_mem_nil _, hlast⟩
    | cons c inner =>
      obtain ⟨hbefore, hafter⟩ := List.forall_mem_append.mp hblank
      refine ⟨after, ?_, hafter, hlast⟩
      exact dropWhile_eq_iff.mpr ⟨before, List.append_assoc .., hbefore, hhead⟩

namespace Rgb

def Stripped (text body : List Char) : Prop :=
  ∃ before signs after, text = before ++ (signs ++ body) ++ after ∧
    (∀ c ∈ before ++ after, Text.isBlank c) ∧ (∀ c ∈ signs, c = '#') ∧
    (∀ c ∈ (signs ++ body).head?, ¬ Text.isBlank c) ∧
    (∀ c ∈ (signs ++ body).getLast?, ¬ Text.isBlank c) ∧ body.head? ≠ some '#'

theorem stripped_iff (s : String) (body : List Char) : Stripped s.toList body ↔ core s = body := by
  have hsign (c : Char) : (c == '#') = true ↔ c = '#' := beq_iff_eq
  have hhead : (∀ c ∈ body.head?, c ≠ '#') ↔ body.head? ≠ some '#' := by
    cases body with
    | nil => exact iff_of_true nofun nofun
    | cons c body => simp
  rw [core, dropWhile_eq_iff]
  simp only [hsign, hhead, trim_eq_iff]
  constructor
  · rintro ⟨before, signs, after, hs, hblank, hsigns, hfirst, hlast, hbody⟩
    exact ⟨signs, ⟨before, after, hs, hblank, hfirst, hlast⟩, hsigns, hbody⟩
  · rintro ⟨signs, ⟨before, after, hs, hblank, hfirst, hlast⟩, hsigns, hbody⟩
    exact ⟨before, signs, after, hs, hblank, hsigns, hfirst, hlast, hbody⟩

theorem writes_signless (body : List Char) (c : Rgb) : Writes (signless body) c ↔
    Writes body c ∨ ∃ five, body = '+' :: five ∧ Writes ('0' :: five) c := by
  by_cases hhead : body.head? = some '+'
  · obtain ⟨five, rfl⟩ := List.head?_eq_some_iff.mp hhead
    have hplus : ¬ Writes ('+' :: five) c := by
      rintro ⟨_, _, _, _, _, _, he, ⟨_, _, hdigit, -⟩, -⟩
      exact hdigit.ne_sign.2 (List.cons.inj he).1.symm
    simp [hplus, signless]
  · rw [signless_of_head? hhead]
    constructor
    · exact Or.inl
    · rintro (h | ⟨five, rfl, -⟩)
      · exact h
      · exact absurd rfl hhead

theorem color_texts_have_digits (s : String) :
    (∀ c, parse s = .ok c ↔ ∃ body, Stripped s.toList body ∧
      (Writes body c ∨ ∃ five, body = '+' :: five ∧ Writes ('0' :: five) c)) ∧
    ((∃ c, parse s = .ok c) ∨ parse s = .error
      (if (String.ofList (core s)).utf8ByteSize = 6 then .digits s else .length s)) := by
  constructor
  · intro c
    rw [parse_eq_ok]
    simp only [stripped_iff, exists_eq_left']
    exact writes_signless (core s) c
  · rw [parse_eq]
    split
    · cases hexNumber? (signless (core s)) with
      | none => exact .inr rfl
      | some n => exact .inl ⟨_, rfl⟩
    · exact .inr rfl

theorem signed_digits_are_read :
    parse "#+12345" = .ok ⟨0x01, 0x23, 0x45⟩ ∧ Stripped "#+12345".toList "+12345".toList ∧
      ∀ c, ¬ Writes "+12345".toList c := by
  have hcore : core "#+12345" = "+12345".toList := by decide
  refine ⟨by decide, (stripped_iff _ _).mpr hcore, ?_⟩
  rintro c ⟨r₁, _, _, _, _, _, he, ⟨_, _, hdigit, -⟩, -⟩
  obtain rfl : '+' = r₁ := (List.cons.inj he).1
  exact hdigit.ne_sign.2 rfl

theorem tail_text (c : Rgb) :
    c.text.toList.tail = hexByte c.red ++ hexByte c.green ++ hexByte c.blue := by
  rw [text, String.toList_ofList]
  rfl

theorem writesByte_of_toLower {high low : Char} {b : UInt8}
    (hhigh : high.toLower = Nat.digitChar (b.toNat / 16))
    (hlow : low.toLower = Nat.digitChar (b.toNat % 16)) : WritesByte high low b := by
  have hlt := b.toNat_lt
  exact ⟨_, _, ⟨by omega, hhigh⟩, ⟨by omega, hlow⟩, by omega⟩

theorem writes_of_toLower {digits : List Char} {c : Rgb}
    (h : digits.map Char.toLower = c.text.toList.tail) : Writes digits c := by
  rw [tail_text] at h
  simp only [hexByte, List.cons_append, List.nil_append, List.map_eq_cons_iff,
    List.map_eq_nil_iff] at h
  obtain ⟨r₁, _, rfl, hr₁, r₀, _, rfl, hr₀, g₁, _, rfl, hg₁, g₀, _, rfl, hg₀, b₁, _, rfl, hb₁, b₀, _,
    rfl, hb₀, rfl⟩ := h
  exact ⟨r₁, r₀, g₁, g₀, b₁, b₀, rfl, writesByte_of_toLower hr₁ hr₀,
    writesByte_of_toLower hg₁ hg₀, writesByte_of_toLower hb₁ hb₀⟩

theorem Writes.stripped {digits : List Char} {c : Rgb} (h : Writes digits c)
    {before after : List Char} (hblank : ∀ d ∈ before ++ after, Text.isBlank d) (signs : Nat) :
    Stripped (before ++ (List.replicate signs '#' ++ digits) ++ after) digits := by
  obtain ⟨r₁, r₀, g₁, g₀, b₁, b₀, rfl, ⟨_, _, hfirst, -⟩, -, _, _, -, hlast, -⟩ := h
  refine ⟨before, _, after, rfl, hblank, fun d => List.eq_of_mem_replicate, ?_, ?_, ?_⟩
  · intro d hd
    cases signs with
    | zero =>
      obtain rfl : r₁ = d := Option.some.inj hd
      exact hfirst.not_isBlank
    | succ signs =>
      obtain rfl : '#' = d := Option.some.inj hd
      decide
  · intro d hd
    rw [List.getLast?_append] at hd
    obtain rfl : b₀ = d := Option.some.inj hd
    exact hlast.not_isBlank
  · intro he
    exact hfirst.ne_sign.1 (Option.some.inj he)

theorem Writes.parse_eq_ok {digits : List Char} {c : Rgb} (h : Writes digits c)
    {before after : List Char} (hblank : ∀ d ∈ before ++ after, Text.isBlank d) (signs : Nat) :
    parse (String.ofList (before ++ (List.replicate signs '#' ++ digits) ++ after)) = .ok c := by
  have hstripped := h.stripped hblank signs
  rw [← String.toList_ofList (l := before ++ _ ++ after), stripped_iff] at hstripped
  rw [Rgb.parse_eq_ok, hstripped, writes_signless]
  exact .inl h

theorem exists_digitChar_of_mem_hexByte {b : UInt8} (h : c ∈ hexByte b) :
    ∃ n < 16, Nat.digitChar n = c := by
  have hlt := b.toNat_lt
  rcases List.mem_pair.mp h with rfl | rfl
  · exact ⟨b.toNat / 16, by omega, rfl⟩
  · exact ⟨b.toNat % 16, by omega, rfl⟩

theorem exists_digitChar_of_mem_text {color : Rgb} (h : c ∈ color.text.toList.tail) :
    ∃ n < 16, Nat.digitChar n = c := by
  rw [tail_text] at h
  rcases List.mem_append.mp h with h | h
  · rcases List.mem_append.mp h with h | h
    · exact exists_digitChar_of_mem_hexByte h
    · exact exists_digitChar_of_mem_hexByte h
  · exact exists_digitChar_of_mem_hexByte h

theorem map_toLower_text (c : Rgb) :
    c.text.toList.tail.map Char.toLower = c.text.toList.tail := by
  have hlower : ∀ n < 16, (Nat.digitChar n).toLower = Nat.digitChar n := by decide
  rw [List.map_congr_left (g := id), List.map_id]
  intro d hd
  obtain ⟨n, hn, rfl⟩ := exists_digitChar_of_mem_text hd
  exact hlower n hn

theorem color_text_reads_back (c : Rgb) :
    (∀ (digits before after : List Char) (signs : Nat),
      digits.map Char.toLower = c.text.toList.tail →
      (∀ d ∈ before ++ after, Text.isBlank d) →
      parse (String.ofList (before ++ (List.replicate signs '#' ++ digits) ++ after)) = .ok c) ∧
    parse c.text = .ok c ∧
    (∃ digits, c.text.toList = '#' :: digits ∧ digits.length = 6 ∧
      ∀ d ∈ digits, d ∈ "0123456789abcdef".toList) ∧
    ∀ s, parse s = .ok c → parse c.text = parse s := by
  have hdecorated (digits before after : List Char) (signs : Nat)
      (hdigits : digits.map Char.toLower = c.text.toList.tail)
      (hblank : ∀ d ∈ before ++ after, Text.isBlank d) :=
    (writes_of_toLower hdigits).parse_eq_ok hblank signs
  have hread : parse c.text = .ok c := by
    have hprinted := hdecorated _ [] [] 1 c.map_toLower_text (List.forall_mem_nil _)
    rw [tail_text] at hprinted
    exact hprinted
  refine ⟨hdecorated, hread, ⟨c.text.toList.tail, ?_, ?_, ?_⟩, ?_⟩
  · rw [tail_text, text, String.toList_ofList]
    rfl
  · rw [tail_text]
    rfl
  · have hdigits : ∀ n < 16, Nat.digitChar n ∈ "0123456789abcdef".toList := by decide
    intro d hd
    obtain ⟨n, hn, rfl⟩ := exists_digitChar_of_mem_text hd
    exact hdigits n hn
  · intro s hs
    rw [hs, hread]

end Rgb

end TermView
