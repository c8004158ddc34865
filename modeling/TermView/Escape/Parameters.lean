namespace TermView

inductive Slot where
  | empty
  | signed (negative : Bool)
  | number (negative : Bool) (magnitude : Nat)
  | invalid
deriving DecidableEq

namespace Slot

def largest : Nat := 0x7fffffffffffffff

def push (s : Slot) (c : Char) : Slot :=
  if c.isDigit then
    let digit := c.toNat - 48
    match s with
    | .empty => .number false digit
    | .signed negative => .number negative digit
    | .number negative m => .number negative (min (10 * m + digit) largest)
    | .invalid => .invalid
  else
    match s, c with
    | .empty, '-' => .signed true
    | .empty, '+' => .signed false
    | _, _ => .invalid

def value : Slot → Option Int
  | .number true m => some (-m)
  | .number false m => some m
  | _ => none

end Slot

/-- What has been received: the values of the closed slots, the open slot, whether the mark `?`
came first, and whether anything else came. -/
structure Parameters where
  values : Array (Option Int)
  slot : Slot
  marked : Bool
  started : Bool
deriving DecidableEq

namespace Parameters

def empty : Parameters := ⟨#[], .empty, false, false⟩

def capacity : Nat := 1024

def closeSlot (p : Parameters) : Parameters :=
  { p with
    values := if p.values.size < capacity then p.values.push p.slot.value else p.values
    slot := .empty }

def push (p : Parameters) (c : Char) : Parameters :=
  if c = '?' ∧ ¬ p.started ∧ ¬ p.marked then { p with marked := true }
  else
    let p := { p with started := true }
    if c = ';' then p.closeSlot else { p with slot := p.slot.push c }

def finish (p : Parameters) : Array (Option Int) :=
  if p.started then p.closeSlot.values else p.values

end Parameters

end TermView
