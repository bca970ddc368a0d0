import SignalLab.Program.Settings
import SignalLab.Text.TopLevel

/-!
# Ranges — `start : stop` and `start : step : stop`

A range is written with one or two colons outside quotes and brackets; a pair of square brackets
around it is dropped.  Its elements are `start`, `start + step`, … by repeated addition, as long as
they are at most `stop`.  Rounding errors of the additions therefore decide whether the last element
is reached.
-/

namespace SignalLab

/-- The written parts of a range. -/
structure RangeText where
  start : Text
  step : Option Text
  stop : Text
  deriving DecidableEq, Repr

namespace RangeText

/-- The parts in the order they are written. -/
def toList (r : RangeText) : List Text :=
  r.start :: (r.step.toList ++ [r.stop])

/-- A trimmed text without the square brackets at its two ends. -/
def body (expr : Text) : Text :=
  let s := expr.trim
  if s.head? = some '[' ∧ s.getLast? = some ']' then s.tail.dropLast else s

/-- The range a text writes.  A text that writes none may still have colons: too many of them, or
one with nothing but blanks on a side. -/
def ofText? (expr : Text) : Option RangeText :=
  let body := body expr
  if !body.contains ':' then none
  else
    let parts := Text.splitTopLevel ':' body
    if parts.any Text.isBlankText then none
    else
      match parts.map Text.trim with
      | [start, stop] => some ⟨start, none, stop⟩
      | [start, step, stop] => some ⟨start, some step, stop⟩
      | _ => none

end RangeText

/-- The elements from `current` on behind those of `found`, which are in reverse; nothing if there
are more than `room` of them. -/
def rangeFrom (step stop current : Float) (room : Nat) (found : List Float) :
    Option (List Float) :=
  if current ≤ stop then
    match room with
    | 0 => none
    | room + 1 => rangeFrom step stop (current + step) room (current :: found)
  else some found.reverse

/-- The elements of a range; without a positive step there are none. -/
def rangeElements (limit : Int) (start step stop : Float) : Except Breach (List Float) :=
  if 0.0 < step then
    match rangeFrom step stop start limit.toNat [] with
    | some elements => .ok elements
    | none => .error (.rangeLength limit)
  else .ok []

end SignalLab
