import PaymentUri.Text.Digit
/-!
# Hosts in brackets

An authority may give its host as an address in brackets. Three forms are told
apart: a version mark with text of a later version, an address of groups between
colons, and the older dotted address, which may not stand in brackets.
-/

namespace PaymentUri.Reference

/-- A decimal number from 0 to 255 without leading zeros. -/
def isOctetNumeral (t : Text) : Bool :=
  !t.isEmpty && t.length ≤ 3 && t.all Char.isDigit && (t == ['0'] || t.head? != some '0') &&
    Nat.ofDigitChars 10 t 0 ≤ 255

/-- A dotted address: four octets between points. -/
def isDotted (t : Text) : Bool :=
  let parts := t.splitOn '.'
  parts.length == 4 && parts.all isOctetNumeral

/-- One to four hexadecimal digits. -/
def isGroup (t : Text) : Bool := !t.isEmpty && t.length ≤ 4 && t.all Text.isHex

/-- The groups of an address where a dotted address may stand for the last two. -/
def withoutDotted? (parts : List Text) : Option (List Text) :=
  match parts.getLast? with
  | some last =>
    if last.contains '.' then
      if isDotted last then some (parts.dropLast ++ [['0'], ['0']]) else none
    else some parts
  | none => some parts

/-- The number of groups on one side of a gap. A side with no group is one empty part. -/
def sideCount? (parts : List Text) : Option Nat :=
  if parts == [[]] then some 0
  else if parts.all isGroup then some parts.length
  else none

/-- Eight groups, or fewer with one gap that stands for the rest. -/
def isGrouped (parts : List Text) : Bool :=
  let inner := (parts.drop 1).dropLast
  match inner.findIdx? List.isEmpty with
  | none => parts.length == 8 && parts.all isGroup
  | some i =>
    match sideCount? (parts.take (i + 1)), sideCount? (parts.drop (i + 2)) with
    | some before, some after => before + after ≤ 7
    | _, _ => false

/-- An address of groups, with an optional zone after a percent sign. -/
def isColoned (t : Text) : Bool :=
  let address := t.takeWhile (· != '%')
  let zoneIsSound :=
    match t.dropWhile (· != '%') with
    | [] => true
    | _ :: zone => !zone.isEmpty && !zone.contains '%'
  zoneIsSound &&
    match withoutDotted? (address.splitOn ':') with
    | some parts => isGrouped parts
    | none => false

/-- A version mark: a `v`, hexadecimal digits, a point, and something after it. -/
def isFuture : Text → Bool
  | 'v' :: t =>
    !(t.takeWhile Text.isHex).isEmpty &&
      match t.dropWhile Text.isHex with
      | '.' :: _ :: _ => true
      | _ => false
  | _ => false

end PaymentUri.Reference
