import SqlRender.Decimal.Digits
import SqlRender.Dsn.Form
import SqlRender.Text.Search

/-!
# Internet addresses

A host in brackets is an address: four numbers with points between them, or up to eight groups of
hexadecimal digits with colons between them, of which a run that is zero may be left out.
-/

namespace SqlRender.Dsn

/-- Whether a text is a number of one byte, without leading zeros. -/
def isByteNumber (cs : List Char) : Bool :=
  !cs.isEmpty && cs.length ≤ 3 && cs.all Char.isDigit && (cs = ['0'] || cs.head? ≠ some '0') &&
    Digits.number cs ≤ 255

/-- Whether a text is an address of four numbers. -/
def isFourNumbers (cs : List Char) : Bool :=
  let parts := Text.splitOn '.' cs
  parts.length = 4 && parts.all isByteNumber

/-- Whether a text is one group of an address of groups. -/
def isGroup (cs : List Char) : Bool :=
  !cs.isEmpty && cs.length ≤ 4 && cs.all fun c => (Form.digit? c).isSome

/-- The number of groups with colons between them. At the end of an address four numbers may stand
for the last two. -/
def countGroups (atEnd : Bool) (cs : List Char) : Option Nat :=
  if cs.isEmpty then some 0
  else
    let parts := Text.splitOn ':' cs
    let last := parts.getLast?.getD []
    if !parts.dropLast.all isGroup then none
    else if isGroup last then some parts.length
    else if atEnd && isFourNumbers last then some (parts.length + 1)
    else none

/-- A text up to the first two colons, and what follows them if there are any. -/
def cutAtGap : List Char → List Char × Option (List Char)
  | [] => ([], none)
  | ':' :: ':' :: rest => ([], some rest)
  | c :: rest =>
    let (before, after) := cutAtGap rest
    (c :: before, after)

/-- Whether a text is an address of eight groups, or of fewer with a gap for the others. -/
def isGroups (cs : List Char) : Bool :=
  match cutAtGap cs with
  | (_, none) => countGroups true cs = some 8
  | (before, some after) =>
    match countGroups false before, countGroups true after with
    | some m, some n => m + n ≤ 7
    | _, _ => false

/-- Whether a text is an address of groups that may have a zone after a percent sign. -/
def isZonedGroups (cs : List Char) : Bool :=
  match Text.cut '%' cs with
  | (address, some zone) => isGroups address && !zone.isEmpty && !zone.contains '%'
  | (address, none) => isGroups address

/-- Whether a text is an address of a version that is yet to come: a v, the version in hexadecimal
digits, a point and something. -/
def isFutureAddress : List Char → Bool
  | 'v' :: rest =>
    match Text.cut '.' rest with
    | (version, some (_ :: _)) => !version.isEmpty && version.all fun c => (Form.digit? c).isSome
    | _ => false
  | _ => false

end SqlRender.Dsn
