import DartRecords.Text.Hex
import DartRecords.Text.Search

/-!
# Hosts in brackets

The host of a URL may stand in brackets if it is an IPv6 address or an address of a later version.
Earlier rules for URLs let any text stand there.
-/

namespace DartRecords.Url

/-- Whether a character is an ASCII digit. -/
def isAsciiDigit (c : Char) : Bool := '0' ≤ c && c ≤ '9'

/-- The value of ASCII digits. -/
def decimalValue (cs : List Char) : Nat := cs.foldl (fun n c => n * 10 + (c.toNat - 48)) 0

/-- Whether a text is one part of an IPv4 address: a number up to 255 without leading zeros. -/
def isOctet (cs : List Char) : Bool :=
  !cs.isEmpty && cs.all isAsciiDigit && cs.length ≤ 3 && (cs.head? ≠ some '0' || cs.length = 1)
    && decimalValue cs ≤ 255

/-- Whether a text is an IPv4 address. -/
def isIPv4 (cs : List Char) : Bool :=
  let parts := Text.splitAt '.' cs
  parts.length = 4 && parts.all isOctet

/-- Whether a text is one part of an IPv6 address: up to four hexadecimal digits. -/
def isHextet (cs : List Char) : Bool :=
  !cs.isEmpty && cs.length ≤ 4 && cs.all fun c => (Text.hexValue? c).isSome

/-- The parts of an IPv6 address.  An IPv4 address at the end counts as two parts. -/
def hextets? (cs : List Char) : Option (List (List Char)) :=
  let parts := Text.splitAt ':' cs
  let last := parts.getLast?.getD []
  if parts.length < 3 then none
  else if last.contains '.' then
    if isIPv4 last then some (parts.dropLast ++ [['0'], ['0']]) else none
  else some parts

/-- Whether the parts around the gap of an IPv6 address fit: a part at either end may be empty
only if the gap is there too, and the gap stands for at least one part. -/
def fitAroundGap (before after : List (List Char)) : Bool :=
  let before := if before = [[]] then [] else before
  let after := if after = [[]] then [] else after
  before.all isHextet && after.all isHextet && before.length + after.length < 8

/-- Whether parts make up an IPv6 address: eight parts, or fewer with one gap, which shows as an
empty part that is neither the first nor the last. -/
def fitIPv6 (parts : List (List Char)) : Bool :=
  let inner := parts.dropLast.drop 1
  match inner.filter (·.isEmpty) with
  | [] => parts.length = 8 && parts.all isHextet
  | [_] =>
    let gap := 1 + (inner.takeWhile (!·.isEmpty)).length
    parts.length ≤ 9 && fitAroundGap (parts.take gap) (parts.drop (gap + 1))
  | _ => false

/-- Whether a text is an IPv6 address, with or without a zone. -/
def isIPv6 (cs : List Char) : Bool :=
  let address := cs.takeWhile (· ≠ '%')
  let zone := cs.dropWhile (· ≠ '%')
  let validZone := zone.isEmpty || (zone.length > 1 && !(zone.drop 1).contains '%')
  validZone && match hextets? address with
    | some parts => fitIPv6 parts
    | none => false

/-- Whether a text is an address of a later version: a version in hexadecimal digits, a point, and
at least one more character. -/
def isFutureAddress : List Char → Bool
  | 'v' :: rest =>
    let version := rest.takeWhile fun c => (Text.hexValue? c).isSome
    let tail := rest.dropWhile fun c => (Text.hexValue? c).isSome
    !version.isEmpty && tail.head? = some '.' && tail.length > 1
  | _ => false

/-- Whether a host may stand in brackets. -/
def mayBeBracketed (host : List Char) : Bool :=
  if host.head? = some 'v' then isFutureAddress host else isIPv6 host

end DartRecords.Url
