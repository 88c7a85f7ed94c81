import DartRecords.Json.Basic
import DartRecords.Text.Case
import DartRecords.Url.Host

/-!
# URLs

The scheme and the authority of a URL, as far as they tell whether a text names something on the
web.
-/

namespace DartRecords.Url

/-- Drops control characters and spaces at the start, and line breaks and tabs anywhere. -/
def tidy (cs : List Char) : List Char :=
  (cs.dropWhile fun c => c.toNat ≤ 0x20).filter fun c => c ≠ '\t' && c ≠ '\r' && c ≠ '\n'

/-- Whether a character may occur in a scheme. -/
def isSchemeChar (c : Char) : Bool := c.isAlphanum || c = '+' || c = '-' || c = '.'

/-- The scheme in lowercase, and what follows its colon.  The scheme is empty if there is none. -/
def splitScheme (cs : List Char) : List Char × List Char :=
  let scheme := cs.takeWhile (· ≠ ':')
  let rest := cs.dropWhile (· ≠ ':')
  if rest.isEmpty || !(scheme.head?.map Char.isAlpha).getD false || !scheme.all isSchemeChar then
    ([], cs)
  else (Text.lower scheme, rest.drop 1)

/-- The authority: what follows two slashes up to the path, the query or the fragment. -/
def authorityOf : List Char → List Char
  | '/' :: '/' :: rest => rest.takeWhile fun c => c ≠ '/' && c ≠ '?' && c ≠ '#'
  | _ => []

/-- The part of an authority after the last at sign. -/
def hostAndPort (authority : List Char) : List Char :=
  (authority.reverse.takeWhile (· ≠ '@')).reverse

/-- Whether the brackets of an authority enclose a valid host, with nothing before them and after
them nothing or a colon with what follows it. -/
def validBrackets (authority : List Char) : Bool :=
  let opens := authority.contains '['
  let closes := authority.contains ']'
  if !opens && !closes then true
  else if !opens || !closes then false
  else
    let host := hostAndPort authority
    if host.contains '[' then
      let inside := (host.dropWhile (· ≠ '[')).drop 1
      let after := (inside.dropWhile (· ≠ ']')).drop 1
      host.head? = some '[' && (after.isEmpty || after.head? = some ':')
        && mayBeBracketed (inside.takeWhile (· ≠ ']'))
    else mayBeBracketed (host.takeWhile (· ≠ ':'))

/-- The characters whose compatibility form holds a delimiter of URLs. -/
def hiddenDelimiters : List Nat :=
  [0x2047, 0x2048, 0x2049, 0x2100, 0x2101, 0x2105, 0x2106, 0x2A74, 0xFE13, 0xFE16, 0xFE55,
   0xFE56, 0xFE5F, 0xFE6B, 0xFF03, 0xFF0F, 0xFF1A, 0xFF1F, 0xFF20]

/-- Whether an authority is well-formed. -/
def validAuthority (authority : List Char) : Bool :=
  validBrackets authority && !authority.any fun c => hiddenDelimiters.contains c.toNat

/-- Whether a text is a URL of the web.  A text with a malformed authority can be neither. -/
def isWeb (source : String) : Except Mismatch Bool :=
  let (scheme, rest) := splitScheme (tidy source.toList)
  let authority := authorityOf rest
  if !validAuthority authority then .error (.badValue "Invalid IPv6 URL")
  else .ok ((scheme = "http".toList || scheme = "https".toList) && !authority.isEmpty)

end DartRecords.Url
