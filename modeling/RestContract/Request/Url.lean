import RestContract.Text.Percent
import RestContract.Text.Blank
import RestContract.Number.Numeral

/-!
# Base addresses and paths

A base address has a scheme and a host. It is split as addresses are split on the web:
leading blanks and control characters are passed over, tabs and line ends inside are
dropped, and a host in brackets is an address of version 6 or of a future version. A
path is appended behind a single slash, percent-coded.
-/

namespace RestContract.Url

/-- The parts of an address. -/
structure Parts where
  /-- The scheme in lower case, empty when there is none. -/
  scheme : List Char
  /-- The host with what belongs to it, empty when there is none. -/
  host : List Char
  /-- The path. -/
  path : List Char
  /-- The text behind the first question mark. -/
  query : List Char
  /-- The text behind the first number sign. -/
  fragment : List Char
  deriving DecidableEq, Repr

/-- Whether a character can stand in a scheme. -/
def isSchemeChar (c : Char) : Bool := c.isAlphanum || c = '+' || c = '-' || c = '.'

/-- The text without what addresses cannot hold: leading blanks and controls, tabs and line ends. -/
def clean (cs : List Char) : List Char :=
  (cs.dropWhile fun c => c.toNat ≤ 0x20).filter fun c => c ≠ '\t' && c ≠ '\r' && c ≠ '\n'

/-- The scheme before the first colon, and the rest. -/
def takeScheme (cs : List Char) : List Char × List Char :=
  match Text.cut ':' cs with
  | (c :: scheme, some rest) =>
    if c.isAlpha && scheme.all isSchemeChar then (Number.lowerAscii (c :: scheme), rest)
    else ([], cs)
  | _ => ([], cs)

/-- Whether a character ends a host. -/
def endsHost (c : Char) : Bool := c = '/' || c = '?' || c = '#'

/-- The host behind two slashes, and the rest. -/
def takeHost : List Char → List Char × List Char
  | '/' :: '/' :: cs => (cs.takeWhile fun c => !endsHost c, cs.dropWhile fun c => !endsHost c)
  | cs => ([], cs)

/-- Whether a text is a number from 0 to 255 without leading zeros. -/
def isByteNumeral (cs : List Char) : Bool :=
  !cs.isEmpty && cs.all Number.isDigit && cs.length ≤ 3 && (cs.length = 1 || cs.head? ≠ some '0') &&
    Number.digitsValue 0 cs ≤ 255

/-- Whether a text is an address of version 4. -/
def isVersion4 (cs : List Char) : Bool :=
  let parts := Text.splitAt '.' cs
  parts.length = 4 && parts.all isByteNumeral

/-- Whether a text is one to four hexadecimal digits. -/
def isHexGroup (cs : List Char) : Bool :=
  !cs.isEmpty && cs.length ≤ 4 && cs.all fun c => (Percent.hexValue? c).isSome

/-- The groups of an address with a version 4 address at its end written as two groups. -/
def hexGroups? (cs : List Char) : Option (List (List Char)) :=
  let parts := Text.splitAt ':' cs
  if parts.length < 3 then none
  else
    let last := parts.getLastD []
    if last.contains '.' then
      if isVersion4 last then some (parts.dropLast ++ [['0'], ['0']]) else none
    else some parts

/-- The groups before and behind a gap, an empty group at the very ends being part of the gap. -/
def besideGap? (parts : List (List Char)) (gap : Nat) : Option (List (List Char)) :=
  let before := parts.take gap
  let behind := parts.drop (gap + 1)
  let before? :=
    if before.head? = some [] then (if before.length = 1 then some [] else none) else some before
  let behind? :=
    if behind.getLast? = some [] then (if behind.length = 1 then some [] else none) else some behind
  match before?, behind? with
  | some before, some behind =>
    if (before ++ behind).length < 8 then some (before ++ behind) else none
  | _, _ => none

/-- Whether a text is an address of version 6; a zone may follow a percent sign. -/
def isVersion6 (cs : List Char) : Bool :=
  let (address, zone) := Text.cut '%' cs
  let zoneFits := zone.all fun z => !z.isEmpty && !z.contains '%'
  if !zoneFits || address.contains '/' || cs.contains '/' then false
  else match hexGroups? address with
    | none => false
    | some parts =>
      let inner := (List.range parts.length).filter fun i =>
        0 < i && i + 1 < parts.length && parts[i]? = some []
      if parts.length > 9 then false
      else match inner with
        | [] => parts.length = 8 && parts.all isHexGroup
        | [gap] => (besideGap? parts gap).any fun groups => groups.all isHexGroup
        | _ => false

/-- Whether a text in brackets names a host. -/
def isBracketed (cs : List Char) : Bool :=
  match cs with
  | 'v' :: rest =>
    let digits := rest.takeWhile fun c => (Percent.hexValue? c).isSome
    match rest.dropWhile fun c => (Percent.hexValue? c).isSome with
    | '.' :: c :: more => !digits.isEmpty && (c :: more).all (· ≠ '\n')
    | _ => false
  | cs => isVersion6 cs

/-- What stands behind the last at sign. -/
def withoutUser (host : List Char) : List Char := (Text.splitAt '@' host).getLastD []

/-- Whether the brackets of a host, if there are any, hold an address and stand where they may. -/
def bracketsFit (host : List Char) : Bool :=
  if !host.contains '[' && !host.contains ']' then true
  else if !host.contains '[' || !host.contains ']' then false
  else
    match Text.cut '[' (withoutUser host) with
    | ([], some rest) =>
      let (address, behind) := Text.cut ']' rest
      let behind := behind.getD []
      (behind.isEmpty || behind.head? = some ':') && isBracketed address
    | (_, some _) => false
    | (name, none) => isBracketed (Text.cut ':' name).1

/-- The characters that stand for a mark of addresses in compatible writing. -/
def disguisedMarks : List Nat :=
  [0x2047, 0x2048, 0x2049, 0x2100, 0x2101, 0x2105, 0x2106, 0x2A74, 0xFE13, 0xFE16, 0xFE55, 0xFE56,
   0xFE5F, 0xFE6B, 0xFF03, 0xFF0F, 0xFF1A, 0xFF1F, 0xFF20]

/-- The parts of an address, unless its host is malformed. -/
def split? (url : String) : Option Parts :=
  let (scheme, rest) := takeScheme (clean url.toList)
  let (host, rest) := takeHost rest
  if !bracketsFit host || host.any fun c => disguisedMarks.contains c.toNat then none
  else
    let (rest, fragment) := Text.cut '#' rest
    let (path, query) := Text.cut '?' rest
    some ⟨scheme, host, path, query.getD [], fragment.getD []⟩

/-- The marks that stand for themselves in a path. -/
def pathMarks : List Char := "/:@!$&'()*+,;=-._~".toList

/-- Whether a character stands for itself in a path. -/
def isPathSafe (c : Char) : Bool := Percent.isUnreserved c || pathMarks.contains c

/-- A base address with a path behind it, unless the base address lacks a scheme or a host. -/
def join? (base path : String) : Option String :=
  match split? base with
  | none => none
  | some parts =>
    if parts.scheme.isEmpty || parts.host.isEmpty then none
    else if path.isEmpty then some base
    else
      let tail := Percent.escape isPathSafe (path.toList.dropWhile (· = '/'))
      some (String.ofList (Text.trimEnd (· = '/') base.toList ++ '/' :: tail))

end RestContract.Url
