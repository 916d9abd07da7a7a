import CurlSnippets.Text.Quoted

/-!
# Hosts in square brackets

An authority with brackets names its host by an address: an IPv6 address, or a future form that
begins with `v`.  This module decides what such an address looks like.
-/

namespace CurlSnippets

/-- Why an authority with brackets is refused. -/
inductive HostError where
  /-- There is text before the opening or right behind the closing bracket. -/
  | outside
  /-- A future form without a version and an address. -/
  | future
  /-- An address that needs no brackets. -/
  | ipv4
  /-- Neither kind of address. -/
  | noAddress (host : Text)
deriving DecidableEq

/-- The wording of a refusal. -/
def HostError.message : HostError → Text
  | .outside => "Invalid IPv6 URL"
  | .future => "IPvFuture address is invalid"
  | .ipv4 => "An IPv4 address cannot be in brackets"
  | .noAddress host => Text.quoted host ++ " does not appear to be an IPv4 or IPv6 address"

namespace Host

/-- Whether a character is a hexadecimal digit. -/
def isHexDigit (c : Char) : Bool :=
  c.isDigit || ('a' ≤ c && c ≤ 'f') || ('A' ≤ c && c ≤ 'F')

/-- The number that decimal digits write. -/
def decimal (digits : Text) : Nat := digits.foldl (fun n c => n * 10 + (c.toNat - 48)) 0

/-- Whether a text is a decimal number up to 255 without a leading zero. -/
def isOctet (t : Text) : Bool :=
  !t.isEmpty && t.all Char.isDigit && t.length ≤ 3 && (t = ['0'] || t.head? ≠ some '0')
    && decimal t ≤ 255

/-- Whether a text is an IPv4 address: four octets with dots between them. -/
def isIpv4 (t : Text) : Bool :=
  let octets := Text.split '.' t
  octets.length = 4 && octets.all isOctet

/-- Whether a text is one group of an IPv6 address. -/
def isGroup (t : Text) : Bool := !t.isEmpty && t.all isHexDigit && t.length ≤ 4

/-- The groups of an IPv6 address, of which an IPv4 address at the end takes two. -/
def groups? (t : Text) : Option (List Text) :=
  let parts := Text.split ':' t
  if parts.length < 3 then none
  else match parts.getLast? with
    | some last =>
      if last.contains '.' then
        if isIpv4 last then some (parts.dropLast ++ [['0'], ['0']]) else none
      else some parts
    | none => none

/-- Whether groups on one side of an abbreviation are well formed.  At the end of the address there
may be none, which leaves one empty text. -/
def isSide (side : List Text) : Bool := side = [[]] || side.all isGroup

/-- How many groups stand on one side of an abbreviation. -/
def sideLength (side : List Text) : Nat := if side = [[]] then 0 else side.length

/-- Whether groups make up an address: eight of them, or fewer than eight around one abbreviation,
which shows as an empty group that is neither the first nor the last. -/
def areAddress (groups : List Text) : Bool :=
  let inner := groups.tail.dropLast
  match inner.findIdx? List.isEmpty with
  | none => groups.length = 8 && groups.all isGroup
  | some i =>
    let before := groups.take (i + 1)
    let behind := groups.drop (i + 2)
    isSide before && isSide behind && sideLength before + sideLength behind ≤ 7

/-- Whether a text is an IPv6 address, with a zone or without. -/
def isIpv6 (t : Text) : Bool :=
  let (address, zone) := Text.cut '%' t
  !t.contains '/'
    && (match zone with
      | none => true
      | some z => !z.isEmpty && !z.contains '%')
    && (match groups? address with
      | none => false
      | some groups => areAddress groups)

/-- Whether a text is an address of a future form: `v`, a version in hexadecimal, a dot, and an
address. -/
def isFuture (t : Text) : Bool :=
  match Text.cut '.' t with
  | ('v' :: version, some address) =>
    !version.isEmpty && version.all isHexDigit && !address.isEmpty
  | _ => false

/-- Refuses a host that may not stand in brackets. -/
def check (host : Text) : Except HostError Unit :=
  if host.head? = some 'v' then if isFuture host then .ok () else .error .future
  else if isIpv4 host then .error .ipv4
  else if isIpv6 host then .ok ()
  else .error (.noAddress host)

/-- What follows the last `@` of an authority: the host, and perhaps a colon and a number. -/
def afterUser (authority : Text) : Text :=
  ((Text.split '@' authority).getLast?).getD authority

/-- Refuses an authority with brackets in it whose host is not an address in brackets. -/
def checkBracketed (authority : Text) : Except HostError Unit :=
  match Text.cut '[' (afterUser authority) with
  | (host, none) => check (Text.cut ':' host).1
  | ([], some rest) =>
    match Text.cut ']' rest with
    | (host, none) => check host
    | (host, some []) => check host
    | (host, some (c :: _)) => if c = ':' then check host else .error .outside
  | (_, some _) => .error .outside

end Host

end CurlSnippets
