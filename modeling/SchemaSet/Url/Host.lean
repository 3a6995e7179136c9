import SchemaSet.Url.Domain
import SchemaSet.Url.Percent

/-!
# Hosts

The characters between the slashes of a URL and its port or path name its host.  Brackets hold an
IPv6 address.  In a special URL everything else is a domain: it is percent-decoded and written in
ASCII, and a domain whose last label is a number is an IPv4 address.  In other URLs the host keeps
its case and may not hold delimiters.
-/

namespace SchemaSet
namespace Url

/-- Why a text is no URL. -/
inductive Fault
  /-- A host is needed and missing. -/
  | emptyHost
  | internationalHost
  /-- The port is no number below 65536. -/
  | badPort
  /-- The host ends in a number and is no IPv4 address. -/
  | badIPv4
  /-- The brackets hold no IPv6 address. -/
  | badIPv6
  /-- The host holds a delimiter. -/
  | badDomainCharacter
  /-- There is neither a scheme nor a base. -/
  | noBase
  /-- The base has an opaque path and cannot be completed. -/
  | flatBase
deriving DecidableEq, Repr

def Fault.message : Fault → String
  | .emptyHost => "empty host"
  | .internationalHost => "invalid international domain name"
  | .badPort => "invalid port number"
  | .badIPv4 => "invalid IPv4 address"
  | .badIPv6 => "invalid IPv6 address"
  | .badDomainCharacter => "invalid domain character"
  | .noBase => "relative URL without a base"
  | .flatBase => "relative URL with a cannot-be-a-base base"

/-- The number that some digits write in a base, if all of them are digits of it. -/
def number? (base : Nat) (cs : List Char) : Option Nat :=
  cs.foldl (fun acc c => do
    let n ← acc
    let d ← digitValue (octetOf c)
    if c.toNat < 0x80 && d < base then some (n * base + d) else none) (some 0)

section IPv4

/-- A label that writes a number: hexadecimal after `0x`, octal after `0`, else decimal. -/
def labelNumber? : List Char → Option Nat
  | [] => none
  | '0' :: 'x' :: r => number? 16 r
  | '0' :: 'X' :: r => number? 16 r
  | ['0'] => some 0
  | '0' :: r => number? 8 r
  | r => number? 10 r

/-- The labels of a domain, without the empty one after a final dot. -/
def labels (domain : List Char) : List (List Char) :=
  let ls := Text.pieces (· == '.') domain
  if ls.length > 1 && ls.getLast? == some [] then ls.dropLast else ls

/-- Whether the last label of a domain is a number. -/
def endsInNumber (domain : List Char) : Bool :=
  match (labels domain).getLast? with
  | some l => (!l.isEmpty && l.all Char.isDigit) || (labelNumber? l).isSome
  | none => false

/-- The address of some numbers: the last one fills the octets that the others leave. -/
def addressOf (numbers : List Nat) : Option Nat := do
  let last ← numbers.getLast?
  let firsts := numbers.dropLast
  if firsts.length > 3 || firsts.any (· > 255) || last ≥ Nat.pow 256 (4 - firsts.length) then none
  else some ((firsts.zipIdx.map fun p => p.1 * Nat.pow 256 (3 - p.2)).foldr (· + ·) last)

/-- The four numbers of an address with dots between them. -/
def writeIPv4 (address : Nat) : String :=
  String.intercalate "." ([3, 2, 1, 0].map fun i => toString (address / Nat.pow 256 i % 256))

/-- The written form of the IPv4 address that a domain stands for. -/
def ipv4 (domain : List Char) : Except Fault String :=
  match (labels domain).mapM labelNumber? with
  | some numbers =>
      match addressOf numbers with
      | some address => .ok (writeIPv4 address)
      | none => .error .badIPv4
  | none => .error .badIPv4

end IPv4

section IPv6

/-- A group of one to four hexadecimal digits. -/
def group? (cs : List Char) : Option Nat :=
  if cs.isEmpty || cs.length > 4 then none else number? 16 cs

/-- A decimal number below 256 without leading zeros. -/
def octet? (cs : List Char) : Option Nat :=
  if cs.isEmpty || (cs.length > 1 && cs.head? == some '0') || cs.length > 3 then none
  else (number? 10 cs).filter (· < 256)

/-- The two groups that an address with dots stands for. -/
def dotted? (cs : List Char) : Option (List Nat) := do
  let ns ← (Text.pieces (· == '.') cs).mapM octet?
  match ns with
  | [a, b, c, d] => some [a * 256 + b, c * 256 + d]
  | _ => none

/-- The groups with colons between them; the last one may be an address with dots. -/
def groups? (dots : Bool) (cs : List Char) : Option (List Nat) :=
  if cs.isEmpty then some []
  else
    let ps := Text.pieces (· == ':') cs
    match ps.getLast? with
    | some l =>
        if dots && l.contains '.' then do
          let firsts ← ps.dropLast.mapM group?
          let lasts ← dotted? l
          some (firsts ++ lasts)
        else ps.mapM group?
    | none => none

/-- The parts before and after the first double colon. -/
def cutDoubleColon : List Char → Option (List Char × List Char)
  | [] => none
  | ':' :: ':' :: r => some ([], r)
  | c :: r => (cutDoubleColon r).map fun p => (c :: p.1, p.2)

/-- The eight groups of an IPv6 address. -/
def ipv6Groups (cs : List Char) : Option (List Nat) :=
  match cutDoubleColon cs with
  | some (before, after) => do
      let firsts ← groups? false before
      let lasts ← groups? true after
      if firsts.length + lasts.length > 7 then none
      else some (firsts ++ List.replicate (8 - firsts.length - lasts.length) 0 ++ lasts)
  | none => do
      let all ← if cs.isEmpty then none else groups? true cs
      if all.length = 8 then some all else none

/-- The number of zeros that lead a list. -/
def zerosAhead (gs : List Nat) : Nat := (gs.takeWhile (· == 0)).length

/-- The start and the length of the first longest run of zeros. -/
def zeroRun : List Nat → Nat × Nat
  | [] => (0, 0)
  | g :: r =>
      let here := zerosAhead (g :: r)
      let later := zeroRun r
      if later.2 ≤ here then (0, here) else (later.1 + 1, later.2)

/-- Groups in lower-case hexadecimal with colons between them. -/
def writeGroups (gs : List Nat) : String :=
  String.intercalate ":" (gs.map fun g => String.ofList (Nat.toDigits 16 g))

/-- An address between brackets, without its longest run of two or more zeros. -/
def writeIPv6 (gs : List Nat) : String :=
  let run := zeroRun gs
  if run.2 < 2 then "[" ++ writeGroups gs ++ "]"
  else
    "[" ++ writeGroups (gs.take run.1) ++ "::" ++ writeGroups (gs.drop (run.1 + run.2)) ++ "]"

/-- The written form of the address that some characters between brackets stand for. -/
def ipv6 (cs : List Char) : Except Fault String :=
  match ipv6Groups cs with
  | some gs => .ok (writeIPv6 gs)
  | none => .error .badIPv6

end IPv6

/-- The inside of a pair of brackets around some characters. -/
def inBrackets? : List Char → Option (Option (List Char))
  | '[' :: r => some (if r.getLast? == some ']' then some r.dropLast else none)
  | _ => none

/-- The host of a special URL. -/
def domainHost (cs : List Char) : Except Fault String :=
  match inBrackets? cs with
  | some (some inside) => ipv6 inside
  | some none => .error .badIPv6
  | none =>
      match (Utf8.decodeChars (decodeOctets (Utf8.encodeChars cs))).toOption.bind asciiDomain? with
      | none => .error .internationalHost
      | some domain =>
          if domain.isEmpty then .error .emptyHost
          else if endsInNumber domain then ipv4 domain
          else .ok (String.ofList domain)

/-- The host of a URL that is not special. -/
def opaqueHost (cs : List Char) : Except Fault String :=
  match inBrackets? cs with
  | some (some inside) => ipv6 inside
  | some none => .error .badIPv6
  | none =>
      if cs.any hostDelimiters.contains then .error .badDomainCharacter
      else .ok (encodeChars controlSet cs)

end Url
end SchemaSet
