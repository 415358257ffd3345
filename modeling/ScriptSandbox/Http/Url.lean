import ScriptSandbox.Decimal.Reading
import ScriptSandbox.Http.Domain
import ScriptSandbox.Json.Reader
import ScriptSandbox.Text.Lossy
import ScriptSandbox.Text.Quoted

/-!
Absolute URLs, as far as deciding on a request needs them: the scheme and the host. Blanks around a URL
and line breaks inside it do not count, a URL of a web scheme may have any slashes after its colon, and
hosts are names in ASCII, IPv4 addresses in four decimal numbers or IPv6 addresses in brackets.
-/

namespace ScriptSandbox

structure Url where
  scheme : String
  /-- The host as it is compared, empty if there is none. -/
  host : String
  deriving Repr, DecidableEq

inductive UrlFault where
  | relative
  | emptyHost
  | invalidDomain
  | invalidDomainCharacter
  | invalidPort
  | invalidIpv4
  | invalidIpv6
  deriving Repr, DecidableEq

def UrlFault.message : UrlFault → String
  | .relative => "relative URL without a base"
  | .emptyHost => "empty host"
  | .invalidDomain => "invalid international domain name"
  | .invalidDomainCharacter => "invalid domain character"
  | .invalidPort => "invalid port number"
  | .invalidIpv4 => "invalid IPv4 address"
  | .invalidIpv6 => "invalid IPv6 address"

namespace Url

/-- The schemes whose URLs have a host and treat a backslash as a slash. -/
def isSpecial (scheme : String) : Bool :=
  ["http", "https", "ws", "wss", "ftp", "file"].contains scheme

def splitAt (mark : Char) (text : List Char) : List (List Char) :=
  text.foldr (fun c parts =>
    if c = mark then [] :: parts
    else match parts with
      | part :: rest => (c :: part) :: rest
      | [] => [[c]]) [[]]

/-- The number that a part of an IPv4 address writes: decimal, octal after `0`, hexadecimal after
`0x`. The outer option tells whether it is a number, the inner one whether it fits 32 bits. -/
def ipv4Number? (part : List Char) : Option (Option Nat) :=
  let (base, digits) := match part with
    | '0' :: 'x' :: rest => (16, rest)
    | '0' :: 'X' :: rest => (16, rest)
    | '0' :: c :: rest => (8, c :: rest)
    | _ => (10, part)
  if part.isEmpty then none
  else if digits.all fun c => (Json.hexValue? c).any (· < base) then
    let n := digits.foldl (fun n c => n * base + (Json.hexValue? c).getD 0) 0
    some (if n < 0x100000000 then some n else none)
  else none

def endsInNumber (name : List Char) : Bool :=
  let parts := (splitAt '.' name).reverse
  let last? := match parts with
    | [] :: last :: _ => some last
    | [[]] => none
    | last :: _ => some last
    | [] => none
  match last? with
  | none => false
  | some last => (!last.isEmpty && last.all Char.isDigit) || (ipv4Number? last).isSome

def ipv4Text (address : Nat) : String :=
  ".".intercalate [toString (address / 0x1000000), toString (address / 0x10000 % 256),
    toString (address / 256 % 256), toString (address % 256)]

/-- The address that at most four numbers write; the last one fills the bytes that are left. -/
def ipv4? (name : List Char) : Option Nat := do
  let parts := splitAt '.' name
  let parts := if parts.getLast? = some [] then parts.dropLast else parts
  if 4 < parts.length then none
  else
    let numbers ← parts.mapM fun part => (ipv4Number? part).bind id
    let last ← numbers.getLast?
    let before := numbers.dropLast
    if Nat.pow 2 (32 - 8 * before.length) ≤ last ∨ before.any (255 < ·) then none
    else
      let (sum, _) := before.foldl (fun (sum, shift) n => (sum + n * Nat.pow 2 shift, shift - 8)) (last, 24)
      return sum

/-- The pieces of an IPv6 address: groups of hexadecimal digits with colons between them, where at
most one run of zero groups is left out, and possibly an IPv4 address at the end. -/
def ipv6Groups? (text : List Char) : Option (List Nat) :=
  let isGroup (part : List Char) : Bool :=
    !part.isEmpty && part.length ≤ 4 && part.all fun c => (Json.hexValue? c).isSome
  let groupValue (part : List Char) : Nat :=
    part.foldl (fun n c => n * 16 + (Json.hexValue? c).getD 0) 0
  let quad? (part : List Char) : Option (List Nat) :=
    let numbers := splitAt '.' part
    if numbers.length = 4 && numbers.all (fun n => !n.isEmpty && n.length ≤ 3 && n.all Char.isDigit &&
        Decimal.ofDigits n ≤ 255 && !(1 < n.length && n.head? == some '0')) then
      match numbers.map Decimal.ofDigits with
      | [a, b, c, d] => some [a * 256 + b, c * 256 + d]
      | _ => none
    else none
  let rec groups (last : Bool) : List (List Char) → Option (List Nat)
    | [] => some []
    | [part] => if isGroup part then some [groupValue part] else if last then quad? part else none
    | part :: rest => if isGroup part then (groups last rest).map (groupValue part :: ·) else none
  let side (last : Bool) (text : List Char) : Option (List Nat) :=
    if text.isEmpty then some [] else groups last (splitAt ':' text)
  let rec cut (before : List Char) : List Char → Option (List Char × List Char)
    | ':' :: ':' :: rest => some (before.reverse, rest)
    | c :: rest => cut (c :: before) rest
    | [] => none
  match cut [] text with
  | some (left, right) =>
    match side false left, side true right with
    | some left, some right =>
      if left.length + right.length ≤ 7 then
        some (left ++ List.replicate (8 - left.length - right.length) 0 ++ right)
      else none
    | _, _ => none
  | none =>
    match side true text with
    | some found => if found.length = 8 then some found else none
    | none => none

def longestZeros (groups : List Nat) : Nat × Nat :=
  let (best, _, _) := groups.foldl (fun (best, run, index) group =>
    if group = 0 then
      let run := run + 1
      (if best.2 < run then (index + 1 - run, run) else best, run, index + 1)
    else (best, 0, index + 1)) (((0, 0) : Nat × Nat), 0, 0)
  best

def ipv6Text (groups : List Nat) : String :=
  let (start, count) := longestZeros groups
  let shown (part : List Nat) : String := ":".intercalate (part.map Text.hex)
  if 2 ≤ count then shown (groups.take start) ++ "::" ++ shown (groups.drop (start + count))
  else shown groups

def percentDecode : List UInt8 → List UInt8
  | 0x25 :: a :: b :: rest =>
    match Json.hexValue? (Char.ofNat a.toNat), Json.hexValue? (Char.ofNat b.toNat) with
    | some high, some low => (high * 16 + low).toUInt8 :: percentDecode rest
    | _, _ => 0x25 :: percentDecode (a :: b :: rest)
  | byte :: rest => byte :: percentDecode rest
  | [] => []

def specialHost (text : List Char) : Except UrlFault String :=
  match text with
  | '[' :: rest =>
    if rest.getLast? = some ']' then
      match ipv6Groups? rest.dropLast with
      | some groups => pure ("[" ++ ipv6Text groups ++ "]")
      | none => throw .invalidIpv6
    else throw .invalidIpv6
  | _ =>
    let bytes := percentDecode (String.ofList text).toUTF8.toList
    match Domain.toAscii? (Lossy.decode bytes.toArray) with
    | none => throw .invalidDomain
    | some name =>
      if name.isEmpty then throw .emptyHost
      else if endsInNumber name.toList then
        match ipv4? name.toList with
        | some address => pure (ipv4Text address)
        | none => throw .invalidIpv4
      else pure name

def otherHost (text : List Char) : Except UrlFault String :=
  match text with
  | '[' :: _ => specialHost text
  | _ =>
    if text.any fun c => "\x00\t\n\r #/:<>?@[\\]^|".toList.contains c then
      throw .invalidDomainCharacter
    else pure (String.ofList text)

/-- The characters of the host, which ends at a colon outside brackets or where the path begins. -/
def hostPart (special inBrackets : Bool) : List Char → List Char × List Char
  | [] => ([], [])
  | c :: rest =>
    if (c = ':' ∧ !inBrackets) ∨ c = '/' ∨ c = '?' ∨ c = '#' ∨ (special ∧ c = '\\') then
      ([], c :: rest)
    else
      let inside := if c = '[' then true else if c = ']' then false else inBrackets
      let (host, rest) := hostPart special inside rest
      (c :: host, rest)

/-- Checks a port: decimal digits up to the path, whose number fits 16 bits. -/
def checkPort (port : Nat) : List Char → Except UrlFault Unit
  | [] => pure ()
  | c :: rest =>
    if c.isDigit then
      let port := port * 10 + Decimal.digitValue c
      if 65535 < port then throw .invalidPort else checkPort port rest
    else if c = '/' ∨ c = '\\' ∨ c = '?' ∨ c = '#' then pure ()
    else throw .invalidPort

/-- What follows the credentials: the text after the last `@` before the path. -/
def skipCredentials (special : Bool) (text : List Char) : Except UrlFault (List Char) :=
  let endsAuthority (c : Char) : Bool := c == '/' || c == '?' || c == '#' || (special && c == '\\')
  let authority := text.takeWhile fun c => !endsAuthority c
  if authority.contains '@' then
    let after := (authority.reverse.takeWhile (· != '@')).reverse
    let rest := text.drop (authority.length - after.length)
    if authority.length = 1 ∧ !rest.isEmpty then throw .emptyHost else pure rest
  else pure text

def authorityHost (special : Bool) (text : List Char) : Except UrlFault String := do
  let text ← skipCredentials special text
  let (hostText, rest) := hostPart special false text
  if special && hostText.isEmpty then throw .emptyHost
  let host ← if special then specialHost hostText else otherHost hostText
  if host.isEmpty && rest.head? == some ':' then throw .emptyHost
  match rest with
  | ':' :: port => checkPort 0 port
  | _ => pure ()
  return host

def isSchemeChar (c : Char) : Bool :=
  c.isAlphanum || c == '+' || c == '-' || c == '.'

def parse (text : String) : Except UrlFault Url := do
  let outer (c : Char) : Bool := c.val ≤ 0x20
  let trimmed := (text.toList.dropWhile outer).reverse.dropWhile outer |>.reverse
  let input := trimmed.filter fun c => c != '\t' && c != '\n' && c != '\r'
  let scheme := input.takeWhile isSchemeChar
  match scheme.head?, input.drop scheme.length with
  | some first, ':' :: rest =>
    if !first.isAlpha then throw .relative
    let name := String.ofList (scheme.map Char.toLower)
    if name = "file" then
      return ⟨name, ""⟩
    else if isSpecial name then
      return ⟨name, ← authorityHost true (rest.dropWhile fun c => c == '/' || c == '\\')⟩
    else
      match rest with
      | '/' :: '/' :: rest => return ⟨name, ← authorityHost false rest⟩
      | _ => return ⟨name, ""⟩
  | _, _ => throw .relative

end Url

end ScriptSandbox
