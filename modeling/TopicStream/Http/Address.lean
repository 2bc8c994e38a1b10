import TopicStream.Text.Hex
import TopicStream.Text.Utf8

/-!
# Addresses of servers

What an address says about where to connect and what to ask for there. Only plain connections are
known, and no address with user information.
-/

namespace TopicStream.Http

/-- Where to connect and what to ask for there. -/
structure Address where
  /-- The name or number of the host. -/
  host : String
  /-- The port. -/
  port : Nat
  /-- Host and port as the address gives them. -/
  authority : String
  /-- Path and query, with a leading slash. -/
  target : String
  deriving DecidableEq, Repr

namespace Address

/-- How addresses of plain connections begin. -/
def scheme : List Char := "http://".toList

/-- The port where none is given. -/
def defaultPort : Nat := 80

/-- The value of decimal digits. -/
def decimal? (digits : List Char) : Option Nat :=
  if digits.isEmpty || !digits.all Char.isDigit then none
  else some (digits.foldl (fun n c => n * 10 + (c.toNat - 0x30)) 0)

/-- The port of a text that begins with a colon, or is empty. -/
def port? : List Char → Option Nat
  | [] | [':'] => some defaultPort
  | ':' :: digits => (decimal? digits).filter (· < 65536)
  | _ => none

/-- Host and port. A host in brackets is a number that may hold colons. -/
def hostPort? : List Char → Option (List Char × Nat)
  | '[' :: text =>
    match text.span (· != ']') with
    | (host, ']' :: rest) => (port? rest).map (host, ·)
    | _ => none
  | text =>
    let (host, rest) := text.span (· != ':')
    if host.isEmpty then none else (port? rest).map (host, ·)

/-- Whether a byte may stand in a target. -/
def isTargetByte (b : UInt8) : Bool :=
  0x21 ≤ b.toNat && b.toNat ≤ 0x7E && b != 0x22 && b != 0x3C && b != 0x3E

/-- The written form of a byte of a target. -/
def targetByte (b : UInt8) : List Char :=
  if isTargetByte b then [Char.ofNat b.toNat]
  else ['%', Text.Hex.upper (b.toNat / 16), Text.Hex.upper (b.toNat % 16)]

/-- The written form of a target: it begins with a slash, and the fragment is left out. -/
def targetText (text : List Char) : List Char :=
  let text := text.takeWhile (· != '#')
  let text := if text.head? = some '/' then text else '/' :: text
  (Text.Utf8.encode text).flatMap targetByte

/-- The address of a text. -/
def parse? (url : String) : Option Address :=
  let text := url.toList
  if (text.take scheme.length).map Char.toLower = scheme then
    let (authority, rest) := (text.drop scheme.length).span fun c => c != '/' && c != '?' && c != '#'
    if authority.contains '@' then none
    else
      (hostPort? authority).map fun (host, port) =>
        ⟨String.ofList host, port, String.ofList authority, String.ofList (targetText rest)⟩
  else none

end Address

end TopicStream.Http
