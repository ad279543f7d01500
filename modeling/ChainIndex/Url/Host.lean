import ChainIndex.Text.Numeral
import ChainIndex.Url.Name.Ascii
import ChainIndex.Url.Percent

/-!
# ChainIndex.Url.Host

Hosts: names, IPv4 addresses and IPv6 addresses, and the one text each is written as.

Under a web scheme a host is a name or an address: names lose their percent-encoding and
their capitals, and a name that ends in a number must be an IPv4 address, which may be
written in several bases and with fewer parts.  Under other schemes the text stands as it
is.  An IPv6 address stands in brackets under every scheme.
-/

namespace ChainIndex

/-- Why a text is no URL. -/
inductive UrlError where
  | relative
  | opaqueBase
  | emptyHost
  | invalidName
  | invalidHostCharacter
  | invalidIpv4
  | invalidIpv6
  | invalidPort
  deriving DecidableEq, Repr

/-- The wording of a fault. -/
def UrlError.message : UrlError → String
  | .relative => "relative URL without a base"
  | .opaqueBase => "relative URL with a cannot-be-a-base base"
  | .emptyHost => "empty host"
  | .invalidName => "invalid international domain name"
  | .invalidHostCharacter => "invalid domain character"
  | .invalidIpv4 => "invalid IPv4 address"
  | .invalidIpv6 => "invalid IPv6 address"
  | .invalidPort => "invalid port number"

namespace Url

/-! ## IPv4 -/

/-- A part of an IPv4 address: decimal, octal after `0`, hexadecimal after `0x`.  The outer
`none` means that it is no number, the inner that it is too large. -/
def ipv4Number? (part : List Char) : Option (Option Nat) :=
  let read (base : Nat) (digits : List Char) : Option (Option Nat) :=
    if digits.all fun c => (Text.digitValue? base c).isSome then
      let n := digits.foldl (fun n c => base * n + (Text.digitValue? base c).getD 0) 0
      some (if n < UInt32.size then some n else none)
    else none
  match part with
  | [] => none
  | '0' :: 'x' :: digits | '0' :: 'X' :: digits => read 16 digits
  | '0' :: d :: digits => read 8 (d :: digits)
  | digits => read 10 digits

/-- The parts of a name between dots, without the empty one after a final dot. -/
def dottedParts (name : List Char) : List (List Char) :=
  let parts := splitOn (· = '.') name
  match parts.reverse with
  | [] :: rest => rest.reverse
  | _ => parts

/-- Whether a name ends in a number, and so has to be an address. -/
def endsInNumber (name : List Char) : Bool :=
  let parts := (splitOn (· = '.') name).reverse
  let last? :=
    match parts with
    | [] :: last :: _ => some last
    | [[]] | [] => none
    | last :: _ => some last
  match last? with
  | some last => (!last.isEmpty && last.all Char.isDigit) || (ipv4Number? last).isSome
  | none => false

/-- The value of an IPv4 address whose last part fills the bytes the others leave. -/
def ipv4Value? (name : List Char) : Option Nat := do
  let parts := dottedParts name
  if 4 < parts.length then none
  else
    let numbers ← parts.mapM fun part => (ipv4Number? part).join
    match numbers.reverse with
    | [] => none
    | last :: leading =>
      let leading := leading.reverse
      if leading.any (255 < ·) then none
      else if Nat.pow 256 (4 - leading.length) ≤ last then none
      else some (leading.zipIdx.foldl (fun value (n, i) => value + n * Nat.pow 256 (3 - i)) last)

/-- The text of an IPv4 address. -/
def ipv4Text (value : Nat) : String :=
  ".".intercalate ([3, 2, 1, 0].map fun i => toString (value / Nat.pow 256 i % 256))

/-! ## IPv6 -/

/-- One byte of an IPv4 address inside an IPv6 address, and the rest. -/
def ipv6Byte? (text : List Char) : Option (Nat × List Char) :=
  let digits := text.takeWhile Char.isDigit
  let rest := text.dropWhile Char.isDigit
  match digits with
  | [] => none
  | '0' :: _ :: _ => none
  | _ =>
    let n := digits.foldl (fun n c => 10 * n + (c.toNat - 48)) 0
    if n ≤ 255 then some (n, rest) else none

/-- The two groups written as an IPv4 address at the end of an IPv6 address. -/
def ipv6Dotted? (text : List Char) : Option (List Nat) := do
  let (a, rest) ← ipv6Byte? text
  let '.' :: rest := rest | none
  let (b, rest) ← ipv6Byte? rest
  let '.' :: rest := rest | none
  let (c, rest) ← ipv6Byte? rest
  let '.' :: rest := rest | none
  let (d, rest) ← ipv6Byte? rest
  if rest.isEmpty then some [256 * a + b, 256 * c + d] else none

/-- The groups of one side of an IPv6 address; `fuel` bounds their number. -/
def ipv6Groups? : (fuel : Nat) → List Char → Option (List Nat)
  | 0, _ => none
  | fuel + 1, text =>
    let isHex (c : Char) : Bool := (Text.digitValue? 16 c).isSome
    let digits := text.takeWhile isHex
    let rest := text.dropWhile isHex
    let group := digits.foldl (fun n c => 16 * n + (Text.digitValue? 16 c).getD 0) 0
    if digits.isEmpty ∨ 4 < digits.length then none
    else
      match rest with
      | [] => some [group]
      | '.' :: _ => ipv6Dotted? text
      | ':' :: rest => (ipv6Groups? fuel rest).map (group :: ·)
      | _ => none

/-- The two sides of the first `::`, if there is one. -/
def splitDoubleColon : List Char → Option (List Char × List Char)
  | ':' :: ':' :: rest => some ([], rest)
  | c :: rest => (splitDoubleColon rest).map fun (left, right) => (c :: left, right)
  | [] => none

/-- The eight groups of an IPv6 address. -/
def ipv6Groups (text : List Char) : Option (List Nat) :=
  let side (text : List Char) : Option (List Nat) :=
    if text.isEmpty then some [] else ipv6Groups? 9 text
  match splitDoubleColon text with
  | none => do
    let groups ← side text
    if groups.length = 8 then some groups else none
  | some (left, right) => do
    let leading ← if left.contains '.' then none else side left
    let trailing ← side right
    let missing := 8 - (leading.length + trailing.length)
    if leading.length + trailing.length < 8 then
      some (leading ++ List.replicate missing 0 ++ trailing)
    else none

/-- The longest run of zeros that a list of groups has after its first `at` groups: where it
starts and how long it is; of two equally long the first. -/
def longestZeros : (place run : Nat) → List Nat → Nat × Nat → Nat × Nat
  | _, _, [], best => best
  | place, run, 0 :: rest, best =>
    let run := run + 1
    longestZeros (place + 1) run rest (if best.2 < run then (place + 1 - run, run) else best)
  | place, _, _ :: rest, best => longestZeros (place + 1) 0 rest best

/-- The text of an IPv6 address, the longest run of two or more zero groups left out. -/
def ipv6Text (groups : List Nat) : String :=
  let join (groups : List Nat) : String := ":".intercalate (groups.map Text.hexDigits)
  let (start, length) := longestZeros 0 0 groups (0, 1)
  if 1 < length then join (groups.take start) ++ "::" ++ join (groups.drop (start + length))
  else join groups

/-! ## Hosts -/

/-- The written form of an IPv6 host, given with its brackets. -/
def readIpv6 (text : List Char) : Except UrlError String :=
  match text with
  | '[' :: rest =>
    match rest.reverse with
    | ']' :: inner =>
      match ipv6Groups inner.reverse with
      | some groups => .ok ("[" ++ ipv6Text groups ++ "]")
      | none => .error .invalidIpv6
    | _ => .error .invalidIpv6
  | _ => .error .invalidIpv6

/-- The written form of a host under a web scheme. -/
def readHost (text : List Char) : Except UrlError String :=
  if text.head? = some '[' then readIpv6 text
  else
    match Name.ascii? (percentDecode text) with
    | none => .error .invalidName
    | some name =>
      if name.isEmpty then .error .emptyHost
      else if endsInNumber name then
        match ipv4Value? name with
        | some value => .ok (ipv4Text value)
        | none => .error .invalidIpv4
      else .ok (String.ofList name)

/-- The written form of a host under any other scheme. -/
def readOpaqueHost (text : List Char) : Except UrlError String :=
  if text.head? = some '[' then readIpv6 text
  else if text.any fun c => ['\x00', '\t', '\n', '\r', ' ', '#', '/', ':', '<', '>', '?', '@',
      '[', '\\', ']', '^', '|'].contains c then .error .invalidHostCharacter
  else .ok (String.ofList (percentEncode [] text))

end Url

end ChainIndex
