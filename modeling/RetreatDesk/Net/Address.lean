import RetreatDesk.Json.Lexeme

/-!
# Network addresses

* `IpAddress.ofText?`: four numbers between points, or eight groups between colons, of which one run of
  noughts may be left out.
* `SocketAddress.text`: an address with a port; the longest run of noughts is left out.
-/

namespace RetreatDesk

/-- The address of a host. -/
inductive IpAddress where
  /-- Four bytes. -/
  | v4 (bytes : List Nat)
  /-- Eight groups of two bytes. -/
  | v6 (groups : List Nat)
  deriving DecidableEq

namespace IpAddress

/-! ## Reading -/

/-- A number of at most three digits below 256, without noughts in front. -/
def byte? (cs : List Char) : Option (Nat × List Char) :=
  let (ds, rest) := Decimal.spanDigits cs
  let value := Decimal.digitsValue ds
  if ds.isEmpty || 3 < ds.length || 255 < value || (1 < ds.length && ds.head? = some '0') then none
  else some (value, rest)

/-- So many numbers with points between. -/
def bytes? : Nat → List Char → Option (List Nat × List Char)
  | 0, cs => some ([], cs)
  | 1, cs => (byte? cs).map fun (b, rest) => ([b], rest)
  | count + 2, cs => do
    let (b, rest) ← byte? cs
    match rest with
    | '.' :: rest =>
      let (bs, rest) ← bytes? (count + 1) rest
      return (b :: bs, rest)
    | _ => none

/-- A group of one to four digits in base sixteen. -/
def group? (cs : List Char) : Option (Nat × List Char) :=
  let ds := cs.takeWhile fun c => (Lexeme.hexValue? c).isSome
  if ds.isEmpty || 4 < ds.length then none
  else some (ds.foldl (fun n c => 16 * n + (Lexeme.hexValue? c).getD 0) 0, cs.drop ds.length)

/-- The text after the colon that stands before every group but the first. -/
def afterColon? (first : Bool) (cs : List Char) : Option (List Char) :=
  if first then some cs
  else
    match cs with
    | ':' :: rest => some rest
    | _ => none

/-- At most so many groups with colons between. The last two may be written as four numbers with points, which
ends them; whether they were is told. -/
def groups : Nat → Bool → List Char → List Nat × Bool × List Char
  | 0, _, cs => ([], false, cs)
  | left + 1, first, cs =>
    match afterColon? first cs with
    | none => ([], false, cs)
    | some inner =>
      match (if 1 ≤ left then bytes? 4 inner else none) with
      | some ([a, b, c, d], rest) => ([a * 256 + b, c * 256 + d], true, rest)
      | _ =>
        match group? inner with
        | some (g, rest) =>
          let (gs, dotted, rest) := groups left false rest
          (g :: gs, dotted, rest)
        | none => ([], false, cs)

/-- Eight groups, or fewer with a double colon for the noughts left out. -/
def eightGroups? (cs : List Char) : Option (List Nat × List Char) :=
  let (front, dotted, rest) := groups 8 true cs
  if front.length = 8 then some (front, rest)
  else if dotted then none
  else
    match rest with
    | ':' :: ':' :: rest =>
      let (back, _, rest) := groups (7 - front.length) true rest
      some (front ++ List.replicate (8 - front.length - back.length) 0 ++ back, rest)
    | _ => none

/-- The address that a whole text holds. -/
def ofText? (s : String) : Option IpAddress :=
  let cs := s.toList
  let found := match bytes? 4 cs with
    | some (bs, rest) => some (v4 bs, rest)
    | none => (eightGroups? cs).map fun (gs, rest) => (v6 gs, rest)
  match found with
  | some (address, []) => some address
  | _ => none

/-! ## Writing -/

/-- Numbers with points between. -/
def dottedText (bytes : List Nat) : String := String.intercalate "." (bytes.map Nat.repr)

/-- Groups with colons between. -/
def groupsText (groups : List Nat) : String :=
  String.intercalate ":" (groups.map fun g => String.ofList (Nat.toDigits 16 g))

/-- The start and the length of the longest run of noughts, the first of several. `run` is the length of
the run that ends before `index`. -/
def longestRun (index run : Nat) (best : Nat × Nat) : List Nat → Nat × Nat
  | [] => best
  | g :: rest =>
    if g = 0 then
      let best := if best.2 < run + 1 then (index - run, run + 1) else best
      longestRun (index + 1) (run + 1) best rest
    else longestRun (index + 1) 0 best rest

/-- Eight groups as text. Addresses of four bytes carried in eight groups show the bytes. -/
def text6 (gs : List Nat) : String :=
  match gs with
  | [0, 0, 0, 0, 0, 0xffff, a, b] => "::ffff:" ++ dottedText [a / 256, a % 256, b / 256, b % 256]
  | gs =>
    let (start, length) := longestRun 0 0 (0, 0) gs
    if 1 < length then groupsText (gs.take start) ++ "::" ++ groupsText (gs.drop (start + length))
    else groupsText gs

def text : IpAddress → String
  | v4 bytes => dottedText bytes
  | v6 gs => text6 gs

end IpAddress

/-- An address with a port. -/
structure SocketAddress where
  ip : IpAddress
  port : Nat
  deriving DecidableEq

/-- The address and the port as text. -/
def SocketAddress.text (a : SocketAddress) : String :=
  match a.ip with
  | .v4 _ => a.ip.text ++ ":" ++ a.port.repr
  | .v6 _ => "[" ++ a.ip.text ++ "]:" ++ a.port.repr

end RetreatDesk
