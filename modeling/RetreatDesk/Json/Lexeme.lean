import RetreatDesk.Json.Basic

/-!
# Drafts and their lexemes

A document on its way in may be unreadable from some point on, and some of its parts may be readable only as
long as nobody asks for their value. A `Draft` keeps all of that.

* `Draft`: a document as it was written, up to the first point where it cannot be read.
* `Lexeme`: a mark, a word, a number or a text of a document.
* `lex`: the lexemes of a document. The last one may be torn.
-/

namespace RetreatDesk

/-- Why a document cannot be read. -/
inductive Fault where
  /-- Something stands where it may not. -/
  | malformed
  /-- The document ends too early. -/
  | unfinished
  deriving DecidableEq

/-- A document as written. -/
inductive Draft where
  /-- A value that can be read. -/
  | value (v : Json)
  /-- A list, and what is wrong after its last item, if anything is. -/
  | list (items : List Draft) (gap : Option Fault)
  /-- A record, and what is wrong after its last field. A name without a readable text is `none`. -/
  | record (fields : List (Option String × Draft)) (gap : Option Fault)
  /-- Nothing can be read from here on; the fault found depends on whether the value is wanted or skipped. -/
  | broken (reading skipping : Fault)
  /-- Well formed, but without a value: a number out of range, half a character, too deep a container. -/
  | flawed (inner : Draft)

namespace Draft

instance : Inhabited Draft := ⟨.value .null⟩

/-- A draft that is unreadable for one reason. -/
def torn (fault : Fault) : Draft := .broken fault fault

end Draft

/-- A piece of a document. -/
inductive Lexeme where
  | listOpen
  | listClose
  | recordOpen
  | recordClose
  /-- The mark between items. -/
  | comma
  /-- The mark between a name and its value. -/
  | colon
  /-- A text; `none` when it holds half a character. -/
  | text (s : Option String)
  /-- A text that breaks off. -/
  | tornText (reading skipping : Fault)
  /-- A word or a number, or something that is neither. -/
  | word (d : Draft)

namespace Lexeme

/-! ## Texts -/

/-- The character that an escape of one letter stands for. -/
def escaped? (c : Char) : Option Char :=
  match c with
  | '"' => some '"'
  | '\\' => some '\\'
  | '/' => some '/'
  | 'b' => some '\x08'
  | 'f' => some '\x0c'
  | 'n' => some '\n'
  | 'r' => some '\r'
  | 't' => some '\t'
  | _ => none

/-- The value of a digit in base sixteen. -/
def hexValue? (c : Char) : Option Nat :=
  if '0' ≤ c ∧ c ≤ '9' then some (c.toNat - '0'.toNat)
  else if 'a' ≤ c ∧ c ≤ 'f' then some (c.toNat - 'a'.toNat + 10)
  else if 'A' ≤ c ∧ c ≤ 'F' then some (c.toNat - 'A'.toNat + 10)
  else none

/-- The value of four digits in base sixteen. -/
def hexValue4? (a b c d : Char) : Option Nat := do
  let a ← hexValue? a
  let b ← hexValue? b
  let c ← hexValue? c
  let d ← hexValue? d
  return ((a * 16 + b) * 16 + c) * 16 + d

/-- The first half of a character beyond the first plane. -/
def isHighHalf (n : Nat) : Bool := 0xd800 ≤ n && n ≤ 0xdbff

/-- The second half of a character beyond the first plane. -/
def isLowHalf (n : Nat) : Bool := 0xdc00 ≤ n && n ≤ 0xdfff

/-- The character that two halves make. -/
def joinHalves (high low : Nat) : Char :=
  Char.ofNat (0x10000 + (high - 0xd800) * 0x400 + (low - 0xdc00))

/-- The fault of a text that breaks off. A text with half a character was malformed before that. -/
def tornAfter (sound : Bool) (fault : Fault) : Lexeme :=
  .tornText (if sound then fault else .malformed) fault

/-- The fault where four digits are due and fewer characters follow: the end came too early only if fewer
than four bytes are left. -/
def shortHex (rest : List Char) : Fault :=
  if rest.foldl (fun n c => n + c.utf8Size) 0 < 4 then .unfinished else .malformed

/-- What follows the first half of a character: its second half, a breaking off, or something else. -/
inductive SecondHalf where
  /-- The value of a second escape, and how many characters it takes. -/
  | escape (n : Nat)
  /-- The text breaks off. -/
  | torn (fault : Fault)
  /-- No escape of that kind follows. -/
  | missing

/-- The escape after the first half of a character. -/
def secondHalf : List Char → SecondHalf
  | [] => .torn .unfinished
  | '\\' :: [] => .torn .unfinished
  | '\\' :: 'u' :: rest =>
    match rest with
    | a :: b :: c :: d :: _ =>
      match hexValue4? a b c d with
      | some n => .escape n
      | none => .torn .malformed
    | short => .torn (shortHex short)
  | _ => .missing

/-- The text whose opening quote has been passed, and what follows its closing one. `done` holds its
characters so far, last one first; `sound` tells that no half character was among them. -/
def scanText (sound : Bool) (done : List Char) : List Char → Lexeme × List Char
  | [] => (tornAfter sound .unfinished, [])
  | c :: rest =>
    if c = '"' then
      (.text (if sound then some (String.ofList done.reverse) else none), rest)
    else if c = '\\' then
      match rest with
      | [] => (tornAfter sound .unfinished, [])
      | e :: rest =>
        match escaped? e with
        | some plain => scanText sound (plain :: done) rest
        | none =>
          if e = 'u' then
            match rest with
            | h₁ :: h₂ :: h₃ :: h₄ :: rest =>
              match hexValue4? h₁ h₂ h₃ h₄ with
              | none => (tornAfter sound .malformed, [])
              | some n =>
                if isHighHalf n then
                  match secondHalf rest with
                  | .torn fault => (tornAfter sound fault, [])
                  | .missing => scanText false done rest
                  | .escape m =>
                    if isLowHalf m then scanText sound (joinHalves n m :: done) (rest.drop 6)
                    else scanText false done (rest.drop 6)
                else if isLowHalf n then scanText false done rest
                else scanText sound (Char.ofNat n :: done) rest
            | short => (tornAfter sound (shortHex short), [])
          else (tornAfter sound .malformed, [])
    else if c.toNat < 0x20 then (tornAfter sound .malformed, [])
    else scanText sound (c :: done) rest
termination_by cs => cs.length
decreasing_by all_goals simp_all <;> omega

/-! ## Words and numbers -/

/-- What follows the rest of a word, or the fault if something else stands there. -/
def scanRest : List Char → List Char → Except Fault (List Char)
  | [], rest => .ok rest
  | _ :: _, [] => .error .unfinished
  | w :: ws, c :: rest => if c = w then scanRest ws rest else .error .malformed

/-- A word that stands for a value. -/
def scanWord (word : String) (v : Json) (cs : List Char) : Draft × List Char :=
  match scanRest word.toList cs with
  | .ok rest => (.value v, rest)
  | .error fault => (.torn fault, [])

/-- The value of a whole number, which stays whole within sixty-four bits and is rounded like `realNumber` beyond. Minus
nought has a sign to keep and is no whole number. -/
def wholeNumber (negative : Bool) (n : Nat) : Number :=
  if negative then
    if n = 0 ∨ Nat.pow 2 63 < n then .real (Decimal.ofDecimal true n 0) else .whole (-n)
  else if n < Nat.pow 2 64 then .whole n else .real (Decimal.ofDecimal false n 0)

/-- A number that is not written whole, as the nearest `Float`; beyond the largest it has no value. A reader that scales
the digits by a rounded power of ten comes to the same `Float` where they stay below `2 ^ 53` and the power within `22`.
Elsewhere it may be off by a last place. -/
def realNumber (negative : Bool) (digits : Nat) (exponent : Int) : Draft :=
  let x := Decimal.ofDecimal negative digits exponent
  if Decimal.isFinite x then .value (.number (.real x)) else .flawed (.value .null)

/-- Where digits are due and none stand: a number that breaks off counts as unfinished when its value is
wanted and as malformed when it is skipped. -/
def missingDigits : List Char → Draft
  | [] => .broken .unfinished .malformed
  | _ => .torn .malformed

/-- The exponent of a number whose sign and digits are known. -/
def scanExponent (negative : Bool) (digits : List Char) (places : Nat) (written : Bool) :
    List Char → Draft × List Char
  | c :: rest =>
    if c = 'e' ∨ c = 'E' then
      let (minus, rest) := Decimal.spanSign rest
      let (power, rest) := Decimal.spanDigits rest
      if power.isEmpty then (missingDigits rest, [])
      else
        let e : Int := if minus then -(Decimal.digitsValue power : Int) else Decimal.digitsValue power
        (realNumber negative (Decimal.digitsValue digits) (e - places), rest)
    else if written then (realNumber negative (Decimal.digitsValue digits) (-places), c :: rest)
    else (finish, c :: rest)
  | [] =>
    if written then (realNumber negative (Decimal.digitsValue digits) (-places), []) else (finish, [])
where
  /-- A number without point and exponent. -/
  finish : Draft :=
    match wholeNumber negative (Decimal.digitsValue digits) with
    | .whole n => .value (.number (.whole n))
    | .real x => if Decimal.isFinite x then .value (.number (.real x)) else .flawed (.value .null)

/-- The number at the front: an optional minus, digits without a leading nought, an optional fraction and an
optional exponent. -/
def scanNumber (cs : List Char) : Draft × List Char :=
  let (negative, cs) := match cs with
    | '-' :: rest => (true, rest)
    | cs => (false, cs)
  let (whole, rest) := Decimal.spanDigits cs
  match whole with
  | [] => (missingDigits rest, [])
  | '0' :: _ :: _ => (.torn .malformed, [])
  | whole =>
    match rest with
    | '.' :: rest =>
      let (fraction, rest) := Decimal.spanDigits rest
      if fraction.isEmpty then (missingDigits rest, [])
      else scanExponent negative (whole ++ fraction) fraction.length true rest
    | rest => scanExponent negative whole 0 false rest

/-! ## All lexemes -/

/-- The blanks of a document. -/
def isSpace (c : Char) : Bool := c = ' ' || c = '\t' || c = '\n' || c = '\r'

def mark? (c : Char) : Option Lexeme :=
  match c with
  | '[' => some .listOpen
  | ']' => some .listClose
  | '\x7b' => some .recordOpen
  | '\x7d' => some .recordClose
  | ',' => some .comma
  | ':' => some .colon
  | _ => none

/-- The word, number or text that starts with a character, and what follows it. -/
def scan (c : Char) (rest : List Char) : Lexeme × List Char :=
  if c = '"' then scanText true [] rest
  else
    let (d, rest) :=
      if c = 'n' then scanWord "null" .null (c :: rest)
      else if c = 't' then scanWord "true" (.bool true) (c :: rest)
      else if c = 'f' then scanWord "false" (.bool false) (c :: rest)
      else if c = '-' ∨ c.isDigit then scanNumber (c :: rest)
      else (.torn .malformed, [])
    (.word d, rest)

/-- The lexemes of a document. At most `fuel` characters are looked at. -/
def lexWithin : Nat → List Char → List Lexeme
  | 0, _ => []
  | _, [] => []
  | fuel + 1, c :: rest =>
    if isSpace c then lexWithin fuel rest
    else
      match mark? c with
      | some l => l :: lexWithin fuel rest
      | none =>
        let (l, rest) := scan c rest
        l :: lexWithin fuel rest

end Lexeme

/-- The lexemes of a document. Each takes at least one character, so the length bounds their number. -/
def lex (s : String) : List Lexeme :=
  let cs := s.toList
  Lexeme.lexWithin cs.length cs

end RetreatDesk
