import RetreatDesk.Text.Letter

/-!
# Media types

* `isJsonType`: whether the header of a body says that it holds JSON.
-/

namespace RetreatDesk.Web

/-- The characters of a token: letters, digits and some marks. -/
def isTokenChar (c : Char) : Bool := c.isAlphanum || "!#$%&'*+-.^_\x60|~".toList.contains c

/-- A token of at least one character. -/
def isToken (cs : List Char) : Bool := !cs.isEmpty && cs.all isTokenChar

/-- What follows a value between quotes: blanks, then the end or the next parameter. -/
def afterQuoted? : List Char → Option (List Char)
  | [] => some []
  | ' ' :: rest => afterQuoted? rest
  | ';' :: rest => some rest
  | _ => none

/-- What follows the value of a parameter. Between quotes at least one character stands. -/
def afterValue? (cs : List Char) : Option (List Char) :=
  match cs with
  | '"' :: first :: rest =>
    let inside := (first :: rest.takeWhile (· ≠ '"'))
    match rest.dropWhile (· ≠ '"') with
    | _ :: after =>
      if inside.all (fun c => 31 < c.toNat && c.toNat < 127) then afterQuoted? after else none
    | [] => none
  | ['"'] => none
  | cs =>
    match cs.dropWhile isTokenChar with
    | [] => some []
    | ';' :: after => if (cs.takeWhile isTokenChar).isEmpty then none else some after
    | _ => none

/-- Whether parameters are well formed: names and values with an equals sign between them, and semicolons
between one and the next. At most `fuel` characters are looked at. -/
def parametersWithin : Nat → List Char → Bool
  | 0, cs => cs.isEmpty
  | _, [] => true
  | fuel + 1, ' ' :: rest => parametersWithin fuel rest
  | fuel + 1, cs =>
    match cs.dropWhile isTokenChar with
    | '=' :: value =>
      !(cs.takeWhile isTokenChar).isEmpty &&
        (match afterValue? value with
         | some rest => parametersWithin fuel rest
         | none => false)
    | _ => false

def wellFormedParameters (cs : List Char) : Bool := parametersWithin (cs.length + 1) cs

/-- The part of a subtype after its last plus sign, and the part before it. -/
def splitSuffix (cs : List Char) : List Char × Option (List Char) :=
  let reversed := cs.reverse
  match reversed.dropWhile (· ≠ '+') with
  | _ :: before => if before.isEmpty then (cs, none)
    else (before.reverse, some (reversed.takeWhile (· ≠ '+')).reverse)
  | [] => (cs, none)

/-- Whether the header of a body says that it holds JSON: `application/json`, or any subtype of `application`
built on JSON. Case does not count, and parameters may follow. -/
def isJsonType (header : String) : Bool :=
  let cs := header.toList
  let essence := cs.takeWhile (· ≠ ';')
  let parameters := (cs.dropWhile (· ≠ ';')).drop 1
  let type := essence.takeWhile (· ≠ '/')
  let subtype := (essence.dropWhile (· ≠ '/')).drop 1
  let word (cs : List Char) : String := Text.lowerLatin (String.ofList cs)
  let (base, suffix) := splitSuffix subtype
  isToken type && isToken subtype && wellFormedParameters parameters && word type = "application" &&
    (word base = "json" || suffix.any fun s => word s = "json")

end RetreatDesk.Web
