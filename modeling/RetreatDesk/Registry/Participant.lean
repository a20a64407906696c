import RetreatDesk.Registry.Program

/-!
# Participants

* `Participant`: a person with the programs registered for.
* `Participant.fullName`, `spokenLanguage`, `writtenLanguage`: what is shown of a person.
* `Participant.value?`: fields addressed by their stored names.
* `Change`: a partial update of a person.
-/

namespace RetreatDesk

/-- A person known to the desk. -/
structure Participant where
  /-- The key of the person. -/
  id : String := ""
  first : String := ""
  last : String := ""
  email : String := ""
  programs : Sorted Program := .empty
  /-- What the person practises. -/
  practice : Sorted Json := .empty
  /-- Mails sent, by kind. -/
  emails : Sorted String := .empty
  spokenLangPref : Option String := none
  writtenLangPref : Option String := none
  /-- The person wants to be addressed in the languages preferred. -/
  spokenTranslate : Bool := false
  /-- The person wants no mail. -/
  unsubscribe : Bool := false
  /-- Fields without a meaning here. -/
  extra : Listed Json := .empty

namespace Participant

def layout : Layout Participant where
  title := "struct Participant"
  fields := ["id", "first", "last", "email", "programs", "practice", "emails", "spokenLangPref",
    "writtenLangPref", "spokenTranslate", "unsubscribe"]
  required := ["id"]
  blank := {}
  set name d p :=
    match name with
    | "id" => do return { p with id := ← Reader.label d }
    | "first" => do return { p with first := ← Reader.label d }
    | "last" => do return { p with last := ← Reader.label d }
    | "email" => do return { p with email := ← Reader.label d }
    | "programs" => do return { p with programs := ← Reader.sorted Program.layout.read d }
    | "practice" => do return { p with practice := ← Reader.sorted Reader.json d }
    | "emails" => do return { p with emails := ← Reader.labels d }
    | "spokenLangPref" => do return { p with spokenLangPref := ← Reader.note d }
    | "writtenLangPref" => do return { p with writtenLangPref := ← Reader.note d }
    | "spokenTranslate" => do return { p with spokenTranslate := ← Reader.flag d }
    | "unsubscribe" => do return { p with unsubscribe := ← Reader.flag d }
    | _ => .ok p
  keep := some fun name v p => { p with extra := p.extra.insert name v }

def toJson (p : Participant) : Json :=
  .record ([("id", .text p.id), ("first", .text p.first), ("last", .text p.last), ("email", .text p.email),
    ("programs", .record (p.programs.entries.map fun (k, r) => (k, r.toJson))),
    ("practice", .record p.practice.entries),
    ("emails", .record (p.emails.entries.map fun (k, s) => (k, .text s)))] ++
    optionalField "spokenLangPref" p.spokenLangPref ++
    optionalField "writtenLangPref" p.writtenLangPref ++
    [("spokenTranslate", .bool p.spokenTranslate), ("unsubscribe", .bool p.unsubscribe)] ++
    p.extra.entries)

/-- The program for an event. -/
def program? (p : Participant) (aid : String) : Option Program := p.programs.get? aid

/-- First and last name without blanks around them, with one blank between if there are both. -/
def fullName (p : Participant) : String :=
  let first := Text.trim p.first
  let last := Text.trim p.last
  if first = "" then last else if last = "" then first else first ++ " " ++ last

/-! ## Fields by name -/

/-- A field by its stored name. -/
def value? (p : Participant) (name : String) : Option Json :=
  match name with
  | "id" => some (.text p.id)
  | "first" => some (.text p.first)
  | "last" => some (.text p.last)
  | "email" => some (.text p.email)
  | "spokenLangPref" => p.spokenLangPref.map .text
  | "writtenLangPref" => p.writtenLangPref.map .text
  | "spokenTranslate" => some (.bool p.spokenTranslate)
  | "unsubscribe" => some (.bool p.unsubscribe)
  | _ => p.extra.get? name

/-- Whether a field says yes. -/
def flag (p : Participant) (name : String) : Bool := (p.value? name).any Json.isSet

/-- A field as a text. -/
def text? (p : Participant) (name : String) : Option String := (p.value? name).bind Json.text?

/-- Whether the person practises something. -/
def practises (p : Participant) (name : String) : Bool := (p.practice.get? name).any Json.isSet

/-! ## Languages -/

/-- The language of those who stated none. -/
def defaultLanguage : String := "English"

/-- The language the person is spoken to in. -/
def spokenLanguage (p : Participant) : String :=
  match p.spokenLangPref with
  | some language => if language.isEmpty then defaultLanguage else language
  | none => defaultLanguage

/-- The language the person is written to in. Only those who asked for it get another than the default. -/
def writtenLanguage (p : Participant) : String :=
  if p.spokenTranslate then
    match p.writtenLangPref with
    | some language => if language.isEmpty then defaultLanguage else language
    | none => defaultLanguage
  else defaultLanguage

end Participant

/-! ## Changes -/

/-- A partial update of a person. -/
structure Change where
  /-- Whom it is about. -/
  participantId : String := ""
  /-- The new values, field by field. -/
  fields : List (String × Json) := []

namespace Change

def layout : Layout Change where
  title := "struct ParticipantChange"
  fields := ["participantId", "changedFields"]
  required := ["participantId", "changedFields"]
  blank := {}
  set name d c :=
    match name with
    | "participantId" => do return { c with participantId := ← Reader.text .string d }
    | "changedFields" => do
      return { c with fields := (Listed.ofList (← Reader.entries Reader.json d)).entries }
    | _ => .ok c
  keep := none

def toJson (c : Change) : Json :=
  .record [("participantId", .text c.participantId), ("changedFields", .record c.fields)]

end Change

end RetreatDesk
