import RetreatDesk.Registry.Program

/-!
# Views

* `ColumnDef`: a column as it was authored.
* `ViewFilter`: a condition on the people shown.
* `View`: the columns and conditions of one listing.
* `ViewRequest`: what a screen asks a view for.
-/

namespace RetreatDesk

/-! ## Columns -/

/-- A column as authored. The name tells its kind; the other fields are parameters that some kind needs. -/
structure ColumnDef where
  name : String := ""
  /-- The text at its head. -/
  header : Option String := none
  pool : Option String := none
  aid : Option String := none
  map : Option String := none
  /-- A field read as a flag. -/
  boolName : Option String := none
  /-- A field read as a text. -/
  stringName : Option String := none
  /-- A field read as a number. -/
  numberName : Option String := none
  /-- A field, where no field for its kind of reading is named. -/
  field : Option String := none
  /-- Whether the column is left out of tables. -/
  hidden : Bool := false

namespace ColumnDef

def layout : Layout ColumnDef where
  title := "struct ColumnDef"
  fields := ["name", "headerName", "pool", "aid", "map", "boolName", "stringName", "numberName", "field", "hidden"]
  required := ["name"]
  blank := {}
  set name d c :=
    match name with
    | "name" => do return { c with name := ← Reader.label d }
    | "headerName" => do return { c with header := ← Reader.note d }
    | "pool" => do return { c with pool := ← Reader.note d }
    | "aid" => do return { c with aid := ← Reader.note d }
    | "map" => do return { c with map := ← Reader.note d }
    | "boolName" => do return { c with boolName := ← Reader.note d }
    | "stringName" => do return { c with stringName := ← Reader.note d }
    | "numberName" => do return { c with numberName := ← Reader.note d }
    | "field" => do return { c with field := ← Reader.note d }
    | "hidden" => do return { c with hidden := ← Reader.flag d }
    | _ => .ok c
  keep := none

def toJson (c : ColumnDef) : Json :=
  .record ([("name", .text c.name)] ++ optionalField "headerName" c.header ++ optionalField "pool" c.pool ++
    optionalField "aid" c.aid ++ optionalField "map" c.map ++ optionalField "boolName" c.boolName ++
    optionalField "stringName" c.stringName ++ optionalField "numberName" c.numberName ++
    optionalField "field" c.field ++ [("hidden", .bool c.hidden)])

end ColumnDef

/-! ## Conditions -/

/-- A fact about a person that a view can ask for. -/
inductive ViewFact where
  /-- A field of the current program says yes. -/
  | currentField (name : String)
  /-- An entry of a map of the current program says yes. -/
  | currentMap (map name : String)
  /-- A field of the person says yes. -/
  | baseField (name : String)
  | practice (name : String)
  | poolMember (pool : String)
  /-- The offering for a sub-event is complete. -/
  | offering (subEvent : Option String)
  | deposit (subEvent : Option String)
  | spokenLanguage (language : String)
  | writtenLanguage (language : String)
  deriving DecidableEq

/-- A condition on the people shown. -/
inductive ViewFilter where
  /-- The fact is so, or is not so. -/
  | expect (fact : ViewFact) (value : Bool)
  | unknown
  deriving DecidableEq

namespace ViewFact

def tag : ViewFact → String
  | currentField _ => "currentAIDBool"
  | currentMap _ _ => "currentAIDMapBool"
  | baseField _ => "baseBool"
  | practice _ => "practiceBool"
  | poolMember _ => "poolMember"
  | offering _ => "offering"
  | deposit _ => "deposit"
  | spokenLanguage _ => "spokenLanguage"
  | writtenLanguage _ => "writtenLanguage"

/-- The parameters of a fact, by stored name. -/
def parameters : ViewFact → List (String × Json)
  | currentField name => [("boolName", .text name)]
  | currentMap map name => [("map", .text map), ("boolName", .text name)]
  | baseField name => [("boolName", .text name)]
  | practice name => [("boolName", .text name)]
  | poolMember pool => [("pool", .text pool)]
  | offering subEvent => optionalField "subEvent" subEvent
  | deposit subEvent => optionalField "subEvent" subEvent
  | spokenLanguage language => [("stringValue", .text language)]
  | writtenLanguage language => [("stringValue", .text language)]

/-- The names of the parameters, those that may be left out included. -/
def parameterNames : ViewFact → List String
  | offering _ | deposit _ => ["subEvent"]
  | fact => keysOf fact.parameters

/-- What messages call a condition on a fact. -/
def variantName : ViewFact → String
  | currentField _ => "CurrentAidBool"
  | currentMap _ _ => "CurrentAidMapBool"
  | baseField _ => "BaseBool"
  | practice _ => "PracticeBool"
  | poolMember _ => "PoolMember"
  | offering _ => "Offering"
  | deposit _ => "Deposit"
  | spokenLanguage _ => "SpokenLanguage"
  | writtenLanguage _ => "WrittenLanguage"

/-- The fact with a tag before its parameters are known. -/
def withTag? (tag : String) : Option ViewFact :=
  match tag with
  | "currentAIDBool" => some (currentField "")
  | "currentAIDMapBool" => some (currentMap "" "")
  | "baseBool" => some (baseField "")
  | "practiceBool" => some (practice "")
  | "poolMember" => some (poolMember "")
  | "offering" => some (offering none)
  | "deposit" => some (deposit none)
  | "spokenLanguage" => some (spokenLanguage "")
  | "writtenLanguage" => some (writtenLanguage "")
  | _ => none

/-- The fact with one parameter set to a text. -/
def withText (name value : String) : ViewFact → ViewFact
  | currentField _ => currentField value
  | currentMap m n => if name = "map" then currentMap value n else currentMap m value
  | baseField _ => baseField value
  | practice _ => practice value
  | poolMember _ => poolMember value
  | spokenLanguage _ => spokenLanguage value
  | writtenLanguage _ => writtenLanguage value
  | fact => fact

/-- The fact with its sub-event set. -/
def withSubEvent (subEvent : Option String) : ViewFact → ViewFact
  | offering _ => offering subEvent
  | deposit _ => deposit subEvent
  | fact => fact

end ViewFact

namespace ViewFilter

def toJson : ViewFilter → Json
  | expect fact value => .record ([("name", .text fact.tag)] ++ fact.parameters ++ [("boolValue", .bool value)])
  | unknown => .record [("name", .text "Unknown")]

/-- How a condition with a tag is read. The fact is expected to be so unless the document says otherwise. -/
def layout (tag : String) : Layout ViewFilter :=
  match ViewFact.withTag? tag with
  | none =>
    { title := "unit variant Condition::Unknown", fields := [], required := [], blank := unknown
      set := fun _ _ f => .ok f, keep := none }
  | some fact =>
    { title := "struct variant Condition::" ++ fact.variantName
      fields := fact.parameterNames ++ ["boolValue"]
      required := keysOf fact.parameters
      blank := expect fact true
      set := fun name d f =>
        match f with
        | expect fact value =>
          if name = "boolValue" then do return expect fact (← Reader.flag d)
          else if name = "subEvent" then do return expect (fact.withSubEvent (← Reader.note d)) value
          else do return expect (fact.withText name (← Reader.text .string d)) value
        | unknown => .ok unknown
      keep := none }

/-- How any condition is read. -/
def tagged : Tagged ViewFilter where
  title := "internally tagged enum Condition"
  tag := "name"
  layout := layout

end ViewFilter

/-! ## Views -/

/-- The columns and conditions of one listing. -/
structure View where
  /-- The key of the view. -/
  name : String := ""
  columns : List ColumnDef := []
  /-- The conditions, all of which have to hold. -/
  filters : List ViewFilter := []

namespace View

/-- How a view is read. A column that does not fit is left out, a condition that does not fit asks for nothing. -/
def layout : Layout View where
  title := "struct View"
  fields := ["name", "columnDefs", "viewConditions"]
  required := ["name"]
  blank := {}
  set name d v :=
    match name with
    | "name" => do return { v with name := ← Reader.label d }
    | "columnDefs" => do return { v with columns := ← Reader.sound ColumnDef.layout.read d }
    | "viewConditions" => do return { v with filters := ← Reader.each .unknown ViewFilter.tagged.read d }
    | _ => .ok v
  keep := none

def toJson (v : View) : Json :=
  .record [("name", .text v.name), ("columnDefs", .list (v.columns.map ColumnDef.toJson)),
    ("viewConditions", .list (v.filters.map ViewFilter.toJson))]

end View

/-- What a screen asks a view for. -/
structure ViewRequest where
  /-- The key of the event. -/
  aid : String := ""
  subEvent : Option String := none
  /-- A text to look for in names and addresses. -/
  search : Option String := none

namespace ViewRequest

def layout : Layout ViewRequest where
  title := "struct ViewRequest"
  fields := ["aid", "subEvent", "search"]
  required := ["aid"]
  blank := {}
  set name d r :=
    match name with
    | "aid" => do return { r with aid := ← Reader.text .string d }
    | "subEvent" => do return { r with subEvent := ← Reader.optional (Reader.text .string) d }
    | "search" => do return { r with search := ← Reader.optional (Reader.text .string) d }
    | _ => .ok r
  keep := none

def toJson (r : ViewRequest) : Json :=
  .record (("aid", .text r.aid) :: optionalField "subEvent" r.subEvent ++ optionalField "search" r.search)

end ViewRequest

end RetreatDesk
