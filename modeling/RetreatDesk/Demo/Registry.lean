import RetreatDesk.Registry.Snapshot

/-!
# The registry for demonstrations

* `Demo.snapshot`: two summer retreats, a handful of pools, two views and four people.
-/

namespace RetreatDesk.Demo

/-- The event that demonstrations are about. -/
def aid : String := "sw2025"

/-- The summer retreats. -/
def events : List Event :=
  [{ aid := aid
     name := "Summer Retreat 2025"
     config :=
       { pool := some "sw2025-eligible"
         prices := .ofList [("week1", ⟨400.0⟩), ("week2", ⟨400.0⟩), ("weekend", ⟨150.0⟩)]
         presentation := some EventConfig.installmentsPresentation
         dashboardViews := .ofList
           [("registrations", "sw2025-registrations"), ("finance", "sw2025-finance")] }
     subEvents := .ofList [("retreat", { date := Date.of? 2025 7 5 })] },
   { aid := "sw2024"
     name := "Summer Retreat 2024"
     config := { pool := some "everyone" }
     subEvents := .ofList [("retreat", { date := Date.of? 2024 7 6 })] }]

def pools : List Pool :=
  [{ name := "everyone", rules := [.everyone] },
   { name := "sw2024-alumni"
     description := "attended the 2024 summer retreat"
     rules := [.attended "sw2024"] },
   { name := "sw2025-eligible"
     description := "alumni, manual inclusions, and anyone who joined"
     rules := [.pool "sw2024-alumni", .currentManualInclude, .currentJoin] },
   { name := "sw2025-paid", rules := [.currentOffering "retreat"] },
   { name := "volunteers", rules := [.practice "volunteer"] },
   { name := "sw2025-newcomers", rules := [.difference "sw2025-eligible" "sw2024-alumni"] }]

def views : List View :=
  [{ name := "sw2025-registrations"
     columns :=
       [{ name := "name" }, { name := "email" }, { name := "spokenLanguage" },
        { name := "retreats-currentAIDMapList", header := some "Retreats", map := some Program.retreatsMap },
        { name := "volunteer-poolMember", header := some "Volunteer", pool := some "volunteers" },
        { name := "deposit" }]
     filters := [.expect (.currentField "join") true, .expect (.currentField "withdrawn") false] },
   { name := "sw2025-finance"
     columns :=
       [{ name := "name" }, { name := "installmentsTotal" }, { name := "installmentsReceived" },
        { name := "installmentsDue" }, { name := "installmentsRefunded" }, { name := "lastPayment" }]
     filters := [.expect (.deposit none) true] }]

/-- A booking of the retreat with its payments. -/
def booking (payments : List (String × Installment)) : Sorted Offering :=
  .ofList [("retreat", { sku := some "sw2025-retreat", installments := .ofList payments })]

/-- The people. -/
def participants : List Participant :=
  [{ id := "p-001", first := "Tenzin", last := "Dolma", email := "tenzin@example.org"
     spokenLangPref := some "Tibetan"
     practice := .ofList [("volunteer", .bool true)]
     programs := .ofList
       [("sw2024", { join := true, attended := true, oath := true }),
        (aid,
          { join := true, limitFee := true
            whichRetreats := .ofList [("weekend", true), ("week2", true), ("week1", true)]
            offeringHistory := booking
              [("deposit", ⟨200.0, some "2025-02-10T18:00:00Z"⟩), ("second", ⟨200.0, some "2025-04-10T18:00:00Z"⟩),
               ("refunded", ⟨50.0, some "2025-05-01T09:00:00Z"⟩)] })] },
   { id := "p-002", first := "Maria", last := "Lopez", email := "maria.lopez@example.org"
     spokenLangPref := some "Spanish", writtenLangPref := some "Spanish", spokenTranslate := true
     programs := .ofList
       [(aid,
          { join := true
            whichRetreats := .ofList [("week1", true)]
            offeringHistory := booking [("full", ⟨400.0, some "2025-03-03"⟩)] })] },
   { id := "p-003", first := "Sam", last := "Okafor", email := "sam@example.org"
     programs := .ofList
       [(aid, { join := true, withdrawn := true, whichRetreats := .ofList [("week1", true)] })] },
   { id := "p-004", first := "Lee", last := "Park", email := "lee@example.org"
     programs := .ofList [("sw2024", { attended := true })] }]

/-- The whole registry. -/
def snapshot : Snapshot := ⟨participants, events, pools, views⟩

end RetreatDesk.Demo
