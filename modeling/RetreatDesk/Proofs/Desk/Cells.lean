import RetreatDesk.Proofs.Desk.View

/-!
# Cells and answers

What a view shows of a person is what the desk answers when it is asked for the person alone. A view goes by the event
record and the desk by the key of the event; both are the same because every event is found under its own key.

* `Program.any_offeringStatus?`: the state of an offering, by way of the account.
* `Desk.account_eq`: the account that a desk answers is the account in view.
* `Desk.CellAgrees`: a cell is what the desk answers about the person.
* `Desk.cellAgrees`: it is under every column of a view.
* `Desk.view_cells_agree`: it is in every row of every view that is shown.
-/

namespace RetreatDesk

/-! ## States of offerings -/

namespace Program

/-- The state of an offering, by way of the account. -/
theorem offeringStatus?_eq (program : Program) (subEvent : Option String) (config : EventConfig) :
    program.offeringStatus? subEvent config = (subEvent.bind program.offering?).map fun _ =>
      if config.countsInstallments then
        ⟨(program.account subEvent config).depositMade, (program.account subEvent config).complete⟩
      else ⟨true, true⟩ := by
  cases subEvent with
  | none => rfl
  | some key =>
    unfold offeringStatus?
    cases hoffering : program.offering? key with
    | none => simp [hoffering]
    | some offering => cases config.countsInstallments <;> simp [hoffering]

/-- Where no offering is on record nothing has been paid. -/
theorem account_of_unrecorded {program : Program} {subEvent : Option String}
    (h : subEvent.bind program.offering? = none) (config : EventConfig) :
    (program.account subEvent config).depositMade = false ∧ (program.account subEvent config).complete = false := by
  have hnothing : decide ((0.0 : Float) < 0.0) = false := by decide
  have hdeposit : (program.account subEvent config).depositMade = false := by
    unfold account
    rw [h]
    exact hnothing
  refine ⟨hdeposit, ?_⟩
  change ((program.account subEvent config).depositMade && _) = false
  rw [hdeposit, Bool.false_and]

section
variable {pick : OfferingStatus → Bool}

theorem pick_of_unrecorded (hno : pick ⟨false, false⟩ = false) {program : Program} {subEvent : Option String}
    (h : subEvent.bind program.offering? = none) (config : EventConfig) :
    pick ⟨(program.account subEvent config).depositMade, (program.account subEvent config).complete⟩ = false := by
  obtain ⟨hdeposit, hcomplete⟩ := account_of_unrecorded h config
  rw [hdeposit, hcomplete]
  exact hno

/-- What is asked of the state of an offering can be asked of the account, or else of the record. -/
theorem any_offeringStatus? (hyes : pick ⟨true, true⟩ = true) (hno : pick ⟨false, false⟩ = false) (program : Program)
    (subEvent : Option String) (config : EventConfig) : (program.offeringStatus? subEvent config).any pick =
      if config.countsInstallments then
        pick ⟨(program.account subEvent config).depositMade, (program.account subEvent config).complete⟩
      else (subEvent.bind program.offering?).isSome := by
  rw [offeringStatus?_eq]
  cases hoffering : subEvent.bind program.offering? with
  | none => simp [pick_of_unrecorded hno hoffering config]
  | some offering => cases config.countsInstallments <;> simp [hyes]

end

end Program

namespace Desk

/-! ## Answers about one person -/

/-- The columns of the amounts of an account. -/
def amountColumns : List (Predefined × (Account → Float)) :=
  [(.installmentsTotal, (·.total)), (.installmentsReceived, (·.received)), (.installmentsDue, (·.due)),
   (.installmentsRefunded, (·.refunded))]

/-- The columns of the state of an offering. -/
def stateColumns : List (Predefined × (Account → Bool)) :=
  [(.deposit, (·.depositMade)), (.offering, (·.complete))]

/-- The person has a program for the event and in it an offering on record for the sub-event in view. -/
def HasOffering (d : Desk) (event : Event) (r : ViewRequest) (id : String) : Prop :=
  ∃ p program subEvent offering, d.people.get? id = some p ∧ p.programs.get? r.aid = some program ∧
    event.effectiveSubEvent r.subEvent = some subEvent ∧ program.offeringHistory.get? subEvent = some offering

/-- What stands in the column of a state: where payments are counted one by one it is what the account says, elsewhere
it is whether an offering is on record. -/
structure StateShown (d : Desk) (event : Event) (r : ViewRequest) (id : String) (pick : Account → Bool) (b : Bool) :
    Prop where
  counted : event.config.presentation = some EventConfig.installmentsPresentation →
    (∀ a, d.account id r.aid r.subEvent = .ok a → b = pick a) ∧
    (d.account id r.aid r.subEvent = .error (.missingProgram id r.aid) → b = false) ∧
    (¬ d.HasOffering event r id → b = false)
  recorded : event.config.presentation ≠ some EventConfig.installmentsPresentation →
    (b = true ↔ d.HasOffering event r id)

/-- A cell under a column is what the desk answers about the person: the amounts and the last payment are those of the
account, unknown and empty without a program, and whoever the cell calls a member of a pool is one. -/
structure CellAgrees (d : Desk) (event : Event) (r : ViewRequest) (id : String) (column : Column) (cell : Cell) :
    Prop where
  amount : ∀ c ∈ amountColumns, column.field = c.1.field →
    (∀ a, d.account id r.aid r.subEvent = .ok a → cell = .number (c.2 a)) ∧
    (cell = .unknown ↔ d.account id r.aid r.subEvent = .error (.missingProgram id r.aid))
  lastPayment : column.field = Predefined.lastPayment.field →
    (∀ a, d.account id r.aid r.subEvent = .ok a → cell = .text (a.lastPayment.getD "")) ∧
    (d.account id r.aid r.subEvent = .error (.missingProgram id r.aid) → cell = .empty)
  member : ∀ pool, column.kind = .poolMember pool → ∃ b, d.isMember pool id r.aid = .ok b ∧ cell = .bool b
  state : ∀ c ∈ stateColumns, column.field = c.1.field → ∃ b, cell = .bool b ∧ d.StateShown event r id c.2 b

section
variable {d : Desk} (hd : d.Reached) {event : Event} {r : ViewRequest} (hevent : d.events.get? r.aid = some event)
  {id : String} {p : Participant} (hp : d.people.get? id = some p)
include hd hevent hp

/-! ## Accounts -/

theorem account_eq : d.account id r.aid r.subEvent =
    match (Scope.of d.pools event r.subEvent).account? p with
    | some a => .ok a
    | none => .error (.missingProgram id r.aid) := by
  have hprogram : (Scope.of d.pools event r.subEvent).program? p = p.program? r.aid := by
    rw [← hd.aid_eq hevent]
    rfl
  simp only [account, hevent, person, hp, Scope.account?, hprogram, bind, Except.bind]
  cases p.program? r.aid with
  | none => rfl
  | some program => rfl

theorem account_eq_ok_iff {a : Account} :
    d.account id r.aid r.subEvent = .ok a ↔ (Scope.of d.pools event r.subEvent).account? p = some a := by
  rw [account_eq hd hevent hp]
  cases (Scope.of d.pools event r.subEvent).account? p <;> simp

theorem account_eq_missing_iff :
    d.account id r.aid r.subEvent = .error (.missingProgram id r.aid) ↔
      (Scope.of d.pools event r.subEvent).account? p = none := by
  rw [account_eq hd hevent hp]
  cases (Scope.of d.pools event r.subEvent).account? p <;> simp

/-- No other error comes up for a person whom the desk knows and an event that it knows. -/
theorem account_answered : (∃ a, d.account id r.aid r.subEvent = .ok a) ∨
    d.account id r.aid r.subEvent = .error (.missingProgram id r.aid) := by
  rw [account_eq hd hevent hp]
  cases (Scope.of d.pools event r.subEvent).account? p with
  | none => exact .inr rfl
  | some a => exact .inl ⟨a, rfl⟩

theorem amountCell_agrees (pick : Account → Float) :
    (∀ a, d.account id r.aid r.subEvent = .ok a →
      (Scope.of d.pools event r.subEvent).amountCell p pick = .number (pick a)) ∧
    ((Scope.of d.pools event r.subEvent).amountCell p pick = .unknown ↔
      d.account id r.aid r.subEvent = .error (.missingProgram id r.aid)) := by
  simp only [account_eq_ok_iff hd hevent hp, account_eq_missing_iff hd hevent hp, Scope.amountCell]
  cases (Scope.of d.pools event r.subEvent).account? p with
  | none => simp
  | some a => simp [Cell.unknown]

/-! ## States of offerings in view -/

theorem hasOffering_iff : d.HasOffering event r id ↔
    ∃ program offering, (Scope.of d.pools event r.subEvent).program? p = some program ∧
      (Scope.of d.pools event r.subEvent).subEvent.bind program.offering? = some offering := by
  have haid : event.aid = r.aid := hd.aid_eq hevent
  simp only [HasOffering, Scope.program?, Scope.of, haid, Participant.program?, Option.bind_eq_some_iff,
    Program.offering?]
  constructor
  · rintro ⟨q, program, subEvent, offering, hq, hprogram, hsubEvent, hoffering⟩
    cases hp.symm.trans hq
    exact ⟨program, offering, hprogram, subEvent, hsubEvent, hoffering⟩
  · rintro ⟨program, offering, hprogram, subEvent, hsubEvent, hoffering⟩
    exact ⟨p, program, subEvent, offering, hp, hprogram, hsubEvent, hoffering⟩

/-- A state of the offering stands in view as the account and the records have it. -/
theorem stateShown (pick : OfferingStatus → Bool) (hyes : pick ⟨true, true⟩ = true)
    (hno : pick ⟨false, false⟩ = false) : d.StateShown event r id (fun a => pick ⟨a.depositMade, a.complete⟩)
      (((Scope.of d.pools event r.subEvent).offeringStatus? p none).any pick) := by
  have hrecord := hasOffering_iff hd hevent hp
  have hok := fun a => account_eq_ok_iff (a := a) hd hevent hp
  have hmissing := account_eq_missing_iff hd hevent hp
  simp only [Scope.account?, Scope.offeringStatus?] at hok hmissing ⊢
  cases hprogram : (Scope.of d.pools event r.subEvent).program? p with
  | none =>
    have hunrecorded : ¬ d.HasOffering event r id := by
      rw [hrecord, hprogram]
      simp
    have hunanswered : ∀ a, d.account id r.aid r.subEvent ≠ .ok a := by
      simp [hok, hprogram]
    exact ⟨fun _ => ⟨fun a ha => absurd ha (hunanswered a), fun _ => rfl, fun _ => rfl⟩, fun _ => by simp [hunrecorded]⟩
  | some program =>
    have hfound : d.HasOffering event r id ↔
        ((Scope.of d.pools event r.subEvent).subEvent.bind program.offering?).isSome = true := by
      rw [hrecord, hprogram, Option.isSome_iff_exists]
      simp
    rw [Option.bind_some, Option.none_or, Program.any_offeringStatus? hyes hno]
    refine ⟨fun hcounts => ?_, fun hcounts => ?_⟩
    · have hcounted : (Scope.of d.pools event r.subEvent).event.config.countsInstallments = true :=
        decide_eq_true hcounts
      rw [if_pos hcounted]
      refine ⟨fun a ha => ?_, fun ha => ?_, fun hunrecorded => ?_⟩
      · rw [hok, hprogram] at ha
        cases ha
        rfl
      · rw [hmissing, hprogram] at ha
        cases ha
      · rw [hfound, Option.not_isSome_iff_eq_none] at hunrecorded
        exact Program.pick_of_unrecorded hno hunrecorded _
    · have huncounted : (Scope.of d.pools event r.subEvent).event.config.countsInstallments = false :=
        decide_eq_false hcounts
      rw [huncounted, if_neg Bool.false_ne_true]
      exact hfound.symm

/-! ## Cells -/

/-- What a column of a view shows of a person is what the desk answers about the person. -/
theorem cellAgrees {defs : List ColumnDef} {column : Column} (hcolumn : column ∈ (Plan.of defs).columns) :
    d.CellAgrees event r id column (column.kind.cell (Scope.of d.pools event r.subEvent) p) := by
  have hcell : ∀ {c : Predefined}, column.field = c.field →
      column.kind.cell (Scope.of d.pools event r.subEvent) p = c.cell (Scope.of d.pools event r.subEvent) p := by
    intro c hfield
    rw [(Plan.kind_eq_predefined_iff hcolumn).mpr hfield]
    rfl
  constructor
  · intro c hc hfield
    rw [hcell hfield]
    simp only [amountColumns, List.mem_cons, List.not_mem_nil, or_false] at hc
    rcases hc with rfl | rfl | rfl | rfl <;> exact amountCell_agrees hd hevent hp _
  · intro hfield
    rw [hcell hfield, account_eq_missing_iff hd hevent hp]
    simp only [account_eq_ok_iff hd hevent hp]
    refine ⟨fun a ha => ?_, fun hmissing => ?_⟩
    · simp only [Predefined.cell, ha, Option.bind_some]
    · simp only [Predefined.cell, hmissing, Option.bind_none, Option.getD_none, Cell.empty]
  · intro pool hpool
    rw [hpool]
    refine ⟨_, isMember_eq_ok.mpr ⟨p, hp, rfl⟩, ?_⟩
    rw [← hd.aid_eq hevent]
    rfl
  · intro c hc hfield
    rw [hcell hfield]
    simp only [stateColumns, List.mem_cons, List.not_mem_nil, or_false] at hc
    rcases hc with rfl | rfl
    · exact ⟨_, rfl, stateShown hd hevent hp (·.depositMade) rfl rfl⟩
    · exact ⟨_, rfl, stateShown hd hevent hp (·.complete) rfl rfl⟩

end

/-- In every row of a view that is shown the desk has an account of the person or misses a program and nothing else, and
every cell of the row, found at its place or by names, is what the desk answers about the person. -/
theorem view_cells_agree {d : Desk} (hd : d.Reached) {key : String} {r : ViewRequest} {o : ViewOutput}
    (ho : d.view key r = .ok o) : ∃ event, d.events.get? r.aid = some event ∧ ∀ row ∈ o.rows,
      ((∃ a, d.account row.participantId r.aid r.subEvent = .ok a) ∨
        d.account row.participantId r.aid r.subEvent = .error (.missingProgram row.participantId r.aid)) ∧
      ∀ (i : Nat) (column : Column), o.plan.columns[i]? = some column → ∃ cell, row.cells[i]? = some cell ∧
        o.cell? row.participantId column.field = some cell ∧
        d.CellAgrees event r row.participantId column cell := by
  obtain ⟨event, v, hevent, hanswers⟩ := answers_of_ok hd ho
  refine ⟨event, hevent, fun row hrow => ?_⟩
  obtain ⟨p, hp, -, hcells⟩ := hanswers.cells row hrow
  refine ⟨account_answered hd hevent hp, fun i column hi => ?_⟩
  obtain ⟨hplace, hnames⟩ := hcells i column hi
  have hcolumn : column ∈ (Plan.of v.columns).columns := by
    rw [← hanswers.plan]
    exact List.mem_of_getElem? hi
  exact ⟨_, hplace, hnames, cellAgrees hd hevent hp hcolumn⟩

/-- Somebody who paid a deposit and somebody without a program, as a document. -/
def accounts : Json :=
  .record
    [("participants", .list
      [.record [("id", .text "p-001"), ("programs", .record [(Demo.aid, .record
        [("whichRetreats", .record [("week1", .bool true)]),
         ("offeringHistory", .record [("retreat", .record
          [("installments", .record [("deposit", .record [("offeringAmount", .number (.real 200.0))])])])])])])],
       .record [("id", .text "p-002")]]),
     ("events", .list [.record [("aid", .text Demo.aid),
      ("config", .record
        [("whichRetreatsConfig", .record [("week1", .record [("offeringTotal", .number (.real 400.0))])]),
         ("offeringPresentation", .text "installments")]),
      ("subEvents", .record [("retreat", .record [])])]]),
     ("pools", .list [.record [("name", .text "everyone"), ("attributes", .list [.record [("type", .text "true")]])]]),
     ("views", .list [.record [("name", .text "accounts"),
      ("columnDefs", .list [.record [("name", .text "installmentsReceived")], .record [("name", .text "deposit")],
        .record [("name", .text "retreat-poolMember"), ("pool", .text "everyone")]])]])]

def accountColumns : List ColumnDef :=
  [{ name := "installmentsReceived" }, { name := "deposit" }, { name := "retreat-poolMember", pool := some "everyone" }]

def afterAccounts : Snapshot :=
  { participants :=
      [{ id := "p-001"
         programs := .ofList
           [(Demo.aid,
              { whichRetreats := .ofList [("week1", true)]
                offeringHistory := .ofList
                  [("retreat", { installments := .ofList [("deposit", { amount := 200.0 })] })] })] },
       { id := "p-002" }]
    events :=
      [{ aid := Demo.aid
         config :=
           { prices := .ofList [("week1", ⟨400.0⟩)], presentation := some EventConfig.installmentsPresentation }
         subEvents := .ofList [("retreat", {})] }]
    pools := [{ name := "everyone", rules := [.everyone] }]
    views := [{ name := "accounts", columns := accountColumns }] }

/-- The deposit and the membership are shown of the one, and of the other that there is no account. -/
theorem view_cells_agree_accounts : ∃ o,
    (ofSnapshot afterAccounts).view "accounts" ⟨Demo.aid, none, none⟩ = .ok o ∧
    ((∃ a, (ofSnapshot afterAccounts).account "p-001" Demo.aid none = .ok a ∧
        o.cell? "p-001" "installmentsReceived" = some (.number a.received)) ∧
      o.cell? "p-001" "deposit" = some (.bool true) ∧ o.cell? "p-001" "retreat-poolMember" = some (.bool true)) ∧
    o.cell? "p-002" "installmentsReceived" = some .unknown ∧ o.cell? "p-002" "deposit" = some (.bool false) := by
  have hloaded : Snapshot.layout.read (.value accounts) = .ok afterAccounts := rfl
  have hd : (ofSnapshot afterAccounts).Reached := .loaded hloaded
  obtain ⟨o, ho, hids, hcolumns⟩ : ∃ o, (ofSnapshot afterAccounts).view "accounts" ⟨Demo.aid, none, none⟩ = .ok o ∧
    o.participantIds = ["p-001", "p-002"] ∧
      o.plan.columns = accountColumns.map Column.of ++ Plan.hiddenColumns := ⟨_, rfl, rfl, rfl⟩
  obtain ⟨event, hevent, hrows⟩ := view_cells_agree hd ho
  have hpresentation : event.config.presentation = some EventConfig.installmentsPresentation := by
    cases hevent
    rfl
  have hcell : ∀ id ∈ ["p-001", "p-002"], ∀ (i : Nat) (c : ColumnDef), accountColumns[i]? = some c →
      ∃ cell, o.cell? id c.name = some cell ∧
        (ofSnapshot afterAccounts).CellAgrees event ⟨Demo.aid, none, none⟩ id (Column.of c) cell := by
    intro id hid i c hi
    rw [← hids] at hid
    obtain ⟨row, hrow, rfl⟩ := List.mem_map.mp hid
    have hcolumn : o.plan.columns[i]? = some (Column.of c) := by
      obtain ⟨hlt, -⟩ := List.getElem?_eq_some_iff.mp hi
      rw [hcolumns, List.getElem?_append_left (by simpa using hlt), List.getElem?_map, hi]
      rfl
    obtain ⟨cell, -, hnames, hagrees⟩ := (hrows row hrow).2 i _ hcolumn
    exact ⟨cell, hnames, hagrees⟩
  refine ⟨o, ho, ⟨⟨_, rfl, ?_⟩, ?_, ?_⟩, ?_, ?_⟩
  · obtain ⟨cell, hnames, hagrees⟩ := hcell "p-001" (by decide) 0 _ rfl
    rw [← (hagrees.amount (.installmentsReceived, (·.received)) (by simp [amountColumns]) rfl).1 _ rfl]
    exact hnames
  · obtain ⟨cell, hnames, hagrees⟩ := hcell "p-001" (by decide) 1 _ rfl
    obtain ⟨b, rfl, hstate⟩ := hagrees.state (.deposit, (·.depositMade)) (by simp [stateColumns]) rfl
    have hdeposit : b = true := ((hstate.counted hpresentation).1 _ rfl).trans (by decide +kernel)
    rw [← hdeposit]
    exact hnames
  · obtain ⟨cell, hnames, hagrees⟩ := hcell "p-001" (by decide) 2 _ rfl
    obtain ⟨b, hmember, rfl⟩ := hagrees.member "everyone" rfl
    have hb : b = true := by
      obtain ⟨p, hp, rfl⟩ := isMember_eq_ok.mp hmember
      exact (memberAlong_registered rfl List.not_mem_nil _ _).trans rfl
    rw [← hb]
    exact hnames
  · obtain ⟨cell, hnames, hagrees⟩ := hcell "p-002" (by decide) 0 _ rfl
    rw [← (hagrees.amount (.installmentsReceived, (·.received)) (by simp [amountColumns]) rfl).2.mpr rfl]
    exact hnames
  · obtain ⟨cell, hnames, hagrees⟩ := hcell "p-002" (by decide) 1 _ rfl
    obtain ⟨b, rfl, hstate⟩ := hagrees.state (.deposit, (·.depositMade)) (by simp [stateColumns]) rfl
    rw [← (hstate.counted hpresentation).2.1 rfl]
    exact hnames

end Desk

end RetreatDesk
