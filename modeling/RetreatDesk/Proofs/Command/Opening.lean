import RetreatDesk.Main
import RetreatDesk.Proofs.Command.Precedence
import RetreatDesk.Proofs.Web.Request

/-!
# The file behind a path

* `FileTree.Leads`: names that lead from one place to another, directory by directory.
* `FileTree.follow_eq_ok_iff`: a row of names is followed to just the place where it leads.
* `FileTree.find_eq_error_iff`: a path of fair length fails on its way or not at all.
* `FileTree.find_absolute`: a path without a slash at its front counts from the directory where it starts.
* `openDesk_eq_ok_iff`: the desk of a path is that of the snapshot in the text to which the path leads.
* `Invocation.run_absolute`: it makes no difference to a command whether a path is written out from the root.
* `runCommand_congr_files`: a command line depends on one file at most.
-/

namespace RetreatDesk

/-! ## Places -/

namespace FileTree

variable {t : FileTree} {place next goal names : List String} {name path : String}

/-- Where a name in a directory leads: nowhere else, up, or to something in it. -/
inductive Moves (t : FileTree) (place : List String) : String → List String → Prop where
  | stay {name : String} : name = "" ∨ name = "." → t.Moves place name place
  | up : t.Moves place ".." place.dropLast
  | down {name : String} : name ∉ ["", ".", ".."] → name.utf8ByteSize ≤ nameLimit →
    (t.entry? (place ++ [name])).isSome → t.Moves place name (place ++ [name])

/-- Names that lead from one place to another, directory by directory. -/
inductive Leads (t : FileTree) : List String → List String → List String → Prop where
  | here {place : List String} : t.Leads place [] place
  | on {place next goal names : List String} {name : String} : t.entry? place = some .directory →
    t.Moves place name next → t.Leads next names goal → t.Leads place (name :: names) goal

theorem directory_of_step (h : t.step place name = .ok next) : t.entry? place = some .directory := by
  unfold step at h
  split at h
  · next hplace => exact hplace
  · cases h
  · cases h

theorem moves_of_step (h : t.step place name = .ok next) : t.Moves place name next := by
  have hplace := directory_of_step h
  unfold step at h
  rw [hplace] at h
  simp only at h
  split at h
  · next hstay =>
    cases h
    exact .stay (by simpa using hstay)
  · next hstay =>
    split at h
    · next hup =>
      cases h
      exact hup ▸ .up
    · next hup =>
      split at h
      · cases h
      · next hlong =>
        split at h
        · next hthere =>
          cases h
          have hplain : name ∉ ["", ".", ".."] := by
            simp only [Bool.or_eq_true, decide_eq_true_eq, not_or] at hstay
            simp [hstay, hup]
          exact .down hplain (Nat.le_of_not_lt hlong) (by rw [hthere]; rfl)
        · cases h

theorem Moves.step_eq (h : t.Moves place name next) (hplace : t.entry? place = some .directory) :
    t.step place name = .ok next := by
  unfold step
  rw [hplace]
  cases h with
  | stay hstay => simp [hstay]
  | up => simp
  | down hplain hlong hthere =>
    obtain ⟨e, he⟩ := Option.isSome_iff_exists.mp hthere
    simp only [List.mem_cons, List.not_mem_nil, or_false, not_or] at hplain
    simp [hplain, Nat.not_lt_of_le hlong, he]

theorem step_eq_ok_iff : t.step place name = .ok next ↔ t.entry? place = some .directory ∧ t.Moves place name next :=
  ⟨fun h => ⟨directory_of_step h, moves_of_step h⟩, fun ⟨hplace, h⟩ => h.step_eq hplace⟩

/-- The induction is along the names. -/
theorem follow_eq_ok_iff : t.follow place names = .ok goal ↔ t.Leads place names goal := by
  induction names generalizing place with
  | nil =>
    constructor
    · intro h
      cases h
      exact .here
    · rintro ⟨⟩
      rfl
  | cons name names ih =>
    rw [follow, bind_eq_ok]
    constructor
    · rintro ⟨next, hstep, hrest⟩
      obtain ⟨hplace, hmoves⟩ := step_eq_ok_iff.mp hstep
      exact .on hplace hmoves (ih.mp hrest)
    · intro h
      cases h with
      | on hplace hmoves hrest => exact ⟨_, step_eq_ok_iff.mpr ⟨hplace, hmoves⟩, ih.mpr hrest⟩

/-- There is something wherever something lies below. -/
theorem entry?_isSome_iff : (t.entry? names).isSome ↔ ∃ known ∈ t.start :: t.entries.map (·.1), names <+: known := by
  unfold entry?
  split
  · next e he =>
    obtain ⟨before, after, hentries, -⟩ := List.lookup_eq_some_iff.mp he
    refine iff_of_true rfl ⟨names, ?_, List.prefix_rfl⟩
    simp [hentries]
  · split
    · next hany => simpa using hany
    · next hany => simpa using hany

/-- One name leads from something to something. -/
theorem Moves.entry?_isSome (h : t.Moves place name next) (hplace : (t.entry? place).isSome) :
    (t.entry? next).isSome := by
  cases h with
  | stay => exact hplace
  | up =>
    obtain ⟨known, hknown, hbelow⟩ := entry?_isSome_iff.mp hplace
    exact entry?_isSome_iff.mpr ⟨known, hknown, place.dropLast_prefix.trans hbelow⟩
  | down _ _ hthere => exact hthere

theorem Leads.entry?_isSome (h : t.Leads place names goal) (hplace : (t.entry? place).isSome) :
    (t.entry? goal).isSome := by
  induction h with
  | here => exact hplace
  | on _ hmoves _ ih => exact ih (hmoves.entry?_isSome hplace)

theorem origin_isSome (t : FileTree) (path : String) : (t.entry? (t.origin path)).isSome := by
  refine entry?_isSome_iff.mpr ⟨t.start, List.mem_cons_self, ?_⟩
  unfold origin
  split
  · exact List.nil_prefix
  · exact List.prefix_rfl

/-! ## Paths -/

/-- A path leads to a place. Its names are those between the slashes. -/
def Reaches (t : FileTree) (path : String) (goal : List String) : Prop :=
  path ≠ "" ∧ path.utf8ByteSize ≤ pathLimit ∧ t.Leads (t.origin path) (Web.parts '/' path) goal

theorem find_eq (hne : path ≠ "") (hlimit : path.utf8ByteSize ≤ pathLimit) :
    t.find path = (t.follow (t.origin path) (Web.parts '/' path)).bind fun place =>
      (t.entry? place).elim (.error .missing) .ok := by
  unfold find
  rw [if_neg (by simpa using hne), if_neg (Nat.not_lt_of_le hlimit)]
  cases t.follow (t.origin path) (Web.parts '/' path) with
  | error fault => rfl
  | ok place =>
    simp only [bind, Except.bind]
    cases t.entry? place <;> rfl

/-- A path finds what stands where it leads. -/
theorem find_eq_ok_iff {e : FileEntry} :
    t.find path = .ok e ↔ ∃ goal, t.Reaches path goal ∧ t.entry? goal = some e := by
  by_cases hfair : path ≠ "" ∧ path.utf8ByteSize ≤ pathLimit
  · obtain ⟨hne, hlimit⟩ := hfair
    rw [find_eq hne hlimit]
    constructor
    · intro h
      obtain ⟨goal, hgoal, he⟩ := bind_eq_ok.mp h
      refine ⟨goal, ⟨hne, hlimit, follow_eq_ok_iff.mp hgoal⟩, ?_⟩
      cases hentry : t.entry? goal with
      | none =>
        rw [hentry] at he
        cases he
      | some found =>
        rw [hentry] at he
        cases he
        rfl
    · rintro ⟨goal, ⟨-, -, hleads⟩, he⟩
      exact bind_eq_ok.mpr ⟨goal, follow_eq_ok_iff.mpr hleads, by rw [he]; rfl⟩
  · refine iff_of_false ?_ fun ⟨goal, ⟨hne, hlimit, _⟩, _⟩ => hfair ⟨hne, hlimit⟩
    unfold find
    split
    · exact nofun
    · next hne =>
      rw [if_pos (Nat.lt_of_not_le fun hlimit => hfair ⟨by simpa using hne, hlimit⟩)]
      exact nofun

/-- Where a path leads there is something, so it fails on its way or not at all. -/
theorem find_eq_error_iff (hne : path ≠ "") (hlimit : path.utf8ByteSize ≤ pathLimit) {fault : FileFault} :
    t.find path = .error fault ↔ t.follow (t.origin path) (Web.parts '/' path) = .error fault := by
  rw [find_eq hne hlimit]
  cases hfollow : t.follow (t.origin path) (Web.parts '/' path) with
  | error other => simp [Except.bind]
  | ok goal =>
    have hgoal := (follow_eq_ok_iff.mp hfollow).entry?_isSome (t.origin_isSome path)
    obtain ⟨e, he⟩ := Option.isSome_iff_exists.mp hgoal
    refine iff_of_false ?_ nofun
    rw [Except.bind, he]
    exact nofun

/-! ## Paths from the root -/

/-- The path written out from the root. -/
def absolute (t : FileTree) (path : String) : String :=
  "/" ++ t.start.foldr (fun name rest => name ++ "/" ++ rest) path

/-- The directory where paths start is found from the root by its own names. -/
structure Anchored (t : FileTree) : Prop where
  root : t.entry? [] = some .directory
  start : t.Leads [] t.start t.start
  plain : ∀ name ∈ t.start, '/' ∉ name.toList

example : Anchored ⟨[(["srv", "registry.json"], .text "[]")], ["srv"]⟩ :=
  ⟨by decide, follow_eq_ok_iff.mp (by decide +kernel), by decide⟩

theorem parts_slash {front back : String} (h : '/' ∉ front.toList) :
    Web.parts '/' (front ++ "/" ++ back) = front :: Web.parts '/' back := by
  have hne : Web.parts '/' back ≠ [] := by simp [Web.parts, List.splitOn_ne_nil]
  obtain ⟨hmarks, hback⟩ := (Web.parts_eq_iff hne).mp rfl
  refine (Web.parts_eq_iff (List.cons_ne_nil _ _)).mpr ⟨List.forall_mem_cons.mpr ⟨h, hmarks⟩, ?_⟩
  rw [List.map_cons, List.intercalate_cons_of_ne_nil (by simpa using hne), ← hback]
  simp

theorem parts_absolute (hplain : ∀ name ∈ t.start, '/' ∉ name.toList) (path : String) :
    Web.parts '/' (t.absolute path) = "" :: (t.start ++ Web.parts '/' path) := by
  have hbelow : ∀ names : List String, (∀ name ∈ names, '/' ∉ name.toList) →
      Web.parts '/' (names.foldr (fun name rest => name ++ "/" ++ rest) path) = names ++ Web.parts '/' path := by
    intro names
    induction names with
    | nil => exact fun _ => rfl
    | cons name names ih =>
      intro hnames
      obtain ⟨hname, hnames⟩ := List.forall_mem_cons.mp hnames
      rw [List.foldr_cons, parts_slash hname, ih hnames, List.cons_append]
  have hfront : t.absolute path = "" ++ "/" ++ t.start.foldr (fun name rest => name ++ "/" ++ rest) path := by
    rw [absolute, String.empty_append]
  rw [hfront, parts_slash (by simp), hbelow t.start hplain]

theorem origin_absolute (t : FileTree) (path : String) : t.origin (t.absolute path) = [] := by
  have hslash : (t.absolute path).startsWith "/" = true := by
    rw [String.startsWith_string_iff, absolute, String.toList_append]
    exact List.prefix_append _ _
  rw [origin, if_pos hslash]

theorem size_le_absolute (t : FileTree) (path : String) : path.utf8ByteSize ≤ (t.absolute path).utf8ByteSize := by
  have hbelow : path.utf8ByteSize ≤ (t.start.foldr (fun name rest => name ++ "/" ++ rest) path).utf8ByteSize := by
    induction t.start with
    | nil => exact Nat.le_refl _
    | cons name names ih =>
      rw [List.foldr_cons, String.utf8ByteSize_append]
      exact ih.trans (Nat.le_add_left _ _)
  rw [absolute, String.utf8ByteSize_append]
  exact hbelow.trans (Nat.le_add_left _ _)

/-- A path without a slash at its front counts from the directory where it starts. -/
theorem find_absolute (ht : t.Anchored) (hne : path ≠ "") (hfront : path.startsWith "/" = false)
    (hlimit : (t.absolute path).utf8ByteSize ≤ pathLimit) : t.find (t.absolute path) = t.find path := by
  have habsolute : t.absolute path ≠ "" := by
    intro h
    have hsize := congrArg String.length h
    rw [absolute, String.length_append] at hsize
    exact absurd hsize (by simp)
  have hroot : t.step [] "" = .ok [] := step_eq_ok_iff.mpr ⟨ht.root, .stay (.inl rfl)⟩
  have hsame : t.follow (t.origin (t.absolute path)) (Web.parts '/' (t.absolute path)) =
      t.follow (t.origin path) (Web.parts '/' path) := by
    have horigin : t.origin path = t.start := by rw [origin, if_neg (by simp [hfront])]
    rw [t.origin_absolute, parts_absolute ht.plain, horigin, follow, hroot]
    change t.follow [] (t.start ++ Web.parts '/' path) = _
    rw [follow_append, follow_eq_ok_iff.mpr ht.start]
    rfl
  rw [find_eq habsolute hlimit, find_eq hne ((t.size_le_absolute path).trans hlimit), hsame]

end FileTree

/-! ## Commands -/

section
variable {env : Environment} {files files' : Files} {t : FileTree}

theorem loadSnapshot_eq_ok_iff {path : String} {snapshot : Snapshot} :
    loadSnapshot files (some path) = .ok snapshot ↔
      ∃ text, files path = .ok (.text text) ∧ Snapshot.ofText text = .ok snapshot := by
  simp only [loadSnapshot]
  constructor
  · intro h
    split at h
    · cases h
    · cases h
    · cases h
    · next text htext =>
      split at h
      · next read hread =>
        cases h
        exact ⟨text, htext, hread⟩
      · cases h
  · rintro ⟨text, htext, hread⟩
    simp only [htext, hread]

theorem loadSnapshot_congr {own : Option String} (h : ∀ path ∈ own, files path = files' path) :
    loadSnapshot files own = loadSnapshot files' own := by
  cases own with
  | none => rfl
  | some path => simp only [loadSnapshot, h path rfl]

theorem openDesk_of_own (path : String) :
    openDesk env files (some path) = (loadSnapshot files (some path)).map Desk.ofSnapshot := by
  change (loadSnapshot files (some path)).bind (fun snapshot => .ok (Desk.ofSnapshot snapshot)) = _
  cases loadSnapshot files (some path) <;> rfl

/-- The desk of a path is that of the snapshot in the text to which the path leads, whatever the environment says. -/
theorem openDesk_eq_ok_iff {path : String} {d : Desk} :
    openDesk env t.find (some path) = .ok d ↔
      ∃ goal text snapshot, t.Reaches path goal ∧ t.entry? goal = some (.text text) ∧
        Snapshot.ofText text = .ok snapshot ∧ d = Desk.ofSnapshot snapshot := by
  rw [openDesk_of_own]
  constructor
  · intro h
    obtain ⟨snapshot, hload, rfl⟩ := map_eq_ok.mp h
    obtain ⟨text, htext, hread⟩ := loadSnapshot_eq_ok_iff.mp hload
    obtain ⟨goal, hgoal, hentry⟩ := FileTree.find_eq_ok_iff.mp htext
    exact ⟨goal, text, snapshot, hgoal, hentry, hread, rfl⟩
  · rintro ⟨goal, text, snapshot, hgoal, hentry, hread, rfl⟩
    have htext := FileTree.find_eq_ok_iff.mpr ⟨goal, hgoal, hentry⟩
    exact map_eq_ok.mpr ⟨snapshot, loadSnapshot_eq_ok_iff.mpr ⟨text, htext, hread⟩, rfl⟩

/-- The path that the environment names. -/
def Environment.path? (env : Environment) : Option String :=
  ((env.value? "APP_SNAPSHOT_PATH").map Text.trim).filter (!·.isEmpty)

theorem path?_of_load {s : Settings} (h : Settings.load env = .ok s) : s.snapshotPath = env.path? := by
  cases hport : env.port? with
  | none =>
    rw [env.load_of_no_port? hport] at h
    cases h
  | some port =>
    rw [env.load_of_port? hport] at h
    obtain ⟨ansi, -, rfl⟩ := map_eq_ok.mp h
    rfl

/-- The two commands load the same snapshot, and both or neither of them name a path. -/
structure LoadAlike (env : Environment) (files files' : Files) (own own' : Option String) : Prop where
  named : own.isSome = own'.isSome
  loaded : loadSnapshot files (own.or env.path?) = loadSnapshot files' (own'.or env.path?)

theorem loadAlike_of_files {own : Option String} (h : ∀ path ∈ own.or env.path?, files path = files' path) :
    LoadAlike env files files' own own := ⟨rfl, loadSnapshot_congr h⟩

theorem loadAlike_of_paths {p q : String} {e : FileEntry} (hp : files p = .ok e) (hq : files q = .ok e) :
    LoadAlike env files files (some p) (some q) := by
  refine ⟨rfl, ?_⟩
  simp only [Option.some_or, loadSnapshot, hp, hq]
  cases e <;> rfl

variable {own own' : Option String}

theorem openDesk_congr (h : LoadAlike env files files' own own') :
    openDesk env files own = openDesk env files' own' := by
  obtain ⟨hnamed, hloaded⟩ := h
  cases own with
  | some path =>
    obtain ⟨path', rfl⟩ := Option.isSome_iff_exists.mp hnamed.symm
    rw [openDesk_of_own, openDesk_of_own]
    exact congrArg (Except.map Desk.ofSnapshot) hloaded
  | none =>
    obtain rfl := Option.isNone_iff_eq_none.mp (Option.isSome_eq_false_iff.mp hnamed.symm)
    unfold openDesk
    cases hload : Settings.load env with
    | error e => rfl
    | ok s =>
      have hsame : loadSnapshot files s.snapshotPath = loadSnapshot files' s.snapshotPath :=
        (path?_of_load hload).symm ▸ hloaded
      simp only [atSettings, bind, Except.bind, hsame]

theorem serve_congr_files {host : Option String} {port : Option Nat} (h : LoadAlike env files files' own own') :
    serve env files host port own = serve env files' host port own' := by
  unfold serve
  cases hload : Settings.load env with
  | error e => rfl
  | ok s =>
    have hsame : loadSnapshot files (own.or s.snapshotPath) = loadSnapshot files' (own'.or s.snapshotPath) :=
      (path?_of_load hload).symm ▸ h.loaded
    simp only [atSettings, bind, Except.bind, hsame, Settings.address]

namespace Invocation

/-- The path that an invocation names. -/
def path? : Invocation → Option String
  | serve _ _ path | eligibility _ _ _ path | view _ _ _ path => path
  | demo _ => none

/-- The invocation with another path to its snapshot, or with none. -/
def withPath (path : Option String) : Invocation → Invocation
  | serve host port _ => serve host port path
  | eligibility pool participant aid _ => eligibility pool participant aid path
  | view key request asJson _ => view key request asJson path
  | demo showHidden => demo showHidden

theorem withPath_path? (invocation : Invocation) : invocation.withPath invocation.path? = invocation := by
  cases invocation <;> rfl

/-- What an invocation comes to depends on the files through the snapshot that is loaded. -/
theorem run_congr (h : LoadAlike env files files' own own') (invocation : Invocation) :
    (invocation.withPath own).run env files = (invocation.withPath own').run env files' := by
  cases invocation with
  | serve host port _ => rw [withPath, withPath, run, run, serve_congr_files h]
  | eligibility pool participant aid _ =>
    rw [withPath, withPath, run, run, RetreatDesk.eligibility, RetreatDesk.eligibility, openDesk_congr h]
  | view key request asJson _ => rw [withPath, withPath, run, run, showView, showView, openDesk_congr h]
  | demo showHidden => rfl

/-- It makes no difference to a command whether the path to its snapshot is written out from the root. -/
theorem run_absolute (ht : t.Anchored) {path : String} {e : FileEntry} (hfind : t.find path = .ok e)
    (hfront : path.startsWith "/" = false) (hlimit : (t.absolute path).utf8ByteSize ≤ FileTree.pathLimit)
    (env : Environment) (invocation : Invocation) :
    (invocation.withPath (some (t.absolute path))).run env t.find =
      (invocation.withPath (some path)).run env t.find := by
  obtain ⟨goal, ⟨hne, -⟩, -⟩ := FileTree.find_eq_ok_iff.mp hfind
  have habsolute : t.find (t.absolute path) = .ok e := (FileTree.find_absolute ht hne hfront hlimit).trans hfind
  exact run_congr (loadAlike_of_paths habsolute hfind) invocation

end Invocation

/-- A command line depends on one file at most, the one that it names or else the environment. -/
theorem runCommand_congr_files {args : List String}
    (h : ∀ path ∈ snapshotPath? env args, files path = files' path) :
    runCommand env files args = runCommand env files' args := by
  unfold runCommand
  cases hline : Invocation.ofArguments args with
  | error refusal => rfl
  | ok invocation =>
    have hpath : snapshotPath? env args = invocation.path?.or env.path? := by
      unfold snapshotPath?
      rw [hline]
      cases invocation <;> rfl
    rw [hpath] at h
    have hrun := Invocation.run_congr (loadAlike_of_files h) invocation
    rw [invocation.withPath_path?] at hrun
    exact hrun

end

end RetreatDesk
