/-
Module: PolicyAudit.Proofs.FilePlaces
Purpose: The places that paths denote, and what operations on files change elsewhere.
Imports: PolicyAudit.Files.Store
Trusted boundary: none
Main exports: FileStore.place, FileStore.ChangesOnly, FileStore.readText_eq_ok_iff,
  FileStore.ChangesOnly.readText, FileStore.changesOnly_writeText,
  FileStore.changesOnly_createDirectories, FileStore.readText_writeText
-/
import PolicyAudit.Files.Store

namespace PolicyAudit.FileStore

/-- If a whole computation succeeds, so do its parts. -/
theorem bind_eq_ok {α β : Type} {x : Except FileFault α} {f : α → Except FileFault β} {b : β}
    (whole : (x >>= f) = .ok b) : ∃ a, x = .ok a ∧ f a = .ok b := by
  cases x with
  | error fault => cases whole
  | ok a => exact ⟨a, rfl, whole⟩

/-! ### Places -/

/-- The place that a name leads to from another place. -/
def step (place : Location) (name : String) : Location :=
  if name = "." then place
  else if name = ".." then place.dropLast
  else place ++ [name]

/-- The place that a path denotes by its names alone, whatever is there. -/
def place (s : FileStore) (path : String) : Location :=
  (Path.names path).foldl step (s.start path)

/-- To go on from a place one has to be in a directory, and comes to where the name leads. -/
theorem enter_eq_ok {s : FileStore} {place next : Location} {name : String}
    (entered : s.enter place name = .ok next) :
    s.node? place = some .directory ∧ next = step place name := by
  unfold enter at entered
  split at entered
  · cases entered
  · cases entered
  · rename_i directory
    refine ⟨directory, ?_⟩
    unfold step
    split at entered
    · rename_i dot
      cases entered
      rw [if_pos dot]
    · rename_i noDot
      split at entered
      · rename_i dots
        cases entered
        rw [if_neg noDot, if_pos dots]
      · rename_i noDots
        split at entered
        · cases entered
        · cases entered
          rw [if_neg noDot, if_neg noDots]

theorem follow_cons (s : FileStore) (place : Location) (name : String) (names : List String) :
    s.follow place (name :: names) = s.enter place name >>= fun next => s.follow next names :=
  List.foldlM_cons

/-- Names lead to the place that they denote, if they lead anywhere. -/
theorem follow_eq_ok {s : FileStore} {place next : Location} {names : List String}
    (followed : s.follow place names = .ok next) : next = names.foldl step place := by
  induction names generalizing place with
  | nil =>
      cases followed
      rfl
  | cons name names inductionHypothesis =>
      rw [follow_cons] at followed
      obtain ⟨between, entered, followed⟩ := bind_eq_ok followed
      rw [inductionHypothesis followed, (enter_eq_ok entered).2]
      rfl

/-! ### Changes -/

/-- From one store to the other at most the files at certain places have changed, and no directory
has gone. -/
structure ChangesOnly (places : List Location) (s t : FileStore) : Prop where
  here : t.here = s.here
  directories : ∀ place, s.node? place = some .directory → t.node? place = some .directory
  files : ∀ place text, place ∉ places →
    (t.node? place = some (.file text) ↔ s.node? place = some (.file text))

namespace ChangesOnly

variable {places more : List Location} {s t u : FileStore}

theorem refl (places : List Location) (s : FileStore) : ChangesOnly places s s :=
  ⟨rfl, fun _ => id, fun _ _ _ => Iff.rfl⟩

theorem trans (first : ChangesOnly places s t) (second : ChangesOnly places t u) :
    ChangesOnly places s u where
  here := second.here.trans first.here
  directories := fun place directory => second.directories place (first.directories place directory)
  files := fun place text elsewhere =>
    (second.files place text elsewhere).trans (first.files place text elsewhere)

theorem mono (changes : ChangesOnly places s t) (sub : places ⊆ more) : ChangesOnly more s t where
  here := changes.here
  directories := changes.directories
  files := fun place text elsewhere => changes.files place text fun member => elsewhere (sub member)

theorem start_eq (changes : ChangesOnly places s t) (path : String) :
    t.start path = s.start path := by
  unfold start
  rw [changes.here]

/-- A path denotes the same place before and after. -/
theorem place_eq (changes : ChangesOnly places s t) (path : String) :
    t.place path = s.place path := by
  unfold place
  rw [changes.start_eq]

theorem enter (changes : ChangesOnly places s t) {place next : Location} {name : String}
    (entered : s.enter place name = .ok next) : t.enter place name = .ok next := by
  have before := (enter_eq_ok entered).1
  unfold FileStore.enter at entered ⊢
  rw [before] at entered
  rw [changes.directories place before]
  exact entered

/-- Names lead to the same place before and after. -/
theorem follow (changes : ChangesOnly places s t) {place next : Location} {names : List String}
    (followed : s.follow place names = .ok next) : t.follow place names = .ok next := by
  induction names generalizing place with
  | nil => exact followed
  | cons name names inductionHypothesis =>
      rw [follow_cons] at followed ⊢
      obtain ⟨between, entered, followed⟩ := bind_eq_ok followed
      rw [changes.enter entered]
      exact inductionHypothesis followed

end ChangesOnly

/-- To write to a file where there is no directory changes that file only. -/
theorem changesOnly_put_file {s : FileStore} {place : Location} (text : String)
    (noDirectory : s.node? place ≠ some .directory) :
    ChangesOnly [place] s (s.put place (.file text)) := by
  have notRoot : place ≠ [] := by
    rintro rfl
    exact noDirectory rfl
  refine ⟨rfl, fun other directory => ?_, fun other written elsewhere => ?_⟩
  · rw [node?_put s other _ notRoot, if_neg]
    · exact directory
    · rintro rfl
      exact noDirectory directory
  · rw [List.mem_singleton] at elsewhere
    rw [node?_put s other _ notRoot, if_neg elsewhere]

/-- To make a directory where nothing is changes no file. -/
theorem changesOnly_put_directory {s : FileStore} {place : Location}
    (nothing : s.node? place = none) : ChangesOnly [] s (s.put place .directory) := by
  have notRoot : place ≠ [] := by
    rintro rfl
    cases nothing
  refine ⟨rfl, fun other directory => ?_, fun other written _ => ?_⟩
  · rw [node?_put s other _ notRoot]
    split
    · rfl
    · exact directory
  · rw [node?_put s other _ notRoot]
    split
    · rename_i same
      rw [same, nothing]
      constructor
      · intro file
        cases file
      · intro file
        cases file
    · exact Iff.rfl

/-! ### Operations -/

section

variable {s t : FileStore} {path text : String}

/-- A text is read at a path if the path leads to a file with the text, and does not end as the
path of a directory. -/
theorem readText_eq_ok_iff :
    s.readText path = .ok text ↔
      checkPath path = .ok () ∧ s.follow (s.start path) (Path.names path) = .ok (s.place path) ∧
        s.node? (s.place path) = some (.file text) ∧ Path.endsOpen path = false := by
  constructor
  · intro whole
    obtain ⟨⟨found, node⟩, lookedUp, isFile⟩ := bind_eq_ok whole
    obtain ⟨⟨⟩, checked, rest⟩ := bind_eq_ok lookedUp
    obtain ⟨end_, followed, atEnd⟩ := bind_eq_ok rest
    have same : end_ = s.place path := follow_eq_ok followed
    subst same
    refine ⟨checked, followed, ?_⟩
    split at atEnd
    · cases atEnd
    · cases atEnd
      cases isFile
    · rename_i held file
      split at atEnd
      · cases atEnd
      · rename_i closed
        cases atEnd
        cases isFile
        exact ⟨file, by simpa using closed⟩
  · rintro ⟨checked, followed, file, closed⟩
    rw [readText, lookUp, checked]
    simp only [bind, Except.bind, followed, file, closed]
    rfl

/-- What can be read stays so when files elsewhere change. -/
theorem ChangesOnly.readText {places : List Location} (changes : ChangesOnly places s t)
    (elsewhere : s.place path ∉ places) (before : s.readText path = .ok text) :
    t.readText path = .ok text := by
  obtain ⟨checked, followed, file, closed⟩ := readText_eq_ok_iff.mp before
  refine readText_eq_ok_iff.mpr ⟨checked, ?_, ?_, closed⟩
  · rw [changes.start_eq, changes.place_eq]
    exact changes.follow followed
  · rw [changes.place_eq]
    exact (changes.files (s.place path) text elsewhere).mpr file

/-- Unless its last name is a dot or two, a path leads where it denotes, and not to the root. -/
theorem target_eq_ok {found : Location} {last : String}
    (whole : s.target path = .ok (found, last)) (named : isDots last = false) :
    checkPath path = .ok () ∧ s.follow (s.start path) (Path.names path) = .ok (s.place path) ∧
      found = s.place path := by
  obtain ⟨⟨⟩, checked, rest⟩ := bind_eq_ok whole
  split at rest
  · cases rest
    cases named
  · rename_i name lastName
    obtain ⟨above, followed, rest⟩ := bind_eq_ok rest
    obtain ⟨below, entered, same⟩ := bind_eq_ok rest
    cases same
    obtain ⟨front, names⟩ := List.getLast?_eq_some_iff.mp lastName
    rw [names, List.dropLast_concat] at followed
    have reached : s.follow (s.start path) (Path.names path) = .ok found := by
      rw [FileStore.follow] at followed ⊢
      rw [names, List.foldlM_append, followed]
      simp only [bind, Except.bind, List.foldlM_cons, entered]
      rfl
    have same : found = s.place path := follow_eq_ok reached
    exact ⟨checked, same ▸ reached, same⟩

/-- What a file has to be like to be written. -/
theorem writeText_eq_ok (written : s.writeText path text = .ok t) :
    checkPath path = .ok () ∧ s.follow (s.start path) (Path.names path) = .ok (s.place path) ∧
      s.node? (s.place path) ≠ some .directory ∧ Path.endsOpen path = false ∧
      t = s.put (s.place path) (.file text) := by
  obtain ⟨⟨found, last⟩, aimed, rest⟩ := bind_eq_ok written
  simp only at rest
  split at rest
  · cases rest
  · rename_i allowed
    simp only [Bool.or_eq_true, not_or, Bool.not_eq_true, beq_iff_eq] at allowed
    obtain ⟨⟨named, closed⟩, noDirectory⟩ := allowed
    obtain ⟨checked, followed, rfl⟩ := target_eq_ok aimed named
    cases rest
    exact ⟨checked, followed, by simpa using noDirectory, closed, rfl⟩

/-- Writing changes the file that the path denotes and no other. -/
theorem changesOnly_writeText (written : s.writeText path text = .ok t) :
    ChangesOnly [s.place path] s t := by
  obtain ⟨_, _, noDirectory, _, rfl⟩ := writeText_eq_ok written
  exact changesOnly_put_file text noDirectory

/-- What has been written can be read. -/
theorem readText_writeText (written : s.writeText path text = .ok t) :
    t.readText path = .ok text := by
  have changes := changesOnly_writeText written
  obtain ⟨checked, followed, noDirectory, closed, rfl⟩ := writeText_eq_ok written
  have notRoot : s.place path ≠ [] := by
    intro root
    rw [root] at noDirectory
    exact noDirectory rfl
  refine readText_eq_ok_iff.mpr ⟨checked, ?_, ?_, closed⟩
  · rw [changes.start_eq, changes.place_eq]
    exact changes.follow followed
  · rw [changes.place_eq, node?_put s _ _ notRoot, if_pos rfl]

theorem changesOnly_createDirectory (made : s.createDirectory path = .ok t) :
    ChangesOnly [] s t := by
  obtain ⟨⟨found, last⟩, aimed, rest⟩ := bind_eq_ok made
  simp only at rest
  split at rest
  · cases rest
  · rename_i allowed
    simp only [Bool.or_eq_true, not_or, Bool.not_eq_true, Option.isSome_eq_false_iff,
      Option.isNone_iff_eq_none] at allowed
    cases rest
    exact changesOnly_put_directory allowed.2

theorem changesOnly_ensureDirectory (made : s.ensureDirectory path = .ok t) :
    ChangesOnly [] s t := by
  unfold ensureDirectory at made
  split at made
  · rename_i created
    cases made
    exact changesOnly_createDirectory created
  · split at made
    · cases made
      exact .refl [] s
    · cases made

theorem changesOnly_ensureAll {paths : List String} (made : s.ensureAll paths = .ok t) :
    ChangesOnly [] s t := by
  induction paths generalizing t with
  | nil =>
      cases made
      exact .refl [] s
  | cons path above inductionHypothesis =>
      unfold ensureAll at made
      split at made
      · rename_i created
        cases made
        exact changesOnly_createDirectory created
      · obtain ⟨between, madeAbove, madeHere⟩ := bind_eq_ok made
        exact (inductionHypothesis madeAbove).trans (changesOnly_ensureDirectory madeHere)
      · split at made
        · cases made
          exact .refl [] s
        · cases made

/-- Making directories changes no file. -/
theorem changesOnly_createDirectories (made : s.createDirectories path = .ok t) :
    ChangesOnly [] s t :=
  changesOnly_ensureAll made

end

end PolicyAudit.FileStore
