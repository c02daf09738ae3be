/-
Module: PolicyAudit.Proofs.HostFiles
Purpose: What actions on a host do to its files and its clock, also when they fail.
Imports: PolicyAudit.Host.Stored, PolicyAudit.Proofs.FilePlaces
Trusted boundary: none
Main exports: StoredHost.perform, StoredHost.perform_run_bind_eq_ok, StoredHost.Precedes,
  StoredHost.Touches, StoredHost.nextText?, StoredHost.readFile_eq, StoredHost.LastSaveFailed,
  StoredHost.touches_saveText, StoredHost.readText_of_saveText,
  StoredHost.lastSaveFailed_of_saveText
-/
import PolicyAudit.Host.Stored
import PolicyAudit.Proofs.FilePlaces

namespace PolicyAudit

namespace StoredHost

variable {α β : Type}

/-! ### Results of actions -/

/-- The result of an action on the host, and the host afterwards. -/
def perform (host : StoredHost) (action : StateM StoredHost α) : α × StoredHost :=
  action.run host

theorem perform_bind (host : StoredHost) (x : StateM StoredHost α)
    (f : α → StateM StoredHost β) :
    host.perform (x >>= f) = (host.perform x).2.perform (f (host.perform x).1) :=
  rfl

/-- An action that may fail goes on with the result of its first part, or fails with it. -/
theorem perform_run_bind (host : StoredHost) (x : ExceptT Failure (StateM StoredHost) α)
    (f : α → ExceptT Failure (StateM StoredHost) β) :
    host.perform (x >>= f).run =
      match host.perform x.run with
      | (.ok a, next) => next.perform (f a).run
      | (.error failure, next) => (.error failure, next) := by
  have goesOn : host.perform (x >>= f).run =
      (host.perform x.run).2.perform (ExceptT.bindCont f (host.perform x.run).1) := rfl
  rw [goesOn]
  cases host.perform x.run with
  | mk result next =>
      cases result with
      | ok a => rfl
      | error failure => rfl

/-- If a whole action succeeds, so do its parts. -/
theorem perform_run_bind_eq_ok {host next : StoredHost}
    {x : ExceptT Failure (StateM StoredHost) α} {f : α → ExceptT Failure (StateM StoredHost) β}
    {b : β} (whole : host.perform (x >>= f).run = (.ok b, next)) :
    ∃ a between, host.perform x.run = (.ok a, between) ∧
      between.perform (f a).run = (.ok b, next) := by
  rw [perform_run_bind] at whole
  split at whole
  · rename_i a between first
    exact ⟨a, between, first, whole⟩
  · cases whole

theorem perform_lift (host : StoredHost) (x : StateM StoredHost α) :
    host.perform (liftM x : ExceptT Failure (StateM StoredHost) α).run =
      (.ok (host.perform x).1, (host.perform x).2) :=
  rfl

section

variable {host next : StoredHost}

theorem lift_eq_ok {x : StateM StoredHost α} {value : α}
    (done : host.perform (liftM x : ExceptT Failure (StateM StoredHost) α).run =
      (.ok value, next)) : host.perform x = (value, next) := by
  rw [perform_lift] at done
  cases done
  rfl

theorem ofResult_eq_ok {result : Except Failure α} {value : α}
    (done : host.perform (ofResult result : ExceptT Failure (StateM StoredHost) α).run =
      (.ok value, next)) : result = .ok value ∧ next = host :=
  ⟨congrArg Prod.fst done, (congrArg Prod.snd done).symm⟩

theorem perform_attempting (host : StoredHost) (activity : Activity)
    (action : ExceptT Failure (StateM StoredHost) α) :
    host.perform (attempting activity action).run =
      (attempt activity (host.perform action.run).1, (host.perform action.run).2) :=
  rfl

variable {activity : Activity} {action : ExceptT Failure (StateM StoredHost) α}

theorem attempting_eq_ok {value : α}
    (done : host.perform (attempting activity action).run = (.ok value, next)) :
    host.perform action.run = (.ok value, next) := by
  rw [perform_attempting] at done
  cases result : host.perform action.run with
  | mk first after =>
      rw [result] at done
      cases first with
      | ok a => exact done
      | error failure => cases done

theorem attempting_eq_error {failure : Failure}
    (failed : host.perform (attempting activity action).run = (.error failure, next)) :
    ∃ inner, host.perform action.run = (.error inner, next) := by
  rw [perform_attempting] at failed
  cases result : host.perform action.run with
  | mk first after =>
      rw [result] at failed
      cases first with
      | ok a => cases failed
      | error inner =>
          cases failed
          exact ⟨inner, rfl⟩

end

/-! ### Files that actions change -/

/-- What may have become of a host: at most the files that the paths denote have changed, and its
clock has been read some more times. -/
structure Precedes (paths : List String) (host next : StoredHost) : Prop where
  files : host.files.ChangesOnly (paths.map host.files.place) next.files
  clock : next.clock = host.clock
  readings : host.readings ≤ next.readings

theorem Precedes.refl (paths : List String) (host : StoredHost) : Precedes paths host host :=
  ⟨.refl _ _, rfl, Nat.le_refl _⟩

theorem Precedes.trans {paths : List String} {host between next : StoredHost}
    (first : Precedes paths host between) (second : Precedes paths between next) :
    Precedes paths host next := by
  refine ⟨?_, second.clock.trans first.clock, Nat.le_trans first.readings second.readings⟩
  -- the paths denote the same places in between
  have places : paths.map between.files.place = paths.map host.files.place :=
    List.map_congr_left fun path _ => first.files.place_eq path
  have changes := second.files
  rw [places] at changes
  exact first.files.trans changes

/-- Wherever the action is done, it changes at most the files that the paths denote. -/
def Touches (paths : List String) (action : StateM StoredHost α) : Prop :=
  ∀ host : StoredHost, Precedes paths host (host.perform action).2

namespace Touches

variable {paths : List String}

theorem precedes {action : StateM StoredHost α} {host next : StoredHost} {result : α}
    (touches : Touches paths action) (done : host.perform action = (result, next)) :
    Precedes paths host next := by
  have whole := touches host
  rw [done] at whole
  exact whole

theorem pure (a : α) : Touches paths (Pure.pure a) :=
  fun host => .refl paths host

theorem bind {x : StateM StoredHost α} {f : α → StateM StoredHost β} (first : Touches paths x)
    (second : ∀ a, Touches paths (f a)) : Touches paths (x >>= f) := by
  intro host
  rw [perform_bind]
  exact (first host).trans (second _ _)

theorem runBind {x : ExceptT Failure (StateM StoredHost) α}
    {f : α → ExceptT Failure (StateM StoredHost) β} (first : Touches paths x.run)
    (second : ∀ a, Touches paths (f a).run) : Touches paths (x >>= f).run := by
  have goesOn : (x >>= f).run = x.run >>= ExceptT.bindCont f := rfl
  rw [goesOn]
  refine first.bind fun result => ?_
  cases result with
  | ok a => exact second a
  | error failure => exact .pure _

theorem lift {x : StateM StoredHost α} (touches : Touches paths x) :
    Touches paths (liftM x : ExceptT Failure (StateM StoredHost) α).run := by
  intro host
  rw [perform_lift]
  exact touches host

theorem forM {items : List α} {f : α → StateM StoredHost PUnit}
    (each : ∀ item, Touches paths (f item)) : Touches paths (items.forM f) := by
  induction items with
  | nil => exact .pure _
  | cons item items inductionHypothesis =>
      exact (each item).bind fun _ => inductionHypothesis

theorem attemptFile {operation : StateM StoredHost (Except FileFault α)} {during : List Activity}
    (touches : Touches paths operation) :
    Touches paths (PolicyAudit.attemptFile during operation).run := by
  refine touches.bind fun result => ?_
  cases result with
  | ok a => exact .pure _
  | error fault => exact .pure _

theorem attempting {action : ExceptT Failure (StateM StoredHost) α} {activity : Activity}
    (touches : Touches paths action.run) :
    Touches paths (PolicyAudit.attempting activity action).run :=
  touches.bind fun _ => .pure _

end Touches

/-! ### Operations on files -/

/-- The text that is read at a path if that is the next thing that is tried. -/
def nextText? (host : StoredHost) (path : String) : Option String :=
  match host.outage? with
  | some _ => none
  | none => (host.files.readText path).toOption

/-- The last thing that was tried with the files was to save a text at the path, and it failed:
either the text was not written, or the directory above was not made. -/
def LastSaveFailed (host : StoredHost) (path : String) : Prop :=
  ∃ action fault, host.attempts.getLast? = some ⟨action, some fault⟩ ∧
    ((∃ text, action = .write path text) ∨
      ∃ parent, Path.parent? path = some parent ∧ action = .createDirectories parent)

theorem perform_look (host : StoredHost) (action : FileAction)
    (f : FileStore → Except FileFault α) :
    host.perform (look action f) =
      match host.outage? with
      | some outage => (.error outage.fault, host.after action (some outage.fault) host.files)
      | none =>
          match f host.files with
          | .ok value => (.ok value, host.after action none host.files)
          | .error fault => (.error fault, host.after action (some fault) host.files) := by
  have taken : host.perform get = (host, host) := rfl
  rw [look, perform_bind, taken]
  cases host.outage? with
  | some outage => rfl
  | none =>
      cases f host.files with
      | ok value => rfl
      | error fault => rfl

theorem perform_change (host : StoredHost) (action : FileAction)
    (f : FileStore → Except FileFault FileStore) (left : Outage → FileStore → FileStore) :
    host.perform (change action f left) =
      match host.outage? with
      | some outage =>
          (.error outage.fault, host.after action (some outage.fault) (left outage host.files))
      | none =>
          match f host.files with
          | .ok files => (.ok (), host.after action none files)
          | .error fault => (.error fault, host.after action (some fault) host.files) := by
  have taken : host.perform get = (host, host) := rfl
  rw [change, perform_bind, taken]
  cases host.outage? with
  | some outage => rfl
  | none =>
      cases f host.files with
      | ok value => rfl
      | error fault => rfl

section

variable {host next : StoredHost} {paths : List String} {path text : String}

theorem touches_look {action : FileAction} {f : FileStore → Except FileFault α} :
    Touches paths (look action f) := by
  intro host
  rw [perform_look]
  split
  · exact ⟨.refl _ _, rfl, Nat.le_refl _⟩
  · split
    · exact ⟨.refl _ _, rfl, Nat.le_refl _⟩
    · exact ⟨.refl _ _, rfl, Nat.le_refl _⟩

theorem touches_readClock : Touches paths readClock :=
  fun host => ⟨.refl _ _, rfl, Nat.le_succ host.readings⟩

/-- The clock is read where it stands, and goes on. -/
theorem readClock_eq {time : Timestamp} (done : host.perform readClock = (time, next)) :
    time = host.clock host.readings ∧ next = { host with readings := host.readings + 1 } := by
  cases done
  exact ⟨rfl, rfl⟩

theorem touches_note (notice : Notice) : Touches paths (note notice) :=
  fun _ => ⟨.refl _ _, rfl, Nat.le_refl _⟩

theorem touches_change {action : FileAction} {f : FileStore → Except FileFault FileStore}
    {left : Outage → FileStore → FileStore}
    (changed : ∀ files new : FileStore, f files = .ok new →
      files.ChangesOnly (paths.map files.place) new)
    (spoilt : ∀ (files : FileStore) outage,
      files.ChangesOnly (paths.map files.place) (left outage files)) :
    Touches paths (change action f left) := by
  intro host
  rw [perform_change]
  split
  · exact ⟨spoilt host.files _, rfl, Nat.le_refl _⟩
  · split
    · rename_i new result
      exact ⟨changed host.files new result, rfl, Nat.le_refl _⟩
    · exact ⟨.refl _ _, rfl, Nat.le_refl _⟩

theorem touches_writeFile (member : path ∈ paths) :
    Touches paths (Host.writeFile path text : StateM StoredHost (Except FileFault Unit)) := by
  have written : ∀ (files new : FileStore) (text : String), files.writeText path text = .ok new →
      files.ChangesOnly (paths.map files.place) new := by
    intro files new text result
    refine (FileStore.changesOnly_writeText result).mono ?_
    exact List.cons_subset.mpr ⟨List.mem_map_of_mem member, List.nil_subset _⟩
  refine touches_change (fun files new => written files new text) fun files outage => ?_
  unfold Outage.spoil
  split
  · rename_i part _
    cases result : files.writeText path part with
    | ok new => exact written files new part result
    | error fault => exact .refl _ _
  · exact .refl _ _

theorem touches_createDirectories :
    Touches paths (Host.createDirectories path : StateM StoredHost (Except FileFault Unit)) :=
  touches_change
    (fun _ _ made => (FileStore.changesOnly_createDirectories made).mono (List.nil_subset _))
    fun _ _ => .refl _ _

/-- A text in the files is read, unless an outage stops it. -/
theorem perform_readFile (undisturbed : host.outage? = none)
    (held : host.files.readText path = .ok text) :
    host.perform (Host.readFile path : StateM StoredHost (Except FileFault String)) =
      (.ok text, host.after (.read path) none host.files) := by
  refine (perform_look host (.read path) (·.readText path)).trans ?_
  simp only [undisturbed, held]

/-- What is read next is the text that can be read, and the files stay as they are. -/
theorem readFile_eq {result : Except FileFault String}
    (read : host.perform (Host.readFile path : StateM StoredHost (Except FileFault String)) =
      (result, next)) : result.toOption = host.nextText? path ∧ next.files = host.files := by
  have looked := (perform_look host (.read path) (·.readText path)).symm.trans read
  unfold nextText?
  generalize host.outage? = met at looked ⊢
  cases met with
  | some outage =>
      cases looked
      exact ⟨rfl, rfl⟩
  | none =>
      cases found : host.files.readText path with
      | ok text =>
          simp only [found] at looked
          cases looked
          exact ⟨rfl, rfl⟩
      | error fault =>
          simp only [found] at looked
          cases looked
          exact ⟨rfl, rfl⟩

/-- A text that is read is in the files. -/
theorem readText_of_nextText? (read : host.nextText? path = some text) :
    host.files.readText path = .ok text := by
  unfold nextText? at read
  split at read
  · cases read
  · cases found : host.files.readText path with
    | ok held =>
        rw [found] at read
        cases read
        rfl
    | error fault =>
        rw [found] at read
        cases read

theorem last_after (action : FileAction) (fault : Option FileFault) (files : FileStore) :
    (host.after action fault files).attempts.getLast? = some ⟨action, fault⟩ :=
  List.getLast?_concat

theorem eq_ok_of_change {action : FileAction} {left : Outage → FileStore → FileStore}
    {f : FileStore → Except FileFault FileStore}
    (done : host.perform (change action f left) = (.ok (), next)) :
    f host.files = .ok next.files := by
  rw [perform_change] at done
  split at done
  · cases done
  · split at done
    · rename_i files result
      cases done
      exact result
    · cases done

theorem last_of_change {action : FileAction} {left : Outage → FileStore → FileStore}
    {f : FileStore → Except FileFault FileStore} {fault : FileFault}
    (failed : host.perform (change action f left) = (.error fault, next)) :
    next.attempts.getLast? = some ⟨action, some fault⟩ := by
  rw [perform_change] at failed
  split at failed
  · cases failed
    exact last_after _ _ _
  · split at failed
    · cases failed
    · cases failed
      exact last_after _ _ _

/-! ### Saving texts -/

theorem perform_attemptFile (host : StoredHost) (during : List Activity)
    (operation : StateM StoredHost (Except FileFault α)) :
    host.perform (PolicyAudit.attemptFile during operation).run =
      match host.perform operation with
      | (.ok value, next) => (.ok value, next)
      | (.error fault, next) => (.error ⟨during, .file fault⟩, next) := by
  unfold PolicyAudit.attemptFile
  rw [ExceptT.run_mk, perform_bind]
  cases host.perform operation with
  | mk result next =>
      cases result with
      | ok value => rfl
      | error fault => rfl

theorem attemptFile_eq_ok {during : List Activity}
    {operation : StateM StoredHost (Except FileFault α)} {value : α}
    (done : host.perform (PolicyAudit.attemptFile during operation).run = (.ok value, next)) :
    host.perform operation = (.ok value, next) := by
  rw [perform_attemptFile] at done
  split at done
  · rename_i result
    cases done
    exact result
  · cases done

theorem attemptFile_eq_error {during : List Activity}
    {operation : StateM StoredHost (Except FileFault α)} {failure : Failure}
    (failed : host.perform (PolicyAudit.attemptFile during operation).run =
      (.error failure, next)) : ∃ fault, host.perform operation = (.error fault, next) := by
  rw [perform_attemptFile] at failed
  split at failed
  · cases failed
  · rename_i fault _ result
    cases failed
    exact ⟨fault, result⟩

theorem touches_saveText (member : path ∈ paths) :
    Touches paths (saveText path text : ExceptT Failure (StateM StoredHost) Unit).run := by
  have writes : Touches paths (PolicyAudit.attemptFile [] (Host.writeFile path text) :
      ExceptT Failure (StateM StoredHost) Unit).run := .attemptFile (touches_writeFile member)
  unfold saveText
  split
  · exact writes
  · split
    · exact writes
    · exact .runBind (.attemptFile touches_createDirectories) fun _ => writes

/-- A text that has been saved is in the files. -/
theorem readText_of_saveText
    (saved : host.perform (saveText path text : ExceptT Failure (StateM StoredHost) Unit).run =
      (.ok (), next)) : next.files.readText path = .ok text := by
  have readable : ∀ before : StoredHost, before.perform (PolicyAudit.attemptFile []
      (Host.writeFile path text) : ExceptT Failure (StateM StoredHost) Unit).run =
        (.ok (), next) → next.files.readText path = .ok text := by
    intro before written
    exact FileStore.readText_writeText (eq_ok_of_change (attemptFile_eq_ok written))
  unfold saveText at saved
  split at saved
  · exact readable host saved
  · split at saved
    · exact readable host saved
    · obtain ⟨⟨⟩, between, _, written⟩ := perform_run_bind_eq_ok saved
      exact readable between written

/-- Saving fails at its last attempt. -/
theorem lastSaveFailed_of_saveText {failure : Failure}
    (failed : host.perform (saveText path text : ExceptT Failure (StateM StoredHost) Unit).run =
      (.error failure, next)) : next.LastSaveFailed path := by
  have unwritten : ∀ before : StoredHost, before.perform (PolicyAudit.attemptFile []
      (Host.writeFile path text) : ExceptT Failure (StateM StoredHost) Unit).run =
        (.error failure, next) → next.LastSaveFailed path := by
    intro before refused
    obtain ⟨fault, result⟩ := attemptFile_eq_error refused
    exact ⟨_, fault, last_of_change result, .inl ⟨text, rfl⟩⟩
  unfold saveText at failed
  split at failed
  · exact unwritten host failed
  · rename_i parent above
    split at failed
    · exact unwritten host failed
    · rw [perform_run_bind] at failed
      split at failed
      · rename_i between made
        exact unwritten between failed
      · rename_i failure' between refused
        cases failed
        obtain ⟨fault, result⟩ := attemptFile_eq_error refused
        exact ⟨_, fault, last_of_change result, .inr ⟨parent, above, rfl⟩⟩

end

end StoredHost

end PolicyAudit
