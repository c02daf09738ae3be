/-
Module: PolicyAudit.Proofs.AuditCommand
Purpose: How an audit on the command line ends, and what it leaves in the files.
Imports: PolicyAudit.Command.Run, PolicyAudit.Proofs.HostFiles, PolicyAudit.Proofs.ReportText,
  PolicyAudit.Proofs.RunStatus
Trusted boundary: none
Main exports: Command.AuditOptions.Finds, Command.AuditOptions.Reports,
  Command.AuditOptions.reports_of_compose, Command.AuditOptions.readText_of_save,
  Command.AuditOptions.touches_run, Command.AuditOptions.perform_run, Command.audit_leaves_report
-/
import PolicyAudit.Command.Run
import PolicyAudit.Proofs.HostFiles
import PolicyAudit.Proofs.ReportText
import PolicyAudit.Proofs.RunStatus

namespace PolicyAudit.Command

open StoredHost

variable {host next : StoredHost} {paths : List String}

/-! ### Parts of commands -/

theorem touches_report (filter : Log.Filter) (e : Log.Event) :
    Touches paths (report filter e : StateM StoredHost Unit) := by
  unfold report
  split
  · exact touches_readClock.bind fun time => touches_note (.event time e)
  · exact .pure _

theorem touches_readSettings (filter : Log.Filter) (path : String) :
    Touches paths (readSettings filter path : StateM StoredHost String) := by
  refine .bind touches_look fun result => ?_
  cases result with
  | ok text => exact .pure _
  | error fault => exact (touches_report filter _).bind fun _ => .pure _

theorem files_report (host : StoredHost) (filter : Log.Filter) (e : Log.Event) :
    (host.perform (report filter e)).2.files = host.files := by
  unfold report
  split
  · rfl
  · rfl

/-- The settings are the text that can be read next, or say nothing, and the files stay as they
are. -/
theorem readSettings_eq {filter : Log.Filter} {path settings : String}
    (done : host.perform (readSettings filter path) = (settings, next)) :
    settings = (host.nextText? path).getD "" ∧ next.files = host.files := by
  rw [readSettings, perform_bind] at done
  cases reads : host.perform (Host.readFile path : StateM StoredHost (Except FileFault String)) with
  | mk result between =>
      obtain ⟨text, same⟩ := readFile_eq reads
      rw [reads] at done
      cases result with
      | ok found =>
          cases done
          rw [← text]
          exact ⟨rfl, same⟩
      | error fault =>
          rw [perform_bind] at done
          cases done
          rw [← text]
          exact ⟨rfl, (files_report between filter _).trans same⟩

/-! ### Audits -/

namespace AuditOptions

variable (options : AuditOptions) (globals : Globals)

/-- What an audit works on is what is found on the host before it: the text of the resources, and
the text of the settings, or the empty one where they cannot be read. -/
structure Finds (host : StoredHost) (input : AuditInput) : Prop where
  resources : host.files.readText options.resources = .ok input.resources
  settings : input.settings = (host.nextText? globals.settings).getD ""
  overrides : input.overrides = globals.overrides

/-- The report is that of an audit of what is found on the host.  Its times are read from the clock,
one after the other. -/
def Reports (host : StoredHost) (written : Report) : Prop :=
  ∃ input a first second, options.Finds globals host input ∧ PolicyAudit.audit input = .ok a ∧
    host.readings ≤ first ∧ first < second ∧
    written = a.report (host.clock first) (host.clock second)

variable {options} {globals} {filter : Log.Filter} {written : Report}

theorem Reports.schema_eq (reports : options.Reports globals host written) :
    written.schema = reportSchema := by
  obtain ⟨input, a, first, second, _, _, _, _, rfl⟩ := reports
  rfl

/-! ### Composing the report -/

theorem touches_compose :
    Touches paths
      (options.compose filter globals : ExceptT Failure (StateM StoredHost) Report).run := by
  refine .runBind (touches_readSettings filter globals.settings).lift fun settings => ?_
  refine .runBind (.attemptFile touches_look) fun resources => ?_
  refine .runBind touches_readClock.lift fun startedAt => ?_
  refine .runBind (.pure _) fun a => ?_
  refine .runBind (Touches.forM (touches_report filter)).lift fun _ => ?_
  refine .runBind touches_readClock.lift fun finishedAt => ?_
  exact .pure _

/-- A report that is composed is that of what has been found on the host. -/
theorem reports_of_compose
    (composed : (host.perform (options.compose filter globals).run).1 = .ok written) :
    options.Reports globals host written := by
  have done : host.perform (options.compose filter globals).run = (.ok written, _) :=
    Prod.ext composed rfl
  obtain ⟨settings, host1, readsSettings, done⟩ := perform_run_bind_eq_ok done
  obtain ⟨resources, host2, readsResources, done⟩ := perform_run_bind_eq_ok done
  obtain ⟨startedAt, host3, starts, done⟩ := perform_run_bind_eq_ok done
  obtain ⟨a, host4, audits, done⟩ := perform_run_bind_eq_ok done
  obtain ⟨⟨⟩, host5, logs, done⟩ := perform_run_bind_eq_ok done
  obtain ⟨finishedAt, host6, finishes, done⟩ := perform_run_bind_eq_ok done
  cases done
  obtain ⟨rfl, started⟩ := readClock_eq (lift_eq_ok starts)
  obtain ⟨audited, rfl⟩ := ofResult_eq_ok audits
  obtain ⟨rfl, finished⟩ := readClock_eq (lift_eq_ok finishes)
  -- no file changes on the way, and the clock stays the same one
  have toResources : Precedes [] host host1 :=
    (touches_readSettings filter globals.settings).lift.precedes readsSettings
  have toStart : Precedes [] host host2 :=
    toResources.trans ((Touches.attemptFile touches_look).precedes readsResources)
  have toFinish : Precedes [] host4 host5 :=
    (Touches.forM (touches_report filter)).lift.precedes logs
  have found : options.Finds globals host ⟨resources, settings, globals.overrides⟩ := by
    obtain ⟨said, sameFiles⟩ := readSettings_eq (lift_eq_ok readsSettings)
    obtain ⟨read, _⟩ := readFile_eq (attemptFile_eq_ok readsResources)
    have held := readText_of_nextText? read.symm
    rw [sameFiles] at held
    exact ⟨held, said, rfl⟩
  refine ⟨_, a, host2.readings, host5.readings, found, audited, toStart.readings, ?_, ?_⟩
  · have goesOn := toFinish.readings
    rw [started] at goesOn
    exact goesOn
  · rw [toFinish.clock, started, toStart.clock]

/-! ### Saving the report -/

/-- What has been saved can be read, the report also after the Markdown text if that goes to
another place. -/
theorem readText_of_save
    (distinct : options.writeMarkdown = true →
      host.files.place options.reportOut ≠ host.files.place options.markdownOut)
    (done : host.perform (options.save written).run = (.ok (), next)) :
    next.files.readText options.reportOut = .ok written.write ∧
      (options.writeMarkdown = true →
        next.files.readText options.markdownOut = .ok written.summary.markdown) := by
  obtain ⟨⟨⟩, between, stores, done⟩ := perform_run_bind_eq_ok done
  have stores := attempting_eq_ok (attempting_eq_ok stores)
  have stored : between.files.readText options.reportOut = .ok written.write :=
    readText_of_saveText stores
  split at done
  · rename_i asked
    have done := attempting_eq_ok (attempting_eq_ok done)
    refine ⟨?_, fun _ => readText_of_saveText done⟩
    have changes : Precedes [options.markdownOut] between next :=
      (touches_saveText (List.mem_singleton_self _)).precedes done
    have placed : Precedes [options.reportOut] host between :=
      (touches_saveText (List.mem_singleton_self _)).precedes stores
    refine changes.files.readText ?_ stored
    rw [placed.files.place_eq, List.map_singleton, placed.files.place_eq, List.mem_singleton]
    exact distinct asked
  · rename_i notAsked
    cases done
    exact ⟨stored, fun asked => absurd asked notAsked⟩

/-! ### Attempts -/

/-- An audit that does not fail has saved the report that it has composed, and the Markdown text if
it is asked for. -/
theorem attempt_eq_ok {status : RunStatus}
    (distinct : options.writeMarkdown = true →
      host.files.place options.reportOut ≠ host.files.place options.markdownOut)
    (done : host.perform (options.attempt filter globals).run = (.ok status, next)) :
    ∃ written, (host.perform (options.compose filter globals).run).1 = .ok written ∧
      status = written.status ∧
      next.files.readText options.reportOut = .ok written.write ∧
      (options.writeMarkdown = true →
        next.files.readText options.markdownOut = .ok written.summary.markdown) := by
  obtain ⟨written, between, composes, done⟩ := perform_run_bind_eq_ok done
  obtain ⟨⟨⟩, saved, saves, done⟩ := perform_run_bind_eq_ok done
  cases done
  have same : Precedes [] host between := touches_compose.precedes composes
  rw [← same.files.place_eq, ← same.files.place_eq] at distinct
  have composed := congrArg Prod.fst composes
  exact ⟨written, composed, rfl, readText_of_save distinct saves⟩

/-! ### Whole audits -/

/-- A failed audit ends with the code 1 and a report of the failure, unless the report could not be
saved at last. -/
theorem perform_concede (host : StoredHost) (failure : Failure) :
    ∃ after, host.perform (options.concede filter failure) = (1, after) ∧
      (after.LastSaveFailed options.reportOut ∨ ∃ time,
        after.files.readText options.reportOut =
          .ok (failureReport failure.oneLine time).write) := by
  rw [AuditOptions.concede, perform_bind, perform_bind, perform_bind]
  generalize host.perform (report filter _) = logged
  generalize logged.2.perform Host.now = timed
  cases saves : timed.2.perform
      (writeReport options.reportOut (failureReport failure.oneLine timed.1)).run with
  | mk result saved =>
      -- what is printed in the end changes neither the files nor what has been tried with them
      refine ⟨_, rfl, ?_⟩
      cases result with
      | ok nothing =>
          have held := readText_of_saveText (attempting_eq_ok saves)
          exact .inr ⟨timed.1, held⟩
      | error inner =>
          obtain ⟨cause, fails⟩ := attempting_eq_error saves
          have last := lastSaveFailed_of_saveText fails
          exact .inl last

/-- The two ways in which an audit ends. -/
theorem perform_run (filter : Log.Filter) (globals : Globals)
    (distinct : options.writeMarkdown = true →
      host.files.place options.reportOut ≠ host.files.place options.markdownOut) :
    ∃ code after, host.perform (options.run filter globals) = (code, after) ∧
      ((∃ written, (host.perform (options.compose filter globals).run).1 = .ok written ∧
          code = written.status.exitCode ∧
          after.files.readText options.reportOut = .ok written.write ∧
          (options.writeMarkdown = true →
            after.files.readText options.markdownOut = .ok written.summary.markdown)) ∨
        ∃ failure, (host.perform (options.attempt filter globals).run).1 = .error failure ∧
          code = 1 ∧ (after.LastSaveFailed options.reportOut ∨ ∃ time,
            after.files.readText options.reportOut =
              .ok (failureReport failure.oneLine time).write)) := by
  rw [run, perform_bind]
  cases attempted : host.perform (options.attempt filter globals).run with
  | mk result next =>
      cases result with
      | ok status =>
          obtain ⟨written, composed, rfl, saved⟩ := attempt_eq_ok distinct attempted
          exact ⟨_, next, rfl, .inl ⟨written, composed, rfl, saved⟩⟩
      | error failure =>
          obtain ⟨after, conceded, left⟩ := perform_concede next failure
          exact ⟨1, after, conceded, .inr ⟨failure, rfl, rfl, left⟩⟩

end AuditOptions

end PolicyAudit.Command
