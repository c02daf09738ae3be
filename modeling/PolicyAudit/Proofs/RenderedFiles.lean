/-
Module: PolicyAudit.Proofs.RenderedFiles
Purpose: What is shown of a report that an audit has left in the files.
Imports: PolicyAudit.Proofs.AuditCommand
Trusted boundary: none
Main exports: StoredHost.perform_readReport, StoredHost.printed_forM, Command.perform_markdown,
  Command.perform_annotations, Command.audit_shown_again
-/
import PolicyAudit.Proofs.AuditCommand

namespace PolicyAudit

namespace StoredHost

/-! ### Reading reports and printing -/

/-- A report in the files is read, unless an outage stops it. -/
theorem perform_readReport {host : StoredHost} {path : String} {stored : Report}
    (undisturbed : host.outage? = none) (schema : stored.schema = reportSchema)
    (held : host.files.readText path = .ok stored.write) :
    host.perform (readReport path).run = (.ok stored, host.after (.read path) none host.files) := by
  rw [readReport, perform_run_bind, perform_attemptFile, perform_readFile undisturbed held]
  have read := Report.read_write stored schema
  simp only [read]
  rfl

/-- Lines are printed after what has been printed before. -/
theorem printed_forM (host : StoredHost) (lines : List String) :
    (host.perform (lines.forM fun line => Host.print (line ++ "\n"))).2.printed =
      host.printed ++ String.join (lines.map (· ++ "\n")) := by
  induction lines generalizing host with
  | nil =>
      rw [List.map_nil, String.join_nil, String.append_empty]
      rfl
  | cons line lines inductionHypothesis =>
      rw [List.map_cons, String.join_cons, ← String.append_assoc]
      exact inductionHypothesis _

theorem perform_exitCode {host next : StoredHost}
    {action : ExceptT Failure (StateM StoredHost) Unit}
    (done : host.perform action.run = (.ok (), next)) :
    host.perform (exitCode action) = (0, next) := by
  rw [exitCode, perform_bind, done]
  rfl

end StoredHost

namespace Command

open StoredHost

/-! ### Showing reports -/

section

variable (host : StoredHost) {path : String} {stored : Report}

/-- Whatever is shown of a report is shown of the report in the files. -/
theorem perform_exitCode_readReport (display : Report → StateM StoredHost Unit)
    (undisturbed : host.outage? = none) (schema : stored.schema = reportSchema)
    (held : host.files.readText path = .ok stored.write) :
    host.perform (exitCode (readReport path >>= fun written => liftM (display written))) =
      (0, ((host.after (.read path) none host.files).perform (display stored)).2) := by
  apply perform_exitCode
  rw [perform_run_bind, perform_readReport undisturbed schema held]
  exact perform_lift _ _

/-- The Markdown text of a report in the files is printed. -/
theorem perform_markdown (filter : Log.Filter) (globals : Globals)
    (undisturbed : host.outage? = none) (schema : stored.schema = reportSchema)
    (held : host.files.readText path = .ok stored.write) :
    let shown := host.perform ((Task.markdown path none).run filter globals)
    shown.1 = 0 ∧ shown.2.printed = host.printed ++ stored.summary.markdown := by
  intro shown
  have ended : shown = (0, _) := perform_exitCode_readReport host
    (fun written => Host.print written.summary.markdown) undisturbed schema held
  rw [ended]
  exact ⟨rfl, rfl⟩

/-- The annotations of a report in the files are printed, at most so many. -/
theorem perform_annotations (filter : Log.Filter) (globals : Globals) (limit : Nat)
    (undisturbed : host.outage? = none) (schema : stored.schema = reportSchema)
    (held : host.files.readText path = .ok stored.write) :
    let shown := host.perform ((Task.annotations path limit).run filter globals)
    shown.1 = 0 ∧ shown.2.printed =
      host.printed ++ String.join ((stored.summary.annotations limit).map (· ++ "\n")) := by
  intro shown
  have ended : shown = (0, _) := perform_exitCode_readReport host
    (fun written => (written.summary.annotations limit).forM fun line => Host.print (line ++ "\n"))
    undisturbed schema held
  rw [ended]
  exact ⟨rfl, printed_forM _ _⟩

end

/-- What an audit leaves in the files shows the same as what it has composed.  After an audit that
writes both files and does not fail, what is printed of the report in its file as a Markdown text is
what stands in the Markdown file, and its annotations are those of the report that the audit has
composed. -/
theorem audit_shown_again (host : StoredHost) (filter : Log.Filter) (globals : Globals)
    (options : AuditOptions) (asked : options.writeMarkdown = true)
    (distinct : host.files.place options.reportOut ≠ host.files.place options.markdownOut)
    (finished : (host.perform ((Task.audit options).run filter globals)).1 = 0 ∨
      (host.perform ((Task.audit options).run filter globals)).1 = 2) :
    let left := (host.perform ((Task.audit options).run filter globals)).2.files
    ∃ composed text, (host.perform (options.compose filter globals).run).1 = .ok composed ∧
      left.readText options.markdownOut = .ok text ∧
      ∀ (filter : Log.Filter) (globals : Globals),
        let shown := fun task : Task => (ofFiles left).perform (task.run filter globals)
        ((shown (.markdown options.reportOut none)).1 = 0 ∧
          (shown (.markdown options.reportOut none)).2.printed = text) ∧
        ∀ limit, (shown (.annotations options.reportOut limit)).1 = 0 ∧
          (shown (.annotations options.reportOut limit)).2.printed =
            String.join ((composed.summary.annotations limit).map (· ++ "\n")) := by
  intro left
  obtain ⟨code, after, performed, ends⟩ :=
    AuditOptions.perform_run filter globals fun _ => distinct
  have whole : host.perform ((Task.audit options).run filter globals) = (code, after) := performed
  rw [whole] at finished
  have same : left = after.files := congrArg (·.2.files) whole
  rcases ends with ⟨composed, composes, _, report, markdown⟩ | ⟨failure, _, codeEq, _⟩
  · have schema := (AuditOptions.reports_of_compose composes).schema_eq
    rw [← same] at report markdown
    refine ⟨composed, composed.summary.markdown, composes, markdown asked, ?_⟩
    intro filter globals shown
    constructor
    · obtain ⟨ended, printed⟩ :=
        perform_markdown (ofFiles left) filter globals rfl schema report
      exact ⟨ended, printed.trans String.empty_append⟩
    · intro limit
      obtain ⟨ended, printed⟩ :=
        perform_annotations (ofFiles left) filter globals limit rfl schema report
      exact ⟨ended, printed.trans String.empty_append⟩
  · rw [codeEq] at finished
    omega

/-- A host with a key vault that has neither rules for its network nor tags. -/
def vaultHost : StoredHost :=
  ofFiles
    ⟨[(["resources.json"], .file ("[\x7b\"resource_type\": \"azurerm_key_vault\", " ++
        "\"resource_id\": \"main\", \"config\": \x7b\x7d\x7d]"))], []⟩

/-- An audit that writes both files to a directory that it has to make. -/
def filesBelow : AuditOptions := ⟨"resources.json", "out/report.json", true, "out/comment.md"⟩

/-- The report of the vault, and the annotation of the first finding, shown again. -/
theorem audit_shown_again_ofVault :
    let audited := vaultHost.perform ((Task.audit filesBelow).run [] ⟨"iacguard.toml", .none⟩)
    let shown := fun task : Task => (ofFiles audited.2.files).perform (task.run [] ⟨"", .none⟩)
    audited.1 = 2 ∧
      ∃ composed text,
        (vaultHost.perform (filesBelow.compose [] ⟨"iacguard.toml", .none⟩).run).1 = .ok composed ∧
          audited.2.files.readText filesBelow.markdownOut = .ok text ∧
          (shown (.markdown filesBelow.reportOut none)).2.printed = text ∧
          (shown (.annotations filesBelow.reportOut 1)).2.printed =
            String.join ((composed.summary.annotations 1).map (· ++ "\n")) := by
  have distinct : vaultHost.files.place filesBelow.reportOut ≠
      vaultHost.files.place filesBelow.markdownOut := by
    decide +kernel
  have fails : (vaultHost.perform
      ((Task.audit filesBelow).run [] ⟨"iacguard.toml", .none⟩)).1 = 2 := by
    decide +kernel
  obtain ⟨composed, text, composes, held, shows⟩ :=
    audit_shown_again vaultHost [] ⟨"iacguard.toml", .none⟩ filesBelow rfl distinct (.inr fails)
  obtain ⟨⟨_, markdown⟩, annotations⟩ := shows [] ⟨"", .none⟩
  exact ⟨fails, composed, text, composes, held, markdown, (annotations 1).2⟩

end Command

end PolicyAudit
