/-
Module: PolicyAudit.Vocabulary
Purpose: The closed vocabularies of policies and reports.
Trusted boundary: none
Main exports: Severity, Category, Verdict, RunStatus
-/
namespace PolicyAudit

/-- How grave a failed policy is, in ascending order. -/
inductive Severity where
  | low
  | medium
  | high
  | critical
deriving Repr, Inhabited, DecidableEq

namespace Severity

def rank : Severity → Nat
  | low => 0
  | medium => 1
  | high => 2
  | critical => 3

instance : LE Severity := ⟨fun a b => a.rank ≤ b.rank⟩

instance : LT Severity := ⟨fun a b => a.rank < b.rank⟩

instance (a b : Severity) : Decidable (a ≤ b) :=
  inferInstanceAs (Decidable (a.rank ≤ b.rank))

instance (a b : Severity) : Decidable (a < b) :=
  inferInstanceAs (Decidable (a.rank < b.rank))

def all : List Severity := [low, medium, high, critical]

def word : Severity → String
  | low => "LOW"
  | medium => "MEDIUM"
  | high => "HIGH"
  | critical => "CRITICAL"

/-- The name with one capital. -/
def name : Severity → String
  | low => "Low"
  | medium => "Medium"
  | high => "High"
  | critical => "Critical"

end Severity

/-- What a policy is about. -/
inductive Category where
  | networking
  | iam
  | encryption
  | generalSecurity
  | logging
  | backupAndRecovery
  | kubernetes
  | secrets
  | applicationSecurity
  | convention
deriving Repr, Inhabited, DecidableEq

namespace Category

def all : List Category :=
  [networking, iam, encryption, generalSecurity, logging, backupAndRecovery, kubernetes, secrets,
    applicationSecurity, convention]

def word : Category → String
  | networking => "NETWORKING"
  | iam => "IAM"
  | encryption => "ENCRYPTION"
  | generalSecurity => "GENERAL_SECURITY"
  | logging => "LOGGING"
  | backupAndRecovery => "BACKUP_AND_RECOVERY"
  | kubernetes => "KUBERNETES"
  | secrets => "SECRETS"
  | applicationSecurity => "APPLICATION_SECURITY"
  | convention => "CONVENTION"

/-- The name as one word with inner capitals. -/
def name : Category → String
  | networking => "Networking"
  | iam => "Iam"
  | encryption => "Encryption"
  | generalSecurity => "GeneralSecurity"
  | logging => "Logging"
  | backupAndRecovery => "BackupAndRecovery"
  | kubernetes => "Kubernetes"
  | secrets => "Secrets"
  | applicationSecurity => "ApplicationSecurity"
  | convention => "Convention"

end Category

/-- What one policy says about one resource. -/
inductive Verdict where
  | passed
  | failed
  | skipped
deriving Repr, Inhabited, DecidableEq

namespace Verdict

def all : List Verdict := [passed, failed, skipped]

def word : Verdict → String
  | passed => "PASSED"
  | failed => "FAILED"
  | skipped => "SKIPPED"

end Verdict

/-- What a whole run says, in ascending order. -/
inductive RunStatus where
  | pass
  | warn
  | fail
deriving Repr, Inhabited, DecidableEq

namespace RunStatus

def rank : RunStatus → Nat
  | pass => 0
  | warn => 1
  | fail => 2

instance : LE RunStatus := ⟨fun a b => a.rank ≤ b.rank⟩

instance (a b : RunStatus) : Decidable (a ≤ b) :=
  inferInstanceAs (Decidable (a.rank ≤ b.rank))

def all : List RunStatus := [pass, warn, fail]

def word : RunStatus → String
  | pass => "pass"
  | warn => "warn"
  | fail => "fail"

/-- The name with one capital. -/
def name : RunStatus → String
  | pass => "Pass"
  | warn => "Warn"
  | fail => "Fail"

/-- Only a failed run has a nonzero exit code. -/
def exitCode : RunStatus → Nat
  | pass | warn => 0
  | fail => 2

end RunStatus

end PolicyAudit
