/-
Module: PolicyAudit.Policy.Explanation
Purpose: What the built-in policies are for, and how to satisfy them.
Imports: PolicyAudit.Policy.Catalog
Trusted boundary: none
Main exports: Explanation, Explanation.write, explanation?, knownIds, notExplained,
  explanationGaps
-/
import PolicyAudit.Policy.Catalog

namespace PolicyAudit

/-- What a policy is for, with a declaration before and after it satisfies the policy. -/
structure Explanation where
  title : String
  description : String
  remediation : String
  before : String
  after : String
deriving Repr, Inhabited, DecidableEq

/-! ### Texts -/

/-- A text from its lines; the last one does not end. -/
def lines (ls : List String) : String :=
  "\n".intercalate ls

namespace Explanation

def customerManagedKey : Explanation where
  title := "Storage Account Customer-Managed Keys"
  description := lines
    [ "Requires storage accounts to encrypt data with a key held in Key Vault rather",
      "than the platform-managed default. The `customer_managed_key` block must exist",
      "and reference a key through a non-empty `key_vault_key_id`." ]
  remediation := lines
    [ "Add a `customer_managed_key` block pointing at a Key Vault key and grant the",
      "account's managed identity access to that key." ]
  before := lines
    [ "resource \"azurerm_storage_account\" \"data\" \x7b",
      "  name                     = \"data\"",
      "  account_tier             = \"Standard\"",
      "  account_replication_type = \"GRS\"",
      "\x7d" ]
  after := lines
    [ "resource \"azurerm_storage_account\" \"data\" \x7b",
      "  name                     = \"data\"",
      "  account_tier             = \"Standard\"",
      "  account_replication_type = \"GRS\"",
      "",
      "  customer_managed_key \x7b",
      "    key_vault_key_id          = azurerm_key_vault_key.data.id",
      "    user_assigned_identity_id = azurerm_user_assigned_identity.data.id",
      "  \x7d",
      "\x7d" ]

def networkRules : Explanation where
  title := "Storage Account Network Rules"
  description := lines
    [ "Requires storage accounts to deny network traffic by default and to allow only",
      "explicitly listed sources. `network_rules.default_action` must be `Deny` and at",
      "least one of `ip_rules` or `virtual_network_subnet_ids` must be non-empty." ]
  remediation := lines
    [ "Set `default_action = \"Deny\"` and list the address ranges or subnets that",
      "need access." ]
  before := lines
    [ "network_rules \x7b",
      "  default_action = \"Allow\"",
      "\x7d" ]
  after := lines
    [ "network_rules \x7b",
      "  default_action             = \"Deny\"",
      "  ip_rules                   = [\"203.0.113.0/24\"]",
      "  virtual_network_subnet_ids = [azurerm_subnet.app.id]",
      "\x7d" ]

def requiredTags : Explanation where
  title := "Required Project Tags"
  description := lines
    [ "Requires the `tags` map to carry the project ownership keys `deployed_via`,",
      "`owner`, `Team` and `Environment`. Only key presence is checked; values are not",
      "inspected." ]
  remediation := "Add every missing key to `tags`. Keys are case-sensitive."
  before := lines
    [ "tags = \x7b",
      "  owner = \"platform\"",
      "\x7d" ]
  after := lines
    [ "tags = \x7b",
      "  deployed_via = \"terraform\"",
      "  owner        = \"platform\"",
      "  Team         = \"infra\"",
      "  Environment  = \"prod\"",
      "\x7d" ]

def networkAcls : Explanation where
  title := "Key Vault Network ACLs"
  description := lines
    [ "Requires Key Vaults to deny network traffic by default while letting trusted",
      "Azure services through. `network_acls.default_action` must be exactly `Deny` and",
      "`bypass` must include the `AzureServices` token." ]
  remediation := lines
    [ "Add a `network_acls` block with `default_action = \"Deny\"` and",
      "`bypass = \"AzureServices\"`." ]
  before := lines
    [ "network_acls \x7b",
      "  default_action = \"Allow\"",
      "  bypass         = \"None\"",
      "\x7d" ]
  after := lines
    [ "network_acls \x7b",
      "  default_action = \"Deny\"",
      "  bypass         = \"AzureServices\"",
      "\x7d" ]

def accessPolicy : Explanation where
  title := "Key Vault Least-Privilege Access Policies"
  description := lines
    [ "Flags access policies granting wildcard permissions. Any entry of",
      "`key_permissions`, `secret_permissions` or `certificate_permissions` equal to",
      "`*` or `all` (case-insensitive) fails the policy. Granting nothing passes." ]
  remediation := "Replace wildcard grants with the specific operations the principal needs."
  before := "secret_permissions = [\"*\"]"
  after := "secret_permissions = [\"Get\", \"List\"]"

end Explanation

/-- The explanations of the catalog.  Two policies ask for the same tags. -/
def explanations : List (String × Explanation) :=
  [ ("CKV_AZURE_CUSTOM_1", .customerManagedKey),
    ("CKV_AZURE_CUSTOM_2", .networkRules),
    ("CKV_AZURE_CUSTOM_3", .requiredTags),
    ("CKV_AZURE_CUSTOM_4", .networkAcls),
    ("CKV_AZURE_CUSTOM_5", .accessPolicy),
    ("CKV_AZURE_CUSTOM_6", .requiredTags) ]

def explanation? (id : String) : Option Explanation :=
  (explanations.find? (·.1 = id)).map (·.2)

/-- The identifiers that settings and readers can name. -/
def knownIds : List String :=
  [ "CKV_AZURE_CUSTOM_1", "CKV_AZURE_CUSTOM_2", "CKV_AZURE_CUSTOM_3", "CKV_AZURE_CUSTOM_4",
    "CKV_AZURE_CUSTOM_5", "CKV_AZURE_CUSTOM_6" ]

/-! ### Writing -/

namespace Explanation

/-- The explanation for a terminal.  The line below the title has as many signs as the title has
bytes. -/
def write (e : Explanation) : String :=
  e.title ++ "\n" ++ .ofList (List.replicate e.title.utf8ByteSize '=') ++ "\n\n" ++
    e.description ++ "\n\nRemediation\n-----------\n" ++ e.remediation ++
    "\n\nExamples\n--------\n\nBefore (violation):\n```hcl\n" ++ e.before ++
    "\n```\n\nAfter (fixed):\n```hcl\n" ++ e.after ++ "\n```\n"

/-- The parts that must not be blank, by their names. -/
def parts (e : Explanation) : List (String × String) :=
  [ ("title", e.title), ("description", e.description), ("remediation", e.remediation),
    ("examples.before", e.before), ("examples.after", e.after) ]

end Explanation

/-- The answer for an identifier that is not among those that are explained. -/
def notExplained (identifier : String) (ids : List String) : String :=
  "Unknown policy id: " ++ identifier ++ "\n\nAvailable policy ids:\n" ++
    String.join (ids.map fun id => "  - " ++ id ++ "\n")

/-- What is missing from the explanations of the known identifiers. -/
def explanationGaps : List String :=
  knownIds.flatMap fun id =>
    match explanation? id with
    | none => ["Policy '" ++ id ++ "' has no explanation"]
    | some e =>
        (e.parts.filter fun part => Text.isBlankText part.2).map fun part =>
          "Policy '" ++ id ++ "' has empty " ++ part.1

end PolicyAudit
