/-
Module: PolicyAudit.Policy.Catalog
Purpose: The built-in policies for storage accounts and key vaults.
Imports: PolicyAudit.Policy.Registry, PolicyAudit.Rule.Pattern
Trusted boundary: none
Main exports: CatalogEntry, catalogEntries, catalog, catalogIds, catalogUnder
-/
import PolicyAudit.Policy.Registry
import PolicyAudit.Rule.Pattern

namespace PolicyAudit

/-- A policy whose rule is one of the reusable ones. -/
structure CatalogEntry where
  id : String
  name : String
  category : Category
  severity : Severity
  targets : List String
  pattern : Pattern

def CatalogEntry.policy (entry : CatalogEntry) : Policy where
  id := entry.id
  name := entry.name
  category := entry.category
  severity := entry.severity
  targets := entry.targets
  rule := entry.pattern.rule

/-- The tags that name a project's owner. -/
def projectTags : Pattern :=
  .requiredKeys ⟨"tags", ["deployed_via", "owner", "Team", "Environment"]⟩

def catalogEntries : List CatalogEntry :=
  [ { id := "CKV_AZURE_CUSTOM_1"
      name := "Ensure Storage Account uses customer-managed keys for encryption"
      category := .encryption
      severity := .high
      targets := ["azurerm_storage_account"]
      pattern := .requiredField ⟨"customer_managed_key", "key_vault_key_id"⟩ },
    { id := "CKV_AZURE_CUSTOM_2"
      name := "Ensure Storage Account has restrictive network access rules configured"
      category := .networking
      severity := .medium
      targets := ["azurerm_storage_account"]
      pattern := .restrictionGate
        { block := "network_rules"
          discriminator := "default_action"
          required := "Deny"
          restrictions := ["ip_rules", "virtual_network_subnet_ids"] } },
    { id := "CKV_AZURE_CUSTOM_3"
      name := "Ensure Storage Account has required project tags"
      category := .generalSecurity
      severity := .low
      targets := ["azurerm_storage_account"]
      pattern := projectTags },
    { id := "CKV_AZURE_CUSTOM_4"
      name := "Ensure Key Vault has restrictive network ACLs configured"
      category := .networking
      severity := .high
      targets := ["azurerm_key_vault"]
      pattern := .exceptionGate
        { block := "network_acls"
          discriminator := "default_action"
          required := "Deny"
          exceptionField := "bypass"
          token := "AzureServices" } },
    { id := "CKV_AZURE_CUSTOM_5"
      name := "Ensure Key Vault access policies follow least privilege principle"
      category := .iam
      severity := .medium
      targets := ["azurerm_key_vault_access_policy"]
      pattern := .grantScan
        ⟨["key_permissions", "secret_permissions", "certificate_permissions"], ["*", "all"]⟩ },
    { id := "CKV_AZURE_CUSTOM_6"
      name := "Ensure Key Vault has required project tags"
      category := .generalSecurity
      severity := .low
      targets := ["azurerm_key_vault"]
      pattern := projectTags } ]

def catalog : List Policy :=
  catalogEntries.map (·.policy)

def catalogIds : List String :=
  catalogEntries.map (·.id)

/-- The policies of the catalog that are active under the settings. -/
def catalogUnder (settings : RunSettings) : Except PolicyDefect PolicySet :=
  ((Registry.empty.registerAll catalog).configure settings).build

end PolicyAudit
