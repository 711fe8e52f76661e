import Headhunt.Lib.PyJson

/-! The settings the modelled functions read. -/
namespace Headhunt.Core

structure Settings where
  feishuVerificationToken : Option String := none
  feishuEncryptKey : Option String := none
  feishuBitableAppToken : Option String := none
  feishuBitableRequisitionTableId : Option String := none
  feishuBitableCandidateTableId : Option String := none
  feishuBitableTalentMapTableId : Option String := none
  feishuBitableReportTableId : Option String := none
  modelSecretEncryptionKey : Option String := none
  modelProviderAllowlist : String := "openai,deepseek"
deriving DecidableEq

/-- `_secret_value`: an empty secret is falsy. -/
def secretValue (secret : Option String) : Option String := secret.filter (· ≠ "")

end Headhunt.Core
