import Showdown.Settings.Layers

/-!
# Refusals

What the service may refuse to do, and how it says so.
-/

namespace Showdown

/-- Why something was refused. -/
inductive Refusal where
  /-- The settings are not valid. -/
  | settings (fault : SettingsFault)
  /-- An observation of the video has a confidence that is none. -/
  | confidence (error : InvalidConfidence)
  /-- The table has been shut down. -/
  | tableClosed (tableId : TableId)

/-- Why something was refused, in words. -/
def Refusal.message : Refusal → String
  | settings fault => "Configuration error: " ++ (SettingsError.faulty fault).message
  | confidence error => "Rejected inferred result: " ++ error.message
  | tableClosed tableId => "Table " ++ tableId ++ " is no longer accepting results"

end Showdown
