/-
  Settings from the environment.

  A variable that is set wins over the file.  One that has to be read, the provider and the rate, is passed
  over when it cannot be.
-/
import DriveAdvisory.Settings.Basic

namespace DriveAdvisory.Settings

/-- The value of a variable, if it is set. -/
abbrev Environment := String → Option String

/-- The variables that are looked at. -/
def variableNames : List String :=
  ["ROADWISE_PROVIDER", "ROADWISE_MODEL", "ROADWISE_OLLAMA_URL", "ROADWISE_ANTHROPIC_API_KEY",
    "ROADWISE_OPENAI_API_KEY", "ROADWISE_FL511_API_KEY", "ROADWISE_RATE_HZ", "ROADWISE_CONTEXT_PATH",
    "ROADWISE_FRAME_PATH", "ROADWISE_OBSERVATION_DB", "HOME", "USERPROFILE"]

/-- The settings with those that the environment gives. -/
def withEnvironment (env : Environment) (s : Settings) : Settings :=
  { s with
    provider := ((env "ROADWISE_PROVIDER").bind fun v => (Provider.ofText v).toOption).getD s.provider
    model := (env "ROADWISE_MODEL").getD s.model
    localAddress := (env "ROADWISE_OLLAMA_URL").getD s.localAddress
    anthropicKey := ((env "ROADWISE_ANTHROPIC_API_KEY").map ApiKey.mk).getD s.anthropicKey
    openAIKey := ((env "ROADWISE_OPENAI_API_KEY").map ApiKey.mk).getD s.openAIKey
    trafficKey := ((env "ROADWISE_FL511_API_KEY").map ApiKey.mk).getD s.trafficKey
    rate := ((env "ROADWISE_RATE_HZ").bind readDouble?).getD s.rate
    contextPath := (env "ROADWISE_CONTEXT_PATH").getD s.contextPath
    framePath := (env "ROADWISE_FRAME_PATH").or s.framePath
    journalPath := (env "ROADWISE_OBSERVATION_DB").or s.journalPath }

/-- The user's directory: the first of the two variables that is set, and else the current one. -/
def homeOf (env : Environment) : String := ((env "HOME").or (env "USERPROFILE")).getD "."

end DriveAdvisory.Settings
