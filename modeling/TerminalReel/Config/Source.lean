import TerminalReel.Config.Reader
import TerminalReel.Composer.Basic
/-!
# TerminalReel.Config.Source

What a **configuration can be had from**: one that is there already, a document,
or a composer.
-/

namespace TerminalReel

/-- Something that stands for a configuration. -/
inductive ConfigSource
  /-- A configuration. -/
  | ready (config : Config)
  /-- A document. -/
  | document (value : Json)
  /-- A configuration in the making. -/
  | composer (draft : Composer)

namespace ConfigSource

/-- The configuration itself, where it is there already. -/
def ready? : ConfigSource → Option Config
  | .ready config => some config
  | _ => none

/-- The configuration that a source stands for. A document that is no object
stands for none. -/
def resolve (host : Host) : ConfigSource → Attempt ConfigError Config
  | .ready config => pure config
  | .document (.object fields) => Config.ofJson (.object fields)
  | .document value => throw (.document (.unsupportedValue value.kind))
  | .composer draft => draft.build host

end ConfigSource

end TerminalReel
