import MetricQuery.Settings.Basic

/-!
# The settings cache

Settings are built from the environment when they are first asked for and kept until the cache is
cleared. A failure is not kept.
-/

namespace MetricQuery

/-- The settings kept, if any. -/
abbrev SettingsCache := Option Settings

namespace SettingsCache

/-- One call for the settings, after clearing the cache if `clear` says so. -/
structure Call where
  clear : Bool := false
  env : Environment := []

/-- The settings kept, or else those of the environment, which are kept from then on. -/
def fetch (cache : SettingsCache) (env : Environment) : Checked Settings × SettingsCache :=
  match cache with
  | some s => (.accepted s, some s)
  | none =>
    match Settings.read [] env with
    | .accepted s => (.accepted s, some s)
    | .rejected issues => (.rejected issues, none)

def step (cache : SettingsCache) (s : Call) : Checked Settings × SettingsCache :=
  fetch (if s.clear then none else cache) s.env

/-- The answers to a sequence of calls. -/
def run (cache : SettingsCache) : List Call → List (Checked Settings)
  | [] => []
  | s :: rest => (step cache s).1 :: run (step cache s).2 rest

end SettingsCache

end MetricQuery
