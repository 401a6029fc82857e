import MetricQuery.Json

/-!
# Where settings are given

A setting is given as an argument under its own name, or as a variable of the environment under its
name with `SEMANTIC_COMPILER_` before it; the argument wins. Letters of either case name the same
setting. Of several such arguments the first counts, of several variables the last.

Four arguments that are no settings change how names and variables are read (`Lookup.ofArguments`).
-/

namespace MetricQuery

/-- The variables of an environment, in order. -/
abbrev Environment := List (String × String)

/-- How settings are looked up. -/
structure Lookup where
  /-- What stands before a setting's name in the name of its variable. -/
  start : String := "SEMANTIC_COMPILER_"
  /-- The case of letters tells names apart. -/
  caseCounts : Bool := false
  /-- A variable without text counts as not given. -/
  skipsEmpty : Bool := false
  /-- The text of a variable that stands for `null`. -/
  nullText : Option String := none
  deriving DecidableEq, Repr

namespace Lookup

/-- Only `null`, `false`, zero and what holds nothing leave a choice switched off. -/
def isOn : Json → Bool
  | .null | .bool false | .int 0 | .str "" | .arr [] | .obj [] => false
  | .float x => x != 0
  | _ => true

/-- The lookup that the arguments ask for, under names that no setting has. -/
def ofArguments (arguments : Members) : Lookup :=
  let standard : Lookup := {}
  { start := match arguments.lookup "_env_prefix" with
      | some (.str s) => s
      | _ => standard.start
    caseCounts := (arguments.lookup "_case_sensitive").any isOn
    skipsEmpty := (arguments.lookup "_env_ignore_empty").any isOn
    nullText := match arguments.lookup "_env_parse_none_str" with
      | some (.str s) => some s
      | _ => standard.nullText }

/-- What counts of a name. -/
def key (l : Lookup) (name : String) : List Char :=
  if l.caseCounts then name.toList else name.toList.map Char.toLower

/-- The value that the environment gives for a setting. -/
def fromEnvironment? (l : Lookup) (env : Environment) (name : String) : Option Json :=
  ((env.filter fun v => !(l.skipsEmpty && v.2.isEmpty)).reverse.find? fun v =>
    l.key v.1 == l.key (l.start ++ name)).map fun v =>
      if l.nullText = some v.2 then .null else .str v.2

/-- The value that the arguments give for a setting. -/
def fromArguments? (l : Lookup) (arguments : Members) (name : String) : Option Json :=
  (arguments.find? fun m => l.key m.1 == l.key name).map (·.2)

/-- The value given for a setting. -/
def value? (l : Lookup) (arguments : Members) (env : Environment) (name : String) :
    Option Json :=
  (l.fromArguments? arguments name).or (l.fromEnvironment? env name)

end Lookup

end MetricQuery
