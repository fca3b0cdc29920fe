/-!
The variables of the environment.
-/
namespace ChatClient

/-- The values of variables, by name. -/
abbrev Environment := String → Option String

namespace Environment

/-- The environment with a variable, unless it has one of that name already. No variable can be given a
null character. -/
def provide? (name value : String) (env : Environment) : Option Environment :=
  if (env name).isSome then some env
  else if value.toList.contains '\x00' then none
  else some fun other => if other = name then some value else env other

end Environment

end ChatClient
