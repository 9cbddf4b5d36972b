/-!
# The environment

The variables under which a program runs, by name.
-/

namespace WorkflowLab.Configuration

/-- The variables of the environment. -/
abbrev Environment := List (String × String)

namespace Environment

/-- The value of a variable. -/
def get? (env : Environment) (name : String) : Option String := List.lookup name env

/-- The environment with a variable set. -/
def set (env : Environment) (name value : String) : Environment := (name, value) :: env.filter (·.1 != name)

end Environment

end WorkflowLab.Configuration
