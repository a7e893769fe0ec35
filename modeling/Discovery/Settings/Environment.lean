import Discovery.Settings.Assignments
import Discovery.Settings.Basic
/-!
Settings read from an environment and from a text of assignments.

* `Environment.lookup`: the value of a variable, the environment before the
  assignments and the first assignment before later ones;
* `Environment.settings`: the settings that come of it.
-/

namespace Discovery

/-- An environment, whose values are bytes, and a text of assignments. -/
structure Environment where
  values : List (String × ByteArray)
  assignments : String

namespace Environment

/-- The variables of the environment whose values are text; others count as
not set. -/
def texts (e : Environment) : List (String × String) :=
  e.values.filterMap fun (name, bytes) =>
    (String.fromUTF8? bytes).map fun text => (name, text)

/-- The value of a variable. -/
def lookup (e : Environment) (name : String) : Option String :=
  (e.texts ++ Assignments.read e.assignments).lookup name

/-- The settings of an environment. -/
def settings (e : Environment) : Except Fault Settings := (Settings.load e.lookup).2

end Environment

end Discovery
