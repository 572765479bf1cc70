import MachineInt.Numeral.Marked

/-!
# Settings

Integers among named texts, such as the variables of an environment. A name that is missing and a text that is no
numeral both give way to the default.
-/

namespace MachineInt

/-- Named texts; a name may be listed without a text. -/
abbrev Settings := List (String × Option String)

def Settings.text? (settings : Settings) (name : String) : Option String := (settings.lookup name).join

/-- The setting of a name in the source given, or in the environment when none is. -/
def integerSetting (name : Option String) (fallback : Option Int) (source : Option Settings)
    (environment : Settings) : Option Int :=
  match name with
  | none => fallback
  | some name =>
    if name.isEmpty then fallback
    else
      match (source.getD environment).text? name with
      | none => fallback
      | some text =>
        match readMarked (some text) with
        | .ok value => some value
        | .error _ => fallback

end MachineInt
