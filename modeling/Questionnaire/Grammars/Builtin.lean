import Questionnaire.Grammars
import Questionnaire.Pattern.Syntax
import Questionnaire.Web.Address

/-!
# The grammars of the program

The program reads patterns and addresses by itself. It knows what documents write. Some corners are left out, such as
rarely used properties of characters, the exact limit on the size of a pattern, and some mappings of letters in host
names. No result on validation, checking or sessions is about these grammars in particular: they are there to run with.
-/

namespace Questionnaire.Grammars

scoped instance builtin : Grammars where
  compile source :=
    match Pattern.ofText? source with
    | some p => .ok p.occursIn
    | none => .error ("unreadable pattern " ++ source)
  isAddress text := (Web.Address.ofText text).toOption.isSome

end Questionnaire.Grammars
