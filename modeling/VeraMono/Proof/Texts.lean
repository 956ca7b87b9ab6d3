import VeraMono.Model.Runner

/-!
# Texts put together

What `cat` keeps of the texts it puts together: their code points, whether they have an encoding,
and the numbers between colons.
-/

namespace VeraMono.Rezon

theorem isEmpty_iff {t : Text} : isEmpty t = true ↔ t.codePoints = [] := decide_eq_true_iff

end VeraMono.Rezon
