import Fffb.Foundation.Traffic
import Fffb.Plugin.Cycle
import Fffb.Plugin.OpenLoop
import Fffb.Plugin.Reachable

/-
How much a session sends.

An update makes two transactions and a pause makes one, and nothing else makes
any; so the frames and the pauses of a session bound what it sends, whatever
fails.
-/

namespace Fffb

open FloatArith

variable {F : Type}

namespace Callback

end Callback

namespace Plugin

/-- The transactions and the reports of so many updates and pauses. -/
def Sent (updates pauses : Nat) (first second : Line Report) : Prop :=
  Line.Sends (2 * updates + pauses) (5 * updates + 3 * pauses) first second

theorem Sent.refl (line : Line Report) : Sent 0 0 line line := Line.Sends.refl line

theorem Sent.trans {first second third : Line Report} {updates pauses more others : Nat}
    (earlier : Sent updates pauses first second) (later : Sent more others second third) :
    Sent (updates + more) (pauses + others) first third := by
  have both := Line.Sends.trans earlier later
  have transactions : 2 * updates + pauses + (2 * more + others) =
      2 * (updates + more) + (pauses + others) := by omega
  have reports : 5 * updates + 3 * pauses + (5 * more + 3 * others) =
      5 * (updates + more) + 3 * (pauses + others) := by omega
  rw [transactions, reports] at both
  exact both

variable [FloatArith F]

end Plugin

end Fffb
