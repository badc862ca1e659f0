import Mathlib.Init

/-!
# How a computation ends

A computation that may fail is described by what holds of its result and by
what holds of its errors.  The rules follow the way computations are put
together, so that a proof goes through a `do` block from its first step on.
-/

namespace DessMonitor
namespace Outcome

universe u v

variable {Error : Type u} {Value Result : Type v}

/-- `outcome` is a result with `post`, or an error with `fails`. -/
def Ends (fails : Error → Prop) (post : Value → Prop) :
    Except Error Value → Prop
  | .ok value => post value
  | .error error => fails error

section Rules

variable {fails weaker : Error → Prop} {middle post : Value → Prop}
  {ends : Result → Prop} {outcome : Except Error Value}

theorem Ends.bind {next : Value → Except Error Result}
    (hfirst : Ends fails middle outcome)
    (hnext : ∀ value, middle value → Ends fails ends (next value)) :
    Ends fails ends (outcome >>= next) := by
  cases outcome with
  | error error => exact hfirst
  | ok value => exact hnext value hfirst

theorem Ends.map {change : Value → Result}
    (hfirst : Ends fails middle outcome)
    (hchange : ∀ value, middle value → ends (change value)) :
    Ends fails ends (outcome.map change) := by
  cases outcome with
  | error error => exact hfirst
  | ok value => exact hchange value hfirst

theorem Ends.mono (hends : Ends fails middle outcome)
    (hfails : ∀ error, fails error → weaker error)
    (hpost : ∀ value, middle value → post value) :
    Ends weaker post outcome := by
  cases outcome with
  | error error => exact hfails error hends
  | ok value => exact hpost value hends

theorem Ends.of_eq_ok {value : Value} (hends : Ends fails post outcome)
    (hok : outcome = .ok value) : post value := by
  rw [hok] at hends
  exact hends

theorem Ends.of_eq_error {error : Error} (hends : Ends fails post outcome)
    (herror : outcome = .error error) : fails error := by
  rw [herror] at hends
  exact hends

end Rules

end Outcome
end DessMonitor
