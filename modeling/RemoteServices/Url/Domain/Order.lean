import RemoteServices.Text.Direction

/-!
# The order of labels on the screen

Once a label is written from the right to the left, the labels of a name could seem to change
places.  They do not if every label runs one way from its first letter to its end.

All of this restates the library `url`.
-/
namespace RemoteServices.Url.Domain

open Text (Direction)

/-- The characters start with a letter, run its way, and do not end with a sign; marks at the end do
not count. -/
def runsOneWay (ds : List Direction) : Bool :=
  match ds, (ds.filter (· ≠ .mark)).getLast? with
  | .rightward :: _, some final =>
    ! ds.contains .leftward && ! ds.contains .arabicDigit &&
      (final == .rightward || final == .europeanDigit)
  | .leftward :: _, some final =>
    ! ds.contains .rightward && ! (ds.contains .arabicDigit && ds.contains .europeanDigit) &&
      final != .neutral
  | [], _ => true
  | _, _ => false

def turns (d : Direction) : Bool := d == .leftward || d == .arabicDigit

def keepPlaces (labels : List (List Char)) : Bool :=
  let directions := labels.map (·.map Direction.ofChar)
  ! directions.any (·.any turns) || directions.all runsOneWay

end RemoteServices.Url.Domain
