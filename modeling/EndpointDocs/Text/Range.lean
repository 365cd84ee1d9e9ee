/-!
Membership in a set of characters given as ascending ranges of code points.
-/
namespace EndpointDocs.Text

/-- An ascending list of disjoint ranges of code points, each with its first and last member. -/
abbrev Ranges := List (Nat × Nat)

/-- Whether a code point lies in one of the ranges; the search ends at the first range above it. -/
def Ranges.holds : Ranges → Nat → Bool
  | [], _ => false
  | (first, last) :: rest, n =>
    if n < first then false else if n ≤ last then true else Ranges.holds rest n

end EndpointDocs.Text
