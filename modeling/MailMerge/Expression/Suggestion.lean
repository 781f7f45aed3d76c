/-!
# `MailMerge.Expression.Suggestion`: names close to a misspelt one

The distance of two names is the least count of characters to insert, delete or replace that turns
one into the other. Suggested are at most three names within a small distance, nearest first.
-/

set_option autoImplicit false

namespace MailMerge

/-- Distances of `x :: xs` from `ys` and all its tails, given those of `xs`. -/
def extendDistances (x : Char) : List Char → List Nat → List Nat
  | y :: ys, d :: row =>
    let rest := extendDistances x ys row
    let replaced := row.headD 0 + if x = y then 0 else 1
    min replaced (min (d + 1) (rest.headD 0 + 1)) :: rest
  | _, row => row.map (· + 1)

/-- Distances of `xs` from `ys` and all its tails, longest first. -/
def tailDistances (xs ys : List Char) : List Nat :=
  xs.foldr (fun x row => extendDistances x ys row) (List.range (ys.length + 1)).reverse

/-- The least count of characters to insert, delete or replace between two texts. -/
def editDistance (a b : String) : Nat := (tailDistances a.toList b.toList).headD 0

/-- Names of more than three characters allow a distance of two, shorter ones of one. -/
def suggestionReach (name : String) : Nat := if name.length > 3 then 2 else 1

/-- The order of suggestions: by distance, then by name. -/
def suggestionLe (a b : Nat × String) : Bool :=
  a.1 < b.1 || (a.1 == b.1 && decide (a.2 ≤ b.2))

/-- At most three of the available names that are close to a name without being it. -/
def suggestions (name : String) (available : List String) : List String :=
  let others := (available.filter (· ≠ name)).map fun other => (editDistance name other, other)
  let close := others.filter (·.1 ≤ suggestionReach name)
  ((close.mergeSort suggestionLe).take 3).map (·.2)

end MailMerge
