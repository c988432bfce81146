import CallExchange.Override.Basic

/-!
# A shelf of overrides

The overrides that are known lie on a shelf in the order in which they were put there. A lookup
takes the first one that is active and covers the request, one for the campaign before one for the
whole workspace. Expired overrides may be cleared away.

## Main definitions

* `Shelf.insert`, `Shelf.purge` — put one more on the shelf, clear expired ones away
* `Shelf.find?` — the override in force for a request
-/

namespace CallExchange

/-- The overrides that are known, in the order of their insertion. -/
abbrev Shelf := List Override

namespace Shelf

/-- The shelf with one more override. -/
def insert (s : Shelf) (o : Override) : Shelf := s ++ [o]

/-- The overrides that apply to a request at a time. -/
def candidates (s : Shelf) (workspaceId : String) (campaignId : Option String) (now : Instant) :
    List Override :=
  s.filter fun o => o.IsActive now ∧ o.Covers workspaceId campaignId

/-- The override in force: the first candidate for the campaign, failing that the first for the
whole workspace. -/
def find? (s : Shelf) (workspaceId : String) (campaignId : Option String) (now : Instant) :
    Option Override :=
  let found := s.candidates workspaceId campaignId now
  (found.find? fun o => o.campaignId.isSome).or found.head?

/-- The number of overrides that have expired, and the shelf without them. -/
def purge (s : Shelf) (now : Instant) : Nat × Shelf :=
  let kept := s.filter fun o => o.IsActive now
  (s.length - kept.length, kept)

end Shelf

end CallExchange
