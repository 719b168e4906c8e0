/-!
# Time zones

The time zone of a declared temporal type is its identifier, such as
`UTC` or `America/Los_Angeles`. Two zones are the same when their
identifiers are: no table of zones is consulted.
-/

namespace SqlTyping

/-- **A time zone**, by its identifier. -/
structure TimeZone where
  /-- The identifier. -/
  id : String
deriving DecidableEq

namespace TimeZone

/-- **Zones sort by their identifiers**, code point by code point. -/
instance : Ord TimeZone := ⟨fun a b => compare a.id b.id⟩

end TimeZone

end SqlTyping
