import ContentBlocking.Category
import ContentBlocking.Json.Reader
import ContentBlocking.Json.Writer

/-!
# Trackers

A tracker is a company or product that watches visitors across sites, with its category.
-/

namespace ContentBlocking

/-- A known tracker. -/
structure Tracker where
  category : Category
  id : String
  deriving DecidableEq, Repr

namespace Tracker

/-- The JSON form of a tracker, its members in this order. -/
def toJson (t : Tracker) : Json.Value :=
  .object [("category", .string t.category.raw), ("id", .string t.id)]

/-- The places of a tracker while it is read. -/
structure Draft where
  category : Option Category
  id : Option String

/-- The members of a tracker. -/
def slots : List (Json.Slot Draft) :=
  [.of "category" Draft.category (fun d c => { d with category := some c })
      (Json.Reader.variant Category.ofRaw?),
    .of "id" Draft.id (fun d i => { d with id := some i }) Json.Reader.string]

/-- A tracker in JSON. -/
def reader : Json.Reader Tracker := fun node => do
  let draft ← Json.Reader.fields slots ⟨none, none⟩ node
  return { category := ← Json.required draft.category, id := ← Json.required draft.id }

end Tracker

end ContentBlocking
