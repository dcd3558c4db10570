import ContentBlocking.Tracker

/-!
# Statistics of a page load

How many tracker hits a page had in each category, and which trackers they were.
-/

namespace ContentBlocking

/-- The hits of one page load. -/
structure PageStats where
  /-- The hits of a category, by its index. -/
  counts : List Nat
  /-- The distinct trackers, sorted by category and identifier. -/
  trackers : List Tracker
  deriving DecidableEq, Repr

namespace PageStats

/-- The statistics of a page without hits. -/
def empty : PageStats := ⟨Category.all.map fun _ => 0, []⟩

/-- Whether a tracker is listed before another. -/
def before (s t : Tracker) : Bool :=
  s.category.index < t.category.index || s.category == t.category && s.id < t.id

/-- A sorted list of distinct trackers with one more. -/
def insertTracker (t : Tracker) : List Tracker → List Tracker
  | [] => [t]
  | s :: ts =>
    if t = s then s :: ts else if before t s then t :: s :: ts else s :: insertTracker t ts

/-- The statistics with one more hit; a tracker that hits twice counts twice and is listed once. -/
def update (s : PageStats) (t : Tracker) : PageStats :=
  ⟨s.counts.modify t.category.index (· + 1), insertTracker t s.trackers⟩

/-- The hits of a category. -/
def count (s : PageStats) (c : Category) : Nat := s.counts.getD c.index 0

/-- The hits of all categories. -/
def total (s : PageStats) : Nat := s.counts.foldr (· + ·) 0

/-- The categories with hits and their numbers, in the order of the categories. -/
def byCategory (s : PageStats) : List (Category × Nat) :=
  (Category.all.map fun c => (c, s.count c)).filter fun e => 0 < e.2

end PageStats

end ContentBlocking
