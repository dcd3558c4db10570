/-!
# Tracker categories

The fourteen categories a tracker can fall into, with the raw names that databases use for them.
-/

namespace ContentBlocking

/-- What a tracker does on the pages that embed it. -/
inductive Category
  | advertising
  | analytics
  | content
  | social
  | essential
  | misc
  | hosting
  | pornvertising
  | audioVideoPlayer
  | extensions
  | customerInteraction
  | comments
  | cdn
  | unknown
  deriving DecidableEq, Repr, Inhabited

namespace Category

/-- Every category, in the order of its index. -/
def all : List Category :=
  [advertising, analytics, content, social, essential, misc, hosting, pornvertising,
    audioVideoPlayer, extensions, customerInteraction, comments, cdn, unknown]

/-- The name of a category in tracker databases and in JSON. -/
def raw : Category → String
  | advertising => "advertising"
  | analytics => "site_analytics"
  | content => "content"
  | social => "social_media"
  | essential => "essential"
  | misc => "misc"
  | hosting => "hosting"
  | pornvertising => "pornvertising"
  | audioVideoPlayer => "audio_video_player"
  | extensions => "extensions"
  | customerInteraction => "customer_interaction"
  | comments => "comments"
  | cdn => "cdn"
  | unknown => "unknown"

/-- The place of a category in `all`. -/
def index (c : Category) : Nat :=
  all.idxOf c

/-- The category with this raw name. -/
def ofRaw? (name : String) : Option Category :=
  all.find? fun c => c.raw == name

/-- The category with this raw name, and `unknown` for a name that no category has. -/
def ofRaw (name : String) : Category :=
  (ofRaw? name).getD unknown

theorem mem_all (c : Category) : c ∈ all := by
  cases c <;> decide

theorem raw_injective {c d : Category} (h : c.raw = d.raw) : c = d := by
  revert h
  cases c <;> cases d <;> decide

theorem ofRaw?_eq_some_iff {name : String} {c : Category} :
    ofRaw? name = some c ↔ c.raw = name := by
  constructor
  · intro h
    simpa using List.find?_some h
  · rintro rfl
    cases c <;> decide

end Category

end ContentBlocking
