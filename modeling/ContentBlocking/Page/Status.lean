/-!
# The status of a tab

What the blocker shows for the current page of a tab.
-/

namespace ContentBlocking

/-- What the blocker does on the current page. -/
inductive Status
  | disabled
  | noBlockedUrls
  | adBlockAllowListed
  | antiTrackingAllowListed
  | allowListed
  | blocking
  deriving DecidableEq, Repr

namespace Status

/-- Every status. -/
def all : List Status :=
  [disabled, noBlockedUrls, adBlockAllowListed, antiTrackingAllowListed, allowListed, blocking]

/-- The name of a status in JSON. -/
def name : Status → String
  | disabled => "Disabled"
  | noBlockedUrls => "NoBlockedURLs"
  | adBlockAllowListed => "AdBlockAllowListed"
  | antiTrackingAllowListed => "AntiTrackingAllowListed"
  | allowListed => "AllowListed"
  | blocking => "Blocking"

/-- The status with this name. -/
def ofName? (name : String) : Option Status :=
  all.find? fun s => s.name == name

/-- What the status of a tab depends on. -/
structure Inputs where
  /-- Ad blocking or anti-tracking is on. -/
  enabled : Bool
  /-- The tab shows a page. -/
  hasUrl : Bool
  adAllowListed : Bool
  trackingAllowListed : Bool
  /-- The tracker hits of the page. -/
  total : Nat
  deriving DecidableEq, Repr

/-- The status of a tab; of the two allow-lists the one for ads is named first. -/
def ofInputs (i : Inputs) : Status :=
  if !i.enabled then disabled
  else if !i.hasUrl then noBlockedUrls
  else if i.total = 0 then
    if i.adAllowListed && i.trackingAllowListed then allowListed else noBlockedUrls
  else if i.adAllowListed then adBlockAllowListed
  else if i.trackingAllowListed then antiTrackingAllowListed
  else blocking

end Status

end ContentBlocking
