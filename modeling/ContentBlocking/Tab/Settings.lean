import ContentBlocking.Blocklist
import ContentBlocking.Json.Reader
import ContentBlocking.Json.Writer

/-!
# The settings of a tab

What a user can switch on and off for a tab.
-/

namespace ContentBlocking

/-- The switches of a tab. -/
structure Settings where
  adBlocking : Bool
  antiTracking : Bool
  popupBlocking : Bool
  /-- The page may report trackers. -/
  privacyDashboard : Bool
  deriving DecidableEq, Repr

namespace Settings

open Json (Value Reader Slot)

/-- The default settings. -/
def standard : Settings := ⟨true, true, false, true⟩

/-- Ad blocking or anti-tracking is on. -/
def isEnabled (s : Settings) : Bool := s.adBlocking || s.antiTracking

/-- The rule lists to install. -/
def enabledLists (s : Settings) : List Blocklist :=
  (if s.adBlocking then AllowList.Kind.ads.dependents else []) ++
    (if s.antiTracking then AllowList.Kind.tracking.dependents else []) ++
    if s.popupBlocking then AllowList.Kind.popups.dependents else []

/-- The JSON form of settings, its members in this order. -/
def toJson (s : Settings) : Value :=
  .object [("ad_blocking", .bool s.adBlocking), ("anti_tracking", .bool s.antiTracking),
    ("popup_blocking", .bool s.popupBlocking), ("privacy_dashboard", .bool s.privacyDashboard)]

/-- The places of settings while they are read. -/
structure Draft where
  adBlocking : Option Bool
  antiTracking : Option Bool
  popupBlocking : Option Bool
  privacyDashboard : Option Bool

/-- The members of settings. -/
def slots : List (Slot Draft) :=
  [.of "ad_blocking" Draft.adBlocking (fun d v => { d with adBlocking := some v }) Reader.bool,
    .of "anti_tracking" Draft.antiTracking (fun d v => { d with antiTracking := some v })
      Reader.bool,
    .of "popup_blocking" Draft.popupBlocking (fun d v => { d with popupBlocking := some v })
      Reader.bool,
    .of "privacy_dashboard" Draft.privacyDashboard
      (fun d v => { d with privacyDashboard := some v }) Reader.bool]

/-- Settings in JSON; a missing one takes its default. -/
def reader : Reader Settings := fun node => do
  let d ← Reader.fields slots ⟨none, none, none, none⟩ node
  return {
    adBlocking := d.adBlocking.getD standard.adBlocking
    antiTracking := d.antiTracking.getD standard.antiTracking
    popupBlocking := d.popupBlocking.getD standard.popupBlocking
    privacyDashboard := d.privacyDashboard.getD standard.privacyDashboard }

end Settings

end ContentBlocking
