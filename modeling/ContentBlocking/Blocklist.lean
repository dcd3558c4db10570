import ContentBlocking.AllowList.Kind

/-!
# The five bundled rule lists

A rule list is bundled under its `filename` and depends on the allow-list of its `kind`.
-/

namespace ContentBlocking

/-- One of the rule lists that ship with the blocker. -/
inductive Blocklist
  | advertisingNetwork
  | advertisingCosmetic
  | trackingNetwork
  | popupsCosmetic
  | popupsNetwork
  deriving DecidableEq, Repr

namespace Blocklist

/-- Every list, in the order of reports. -/
def all : List Blocklist :=
  [advertisingNetwork, advertisingCosmetic, trackingNetwork, popupsCosmetic, popupsNetwork]

/-- The resource and the compiled list are both stored under this name. -/
def filename : Blocklist → String
  | advertisingNetwork => "safari-ads-network"
  | advertisingCosmetic => "safari-ads-cosmetic"
  | trackingNetwork => "safari-tracking-network"
  | popupsCosmetic => "safari-popups-cosmetic"
  | popupsNetwork => "safari-popups-network"

/-- The name of a list in JSON. -/
def label : Blocklist → String
  | advertisingNetwork => "AdvertisingNetwork"
  | advertisingCosmetic => "AdvertisingCosmetic"
  | trackingNetwork => "TrackingNetwork"
  | popupsCosmetic => "PopupsCosmetic"
  | popupsNetwork => "PopupsNetwork"

/-- The list with this file name. -/
def ofFilename? (name : String) : Option Blocklist :=
  all.find? fun l => l.filename == name

/-- The allow-list whose hosts are exempt from a list. -/
def kind : Blocklist → AllowList.Kind
  | advertisingNetwork | advertisingCosmetic => .ads
  | trackingNetwork => .tracking
  | popupsCosmetic | popupsNetwork => .popups

/-- A cosmetic list hides page elements and must never block a top-level document. -/
def isCosmetic : Blocklist → Bool
  | advertisingCosmetic | popupsCosmetic => true
  | _ => false

theorem mem_all (l : Blocklist) : l ∈ all := by
  cases l <;> decide

theorem filename_injective {l m : Blocklist} (h : l.filename = m.filename) : l = m := by
  revert h
  cases l <;> cases m <;> decide

theorem ofFilename?_eq_some_iff {name : String} {l : Blocklist} :
    ofFilename? name = some l ↔ l.filename = name := by
  constructor
  · intro h
    simpa using List.find?_some h
  · rintro rfl
    cases l <;> decide

end Blocklist

/-- The lists to compile again when the allow-list of a kind changes. -/
def AllowList.Kind.dependents : AllowList.Kind → List Blocklist
  | .ads => [.advertisingNetwork, .advertisingCosmetic]
  | .tracking => [.trackingNetwork]
  | .popups => [.popupsCosmetic, .popupsNetwork]

theorem AllowList.Kind.mem_dependents {k : AllowList.Kind} {l : Blocklist} :
    l ∈ k.dependents ↔ l.kind = k := by
  cases k <;> cases l <;> decide

end ContentBlocking
