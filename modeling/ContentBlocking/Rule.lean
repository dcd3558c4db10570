import ContentBlocking.Json.Reader
import ContentBlocking.Json.Writer

/-!
# Content rules

A content rule has a `Trigger`, which says when it applies, and an `Action`, which says what it
does.
-/

namespace ContentBlocking

/-- What a rule does. -/
inductive ActionKind
  | block
  | blockCookies
  | cssDisplayNone
  | ignorePreviousRules
  | makeHttps
  deriving DecidableEq, Repr

namespace ActionKind

/-- Every kind of action. -/
def all : List ActionKind :=
  [block, blockCookies, cssDisplayNone, ignorePreviousRules, makeHttps]

/-- The name of a kind in JSON. -/
def name : ActionKind → String
  | block => "block"
  | blockCookies => "block-cookies"
  | cssDisplayNone => "css-display-none"
  | ignorePreviousRules => "ignore-previous-rules"
  | makeHttps => "make-https"

/-- The kind with this name. -/
def ofName? (name : String) : Option ActionKind :=
  all.find? fun k => k.name == name

end ActionKind

/-- What a rule does, and to which elements. -/
structure Action where
  kind : ActionKind
  selector : Option String
  deriving DecidableEq, Repr

/-- When a rule applies. -/
structure Trigger where
  /-- A regular expression for the addresses of resources. -/
  urlFilter : String
  urlFilterIsCaseSensitive : Option Bool
  ifDomain : Option (List String)
  unlessDomain : Option (List String)
  resourceType : Option (List String)
  loadType : Option (List String)
  ifTopUrl : Option (List String)
  unlessTopUrl : Option (List String)
  deriving DecidableEq, Repr

/-- A content rule. -/
structure Rule where
  trigger : Trigger
  action : Action
  deriving DecidableEq, Repr

open Json (Value Reader Slot)

/-! ### Writing -/

/-- The member of an optional value, if there is one. -/
def optionalMember {α : Type} (name : String) (toJson : α → Value) (a : Option α) :
    List (String × Value) :=
  match a with
  | none => []
  | some a => [(name, toJson a)]

/-- The JSON form of an action. -/
def Action.toJson (a : Action) : Value :=
  .object (("type", .string a.kind.name) :: optionalMember "selector" .string a.selector)

/-- The JSON form of a trigger, its members in this order and absent ones left out. -/
def Trigger.toJson (t : Trigger) : Value :=
  .object (("url-filter", .string t.urlFilter) ::
    (optionalMember "url-filter-is-case-sensitive" .bool t.urlFilterIsCaseSensitive ++
      (optionalMember "if-domain" .strings t.ifDomain ++
        (optionalMember "unless-domain" .strings t.unlessDomain ++
          (optionalMember "resource-type" .strings t.resourceType ++
            (optionalMember "load-type" .strings t.loadType ++
              (optionalMember "if-top-url" .strings t.ifTopUrl ++
                optionalMember "unless-top-url" .strings t.unlessTopUrl)))))))

/-- The JSON form of a rule. -/
def Rule.toJson (r : Rule) : Value :=
  .object [("trigger", r.trigger.toJson), ("action", r.action.toJson)]

/-! ### Reading -/

/-- The places of an action while it is read. -/
structure Action.Draft where
  kind : Option ActionKind
  selector : Option (Option String)

/-- The members of an action. -/
def Action.slots : List (Slot Action.Draft) :=
  [.of "type" Draft.kind (fun d k => { d with kind := some k }) (Reader.variant ActionKind.ofName?),
    .of "selector" Draft.selector (fun d s => { d with selector := some s })
      (Reader.optional Reader.string)]

/-- An action in JSON. -/
def Action.reader : Reader Action := fun node => do
  let d ← Reader.fields slots ⟨none, none⟩ node
  return { kind := ← Json.required d.kind, selector := d.selector.join }

/-- The places of a trigger while it is read. -/
structure Trigger.Draft where
  urlFilter : Option String
  urlFilterIsCaseSensitive : Option (Option Bool)
  ifDomain : Option (Option (List String))
  unlessDomain : Option (Option (List String))
  resourceType : Option (Option (List String))
  loadType : Option (Option (List String))
  ifTopUrl : Option (Option (List String))
  unlessTopUrl : Option (Option (List String))

/-- An optional list of texts in JSON. -/
def optionalStrings : Reader (Option (List String)) := Reader.optional (Reader.list Reader.string)

/-- The members of a trigger. -/
def Trigger.slots : List (Slot Trigger.Draft) :=
  [.of "url-filter" Draft.urlFilter (fun d v => { d with urlFilter := some v }) Reader.string,
    .of "url-filter-is-case-sensitive" Draft.urlFilterIsCaseSensitive
      (fun d v => { d with urlFilterIsCaseSensitive := some v }) (Reader.optional Reader.bool),
    .of "if-domain" Draft.ifDomain (fun d v => { d with ifDomain := some v }) optionalStrings,
    .of "unless-domain" Draft.unlessDomain (fun d v => { d with unlessDomain := some v })
      optionalStrings,
    .of "resource-type" Draft.resourceType (fun d v => { d with resourceType := some v })
      optionalStrings,
    .of "load-type" Draft.loadType (fun d v => { d with loadType := some v }) optionalStrings,
    .of "if-top-url" Draft.ifTopUrl (fun d v => { d with ifTopUrl := some v }) optionalStrings,
    .of "unless-top-url" Draft.unlessTopUrl (fun d v => { d with unlessTopUrl := some v })
      optionalStrings]

/-- A trigger in JSON. -/
def Trigger.reader : Reader Trigger := fun node => do
  let d ← Reader.fields slots ⟨none, none, none, none, none, none, none, none⟩ node
  return {
    urlFilter := ← Json.required d.urlFilter
    urlFilterIsCaseSensitive := d.urlFilterIsCaseSensitive.join
    ifDomain := d.ifDomain.join
    unlessDomain := d.unlessDomain.join
    resourceType := d.resourceType.join
    loadType := d.loadType.join
    ifTopUrl := d.ifTopUrl.join
    unlessTopUrl := d.unlessTopUrl.join }

/-- The places of a rule while it is read. -/
structure Rule.Draft where
  trigger : Option Trigger
  action : Option Action

/-- The members of a rule. -/
def Rule.slots : List (Slot Rule.Draft) :=
  [.of "trigger" Draft.trigger (fun d t => { d with trigger := some t }) Trigger.reader,
    .of "action" Draft.action (fun d a => { d with action := some a }) Action.reader]

/-- A rule in JSON. -/
def Rule.reader : Reader Rule := fun node => do
  let d ← Reader.fields slots ⟨none, none⟩ node
  return { trigger := ← Json.required d.trigger, action := ← Json.required d.action }

end ContentBlocking
