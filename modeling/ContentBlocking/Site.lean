import ContentBlocking.Site.Lru
import ContentBlocking.Site.SuffixList
import ContentBlocking.Text.Measure

/-!
# Sites

The site of a host is the domain that was registered for it: its public suffix and one label more.
Without a public suffix list a few common suffixes of two labels are known.  A `Site.Resolver`
remembers the sites of the hosts it was asked for.
-/

namespace ContentBlocking.Site

/-- The suffixes of two labels that are known without a list. -/
def commonSuffixes : List String :=
  ["co.uk", "co.jp", "co.nz", "co.za", "co.in", "co.kr",
    "com.au", "com.br", "com.cn", "com.mx", "com.tw", "com.hk",
    "net.au", "net.nz",
    "org.uk", "org.au",
    "gov.uk", "gov.au",
    "ac.uk", "ac.jp",
    "ne.jp", "or.jp"]

/-- The last two labels, and one label more if they are a common suffix. -/
def builtin (host : List Char) : List Char :=
  let labels := Text.splitOn '.' host
  if labels.length ≤ 2 then host else
  let lastTwo := Text.joinWith '.' (labels.drop (labels.length - 2))
  if String.ofList lastTwo ∈ commonSuffixes then
    Text.joinWith '.' (labels.drop (labels.length - 3))
  else lastTwo

/-- A host in small letters and without dots at its end. -/
def normalize (host : String) : List Char :=
  Text.dropRightWhile (· == '.') (host.toList.map Char.toLower)

/-- The site of a host in normal form. -/
def ofNormal (list : Option SuffixList) (host : List Char) : List Char :=
  match list with
  | some list => list.registrable host
  | none => builtin host

/-- The site of a host, by a public suffix list if there is one. -/
def ofHost (list : Option SuffixList) (host : String) : String :=
  String.ofList (ofNormal list (normalize host))

/-- A public suffix list that can be loaded, with the sites that were asked for last. -/
structure Resolver where
  list : Option SuffixList
  cache : Lru

namespace Resolver

/-- The number of sites that are remembered. -/
def capacity : Nat := 4096

/-- The resolver that knows no list. -/
def initial : Resolver := ⟨none, .empty capacity⟩

/-- The resolver after the text of a list was read; sites found without it are forgotten. -/
def load (text : String) : Except SuffixError Resolver := do
  return ⟨some (← SuffixList.ofText text), .empty capacity⟩

/-- The site of a host, which is remembered. -/
def site (r : Resolver) (host : String) : String × Resolver :=
  let host := normalize host
  let key := String.ofList host
  match r.cache.peek key with
  | some site => (site, r)
  | none =>
    let site := String.ofList (ofNormal r.list host)
    (site, { r with cache := r.cache.insert key site })

/-- Whether two hosts belong to one site. -/
def sameSite (r : Resolver) (a b : String) : Bool × Resolver :=
  let (siteA, r) := r.site a
  let (siteB, r) := r.site b
  (siteA == siteB, r)

end Resolver

end ContentBlocking.Site
