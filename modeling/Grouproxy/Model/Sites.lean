import Grouproxy.Library.Handlers
import Grouproxy.Model.BlacklistHandlers

/-! # Sites

The endpoints that rename a site, shut it down and update its routing policy. The first two save
the whole document that they have read; the third is one update under the revision it expects.
-/

namespace Grouproxy.Backend

open Ipaddress Encoding Programs

/-- The operations of the other handlers keep their names. -/
inductive SiteLabel where
  | other
  | backend (label : Label)
  | find (siteId : String)
  | save (site : Site)
  | updateRouting (siteId : String) (expectedRevision : Nat) (policy : Json)

abbrev SiteHandler (α : Type) := Prog SiteLabel Store Failure α

/-- `Site.get` -/
def findSite (siteId : String) : SiteHandler (Option Site) :=
  Prog.read .operation (.find siteId) fun s => s.site? siteId

def Store.saveSite (s : Store) (site : Site) : Store :=
  { s with sites := s.sites.map fun other => if other.id = site.id then site else other }

/-- `site.save()` -/
def saveSite (site : Site) : SiteHandler Unit :=
  Prog.write .operation (.save site) fun s => s.saveSite site

def appendSiteAudit : SiteHandler Unit := Prog.write .operation .other id

/-- `" ".join(text.split())` -/
def joinWords (text : String) : String :=
  String.ofList ([' '].intercalate
    ((text.toList.splitOnP isSpace).filter fun word => word ≠ []))

def updateSiteName (siteId name : String) : SiteHandler Unit := do
  match ← findSite siteId with
  | none => throw (.http 404 (.str "site_not_found"))
  | some site =>
    let name := joinWords name
    Prog.reject (name = "") (.http 422 (.str "site_name_required"))
    Prog.reject (128 < name.length) (.http 422 (.str "site_name_too_long"))
    if site.name ≠ name then do
      saveSite { site with name := name }
      appendSiteAudit
    else return ()

def setShutdown (siteId : String) (shutdown : Bool) : SiteHandler Unit := do
  match ← findSite siteId with
  | none => throw (.http 404 (.str "site_not_found"))
  | some site =>
    saveSite { site with shutdown := shutdown, configRevision := site.configRevision + 1 }
    appendSiteAudit

structure RoutingUpdate where
  expectedRevision : Nat
  policy : RoutingPolicy

/-- The document that `update_one` matches: the site, at the expected revision. -/
def Store.atRevision (s : Store) (siteId : String) (expectedRevision : Nat) : Bool :=
  (s.site? siteId).any fun site => site.routingRevision == expectedRevision

def Store.setRouting (s : Store) (siteId : String) (policy : Json) : Store :=
  { s with sites := s.sites.map fun site =>
      if site.id = siteId then { site with
        routingPolicy := some policy, routingRevision := site.routingRevision + 1 }
      else site }

/-- `update_one`; the answer is whether a document matched. -/
def matchRevision (siteId : String) (expectedRevision : Nat) (policy : Json) : SiteHandler Bool :=
  Prog.atomic .operation (.updateRouting siteId expectedRevision policy) fun s =>
    if s.atRevision siteId expectedRevision then (.ok true, s.setRouting siteId policy)
    else (.ok false, s)

def updateSiteRouting (siteId : String) (payload : RoutingUpdate) : SiteHandler Unit := do
  match ← findSite siteId with
  | none => throw (.http 404 (.str "site_not_found"))
  | some _ =>
    let matched ← matchRevision siteId payload.expectedRevision payload.policy.modelDump
    Prog.reject (matched = false) (.conflict "routing_revision_conflict")
    appendSiteAudit

end Grouproxy.Backend
