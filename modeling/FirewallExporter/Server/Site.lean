import FirewallExporter.Exporter.Scraper
import FirewallExporter.Server.Route
import FirewallExporter.Server.Target

/-!
# The site

What the exporter serves: a document of metrics, a landing page that links to it, and the health of
the last pass. Every request for the metrics runs one pass; no other request asks the firewall for
anything.
-/

namespace FirewallExporter.Server

/-! ## Building -/

/-- The pages of the site. -/
inductive Page
  | metrics
  | landing
  | health
deriving DecidableEq, Repr

/-- The routes of a site. -/
structure Site where
  metricsPath : String
  metrics : Pattern
deriving DecidableEq, Repr

/-- The path of the health page. -/
def healthPath : List Char := "/health".toList

/-- The site with its metrics under a route. A route that is no pattern cannot be served, nor can
one that takes the place of the health page. -/
def Site.build? (metricsPath : String) : Option Site :=
  match Pattern.read? metricsPath with
  | none => none
  | some p => if p.plain? = some healthPath then none else some ⟨metricsPath, p⟩

/-- The page under a path. Plain routes go before parameters. -/
def Site.page? (site : Site) (path : List Char) : Option Page :=
  if path = healthPath then some .health
  else if path = ['/'] ∧ site.metricsPath ≠ "/" then some .landing
  else if site.metrics.admits path then some .metrics
  else none

/-! ## Answering -/

/-- A response of the site. -/
structure Answer where
  status : Nat
  contentType : Option String
  body : String
deriving DecidableEq, Repr

namespace Answer

def empty (status : Nat) : Answer := ⟨status, none, ""⟩

def plainText (status : Nat) (body : String) : Answer :=
  ⟨status, some "text/plain; charset=utf-8", body⟩

/-- The answer without its body, for a request that only asks about the page. -/
def headOnly (a : Answer) : Answer := { a with body := "" }

end Answer

/-- The landing page. -/
def landingPage (metricsPath : String) : String :=
  "<html>\n<head><title>OPNsense Exporter</title></head>\n<body>\n" ++
  "<h1>OPNsense Prometheus Exporter</h1>\n" ++
  "<p><a href=\"" ++ metricsPath ++ "\">Metrics</a></p>\n" ++
  "<p><a href=\"/health\">Health</a></p>\n</body>\n</html>"

/-- The answer for the document of a pass. -/
def metricsAnswer : Except DescriptorFault String → Answer
  | .ok document => ⟨200, some Exposition.contentType, document⟩
  | .error fault => .plainText 500 ("Error rendering metrics: " ++ fault.report)

/-- The answer for the health of the last pass. -/
def healthAnswer (t : Tally) : Answer :=
  if t.health.systemUp then .plainText 200 "OK" else .plainText 503 "OPNsense API unreachable"

/-- Serve a page. -/
def Site.show (site : Site) (s : Scraper) (t : Tally) : Page → Dialogue (Answer × Tally)
  | .landing => .done (⟨200, some "text/html; charset=utf-8", landingPage site.metricsPath⟩, t)
  | .health => .done (healthAnswer t, t)
  | .metrics => (s.scrape t).bind fun (document, t) ↦ .done (metricsAnswer document, t)

/-- A character of a method. -/
def isMethodChar (c : Char) : Bool := c.isAlphanum || "!#$%&'*+-.^_\x60|~".toList.contains c

/-- The path that a request asks for, unless its method or its target is malformed. -/
def requestPath? (method target : String) : Option (List Char) :=
  if method ≠ "" ∧ method.toList.all isMethodChar then Target.path? target else none

/-- Answer a request. Pages can be read with `GET` and asked about with `HEAD`. -/
def Site.answer (site : Site) (s : Scraper) (t : Tally) (method target : String) :
    Dialogue (Answer × Tally) :=
  match requestPath? method target with
  | none => .done (.empty 400, t)
  | some path =>
    match site.page? path with
    | none => .done (.empty 404, t)
    | some page =>
      if method = "GET" then site.show s t page
      else if method = "HEAD" then
        (site.show s t page).bind fun (answer, t) ↦ .done (answer.headOnly, t)
      else .done (.empty 405, t)

end FirewallExporter.Server
