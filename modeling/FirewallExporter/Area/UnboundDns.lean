import FirewallExporter.Area.Collector

/-!
# The Unbound resolver

Uptime, query totals, and answers and queries by code and by type. The reply holds all numbers as
texts, and one text that is no number fails the whole record.
-/

namespace FirewallExporter.UnboundDns

open Json

/-! ## The record -/

/-- The reply. -/
structure Reply where
  uptime : String
  queries : String
  cacheHits : String
  cacheMisses : String
  bogus : String
  secure : String
  rcodes : SortedTable String String
  types : SortedTable String String
deriving DecidableEq, Repr

/-- Queries, cache hits and cache misses. -/
def totalShape : Shape (String × String × String) :=
  .record
    (.cons "num"
      (.record
        (.cons "queries" .text <| .cons "cachehits" .text <| .cons "cachemiss" .text .nil)
        fun (queries, hits, misses, ()) ↦ (queries, hits, misses)) .nil)
    fun (num, ()) ↦ num

def timeShape : Shape String := .record (.cons "up" .text .nil) fun (up, ()) ↦ up

/-- Query types, then answers by code, secure answers and bogus answers. -/
def numShape :
    Shape (SortedTable String String × SortedTable String String × String × String) :=
  .record
    (.cons "query" (.record (.cons "type" (.table .text) .nil) fun (types, ()) ↦ types) <|
      .cons "answer"
        (.record
          (.cons "rcode" (.table .text) <| .cons "secure" .text <| .cons "bogus" .text .nil)
          fun (rcodes, secure, bogus, ()) ↦ (rcodes, secure, bogus)) .nil)
    fun (types, answer, ()) ↦ (types, answer)

def dataShape : Shape Reply :=
  .record (.cons "total" totalShape <| .cons "time" timeShape <| .cons "num" numShape .nil)
    fun ((queries, cacheHits, cacheMisses), uptime, (types, rcodes, secure, bogus), ()) ↦
      { uptime, queries, cacheHits, cacheMisses, bogus, secure, rcodes, types }

def shape : Shape Reply := .record (.cons "data" dataShape .nil) fun (data, ()) ↦ data

structure Record where
  uptime : Double
  queries : Int
  cacheHits : Int
  cacheMisses : Int
  bogus : Int
  secure : Int
  rcodes : SortedTable String Int
  types : SortedTable String Int
deriving DecidableEq, Repr

/-- Read the counts of a table in key order. -/
def counts (t : SortedTable String String) : Except Unparsable (SortedTable String Int) :=
  t.mapM fun (key, text) ↦ (Unparsable.readInt text).map fun n ↦ (key, n)

/-- Read the numbers in order; the first bad text is reported. -/
def Reply.record (r : Reply) : Except Unparsable Record := do
  let uptime ← Unparsable.readDouble r.uptime
  let queries ← Unparsable.readInt r.queries
  let cacheHits ← Unparsable.readInt r.cacheHits
  let cacheMisses ← Unparsable.readInt r.cacheMisses
  let bogus ← Unparsable.readInt r.bogus
  let secure ← Unparsable.readInt r.secure
  let rcodes ← counts r.rcodes
  let types ← counts r.types
  return { uptime, queries, cacheHits, cacheMisses, bogus, secure, rcodes, types }

def query : Query Record := .ofShape .unbound .get none shape Reply.record

/-! ## The metrics -/

def name : String := "unbound_dns"

/-- The metrics without labels of their own, in the order in which they are emitted. -/
def totals : List (Descriptor × (Record → Double)) :=
  [(.gauge name "uptime_seconds" "Uptime of the unbound DNS service in seconds" [],
      Record.uptime),
    (.counter name "queries_total" "Total number of queries received" [],
      fun r ↦ Double.ofInt r.queries),
    (.counter name "cache_hits_total" "Total number of queries answered from cache" [],
      fun r ↦ Double.ofInt r.cacheHits),
    (.counter name "cache_misses_total" "Total number of queries that needed recursive processing"
      [], fun r ↦ Double.ofInt r.cacheMisses),
    (.counter name "answers_bogus_total" "Total number of answers that were bogus" [],
      fun r ↦ Double.ofInt r.bogus),
    (.counter name "answers_secure_total" "Total number of answers that were secure" [],
      fun r ↦ Double.ofInt r.secure)]

def answerRcodes : Descriptor :=
  .counter name "answer_rcodes_total" "Total number of answers by response code" ["rcode"]

def queryTypes : Descriptor :=
  .counter name "query_types_total" "Total number of queries by query type" ["type"]

/-- The entries of a table under one descriptor. -/
def tableEmissions (monitored : String) (d : Descriptor) (t : SortedTable String Int) :
    List Emission :=
  t.map fun (key, n) ↦ ⟨d, Double.ofInt n, [key, monitored]⟩

def emissions (monitored : String) (r : Record) : List Emission :=
  (totals.map fun (d, value) ↦ ⟨d, value r, [monitored]⟩) ++
    tableEmissions monitored answerRcodes r.rcodes ++ tableEmissions monitored queryTypes r.types

def collector : Collector :=
  .ofQuery name (totals.map Prod.fst ++ [answerRcodes, queryTypes]) query emissions

end FirewallExporter.UnboundDns
