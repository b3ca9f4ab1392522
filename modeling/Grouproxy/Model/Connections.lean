import Mathlib.Data.List.Basic
import Grouproxy.Library.Groups
import Grouproxy.Library.Value

/-! # The monitor's view of the connections

The document of the Clash API about the open connections, and the snapshot made of it: totals, the
busiest sources and destinations, and the connections themselves.
-/

namespace Grouproxy.Connections

open Text Value

/-! ## Counters -/

/-- Conversions of `float64`. -/
structure Conversions where
  /-- `int64(x)` -/
  truncate : Float64 → Int64
  /-- `int64(float64(delta) / elapsed)` for an elapsed time in nanoseconds. -/
  perSecond : Int64 → Int → Int64

def asInt64 (conv : Conversions) : Any → Int64
  | .int n => Int64.ofInt n
  | .float x => conv.truncate x
  | _ => 0

structure ConnectionCounter where
  label : String
  count : ℕ
  bytesUp : Int64
  bytesDown : Int64
  deriving DecidableEq

/-- A `map[string]*connectionCounter`. -/
abbrev Counts := List (String × ConnectionCounter)

/-- The `map[string]any` of a connection in the snapshot. -/
structure LiveConnection where
  id : String
  srcIp : String
  srcPort : String
  dstHost : String
  dstIp : String
  dstPort : String
  network : String
  inbound : String
  outboundChain : List String
  bytesUp : Int64
  bytesDown : Int64
  start : String
  rule : String
  deriving DecidableEq

/-! ## The document -/

def connectionsOf (raw : Fields) : List Any := (raw.get "connections").asArr?.getD []

def metadataOf (conn : Fields) : Fields := (conn.get "metadata").asMap?.getD []

def srcIP (conn : Fields) : String :=
  let srcIP := stringValue ((metadataOf conn).get "sourceIP")
  if srcIP = "" then stringValue ((metadataOf conn).get "source_ip") else srcIP

def dstIP (conn : Fields) : String := stringValue ((metadataOf conn).get "destinationIP")

def dstHost (conn : Fields) : String :=
  let dstHost := stringValue ((metadataOf conn).get "host")
  if dstHost = "" then dstIP conn else dstHost

def outboundChain (conn : Fields) : List String :=
  let chains := (conn.get "chains").asArr?.getD []
  (chains.map fun chain => trimSpace (sprint chain)).filter (· ≠ "")

section Snapshots

variable (conv : Conversions)

def upload (conn : Fields) : Int64 := asInt64 conv (conn.get "upload")

def download (conn : Fields) : Int64 := asInt64 conv (conn.get "download")

def liveConnection (conn : Fields) : LiveConnection :=
  let metadata := metadataOf conn
  { id := stringValue (conn.get "id")
    srcIp := srcIP conn
    srcPort := stringValue (metadata.get "sourcePort")
    dstHost := dstHost conn
    dstIp := dstIP conn
    dstPort := stringValue (metadata.get "destinationPort")
    network := stringValue (metadata.get "network")
    inbound := stringValue (metadata.get "type")
    outboundChain := outboundChain conn
    bytesUp := upload conv conn
    bytesDown := download conv conn
    start := stringValue (conn.get "start")
    rule := stringValue (conn.get "rule") }

/-! ## The loop over the connections -/

/-- The variables of the loop. -/
structure Accounts where
  bytesUp : Int64
  bytesDown : Int64
  sourceCounts : Counts
  destCounts : Counts
  live : List LiveConnection

/-- A counter is made for a label that has none. -/
def newCounter (label : String) : ConnectionCounter := ⟨label, 0, 0, 0⟩

def addConnection (counter : ConnectionCounter) (conn : Fields) : ConnectionCounter :=
  { counter with
    count := counter.count + 1
    bytesUp := counter.bytesUp + upload conv conn
    bytesDown := counter.bytesDown + download conv conn }

def countUnder (label : String) (conn : Fields) (counts : Counts) : Counts :=
  if label ≠ "" then Groups.update newCounter (addConnection conv) label conn counts else counts

/-- The body of the loop for a connection that is an object. -/
def account (accounts : Accounts) (conn : Fields) : Accounts :=
  let idle := accounts.bytesUp = 0 ∧ accounts.bytesDown = 0
  { bytesUp := if idle then accounts.bytesUp + upload conv conn else accounts.bytesUp
    bytesDown := if idle then accounts.bytesDown + download conv conn else accounts.bytesDown
    sourceCounts := countUnder conv (srcIP conn) conn accounts.sourceCounts
    destCounts := countUnder conv (dstHost conn) conn accounts.destCounts
    live := accounts.live ++ [liveConnection conv conn] }

def accountAny (accounts : Accounts) (rawConn : Any) : Accounts :=
  match rawConn.asMap? with
  | none => accounts
  | some conn => account conv accounts conn

def accounts (raw : Fields) : Accounts :=
  (connectionsOf raw).foldl (accountAny conv)
    { bytesUp := asInt64 conv (raw.get "uploadTotal")
      bytesDown := asInt64 conv (raw.get "downloadTotal")
      sourceCounts := []
      destCounts := []
      live := [] }

/-! ## Sorting -/

/-- What `sort.Slice` makes of a list. It promises no order of equal elements, and where the list
comes from a map, its own order is arbitrary too. -/
structure SortSlice {α : Type} (less : α → α → Bool) where
  sort : List α → List α
  perm : ∀ xs, (sort xs).Perm xs
  sorted : ∀ xs, (sort xs).Pairwise fun a b => less b a = false

def hasMoreBytes (left right : ConnectionCounter) : Bool :=
  let leftBytes := left.bytesUp + left.bytesDown
  let rightBytes := right.bytesUp + right.bytesDown
  if leftBytes = rightBytes then right.count < left.count else rightBytes < leftBytes

def topConnectionCounters (slice : SortSlice hasMoreBytes) (values : Counts) (limit : ℕ) :
    List ConnectionCounter :=
  (slice.sort (values.map Prod.snd)).take limit

def isBusier (left right : LiveConnection) : Bool :=
  right.bytesUp + right.bytesDown < left.bytesUp + left.bytesDown

/-! ## Rates -/

/-- What the agent remembers of the last snapshot. -/
structure Agent where
  lastTrafficAt : Option Int
  lastBytesUp : Int64
  lastBytesDown : Int64
  lastActiveConnections : ℕ
  lastRxBps : Int64
  lastTxBps : Int64

/-- The rates are those of the bytes since the last sample, which may not be negative. -/
def recordTrafficSample (now : Int) (active : ℕ) (bytesDown bytesUp : Int64) (a : Agent) :
    (Int64 × Int64) × Agent :=
  let rate := fun last : Int => fun current previous : Int64 =>
    let delta := current - previous
    conv.perSecond (if delta < 0 then 0 else delta) (now - last)
  let rates :=
    match a.lastTrafficAt with
    | none => (0, 0)
    | some last =>
      if 0 < now - last then
        (rate last bytesDown a.lastBytesDown, rate last bytesUp a.lastBytesUp)
      else (0, 0)
  (rates,
    { lastTrafficAt := some now
      lastBytesUp := bytesUp
      lastBytesDown := bytesDown
      lastActiveConnections := active
      lastRxBps := rates.1
      lastTxBps := rates.2 })

/-! ## Snapshots -/

structure Snapshot where
  activeConnections : ℕ
  bytesUp : Int64
  bytesDown : Int64
  rxBps : Int64
  txBps : Int64
  topSources : List ConnectionCounter
  topDestinations : List ConnectionCounter
  connections : List LiveConnection
  apiAvailable : Bool
  deriving DecidableEq

/-- The three calls of `sort.Slice`. -/
structure Slices where
  live : SortSlice isBusier
  sources : SortSlice hasMoreBytes
  destinations : SortSlice hasMoreBytes

def fillConnectionSnapshot (slices : Slices) (raw : Fields) (now : Int) (a : Agent) :
    Snapshot × Agent :=
  let loop := accounts conv raw
  let sample :=
    recordTrafficSample conv now (connectionsOf raw).length loop.bytesDown loop.bytesUp a
  ({ activeConnections := (connectionsOf raw).length
     bytesUp := loop.bytesUp
     bytesDown := loop.bytesDown
     rxBps := sample.1.1
     txBps := sample.1.2
     topSources := topConnectionCounters slices.sources loop.sourceCounts 20
     topDestinations := topConnectionCounters slices.destinations loop.destCounts 20
     connections := (slices.live.sort loop.live).take 100
     apiAvailable := true },
    sample.2)

end Snapshots

end Grouproxy.Connections
