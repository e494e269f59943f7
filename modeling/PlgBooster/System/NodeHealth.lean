import PlgBooster.Client.BestNode
import PlgBooster.Server.Donatepay
import PlgBooster.System.Fleet
import Mathlib.Algebra.Order.Ring.Unbundled.Rat
import Mathlib.Data.List.Sort

/-!
# Whether the best node is reachable

The monitor asks the API for the ping of a node, and the API asks the node's relay for its
health. The API takes the field `ping_ms` from the answer, which the relay does not send. So
no ping ever has a value, and the best node is the first of the list.
-/

namespace PlgBooster.System

open Rust Relay Client Server

structure HealthResponse where
  status : String
  activeSessions : Nat
  uptimeSecs : UInt64

/-- `GET /health` of a relay. -/
def health (cache : SessionCache) (uptimeSecs : UInt64) : HealthResponse where
  status := "ok"
  activeSessions := cache.activeCount
  uptimeSecs := uptimeSecs

def HealthResponse.json (response : HealthResponse) : Json :=
  .dict
    [("status", .str response.status),
      ("active_sessions", .int response.activeSessions),
      ("uptime_secs", .int response.uptimeSecs.toNat)]

/-- What becomes of a request to the address of a relay. A body may be no JSON. -/
inductive HealthReply where
  | requestError
  | response (statusCode : Nat) (body : Option Json)

/-- What a ping can end with instead of an answer. -/
inductive PingError where
  | service (e : ServiceError)
  | jsonDecodeError
  | attributeError
  | validationError

/-- Get ping/health from a relay node. -/
def getNodePing : HealthReply → Except PingError (Option Json)
  | .requestError => .ok none
  | .response statusCode body =>
      if statusCode = 200 then
        match body with
        | none => .error .jsonDecodeError
        | some (.dict fields) =>
            match fields.lookup "ping_ms" with
            | some .null => .ok none
            | found => .ok found
        | some _ => .error .attributeError
      else .ok none

/-- The rows of the table of nodes, with distinct keys. -/
structure NodeTable where
  rows : List Server.Node
  distinct : (rows.map (·.id)).Nodup

/-- What answers at the addresses of the relays: with the status 200 only a relay. -/
structure RelayApis where
  reply : Address → HealthReply
  genuine : ∀ address body, reply address = .response 200 body →
    ∃ cache uptimeSecs, body = some (health cache uptimeSecs).json

/-- The relay of the node answers. -/
def RelayApis.Answers (relays : RelayApis) (node : Server.Node) : Prop :=
  ∃ body, relays.reply (apiAddress node) = .response 200 body

def nodeInfo (node : Server.Node) : NodeInfo where
  id := node.id
  location := node.location
  ipAddress := node.ipAddress
  status := node.status
  relayPort := node.relayPort

section

variable (table : NodeTable)

/-- `GET /api/nodes`. The order of the locations is the database's. -/
def listNodes (collation : String → String → Prop) [DecidableRel collation] : List Server.Node :=
  (table.rows.filter (·.status = "active")).insertionSort fun m n =>
    collation m.location n.location

variable {α : Type} (asFloat : Json → Option α) (relays : RelayApis)

/-- `GET /api/nodes/{node_id}/ping`. Whether a value is a `float` is the schema's to say. -/
def pingNode (nodeId : Uuid) : Except PingError (NodePingResponse α) :=
  match scalarOneOrNone (table.rows.filter (·.id = nodeId)) with
  | .error e => .error (.service e)
  | .ok none => .error (.service (.httpException 404 "Node not found"))
  | .ok (some node) =>
      match getNodePing (relays.reply (apiAddress node)) with
      | .error e => .error e
      | .ok none => .ok ⟨node.id, none, "unreachable"⟩
      | .ok (some value) =>
          match asFloat value with
          | none => .error .validationError
          | some ping => .ok ⟨node.id, some ping, "ok"⟩

/-! ## What the pings tell the client -/

variable {table asFloat relays} {collation : String → String → Prop} [DecidableRel collation]

/-- No answer of a relay has the field that is asked for. -/
theorem getNodePing_reply (address : Address) :
    getNodePing (relays.reply address) = .ok none := by
  cases reply : relays.reply address with
  | requestError => rfl
  | response statusCode body =>
      by_cases ok : statusCode = 200
      · subst ok
        obtain ⟨cache, uptimeSecs, rfl⟩ := relays.genuine address body reply
        rfl
      · simp only [getNodePing, ok, if_false]

theorem pingMs_of_pingNode {nodeId : Uuid} {resp : NodePingResponse α}
    (answered : pingNode table asFloat relays nodeId = .ok resp) : resp.pingMs = none := by
  unfold pingNode at answered
  split at answered
  · cases answered
  · cases answered
  · rw [getNodePing_reply] at answered
    cases answered
    rfl

theorem measuredNodes_pingNode (nodes : List NodeInfo) :
    measuredNodes (pingNode table asFloat relays) nodes = [] := by
  refine List.filterMap_eq_nil_iff.mpr fun node _ => ?_
  cases h : measured (pingNode table asFloat relays) node with
  | none => rfl
  | some found =>
      obtain ⟨_, resp, answered, ping⟩ := (measured_eq_some _).mp h
      rw [pingMs_of_pingNode answered] at ping
      cases ping

theorem mem_listNodes {node : Server.Node} :
    node ∈ listNodes table collation ↔ node ∈ table.rows ∧ node.status = "active" := by
  simp [listNodes, List.mem_insertionSort]

/-- Two rows that the client takes for the same node are the same. -/
theorem eq_of_nodeInfo_eq {m n : Server.Node} (first : m ∈ table.rows) (second : n ∈ table.rows)
    (same : nodeInfo m = nodeInfo n) : m = n :=
  List.inj_on_of_nodup_map table.distinct first second (congrArg NodeInfo.id same)

end

section

variable (table : NodeTable) (relays : RelayApis) {α : Type} [Preorder α] [DecidableLT α]
variable [OfNat α 999] (asFloat : Json → Option α)
variable (collation : String → String → Prop) [DecidableRel collation]

/-- The node the monitor picks, over the API. -/
def bestNode : Option (NodeInfo × α) :=
  findBestNode (pingNode table asFloat relays) (.ok ((listNodes table collation).map nodeInfo))

/-- The pick is always the first of the list. -/
theorem bestNode_eq :
    bestNode table relays asFloat collation =
      (listNodes table collation).head?.map fun n => (nodeInfo n, 999) := by
  rw [bestNode, findBestNode_of_unmeasured _ (measuredNodes_pingNode _), List.head?_map,
    Option.map_map]
  rfl

/-- If the relay of some active node answers, then the pick is a node whose relay answers. -/
def PicksReachable : Prop :=
  (∃ node ∈ table.rows, node.status = "active" ∧ relays.Answers node) →
    ∃ node ∈ table.rows, relays.Answers node ∧
      ∃ ping, bestNode table relays asFloat collation = some (nodeInfo node, ping)

/-- The pick is reachable exactly if no relay of an active node answers, or that of the
first listed node does. -/
theorem picksReachable_iff :
    PicksReachable table relays asFloat collation ↔
      (¬ ∃ node ∈ table.rows, node.status = "active" ∧ relays.Answers node) ∨
        ∃ first ∈ (listNodes table collation).head?, relays.Answers first := by
  unfold PicksReachable
  rw [bestNode_eq, ← imp_iff_not_or]
  refine imp_congr_right fun _ => ⟨?_, ?_⟩
  · rintro ⟨node, listed, answers, ping, picked⟩
    obtain ⟨first, head, same⟩ := Option.map_eq_some_iff.mp picked
    have active := mem_listNodes.mp (List.mem_of_mem_head? head)
    obtain rfl := eq_of_nodeInfo_eq active.1 listed (Prod.mk.inj same).1
    exact ⟨first, head, answers⟩
  · rintro ⟨first, head, answers⟩
    have active := mem_listNodes.mp (List.mem_of_mem_head? head)
    exact ⟨first, active.1, answers, 999, by rw [Option.mem_def.mp head]; rfl⟩

end

/-- Two nodes of the deployment. -/
def twoNodes : NodeTable where
  rows := [⟨1, "DE", "10.0.0.1", "active", 443, 8443⟩, ⟨2, "SE", "10.0.0.2", "active", 443, 8443⟩]
  distinct := by decide

/-- Only the relay of the second one answers. -/
def secondRelay : RelayApis where
  reply := fun address =>
    if address = ("10.0.0.2", 8443) then
      .response 200 (some (health (Relay.start 1000 300).cache 60).json)
    else .requestError
  genuine := by
    intro address body reply
    split_ifs at reply
    exact ⟨_, _, (HealthReply.response.inj reply).2.symm⟩

/-- A number is a `float`. -/
def floatOf : Json → Option Rat
  | .int value => some value
  | .float value => some value
  | _ => none

theorem twoNodes_unreachable :
    ¬ PicksReachable twoNodes secondRelay floatOf fun first second => first ≤ second := by
  intro picks
  obtain ⟨node, listed, answers, ping, picked⟩ :=
    picks ⟨⟨2, "SE", "10.0.0.2", "active", 443, 8443⟩, by decide, rfl, _, rfl⟩
  have first : (listNodes twoNodes fun first second => first ≤ second).head? =
      some ⟨1, "DE", "10.0.0.1", "active", 443, 8443⟩ := by decide
  rw [bestNode_eq, first] at picked
  have same : node = ⟨1, "DE", "10.0.0.1", "active", 443, 8443⟩ :=
    eq_of_nodeInfo_eq listed (by decide) (Prod.mk.inj (Option.some.inj picked)).1.symm
  obtain ⟨body, reply⟩ := answers
  rw [same] at reply
  cases reply

end PlgBooster.System
