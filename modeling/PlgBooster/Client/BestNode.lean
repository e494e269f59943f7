import PlgBooster.Client.Boost
import Mathlib.Data.List.MinMax

/-!
# The best node

`find_best_node` of the smart monitor pings the listed nodes one after the other and keeps
the first of the least values. Where no ping has a value it falls back to the first listed
node, which need not be one that was pinged.

A ping is a value of any type with an order, in place of `f64`.
-/

namespace PlgBooster.Client

/-- What the client looks at of a listed node. -/
structure NodeInfo where
  id : Id
  location : String
  ipAddress : String
  status : String
  relayPort : Int
  deriving DecidableEq, Repr

structure NodePingResponse (α : Type) where
  nodeId : Id
  pingMs : Option α
  status : String

section

variable {α ε : Type} [Preorder α] [DecidableLT α]
variable (pingNode : Id → Except ε (NodePingResponse α))

/-- One round of the loop: `best.is_none() || ping < best.1`. -/
def considerNode (best : Option (NodeInfo × α)) (node : NodeInfo) : Option (NodeInfo × α) :=
  match pingNode node.id with
  | .ok resp =>
      match resp.pingMs with
      | some ping =>
          match best with
          | none => some (node, ping)
          | some (_, least) => if ping < least then some (node, ping) else best
      | none => best
  | .error _ => best

/-- Ping all active nodes and return the one with lowest latency. -/
def findBestNode [OfNat α 999] (getNodes : Except ε (List NodeInfo)) : Option (NodeInfo × α) :=
  match getNodes with
  | .error _ => none
  | .ok nodes =>
      let activeNodes := nodes.filter fun n => n.status = "active" ∨ n.status = "online"
      if activeNodes.isEmpty then nodes.head?.map fun n => (n, 999)
      else
        -- Fallback to first node if all pings failed
        (activeNodes.foldl (considerNode pingNode) none).or (nodes.head?.map fun n => (n, 999))

/-- The value of a node's ping, if there is one. -/
def measured (node : NodeInfo) : Option (NodeInfo × α) :=
  match pingNode node.id with
  | .ok resp => resp.pingMs.map fun ping => (node, ping)
  | .error _ => none

/-- The active nodes whose ping has a value, with their values. -/
def measuredNodes (nodes : List NodeInfo) : List (NodeInfo × α) :=
  (nodes.filter fun n => n.status = "active" ∨ n.status = "online").filterMap (measured pingNode)

omit [Preorder α] [DecidableLT α] in
theorem measured_eq_some {node info : NodeInfo} {ping : α} :
    measured pingNode node = some (info, ping) ↔
      node = info ∧ ∃ resp, pingNode node.id = .ok resp ∧ resp.pingMs = some ping := by
  unfold measured
  cases pingNode node.id with
  | error e => simp
  | ok resp => simp [and_comm]

/-- A round is a step of the search for the least value. -/
theorem considerNode_eq (best : Option (NodeInfo × α)) (node : NodeInfo) :
    considerNode pingNode best node =
      match measured pingNode node with
      | some found => List.argAux (fun b c => b.2 < c.2) best found
      | none => best := by
  unfold considerNode measured
  cases pingNode node.id with
  | error e => rfl
  | ok resp =>
      obtain ⟨nodeId, pingMs, status⟩ := resp
      cases pingMs with
      | none => rfl
      | some ping => cases best <;> rfl

theorem foldl_considerNode (nodes : List NodeInfo) (best : Option (NodeInfo × α)) :
    nodes.foldl (considerNode pingNode) best =
      (nodes.filterMap (measured pingNode)).foldl (List.argAux fun b c => b.2 < c.2) best := by
  induction nodes generalizing best with
  | nil => rfl
  | cons node nodes ih =>
      rw [List.foldl_cons, ih, considerNode_eq]
      cases h : measured pingNode node with
      | none => rw [List.filterMap_cons_none h]
      | some found => rw [List.filterMap_cons_some h, List.foldl_cons]

/-- The loop finds the least value, the first one among equals. -/
theorem findBestNode_ok [OfNat α 999] (nodes : List NodeInfo) :
    findBestNode pingNode (.ok nodes) =
      ((measuredNodes pingNode nodes).argmin (·.2)).or (nodes.head?.map fun n => (n, 999)) := by
  unfold findBestNode measuredNodes
  dsimp only
  split_ifs with inactive
  · rw [List.isEmpty_iff.mp inactive]
    rfl
  · rw [foldl_considerNode]
    rfl

/-- Where some ping has a value, the result is a node with its value. -/
theorem findBestNode_of_measured [OfNat α 999] {nodes : List NodeInfo}
    (found : measuredNodes pingNode nodes ≠ []) :
    ∃ best ∈ measuredNodes pingNode nodes, findBestNode pingNode (.ok nodes) = some best ∧
      ∀ other ∈ measuredNodes pingNode nodes, ¬ other.2 < best.2 := by
  rw [findBestNode_ok]
  cases h : (measuredNodes pingNode nodes).argmin (·.2) with
  | none => exact absurd (List.argmin_eq_none.mp h) found
  | some best =>
      exact ⟨best, List.argmin_mem h, rfl, fun other member => List.not_lt_of_mem_argmin member h⟩

/-- Where no ping has a value, the result is the first listed node. -/
theorem findBestNode_of_unmeasured [OfNat α 999] {nodes : List NodeInfo}
    (unmeasured : measuredNodes pingNode nodes = []) :
    findBestNode pingNode (.ok nodes) = nodes.head?.map fun n => (n, 999) := by
  rw [findBestNode_ok, unmeasured]
  rfl

end

end PlgBooster.Client
