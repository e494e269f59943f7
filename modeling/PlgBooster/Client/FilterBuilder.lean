import PlgBooster.Library.Result
import PlgBooster.Rust.Net

/-!
# The client's capture filter

A game profile lists addresses, as CIDR blocks or plain, and ports, single or as
ranges. `filter_builder.rs` turns the two lists into a WinDivert filter over outbound
UDP packets. What a profile covers is stated separately, as `Covers`.
-/

namespace PlgBooster.Client

open Rust

/-- Convert a CIDR string to its first and last address. Also accepts plain IPs. -/
def cidrToIpRange (cidr : String) : Except String (Ipv4Addr × Ipv4Addr) :=
  match splitOnce '/' cidr.toList with
  | some (ipStr, lengthStr) =>
      match parseIpv4Addr ipStr with
      | none => .error ("Invalid IP '" ++ String.ofList ipStr ++ "': " ++ ipv4ParseError)
      | some ip =>
          match parseU32 lengthStr with
          | .error e =>
              .error ("Invalid prefix '" ++ String.ofList lengthStr ++ "': " ++ e.message)
          | .ok length =>
              if length > 32 then
                .error ("Invalid prefix length: " ++ toString length.toNat)
              else
                let mask : UInt32 := if length = 0 then 0 else ~~~0 <<< (32 - length)
                let first := ip.toU32 &&& mask
                let last := first ||| ~~~mask
                .ok (.ofU32 first, .ofU32 last)
  | none =>
      -- Plain IP address
      match parseIpv4Addr cidr.toList with
      | none => .error ("Invalid IP '" ++ cidr ++ "': " ++ ipv4ParseError)
      | some ip => .ok (ip, ip)

/-- A port of a profile, with the text its error shows. -/
def parsePort (text : List Char) : Except String UInt16 :=
  (parseU16 (trim text)).mapError fun e =>
    "Invalid port '" ++ String.ofList text ++ "': " ++ e.message

/-- Parse a port string, single or a range. -/
def parsePortRange (portStr : String) : Except String (UInt16 × UInt16) :=
  match splitOnce '-' portStr.toList with
  | some (startStr, endStr) => do
      let first ← parsePort startStr
      let last ← parsePort endStr
      if first > last then
        .error ("Port range start " ++ toString first.toNat ++ " > end " ++ toString last.toNat)
      else .ok (first, last)
  | none => do
      let port ← parsePort portStr.toList
      .ok (port, port)

/-- The clause of one listed address or block. -/
def ipClause (cidr : String) : Except String String := do
  let (first, last) ← cidrToIpRange cidr
  return if first = last then "ip.DstAddr == " ++ first.display
    else "(ip.DstAddr >= " ++ first.display ++ " and ip.DstAddr <= " ++ last.display ++ ")"

/-- The clause of one listed port or range. -/
def portClause (portStr : String) : Except String String := do
  let (first, last) ← parsePortRange portStr
  return if first = last then "udp.DstPort == " ++ toString first.toNat
    else "(udp.DstPort >= " ++ toString first.toNat ++ " and udp.DstPort <= " ++
      toString last.toNat ++ ")"

/-- Several clauses are alternatives. -/
def combineClauses : List String → String
  | [clause] => clause
  | clauses => "(" ++ String.intercalate " or " clauses ++ ")"

/-- Build a WinDivert filter string for intercepting outbound UDP traffic. -/
def buildWindivertFilter (serverIps ports : List String) : Except String String :=
  if serverIps = [] then .error "No server IPs provided"
  else if ports = [] then .error "No ports provided"
  else do
    let ipClauses ← serverIps.mapM ipClause
    let portClauses ← ports.mapM portClause
    return "outbound and udp and " ++ combineClauses ipClauses ++ " and " ++
      combineClauses portClauses

/-! ## What a profile covers -/

/-- The address lies in one of the listed blocks, the port in one of the listed ranges. -/
def Covers (serverIps ports : List String) (ip : Ipv4Addr) (port : UInt16) : Prop :=
  (∃ cidr ∈ serverIps, ∃ first last, cidrToIpRange cidr = .ok (first, last) ∧
    first.toU32 ≤ ip.toU32 ∧ ip.toU32 ≤ last.toU32) ∧
  ∃ portStr ∈ ports, ∃ first last, parsePortRange portStr = .ok (first, last) ∧
    first ≤ port ∧ port ≤ last

/-- A profile the client can capture. -/
structure Profile where
  serverIps : List String
  ports : List String
  built : ∃ filter, buildWindivertFilter serverIps ports = .ok filter

/-- A filter can be built when both lists have entries and every entry is accepted. -/
theorem exists_filter {serverIps ports : List String} (listedIps : serverIps ≠ [])
    (listedPorts : ports ≠ []) (ips : ∀ cidr ∈ serverIps, ∃ range, cidrToIpRange cidr = .ok range)
    (ranges : ∀ portStr ∈ ports, ∃ range, parsePortRange portStr = .ok range) :
    ∃ filter, buildWindivertFilter serverIps ports = .ok filter := by
  have ipClauses : ∃ clauses, serverIps.mapM ipClause = .ok clauses := by
    refine Result.exists_mapM_eq_ok fun cidr member => ?_
    obtain ⟨⟨first, last⟩, ok⟩ := ips cidr member
    exact ⟨_, by rw [ipClause, ok]; rfl⟩
  have portClauses : ∃ clauses, ports.mapM portClause = .ok clauses := by
    refine Result.exists_mapM_eq_ok fun portStr member => ?_
    obtain ⟨⟨first, last⟩, ok⟩ := ranges portStr member
    exact ⟨_, by rw [portClause, ok]; rfl⟩
  obtain ⟨first, okIps⟩ := ipClauses
  obtain ⟨second, okPorts⟩ := portClauses
  simp only [buildWindivertFilter, listedIps, listedPorts, if_false, okIps, okPorts]
  exact ⟨_, rfl⟩

/-- Without a slash, an entry stands for the one address it is the display of. -/
theorem cidrToIpRange_plain {cidr : String} (plain : '/' ∉ cidr.toList)
    {first last : Ipv4Addr} (ok : cidrToIpRange cidr = .ok (first, last)) :
    first = last ∧ cidr = first.display := by
  have whole : splitOnce '/' cidr.toList = none := by
    cases split : splitOnce '/' cidr.toList with
    | none => rfl
    | some parts => exact absurd (mem_of_splitOnce split) plain
  unfold cidrToIpRange at ok
  rw [whole] at ok
  dsimp only at ok
  split at ok
  · cases ok
  next ip parsed =>
    simp only [Except.ok.injEq, Prod.mk.injEq] at ok
    obtain ⟨rfl, rfl⟩ := ok
    exact ⟨rfl, String.toList_inj.mp (parseIpv4Addr_eq_some_iff.mp parsed)⟩

end PlgBooster.Client
