import PlgBooster.Rust.Text

/-!
# PLG packets

The client and the relay each have a `protocol.rs` with the same packet type and
the same parser. The relay calls its printer `serialize`, the client `encode`;
both write the header fields in network order and then the payload.

`[Token:4B][SeqNum:4B][Flags:1B][PathID:1B][Payload:NB]`
-/

namespace PlgBooster

def HEADER_SIZE : Nat := 10

/-- The most bytes that one UDP datagram carries over IPv4. -/
def MAX_DATAGRAM : Nat := 65507

def FLAG_MULTIPATH_DUP : UInt8 := 0x01
def FLAG_KEEPALIVE : UInt8 := 0x02
def FLAG_CONTROL : UInt8 := 0x04

structure PlgPacket where
  sessionId : UInt32
  seqNumber : UInt32
  flags : UInt8
  pathId : UInt8
  payload : List UInt8
  deriving DecidableEq, Repr

/-- `u32::from_be_bytes`. -/
def u32FromBeBytes (a b c d : UInt8) : UInt32 :=
  .ofNat (((a.toNat * 256 + b.toNat) * 256 + c.toNat) * 256 + d.toNat)

/-- `u32::to_be_bytes`. -/
def u32ToBeBytes (n : UInt32) : List UInt8 :=
  [.ofNat (n.toNat / 16777216), .ofNat (n.toNat / 65536), .ofNat (n.toNat / 256), .ofNat n.toNat]

namespace PlgPacket

/-- `PlgPacket::parse` of both programs: a datagram shorter than the header is refused. -/
def parse : List UInt8 → Option PlgPacket
  | s₀ :: s₁ :: s₂ :: s₃ :: n₀ :: n₁ :: n₂ :: n₃ :: flags :: path :: payload =>
      some
        { sessionId := u32FromBeBytes s₀ s₁ s₂ s₃
          seqNumber := u32FromBeBytes n₀ n₁ n₂ n₃
          flags := flags
          pathId := path
          payload := payload }
  | _ => none

/-- `PlgPacket::serialize` of the relay. -/
def serialize (packet : PlgPacket) : List UInt8 :=
  u32ToBeBytes packet.sessionId ++ u32ToBeBytes packet.seqNumber ++ [packet.flags] ++
    [packet.pathId] ++ packet.payload

/-- `PlgPacket::encode` of the client. -/
def encode (packet : PlgPacket) : List UInt8 :=
  u32ToBeBytes packet.sessionId ++ u32ToBeBytes packet.seqNumber ++ [packet.flags] ++
    [packet.pathId] ++ packet.payload

def isKeepalive (packet : PlgPacket) : Bool := packet.flags &&& FLAG_KEEPALIVE != 0

def isControl (packet : PlgPacket) : Bool := packet.flags &&& FLAG_CONTROL != 0

/-- Create a new data packet. -/
def data (sessionId seqNumber : UInt32) (payload : List UInt8) : PlgPacket :=
  { sessionId, seqNumber, flags := 0x00, pathId := 0, payload }

/-- Create a control packet, whose payload is the text of the forward target. -/
def control (sessionId seqNumber : UInt32) (target : String) : PlgPacket :=
  { sessionId, seqNumber, flags := FLAG_CONTROL, pathId := 0, payload := Rust.asBytes target }

/-- Create a keepalive packet. -/
def keepalive (sessionId seqNumber : UInt32) : PlgPacket :=
  { sessionId, seqNumber, flags := FLAG_KEEPALIVE, pathId := 0, payload := [] }

/-- Set multipath duplication flag and path id. -/
def withMultipath (packet : PlgPacket) (pathId : UInt8) : PlgPacket :=
  { packet with flags := packet.flags ||| FLAG_MULTIPATH_DUP, pathId := pathId }

end PlgPacket

/-- A `send_to` of these bytes does not fail for their number. -/
def sendable (data : List UInt8) : Bool := decide (data.length ≤ MAX_DATAGRAM)

/-- A payload that leaves room for the header. -/
def wrappable (payload : List UInt8) : Bool := decide (HEADER_SIZE + payload.length ≤ MAX_DATAGRAM)

theorem u32FromBeBytes_toBeBytes (n : UInt32) :
    u32FromBeBytes (.ofNat (n.toNat / 16777216)) (.ofNat (n.toNat / 65536))
      (.ofNat (n.toNat / 256)) (.ofNat n.toNat) = n := by
  have below : n.toNat < 4294967296 := n.toNat_lt
  apply UInt32.toNat_inj.mp
  simp only [u32FromBeBytes, UInt32.toNat_ofNat', UInt8.toNat_ofNat']
  omega

namespace PlgPacket

@[simp] theorem parse_encode (packet : PlgPacket) : parse packet.encode = some packet := by
  obtain ⟨sessionId, seqNumber, flags, pathId, payload⟩ := packet
  simp only [encode, u32ToBeBytes, List.cons_append, List.nil_append, parse,
    u32FromBeBytes_toBeBytes]

@[simp] theorem encode_eq_serialize (packet : PlgPacket) : packet.serialize = packet.encode := rfl

theorem length_encode (packet : PlgPacket) :
    packet.encode.length = HEADER_SIZE + packet.payload.length := by
  simp only [encode, u32ToBeBytes, List.length_append, List.length_cons, List.length_nil,
    HEADER_SIZE]

@[simp] theorem sendable_encode (packet : PlgPacket) :
    sendable packet.encode = wrappable packet.payload := by
  rw [sendable, wrappable, length_encode]

@[simp] theorem isKeepalive_control (sessionId seqNumber : UInt32) (target : String) :
    (control sessionId seqNumber target).isKeepalive = false := by
  change (FLAG_CONTROL &&& FLAG_KEEPALIVE != 0) = false
  decide

@[simp] theorem isControl_control (sessionId seqNumber : UInt32) (target : String) :
    (control sessionId seqNumber target).isControl = true := by
  change (FLAG_CONTROL &&& FLAG_CONTROL != 0) = true
  decide

@[simp] theorem isKeepalive_keepalive (sessionId seqNumber : UInt32) :
    (keepalive sessionId seqNumber).isKeepalive = true := by
  change (FLAG_KEEPALIVE &&& FLAG_KEEPALIVE != 0) = true
  decide

theorem flags_data (sessionId seqNumber : UInt32) (payload : List UInt8) :
    (data sessionId seqNumber payload).isKeepalive = false ∧
      (data sessionId seqNumber payload).isControl = false := by
  change (0x00 &&& FLAG_KEEPALIVE != 0) = false ∧ (0x00 &&& FLAG_CONTROL != 0) = false
  decide

/-- A duplicate is still data. -/
theorem flags_withMultipath_data (sessionId seqNumber : UInt32) (payload : List UInt8)
    (pathId : UInt8) :
    ((data sessionId seqNumber payload).withMultipath pathId).isKeepalive = false ∧
      ((data sessionId seqNumber payload).withMultipath pathId).isControl = false := by
  change ((0x00 ||| FLAG_MULTIPATH_DUP) &&& FLAG_KEEPALIVE != 0) = false ∧
    ((0x00 ||| FLAG_MULTIPATH_DUP) &&& FLAG_CONTROL != 0) = false
  decide

end PlgPacket

theorem wrappable_iff {payload : List UInt8} :
    wrappable payload = true ↔ payload.length ≤ 65497 := by
  rw [wrappable, decide_eq_true_eq, HEADER_SIZE, MAX_DATAGRAM]
  omega

end PlgBooster
