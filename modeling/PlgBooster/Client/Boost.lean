import PlgBooster.Client.UdpProxy

/-!
# Starting and stopping a boost

`cmd_start_boost` and `cmd_stop_boost` of the desktop client and the smart monitor's
`auto_connect` and auto-disconnect. A start opens a session at the API and then a
proxy to the session's relay; a stop closes the proxy and then the session.

The API is a parameter: handlers over some state of the server. What happens to a
request on its way, and what the system answers to the proxies, are arguments of the
commands. The early returns are the source's, with its texts.
-/

namespace PlgBooster.Client

open Rust

structure AuthTokens where
  accessToken : String
  refreshToken : String
  deriving DecidableEq, Repr

inductive ApiError where
  | network (text : String)
  | unauthorized
  | forbidden (detail : String)
  | notFound
  | server (detail : String)
  | refreshFailed
  deriving DecidableEq, Repr

/-- `impl Display for ApiError`. -/
def ApiError.message : ApiError → String
  | .network text => "Network error: " ++ text
  | .unauthorized => "Unauthorized"
  | .forbidden detail => "Forbidden: " ++ detail
  | .notFound => "Not found"
  | .server detail => "Server error: " ++ detail
  | .refreshFailed => "Token refresh failed"

/-- Identifiers are kept as numbers, and not as the text of a UUID. -/
abbrev Id := Nat

structure SessionStartRequest where
  gameSlug : String
  nodeId : Id
  multipath : Option Bool
  deriving DecidableEq, Repr

structure SessionStartResponse where
  sessionId : Id
  sessionToken : UInt32
  nodeIp : String
  nodePort : Int
  backupNodeIp : Option String
  backupNodePort : Option Int
  multipathEnabled : Bool
  gameServerIps : List String
  gamePorts : List String
  deriving DecidableEq, Repr

/-- The endpoints the boost commands call, as handlers over the server's state. -/
structure Api (σ : Type) where
  startSession : σ → SessionStartRequest → σ × Except ApiError SessionStartResponse
  stopSession : σ → Id → σ × Except ApiError Unit

/-- What happens to one request. -/
inductive Delivery where
  /-- The access token is refused before the request is handled. -/
  | unauthorized
  /-- Not handled, and an error reaches the client. -/
  | failed (e : ApiError)
  /-- Handled, and the answer reaches the client. -/
  | answered
  /-- Handled, but the answer does not reach the client or cannot be read. -/
  | answerLost (text : String)
  deriving DecidableEq, Repr

/-- The request has its effect on the server. -/
def Delivery.handled : Delivery → Bool
  | .answered => true
  | .answerLost _ => true
  | _ => false

/-- What happens to the requests of one call: with the current access token, the
refresh after a refused token, and with the new access token. -/
structure Exchange where
  first : Delivery
  refresh : Except ApiError AuthTokens
  second : Delivery

/-- The delivery that decides the call: the second one after a successful refresh. -/
def Exchange.decisive (exchange : Exchange) : Delivery :=
  match exchange.first, exchange.refresh with
  | .unauthorized, .ok _ => exchange.second
  | .failed .unauthorized, .ok _ => exchange.second
  | first, _ => first

section Call

variable {σ α : Type}

/-- Send one request. -/
def Delivery.send (delivery : Delivery) (handler : σ → σ × Except ApiError α) (server : σ) :
    σ × Except ApiError α :=
  match delivery with
  | .unauthorized => (server, .error .unauthorized)
  | .failed e => (server, .error e)
  | .answered => handler server
  | .answerLost text => ((handler server).1, .error (.network text))

/-- Attempt an API call with auto-refresh on 401. Returns the result and possibly
updated tokens. -/
def withAutoRefresh (exchange : Exchange) (handler : σ → σ × Except ApiError α) (server : σ) :
    σ × Except ApiError (α × Option AuthTokens) :=
  -- Try with current access token
  let (server, result) := exchange.first.send handler server
  match result with
  | .ok value => (server, .ok (value, none))
  | .error .unauthorized =>
      match exchange.refresh with
      | .error e => (server, .error e)
      | .ok newTokens =>
          -- Retry with new token
          let (server, result) := exchange.second.send handler server
          (server, result.map fun value => (value, some newTokens))
  | .error e => (server, .error e)

/-- A call is its decisive delivery, as long as the handler itself never refuses the
access token. -/
theorem withAutoRefresh_cases (exchange : Exchange) {handler : σ → σ × Except ApiError α}
    (accepts : ∀ server, (handler server).2 ≠ .error .unauthorized) (server : σ) :
    (exchange.decisive = .answered ∧ ∃ renewed : Option AuthTokens,
      withAutoRefresh exchange handler server =
        ((handler server).1, (handler server).2.map fun value => (value, renewed))) ∨
    (∃ text, exchange.decisive = .answerLost text ∧
      withAutoRefresh exchange handler server =
        ((handler server).1, .error (.network text))) ∨
    exchange.decisive.handled = false ∧
      ∃ e, withAutoRefresh exchange handler server = (server, .error e) := by
  obtain ⟨first, refresh, second⟩ := exchange
  have retried : first = .unauthorized ∨ first = .failed .unauthorized →
      withAutoRefresh ⟨first, refresh, second⟩ handler server =
        match refresh with
        | .error e => (server, .error e)
        | .ok newTokens => ((second.send handler server).1,
            (second.send handler server).2.map fun value => (value, some newTokens)) := by
    rintro (rfl | rfl) <;> cases refresh <;> rfl
  by_cases refused : first = .unauthorized ∨ first = .failed .unauthorized
  · rw [retried refused]
    cases refresh with
    | error e =>
        refine .inr (.inr ⟨?_, e, rfl⟩)
        rcases refused with rfl | rfl <;> rfl
    | ok newTokens =>
        have decisive : (⟨first, .ok newTokens, second⟩ : Exchange).decisive = second := by
          rcases refused with rfl | rfl <;> rfl
        rw [decisive]
        cases second with
        | unauthorized => exact .inr (.inr ⟨rfl, _, rfl⟩)
        | failed e => exact .inr (.inr ⟨rfl, e, rfl⟩)
        | answered => exact .inl ⟨rfl, some newTokens, rfl⟩
        | answerLost text => exact .inr (.inl ⟨text, rfl, rfl⟩)
  · rw [not_or] at refused
    cases first with
    | unauthorized => exact absurd rfl refused.1
    | failed e =>
        refine .inr (.inr ⟨?_, e, ?_⟩)
        · cases e <;> cases refresh <;> simp_all [Exchange.decisive, Delivery.handled]
        · cases e <;> simp_all [withAutoRefresh, Delivery.send]
    | answered =>
        refine .inl ⟨by cases refresh <;> rfl, none, ?_⟩
        have never := accepts server
        rcases answer : handler server with ⟨server', (_ | _ | _ | _ | _ | _) | value⟩ <;>
          simp_all [withAutoRefresh, Delivery.send, Except.map]
    | answerLost text => exact .inr (.inl ⟨text, by cases refresh <;> rfl, rfl⟩)

theorem withAutoRefresh_fst (exchange : Exchange) {handler : σ → σ × Except ApiError α}
    (accepts : ∀ server, (handler server).2 ≠ .error .unauthorized) (server : σ) :
    (withAutoRefresh exchange handler server).1 =
      if exchange.decisive.handled then (handler server).1 else server := by
  rcases withAutoRefresh_cases exchange accepts server with
    ⟨decisive, _, call⟩ | ⟨text, decisive, call⟩ | ⟨unhandled, _, call⟩
  · rw [call, decisive]
    rfl
  · rw [call, decisive]
    rfl
  · rw [call, unhandled]
    rfl

end Call

/-- Holds either a localhost UDP proxy or a WinDivert kernel-level interceptor. -/
inductive ActiveBoost where
  | Proxy (proxy : UdpProxy)
  | WinDivert

def ActiveBoost.mode : ActiveBoost → String
  | .Proxy _ => "proxy"
  | .WinDivert => "windivert"

structure AppState where
  tokens : Option AuthTokens
  activeProxy : Option ActiveBoost
  activeSessionId : Option Id

structure BoostStatus where
  connected : Bool
  sessionId : Option Id
  localPort : Option UInt16
  multipathEnabled : Bool
  mode : String
  deriving DecidableEq, Repr

/-- The arguments of `cmd_start_boost`. -/
structure StartArgs where
  gameSlug : String
  nodeId : Id
  gameServerTarget : Option String
  localPort : Option UInt16
  multipath : Option Bool
  useWindivert : Option Bool

/-- What the monitor knows of a game when it connects. -/
structure GameProfile where
  slug : String
  serverIps : List String
  ports : List String
  deriving DecidableEq, Repr

/-- The answers a start gets from the network and the system. -/
structure StartOutcome where
  exchange : Exchange
  winDivert : Except String Unit
  proxy : UdpProxy.StartResults

/-- The address of a node as the commands compose and parse it. -/
def nodeAddr (ip : String) (port : Int) : Option SocketAddr :=
  parseSocketAddr (ip ++ ":" ++ toString port).toList

def SessionStartResponse.relayAddr (resp : SessionStartResponse) : Except String SocketAddr :=
  match nodeAddr resp.nodeIp resp.nodePort with
  | some addr => .ok addr
  | none => .error ("Invalid relay address: " ++ socketAddrParseError)

def SessionStartResponse.backupRelayAddr (resp : SessionStartResponse) : Option SocketAddr :=
  match resp.backupNodeIp, resp.backupNodePort with
  | some ip, some port => nodeAddr ip port
  | _, _ => none

/-- The first address and the first port of a profile, or the unspecified address. -/
def firstTarget (ips ports : List String) : String :=
  match ips, ports with
  | ip :: _, port :: _ => ip ++ ":" ++ port
  | _, _ => "0.0.0.0:0"

/-- Start the localhost proxy for a session. -/
def openProxy (resp : SessionStartResponse) (relayAddr : SocketAddr) (target : String)
    (port : UInt16) (results : UdpProxy.StartResults) : Except String ActiveBoost :=
  (UdpProxy.start resp.sessionToken relayAddr resp.backupRelayAddr target port
    resp.multipathEnabled results).map fun started => .Proxy started.1

def ActiveBoost.localPort : ActiveBoost → Option UInt16
  | .Proxy proxy => some proxy.localPort
  | .WinDivert => none

section Commands

variable {σ : Type} (windows : Bool) (api : Api σ)

/-- The boost `cmd_start_boost` opens for a session: WinDivert where it is wanted and
the profile allows it, otherwise, or when it fails, the localhost proxy. -/
def openBoost (resp : SessionStartResponse) (relayAddr : SocketAddr) (args : StartArgs)
    (outcome : StartOutcome) : Except String ActiveBoost :=
  let wantWindivert := args.useWindivert.getD windows
  let target := args.gameServerTarget.getD (firstTarget resp.gameServerIps resp.gamePorts)
  let port := args.localPort.getD 27015
  let proxy := openProxy resp relayAddr target port outcome.proxy
  if wantWindivert && !resp.gameServerIps.isEmpty && !resp.gamePorts.isEmpty && windows then
    match outcome.winDivert with
    | .ok () => .ok .WinDivert
    | .error _ => proxy
  else proxy

/-- The boost `auto_connect` opens for a session. -/
def openAutoBoost (resp : SessionStartResponse) (relayAddr : SocketAddr) (game : GameProfile)
    (outcome : StartOutcome) : Except String ActiveBoost :=
  let target := firstTarget game.serverIps game.ports
  let port := match game.ports.head? with
    | none => 27015
    | some p => (parseU16 p.toList).toOption.getD 27015
  let proxy := openProxy resp relayAddr target port outcome.proxy
  if windows && !resp.gameServerIps.isEmpty && !resp.gamePorts.isEmpty then
    match outcome.winDivert with
    | .ok () => .ok .WinDivert
    | .error _ => proxy
  else proxy

/-- What both ways to start have in common: the API session, the new tokens, the relay
address, the boost, and only then the two fields that remember the session. -/
def startWith (app : AppState) (server : σ) (request : SessionStartRequest)
    (openWith : SessionStartResponse → SocketAddr → Except String ActiveBoost)
    (exchange : Exchange) :
    AppState × σ × Except String (SessionStartResponse × ActiveBoost) :=
  match app.tokens with
  | none => (app, server, .error "Not authenticated")
  | some _ =>
      match withAutoRefresh exchange (api.startSession · request) server with
      | (server, .error e) => (app, server, .error e.message)
      | (server, .ok (resp, newTokens)) =>
          let app := { app with tokens := newTokens.or app.tokens }
          match resp.relayAddr with
          | .error e => (app, server, .error e)
          | .ok relayAddr =>
              match openWith resp relayAddr with
              | .error e => (app, server, .error e)
              | .ok boost =>
                  ({ app with
                    activeProxy := some boost
                    activeSessionId := some resp.sessionId }, server, .ok (resp, boost))

def cmdStartBoost (app : AppState) (server : σ) (args : StartArgs) (outcome : StartOutcome) :
    AppState × σ × Except String BoostStatus :=
  -- Check if already connected
  if app.activeProxy.isSome then
    (app, server, .error "Already connected. Stop current session first.")
  else
    let request : SessionStartRequest := ⟨args.gameSlug, args.nodeId, args.multipath⟩
    let (app, server, result) := startWith api app server request
      (fun resp relayAddr => openBoost windows resp relayAddr args outcome) outcome.exchange
    (app, server, result.map fun started =>
      { connected := true
        sessionId := some started.1.sessionId
        localPort := started.2.localPort
        multipathEnabled := started.1.multipathEnabled
        mode := started.2.mode })

/-- The monitor connects only while no boost is active; the result is the local port. -/
def autoConnect (app : AppState) (server : σ) (game : GameProfile) (nodeId : Id)
    (multipath : Bool) (outcome : StartOutcome) :
    AppState × σ × Option (Except String UInt16) :=
  if app.activeProxy.isSome then (app, server, none)
  else
    let request : SessionStartRequest := ⟨game.slug, nodeId, some multipath⟩
    let (app, server, result) := startWith api app server request
      (fun resp relayAddr => openAutoBoost windows resp relayAddr game outcome) outcome.exchange
    (app, server, some (result.map fun started => started.2.localPort.getD 0))

/-- Close the boost, forget the session, and ask the API to stop it. Whether that
succeeds is not looked at. -/
def stopWith (app : AppState) (server : σ) (exchange : Exchange) : AppState × σ :=
  let forgotten := { app with activeProxy := none, activeSessionId := none }
  match app.activeSessionId, app.tokens with
  | some sessionId, some _ =>
      (forgotten, (withAutoRefresh exchange (api.stopSession · sessionId) server).1)
  | _, _ => (forgotten, server)

def cmdStopBoost (app : AppState) (server : σ) (exchange : Exchange) :
    AppState × σ × BoostStatus :=
  let (app, server) := stopWith api app server exchange
  (app, server,
    { connected := false
      sessionId := none
      localPort := none
      multipathEnabled := false
      mode := "none" })

/-- The monitor's reaction to a closed game. -/
def autoDisconnect (app : AppState) (server : σ) (exchange : Exchange) : AppState × σ :=
  if app.activeProxy.isSome then stopWith api app server exchange else (app, server)

end Commands

/-! ## What a start can do -/

section Start

variable {σ : Type} {api : Api σ} {app : AppState} {server : σ} {request : SessionStartRequest}
variable {openWith : SessionStartResponse → SocketAddr → Except String ActiveBoost}
variable {exchange : Exchange}

/-- Everything a start needs from its surroundings, up to the opened boost. -/
def Opens (api : Api σ) (server : σ) (request : SessionStartRequest)
    (openWith : SessionStartResponse → SocketAddr → Except String ActiveBoost)
    (exchange : Exchange) (resp : SessionStartResponse) (boost : ActiveBoost) : Prop :=
  exchange.decisive = .answered ∧ (api.startSession server request).2 = .ok resp ∧
    ∃ relayAddr, resp.relayAddr = .ok relayAddr ∧ openWith resp relayAddr = .ok boost

/-- A start either remembers the session it has opened a boost for, or remembers
nothing, whatever its request did on the server. -/
theorem startWith_cases (loggedIn : app.tokens.isSome)
    (accepts : ∀ server, (api.startSession server request).2 ≠ .error .unauthorized) :
    (∃ resp boost tokens, Opens api server request openWith exchange resp boost ∧
      tokens.isSome ∧
      startWith api app server request openWith exchange =
        (⟨tokens, some boost, some resp.sessionId⟩, (api.startSession server request).1,
          .ok (resp, boost))) ∨
    (∀ resp boost, ¬ Opens api server request openWith exchange resp boost) ∧
      ∃ tokens e, tokens.isSome ∧
        startWith api app server request openWith exchange =
          (⟨tokens, app.activeProxy, app.activeSessionId⟩,
            if exchange.decisive.handled then (api.startSession server request).1 else server,
            .error e) := by
  obtain ⟨tokens, activeProxy, activeSessionId⟩ := app
  obtain ⟨tokens, rfl⟩ := Option.isSome_iff_exists.mp loggedIn
  rcases withAutoRefresh_cases exchange accepts server with
    ⟨answered, renewed, call⟩ | ⟨text, lost, call⟩ | ⟨unhandled, e, call⟩
  · have handled : exchange.decisive.handled = true := by rw [answered]; rfl
    cases answer : (api.startSession server request).2 with
    | error e =>
        refine .inr ⟨fun resp boost opens => ?_, some tokens, e.message, rfl, ?_⟩
        · rw [Opens, answer] at opens
          cases opens.2.1
        · rw [answer] at call
          simp only [startWith, call, Except.map, handled, if_true]
    | ok resp =>
        have tokens' : (renewed.or (some tokens)).isSome := by cases renewed <;> rfl
        rw [answer] at call
        cases addr : resp.relayAddr with
        | error e =>
            refine .inr ⟨fun resp' boost opens => ?_, _, e, tokens', ?_⟩
            · obtain ⟨_, same, relayAddr, parsed, _⟩ := opens
              obtain rfl := Except.ok.inj (answer.symm.trans same)
              rw [addr] at parsed
              cases parsed
            · simp only [startWith, call, Except.map, handled, if_true, addr]
        | ok relayAddr =>
            cases opened : openWith resp relayAddr with
            | error e =>
                refine .inr ⟨fun resp' boost opens => ?_, _, e, tokens', ?_⟩
                · obtain ⟨_, same, relayAddr', parsed, opens⟩ := opens
                  obtain rfl := Except.ok.inj (answer.symm.trans same)
                  obtain rfl := Except.ok.inj (addr.symm.trans parsed)
                  rw [opened] at opens
                  cases opens
                · simp only [startWith, call, Except.map, handled, if_true, addr, opened]
            | ok boost =>
                refine .inl ⟨resp, boost, _, ⟨answered, answer, relayAddr, addr, opened⟩,
                  tokens', ?_⟩
                simp only [startWith, call, Except.map, addr, opened]
  · refine .inr ⟨fun resp boost opens => ?_, some tokens, (ApiError.network text).message, rfl,
      ?_⟩
    · rw [Opens, lost] at opens
      cases opens.1
    · have handled : exchange.decisive.handled = true := by rw [lost]; rfl
      simp only [startWith, call, handled, if_true]
  · refine .inr ⟨fun resp boost opens => ?_, some tokens, e.message, rfl, ?_⟩
    · rw [opens.1] at unhandled
      cases unhandled
    · simp only [startWith, call, unhandled, Bool.false_eq_true, if_false]

end Start

end PlgBooster.Client
