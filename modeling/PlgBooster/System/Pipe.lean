import PlgBooster.Library.Machine
import PlgBooster.Client.UdpProxy
import PlgBooster.Relay.System
import Mathlib.Logic.Function.Basic

/-!
# What a tunnel is for

A boost is a pipe between the game and the servers of its session. What the game sends is
said once on every path; what the network lets through of it leaves at the far end as it went
in, while the session's gate at the relay of the path is open and has a target. The way back
lets one answer through, for the answers bear no numbers of their own.

There are no packets, sequence numbers, maps or other sessions here. The network may lose,
repeat and reorder: it lets anything through that was said before, at any time.
-/

namespace PlgBooster.System

open Rust Relay Client

/-- What the proxy says to the relays. -/
inductive Message where
  | data (payload : List UInt8)
  /-- The relay cannot read every request for a target. -/
  | control (target : Option SocketAddr)
  | keepalive
  deriving DecidableEq

def Message.payload : Message → Option (List UInt8)
  | .data payload => some payload
  | _ => none

/-- The open gate of the session at one relay. -/
structure Gate where
  port : UInt16
  whitelist : List String
  client : SocketAddr
  seen : Instant
  target : Option SocketAddr

/-- A message that arrives, with what goes on to a server. -/
def Gate.hear (gate : Gate) (source : SocketAddr) (now : Instant) :
    Message → Gate × Option (List UInt8 × SocketAddr)
  | .data payload =>
      ({ gate with client := source, seen := now }, gate.target.map fun target => (payload, target))
  | .control (some target) =>
      if target.ip.display ∈ gate.whitelist then
        ({ gate with client := source, seen := now, target := some target }, none)
      else ({ gate with client := source, seen := now }, none)
  | .control none => ({ gate with client := source, seen := now }, none)
  | .keepalive => ({ gate with client := source, seen := now }, none)

/-- Only data goes on, as it came, to the target of the gate. -/
theorem Gate.hear_passes {gate : Gate} {source : SocketAddr} {now : Instant} {message : Message}
    {passed : List UInt8 × SocketAddr} (goes : (gate.hear source now message).2 = some passed) :
    message = .data passed.1 ∧ gate.target = some passed.2 := by
  cases message with
  | data payload =>
      obtain ⟨target, current, rfl⟩ := Option.map_eq_some_iff.mp goes
      exact ⟨rfl, current⟩
  | control target =>
      cases target with
      | none => cases goes
      | some target =>
          simp only [hear] at goes
          split_ifs at goes
  | keepalive => cases goes

/-- A gate keeps its port and its whitelist, and a new target is on the list. -/
theorem Gate.hear_frame (gate : Gate) (source : SocketAddr) (now : Instant) (message : Message) :
    (gate.hear source now message).1.port = gate.port ∧
      (gate.hear source now message).1.whitelist = gate.whitelist ∧
      ∀ target, (gate.hear source now message).1.target = some target →
        gate.target = some target ∨ target.ip.display ∈ gate.whitelist := by
  cases message with
  | data payload => exact ⟨rfl, rfl, fun _ current => .inl current⟩
  | control target =>
      cases target with
      | none => exact ⟨rfl, rfl, fun _ current => .inl current⟩
      | some requested =>
          simp only [hear]
          split_ifs with allowed
          · refine ⟨rfl, rfl, fun target current => .inr ?_⟩
            obtain rfl := Option.some.inj current
            exact allowed
          · exact ⟨rfl, rfl, fun _ current => .inl current⟩
  | keepalive => exact ⟨rfl, rfl, fun _ current => .inl current⟩

/-- Another step of the relay, for the session that goes by `token` and whose proxy is reached
at the `owned` addresses: the gate may close, and a server may answer. -/
def Gate.meet (token : UInt32) (owned : SocketAddr → Bool) (timeout : Duration) (gate : Gate) :
    Relay.Event → Option Gate × List (List UInt8)
  | .gameDatagram port payload _ =>
      (some gate,
        if port = gate.port ∧ gate.client.port ≠ 0 ∧ owned gate.client = true then [payload]
        else [])
  | .unregister u => (if u = token then none else some gate, [])
  | .cleanup now => (if now.durationSince gate.seen > timeout then none else some gate, [])
  | _ => (some gate, [])

/-- The gate stays as it is unless it closes, and what a server answers was sent to its port. -/
theorem Gate.meet_spec {token : UInt32} {owned : SocketAddr → Bool} (timeout : Duration)
    (gate : Gate) (event : Relay.Event) :
    (∀ gate', (gate.meet token owned timeout event).1 = some gate' → gate' = gate) ∧
      ∀ payload ∈ (gate.meet token owned timeout event).2,
        ∃ result, event = .gameDatagram gate.port payload result := by
  cases event with
  | gameDatagram port payload result =>
      refine ⟨fun gate' same => (Option.some.inj same).symm, fun answer member => ?_⟩
      simp only [meet] at member
      split_ifs at member with mine
      · obtain rfl := List.mem_singleton.mp member
        exact ⟨result, by rw [mine.1]⟩
      · cases member
  | unregister u =>
      refine ⟨fun gate' same => ?_, fun answer member => by cases member⟩
      simp only [meet] at same
      split_ifs at same
      exact (Option.some.inj same).symm
  | cleanup now =>
      refine ⟨fun gate' same => ?_, fun answer member => by cases member⟩
      simp only [meet] at same
      split_ifs at same
      exact (Option.some.inj same).symm
  | clientDatagram datagram source now result =>
      exact ⟨fun gate' same => (Option.some.inj same).symm, fun answer member => by cases member⟩
  | register u ips ports bind now =>
      exact ⟨fun gate' same => (Option.some.inj same).symm, fun answer member => by cases member⟩

structure Pipe where
  paths : List RelaySocket
  /-- Where the game was last heard from. -/
  game : Option SocketAddr
  /-- An answer has come through. -/
  answered : Bool
  /-- What was said on each path, oldest first. -/
  said : RelaySocket → List Message
  /-- What the servers have answered by each relay, oldest first. -/
  answers : RelaySocket → List (List UInt8)
  timeout : RelaySocket → Duration
  gates : RelaySocket → Option Gate

inductive PipeEvent where
  | game (src : SocketAddr) (payload : List UInt8)
  | keepaliveTick (now later : Instant)
  /-- The network lets the `n`th datagram of the path through to its relay. -/
  | up (path : RelaySocket) (n : Nat) (source : SocketAddr) (now : Instant) (sendTo : SendResult)
  /-- The network lets the `n`th datagram of the path through to the proxy. -/
  | down (path : RelaySocket) (n : Nat) (now : Instant)
  /-- Any other step of the relay of the path. -/
  | relay (path : RelaySocket) (event : Relay.Event)

/-- What leaves the pipe at its ends. -/
inductive Emitted where
  | toServer (path : RelaySocket) (port : UInt16) (payload : List UInt8) (target : SocketAddr)
      (result : SendResult)
  | toGame (payload : List UInt8) (addr : SocketAddr)
  deriving DecidableEq

namespace Pipe

def say (pipe : Pipe) (message : Message) : Pipe :=
  { pipe with
    said := fun path =>
      if path ∈ pipe.paths then pipe.said path ++ [message] else pipe.said path }

/-- The pipe as the proxy starts, which asks for a target first. -/
def opened (paths : List RelaySocket) (target : Option SocketAddr)
    (timeout : RelaySocket → Duration) (gates : RelaySocket → Option Gate) : Pipe where
  paths := paths
  game := none
  answered := false
  said path := if path ∈ paths then [.control target] else []
  answers _ := []
  timeout := timeout
  gates := gates

def setGate (pipe : Pipe) (path : RelaySocket) (gate : Option Gate) : Pipe :=
  { pipe with gates := Function.update pipe.gates path gate }

def step (token : UInt32) (owned : SocketAddr → Bool) (pipe : Pipe) :
    PipeEvent → Pipe × List Emitted
  | .game src payload => ({ pipe with game := some src }.say (.data payload), [])
  | .keepaliveTick _ _ => (pipe.say .keepalive, [])
  | .up path n source now sendTo =>
      match (pipe.said path)[n]?, pipe.gates path with
      | some message, some gate =>
          let heard := gate.hear source now message
          (pipe.setGate path (some heard.1),
            (heard.2.map fun passed =>
              .toServer path gate.port passed.1 passed.2 sendTo).toList)
      | _, _ => (pipe, [])
  | .down path n _ =>
      match (pipe.answers path)[n]? with
      | some payload =>
          if path ∈ pipe.paths ∧ ¬ pipe.answered then
            ({ pipe with answered := true },
              (pipe.game.map fun addr => .toGame payload addr).toList)
          else (pipe, [])
      | none => (pipe, [])
  | .relay path event =>
      match pipe.gates path with
      | some gate =>
          let met := gate.meet token owned (pipe.timeout path) event
          ({ pipe.setGate path met.1 with
              answers := Function.update pipe.answers path (pipe.answers path ++ met.2) }, [])
      | none => (pipe, [])

end Pipe

/-! ## What is said and what gets through -/

/-- What the game sends in a run, oldest first. -/
def gamePayloads (events : List PipeEvent) : List (List UInt8) :=
  events.filterMap fun event => match event with
    | .game _ payload => some payload
    | _ => none

theorem gamePayloads_cons (event : PipeEvent) (events : List PipeEvent) :
    gamePayloads (event :: events) = gamePayloads [event] ++ gamePayloads events := by
  rw [gamePayloads, gamePayloads, gamePayloads, ← List.filterMap_append]
  rfl

/-- The datagrams of a path that the network lets through, by their numbers, in order. -/
def letThrough (path : RelaySocket) (events : List PipeEvent) : List Nat :=
  events.filterMap fun event => match event with
    | .up path' n _ _ _ => if path' = path then some n else none
    | _ => none

theorem letThrough_cons (path : RelaySocket) (event : PipeEvent) (events : List PipeEvent) :
    letThrough path (event :: events) = letThrough path [event] ++ letThrough path events := by
  rw [letThrough, letThrough, letThrough, ← List.filterMap_append]
  rfl

/-- What leaves by the relay of a path. -/
def forwardedBy (path : RelaySocket) (emitted : List Emitted) : List (List UInt8) :=
  emitted.filterMap fun out => match out with
    | .toServer path' _ payload _ _ => if path' = path then some payload else none
    | .toGame _ _ => none

/-- What the game receives. -/
def deliveredToGame (emitted : List Emitted) : List (List UInt8) :=
  emitted.filterMap fun out => match out with
    | .toServer _ _ _ _ _ => none
    | .toGame payload _ => some payload

namespace Pipe

variable (token : UInt32) (owned : SocketAddr → Bool)

/-- What is said in a step is what the game has sent, but for control and keepalives. -/
theorem said_step (pipe : Pipe) (event : PipeEvent) (path : RelaySocket) :
    ∃ added, (pipe.step token owned event).1.said path = pipe.said path ++ added ∧
      (added.filterMap Message.payload).Sublist (gamePayloads [event]) := by
  have nothing (same : (pipe.step token owned event).1.said = pipe.said) :
      ∃ added, (pipe.step token owned event).1.said path = pipe.said path ++ added ∧
        (added.filterMap Message.payload).Sublist (gamePayloads [event]) :=
    ⟨[], by rw [same, List.append_nil], List.nil_sublist _⟩
  cases event with
  | game src payload =>
      by_cases speaks : path ∈ pipe.paths
      · exact ⟨[.data payload], by simp [step, say, speaks], List.Sublist.refl [payload]⟩
      · exact ⟨[], by simp [step, say, speaks], List.nil_sublist _⟩
  | keepaliveTick now later =>
      by_cases speaks : path ∈ pipe.paths
      · exact ⟨[.keepalive], by simp [step, say, speaks], List.Sublist.refl []⟩
      · exact ⟨[], by simp [step, say, speaks], List.nil_sublist _⟩
  | up path' n source now sendTo =>
      apply nothing
      simp only [step]
      split <;> rfl
  | down path' n now =>
      apply nothing
      simp only [step]
      split
      · split_ifs <;> rfl
      · rfl
  | relay path' event =>
      apply nothing
      simp only [step]
      split <;> rfl

theorem said_run (pipe : Pipe) (events : List PipeEvent) (path : RelaySocket) :
    ∃ added, (Machine.run (step token owned) pipe events).1.said path =
        pipe.said path ++ added ∧
      (added.filterMap Message.payload).Sublist (gamePayloads events) := by
  induction events generalizing pipe with
  | nil => exact ⟨[], (List.append_nil _).symm, List.Sublist.refl _⟩
  | cons event events ih =>
      obtain ⟨here, said, sent⟩ := said_step token owned pipe event path
      obtain ⟨later, said', sent'⟩ := ih (pipe.step token owned event).1
      refine ⟨here ++ later, ?_, ?_⟩
      · rw [Machine.run_cons, said', said, List.append_assoc]
      · rw [List.filterMap_append, gamePayloads_cons]
        exact sent.append sent'

/-- A datagram leaves when the network lets it through, and as it was said. -/
theorem forwardedBy_step (pipe : Pipe) (event : PipeEvent) (path : RelaySocket) :
    forwardedBy path (pipe.step token owned event).2 = [] ∨
      ∃ n source now sendTo payload, event = .up path n source now sendTo ∧
        (pipe.said path)[n]? = some (.data payload) ∧
        forwardedBy path (pipe.step token owned event).2 = [payload] := by
  cases event with
  | game src payload => exact .inl rfl
  | keepaliveTick now later => exact .inl rfl
  | up path' n source now sendTo =>
      cases said : (pipe.said path')[n]? with
      | none => exact .inl (by simp [step, said, forwardedBy])
      | some message =>
          cases gate : pipe.gates path' with
          | none => exact .inl (by simp [step, said, gate, forwardedBy])
          | some gate' =>
              cases goes : (gate'.hear source now message).2 with
              | none => exact .inl (by simp [step, said, gate, goes, forwardedBy])
              | some passed =>
                  obtain ⟨rfl, _⟩ := Gate.hear_passes goes
                  by_cases same : path' = path
                  · subst same
                    exact .inr ⟨n, source, now, sendTo, passed.1, rfl, said,
                      by simp [step, said, gate, goes, forwardedBy]⟩
                  · exact .inl (by simp [step, said, gate, goes, forwardedBy, same])
  | down path' n now =>
      left
      simp only [step]
      split
      · split_ifs
        · cases pipe.game <;> rfl
        · rfl
      · rfl
  | relay path' event =>
      left
      simp only [step]
      split <;> rfl

/-- Where the network keeps the order of a path, and lets nothing through twice, what leaves is
a subsequence of what was said from the first number on that it lets through. -/
theorem forwardedBy_run (pipe : Pipe) (events : List PipeEvent) (path : RelaySocket) (m : Nat)
    (inOrder : (letThrough path events).Pairwise (· < ·))
    (above : ∀ n ∈ letThrough path events, m ≤ n) :
    (forwardedBy path (Machine.run (step token owned) pipe events).2).Sublist
      ((((Machine.run (step token owned) pipe events).1.said path).drop m).filterMap
        Message.payload) := by
  induction events generalizing pipe m with
  | nil => exact List.nil_sublist _
  | cons event events ih =>
      rw [letThrough_cons] at inOrder above
      rw [Machine.run_cons, forwardedBy, List.filterMap_append, ← forwardedBy, ← forwardedBy]
      rcases forwardedBy_step token owned pipe event path with
        silent | ⟨n, source, now, sendTo, payload, rfl, said, leaves⟩
      · rw [silent, List.nil_append]
        exact ih _ m (List.pairwise_append.mp inOrder).2.1
          fun n member => above n (List.mem_append_right _ member)
      · have first : letThrough path [.up path n source now sendTo] = [n] := by
          simp [letThrough]
        rw [first, List.singleton_append] at inOrder above
        obtain ⟨before, inOrder⟩ := List.pairwise_cons.mp inOrder
        let next := (pipe.step token owned (.up path n source now sendTo)).1
        have later := ih next (n + 1) inOrder before
        -- What was said under `n` is still there at the end of the run.
        have kept : ((Machine.run (step token owned) next events).1.said path)[n]? =
            some (.data payload) := by
          obtain ⟨here, grows, _⟩ := said_step token owned pipe
            (.up path n source now sendTo) path
          obtain ⟨rest, grows', _⟩ := said_run token owned next events path
          obtain ⟨inside, _⟩ := List.getElem?_eq_some_iff.mp said
          rw [grows', grows, List.append_assoc, List.getElem?_append_left inside, said]
        obtain ⟨inside, found⟩ := List.getElem?_eq_some_iff.mp kept
        have whole : payload :: (((Machine.run (step token owned) next events).1.said path).drop
            (n + 1)).filterMap Message.payload =
              (((Machine.run (step token owned) next events).1.said path).drop n).filterMap
                Message.payload := by
          rw [List.drop_eq_getElem_cons inside, found]
          rfl
        rw [leaves, List.singleton_append]
        refine (later.cons_cons payload).trans ?_
        rw [whole]
        exact (List.drop_sublist_drop_left _ (above n List.mem_cons_self)).filterMap _

theorem forwardedBy_opened (paths : List RelaySocket) (target : Option SocketAddr)
    (timeout : RelaySocket → Duration) (gates : RelaySocket → Option Gate)
    (events : List PipeEvent) (path : RelaySocket)
    (inOrder : (letThrough path events).Pairwise (· < ·)) :
    (forwardedBy path
      (Machine.run (step token owned) (opened paths target timeout gates) events).2).Sublist
        (gamePayloads events) := by
  have leaves := forwardedBy_run token owned
    (opened paths target timeout gates) events path 0 inOrder fun _ _ => Nat.zero_le _
  obtain ⟨added, said, sent⟩ := said_run token owned
    (opened paths target timeout gates) events path
  have control : ((opened paths target timeout gates).said path).filterMap Message.payload =
      [] := by
    simp only [opened]
    split_ifs <;> rfl
  rw [said, List.drop_zero, List.filterMap_append, control, List.nil_append] at leaves
  exact leaves.trans sent

/-! ## The way back -/

/-- After an answer nothing else gets through to the game. -/
theorem deliveredToGame_step (pipe : Pipe) (event : PipeEvent) :
    (deliveredToGame (pipe.step token owned event).2).length +
      (if pipe.answered then 1 else 0) ≤
        if (pipe.step token owned event).1.answered then 1 else 0 := by
  have silent (same : (pipe.step token owned event).1.answered = pipe.answered)
      (nothing : deliveredToGame (pipe.step token owned event).2 = []) :
      (deliveredToGame (pipe.step token owned event).2).length +
        (if pipe.answered then 1 else 0) ≤
          if (pipe.step token owned event).1.answered then 1 else 0 := by
    rw [same, nothing, List.length_nil, Nat.zero_add]
  cases event with
  | game src payload => exact silent rfl rfl
  | keepaliveTick now later => exact silent rfl rfl
  | up path n source now sendTo =>
      apply silent
      · simp only [step]
        split <;> rfl
      · simp only [step]
        split
        · rename_i message gate _ _
          cases (gate.hear source now message).2 <;> rfl
        · rfl
  | down path n now =>
      cases waiting : (pipe.answers path)[n]? with
      | none =>
          exact silent (by simp [step, waiting]) (by simp [step, waiting, deliveredToGame])
      | some payload =>
          by_cases first : path ∈ pipe.paths ∧ ¬ pipe.answered
          · cases known : pipe.game with
            | none => simp [step, waiting, first, known, deliveredToGame]
            | some addr => simp [step, waiting, first, known, deliveredToGame]
          · apply silent
            · simp only [step, waiting, if_neg first]
            · simp only [step, waiting, if_neg first]
              rfl
  | relay path event =>
      apply silent
      · simp only [step]
        split <;> rfl
      · simp only [step]
        split <;> rfl

/-- At most one answer gets through to the game, whatever the network does. -/
theorem deliveredToGame_run (pipe : Pipe) (events : List PipeEvent) :
    (deliveredToGame (Machine.run (step token owned) pipe events).2).length +
      (if pipe.answered then 1 else 0) ≤ 1 := by
  induction events generalizing pipe with
  | nil =>
      simp only [Machine.run_nil, deliveredToGame, List.filterMap_nil, List.length_nil]
      split_ifs <;> omega
  | cons event events ih =>
      have here := deliveredToGame_step token owned pipe event
      have later := ih (pipe.step token owned event).1
      rw [Machine.run_cons, deliveredToGame, List.filterMap_append, List.length_append,
        ← deliveredToGame, ← deliveredToGame]
      omega

/-! ## Where things come from -/

/-- Where what is in the pipe comes from, in a run with these events that starts with the gates
of `first`. -/
structure Sourced (first : RelaySocket → Option Gate) (events : List PipeEvent) (pipe : Pipe) :
    Prop where
  said : ∀ path payload, .data payload ∈ pipe.said path → ∃ src, .game src payload ∈ events
  game : ∀ addr, pipe.game = some addr → ∃ payload, .game addr payload ∈ events
  answers : ∀ path payload, payload ∈ pipe.answers path → ∃ gate result,
    first path = some gate ∧ .relay path (.gameDatagram gate.port payload result) ∈ events
  gates : ∀ path gate, pipe.gates path = some gate → ∃ gate₀, first path = some gate₀ ∧
    gate.port = gate₀.port ∧ gate.whitelist = gate₀.whitelist ∧
      ∀ target, gate.target = some target →
        gate₀.target = some target ∨ target.ip.display ∈ gate₀.whitelist

/-- A datagram for a server was sent by the game, and leaves from the port of the session to its
first target or to another one on the whitelist. An answer was sent to that port, and goes where
the game was heard from. -/
def Genuine (first : RelaySocket → Option Gate) (events : List PipeEvent) : Emitted → Prop
  | .toServer path port payload target _ =>
      (∃ src, .game src payload ∈ events) ∧
        ∃ gate, first path = some gate ∧ port = gate.port ∧
          (gate.target = some target ∨ target.ip.display ∈ gate.whitelist)
  | .toGame payload addr =>
      (∃ sent, .game addr sent ∈ events) ∧ ∃ path gate result, first path = some gate ∧
        .relay path (.gameDatagram gate.port payload result) ∈ events

section Sourced

variable {token owned}
variable {first : RelaySocket → Option Gate} {events : List PipeEvent} {pipe : Pipe}

theorem Sourced.say (sourced : pipe.Sourced first events) {message : Message}
    (sent : ∀ payload, message = .data payload → ∃ src, .game src payload ∈ events) :
    (pipe.say message).Sourced first events := by
  refine ⟨fun path payload member => ?_, sourced.game, sourced.answers, sourced.gates⟩
  simp only [Pipe.say] at member
  split_ifs at member
  · rcases List.mem_append.mp member with before | new
    · exact sourced.said path payload before
    · exact sent payload (List.mem_singleton.mp new).symm
  · exact sourced.said path payload member

theorem Sourced.setGate (sourced : pipe.Sourced first events) (path : RelaySocket)
    {gate : Option Gate}
    (kept : ∀ gate', gate = some gate' → ∃ gate₀, first path = some gate₀ ∧
      gate'.port = gate₀.port ∧ gate'.whitelist = gate₀.whitelist ∧
        ∀ target, gate'.target = some target →
          gate₀.target = some target ∨ target.ip.display ∈ gate₀.whitelist) :
    (pipe.setGate path gate).Sourced first events := by
  refine ⟨sourced.said, sourced.game, sourced.answers, fun path' gate' found => ?_⟩
  simp only [Pipe.setGate, Function.update_apply] at found
  split_ifs at found with same
  · subst same
    exact kept gate' found
  · exact sourced.gates path' gate' found

theorem sourced_step (sourced : pipe.Sourced first events) {event : PipeEvent}
    (member : event ∈ events) :
    (pipe.step token owned event).1.Sourced first events ∧
      ∀ out ∈ (pipe.step token owned event).2, Genuine first events out := by
  cases event with
  | game src payload =>
      have heard : Pipe.Sourced first events { pipe with game := some src } :=
        ⟨sourced.said, fun addr same => ⟨payload, Option.some.inj same ▸ member⟩,
          sourced.answers, sourced.gates⟩
      refine ⟨heard.say fun payload' same => ⟨src, ?_⟩, by simp [step]⟩
      obtain rfl := Message.data.inj same
      exact member
  | keepaliveTick now later =>
      exact ⟨sourced.say fun _ same => (by cases same), by simp [step]⟩
  | up path n source now sendTo =>
      cases said : (pipe.said path)[n]? with
      | none => exact ⟨by simpa [step, said] using sourced, by simp [step, said]⟩
      | some message =>
          cases found : pipe.gates path with
          | none => exact ⟨by simpa [step, said, found] using sourced, by simp [step, said, found]⟩
          | some gate =>
              obtain ⟨gate₀, first', port, whitelist, allowed⟩ := sourced.gates path gate found
              obtain ⟨port', whitelist', target'⟩ := gate.hear_frame source now message
              simp only [step, said, found]
              refine ⟨sourced.setGate path fun gate' same => ?_, fun out leaves => ?_⟩
              · obtain rfl := Option.some.inj same
                refine ⟨gate₀, first', port'.trans port, whitelist'.trans whitelist, ?_⟩
                intro target current
                exact (target' target current).elim (allowed target) fun listed =>
                  .inr (whitelist ▸ listed)
              · obtain ⟨passed, goes, rfl⟩ := Option.map_eq_some_iff.mp
                  (Option.mem_toList.mp leaves)
                obtain ⟨rfl, target⟩ := Gate.hear_passes goes
                exact ⟨sourced.said path passed.1 (List.mem_of_getElem? said), gate₀, first', port,
                  allowed passed.2 target⟩
  | down path n now =>
      cases waiting : (pipe.answers path)[n]? with
      | none => exact ⟨by simpa [step, waiting] using sourced, by simp [step, waiting]⟩
      | some payload =>
          simp only [step, waiting]
          split_ifs
          · refine ⟨⟨sourced.said, sourced.game, sourced.answers, sourced.gates⟩, ?_⟩
            intro out leaves
            obtain ⟨addr, known, rfl⟩ := Option.map_eq_some_iff.mp (Option.mem_toList.mp leaves)
            exact ⟨sourced.game addr known, path,
              sourced.answers path payload (List.mem_of_getElem? waiting)⟩
          · exact ⟨sourced, by simp⟩
  | relay path event =>
      cases found : pipe.gates path with
      | none => exact ⟨by simpa [step, found] using sourced, by simp [step, found]⟩
      | some gate =>
          obtain ⟨gate₀, first', port, whitelist, allowed⟩ := sourced.gates path gate found
          obtain ⟨remains, answered⟩ := gate.meet_spec (pipe.timeout path) event
          have gated := sourced.setGate path fun gate' same =>
            ⟨gate₀, first', remains gate' same ▸ ⟨port, whitelist, allowed⟩⟩
          simp only [step, found]
          refine ⟨⟨gated.said, gated.game, fun path' payload answer => ?_, gated.gates⟩, by simp⟩
          simp only [Function.update_apply] at answer
          split_ifs at answer with same
          · subst same
            rcases List.mem_append.mp answer with before | new
            · exact sourced.answers path' payload before
            · obtain ⟨result, rfl⟩ := answered payload new
              exact ⟨gate₀, result, first', port ▸ member⟩
          · exact sourced.answers path' payload answer

theorem sourced_opened (paths : List RelaySocket) (target : Option SocketAddr)
    (timeout : RelaySocket → Duration) (gates : RelaySocket → Option Gate)
    (events : List PipeEvent) :
    (opened paths target timeout gates).Sourced gates events := by
  refine ⟨fun path payload member => ?_, fun _ known => ?_, fun _ _ member => ?_,
    fun path gate found => ⟨gate, found, rfl, rfl, fun _ current => .inl current⟩⟩
  · simp only [opened] at member
    split_ifs at member <;> simp at member
  · cases known
  · cases member

/-- Whatever leaves the pipe was put in at the other end. -/
theorem genuine_run (sourced : pipe.Sourced first events) :
    ∀ out ∈ (Machine.run (step token owned) pipe events).2, Genuine first events out :=
  Machine.run_outputs (Pipe.Sourced first events)
    (fun _ _ kept member => (sourced_step kept member).1)
    (fun _ _ kept member => (sourced_step kept member).2) sourced (Machine.legal_mem pipe events)

end Sourced

end Pipe

end PlgBooster.System
