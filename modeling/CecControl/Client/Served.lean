/-
# What clients are told

The invariant follows a command from its client to the daemon and back. On a client's connection
there is at most the one datagram, and nothing else before it has been read; what was read there is
the client's command; what was sent there is the answer to it. The rest is that no step of one party
disturbs what holds of the connections of the others.
-/

import CecControl.Client.Conversation
import CecControl.Daemon.Answers
import CecControl.Daemon.ClientAgreement

namespace CecControl

open Lib

namespace Service

/-- An event that reads takes the oldest datagram of a connection, and hands on no other. -/
theorem receives_cases {v : Service} {inbox inbox' : ℕ → List (List UInt8)} {id : ℕ}
    {events : EventMask} {io : SessionIO} (h : v.receives inbox id events io = some inbox') :
    inbox' = inbox ∧ v.handedOn id events io = none ∨
      ∃ peer bytes rest, inbox peer = bytes :: rest ∧ inbox' = Function.update inbox peer rest ∧
        (v.handedOn id events io = none ∨
          ∃ server session message, v.reading id events io = some (server, session) ∧
            server.peers session.fd = some peer ∧ v.handedOn id events io = some message ∧
            Message.deserialize bytes = some message) := by
  unfold receives at h
  cases hreading : v.reading id events io with
  | none =>
      simp only [hreading, Option.some.injEq] at h
      exact .inl ⟨h.symm, by simp [handedOn, hreading]⟩
  | some read =>
      obtain ⟨server, session⟩ := read
      have hhandedOn : v.handedOn id events io =
          (server.readRequest id session v.daemon.requests io.request).2 := by
        simp [handedOn, hreading]
      have hnothing (hrecv : ∀ bytes, io.request.recv = .received bytes → bytes = []) :
          v.handedOn id events io = none := by
        rw [hhandedOn, Option.eq_none_iff_forall_ne_some]
        intro message hmessage
        obtain ⟨bytes, hbytes, hne, -⟩ := SocketServer.received_of_readRequest hmessage
        exact hne (hrecv bytes hbytes)
      simp only [hreading] at h
      cases hrecv : io.request.recv with
      | again | failed =>
          simp only [hrecv, Option.some.injEq] at h
          exact .inl ⟨h.symm, hnothing (by simp [hrecv])⟩
      | received bytes =>
          cases bytes with
          | nil =>
              simp only [hrecv, Option.some.injEq] at h
              exact .inl ⟨h.symm, hnothing (by simp [hrecv])⟩
          | cons byte bytes =>
              simp only [hrecv] at h
              split at h
              · cases h
              · next peer hpeer =>
                  split at h
                  · cases h
                  · next first rest hinbox =>
                      split_ifs at h with hfirst
                      refine .inr ⟨peer, first, rest, hinbox, (Option.some.inj h).symm, ?_⟩
                      cases hhanded : v.handedOn id events io with
                      | none => exact .inl rfl
                      | some message =>
                          obtain ⟨datagram, hdatagram, -, hdecode⟩ :=
                            SocketServer.received_of_readRequest (hhandedOn.symm.trans hhanded)
                          obtain rfl : byte :: bytes = datagram := by simpa [hrecv] using hdatagram
                          exact .inr ⟨server, session, message, rfl, hpeer, rfl, hfirst ▸ hdecode⟩

end Service

namespace Conversation

variable (strerror : ℕ → String)

/-! ## What holds of it -/

/-- Nothing has been read on a connection. -/
def Unread (s : Conversation) (peer : ℕ) : Prop :=
  ∀ session request, (session, some peer, request) ∉ s.service.server.asked

/-- The connection of a client carries its command at most once, and what was read there is that
command. -/
structure Held (s : Conversation) (c : ClientProcess) (peer : ℕ) : Prop where
  known : peer < s.connected
  own : peer ∉ s.strangers
  inbox : s.inbox peer = [] ∨
    c.phase.sent = true ∧ s.inbox peer = [c.command.serialize] ∧ s.Unread peer
  unsent : c.phase.sent = false → s.Unread peer
  once : ∀ {session request session' request'},
    (session, some peer, request) ∈ s.service.server.asked →
    (session', some peer, request') ∈ s.service.server.asked → request = request'
  handed : ∀ {session request}, (session, some peer, request) ∈ s.service.server.asked →
    s.handed[request]? = some c.command

/-- What the report of a client that is done stands for. -/
inductive Told (s : Conversation) (command : Message) : Option ℕ → Bool → Report → Prop
  /-- There was no connection. -/
  | unreachable (err : ClientError)
      (hkind : err.kind ∈ [.daemonUnavailable, .connectTimeout, .connectFailed]) :
      Told s command none false (CECClient.renderConnectError strerror err)
  /-- The command did not go out. -/
  | unsent (peer : ℕ) (err : ClientError) (hkind : err.kind = .sendFailed) :
      Told s command (some peer) false (CECClient.renderTransportError strerror err)
  /-- It did, and nothing came back. -/
  | unanswered (peer : ℕ) (err : ClientError)
      (hkind : err.kind ∈ [.peerClosed, .responseTimeout, .receiveFailed]) :
      Told s command (some peer) true (CECClient.renderTransportError strerror err)
  /-- The daemon was handed the command as a request, and this is its answer to it. -/
  | answered (peer session request : ℕ) (response : Message)
      (hasked : (session, some peer, request) ∈ s.service.server.asked)
      (hhanded : s.handed[request]? = some command)
      (hreply : (request, response) ∈ s.service.daemon.replies) (hresponse : response.IsResponse) :
      Told s command (some peer) true (CECClient.renderResponse response)

structure Conversing (s : Conversation) : Prop where
  coherent : Service.Coherent s.service
  plain : s.service.daemon.AnswersPlainly
  counted : s.handed.length = s.service.daemon.requests
  decodes : ∀ {pid c}, s.clients pid = some c →
    Message.deserialize c.command.serialize = some c.command
  held : ∀ {pid c peer}, s.clients pid = some c → c.phase.peer = some peer → s.Held c peer
  apart : ∀ {pid c pid' c' peer}, s.clients pid = some c → s.clients pid' = some c' →
    c.phase.peer = some peer → c'.phase.peer = some peer → pid = pid'
  fresh : ∀ peer, s.connected ≤ peer → s.inbox peer = [] ∧ s.Unread peer
  strange : ∀ peer ∈ s.strangers, peer < s.connected
  told : ∀ {pid c peer sent report}, s.clients pid = some c → c.phase = .exited peer sent report →
    s.Told strerror c.command peer sent report

/-- What has been read, handed on and answered stays so. -/
structure Follows (s s' : Conversation) : Prop where
  asked : s.service.server.asked ⊆ s'.service.server.asked
  handed : s.handed <+: s'.handed
  replies : s.service.daemon.replies ⊆ s'.service.daemon.replies

section Steps

variable {strerror} {s s' : Conversation}

theorem Follows.refl (s : Conversation) : Follows s s := ⟨fun _ h => h, List.prefix_rfl, fun _ h => h⟩

theorem Follows.getElem? (h : Follows s s') {request : ℕ} {m : Message}
    (hm : s.handed[request]? = some m) : s'.handed[request]? = some m := by
  obtain ⟨more, hmore⟩ := h.handed
  rw [← hmore, List.getElem?_append_left (List.getElem?_eq_some_iff.mp hm).1]
  exact hm

/-- A report stays true. -/
theorem Told.mono {command : Message} {peer : Option ℕ} {sent : Bool} {report : Report}
    (h : s.Told strerror command peer sent report) (hfollows : Follows s s') :
    s'.Told strerror command peer sent report := by
  cases h with
  | unreachable err hkind => exact .unreachable err hkind
  | unsent peer err hkind => exact .unsent peer err hkind
  | unanswered peer err hkind => exact .unanswered peer err hkind
  | answered peer session request response hread hcommand hreply hresponse =>
      exact .answered peer session request response (hfollows.asked hread)
        (hfollows.getElem? hcommand) (hfollows.replies hreply) hresponse

/-! ## Steps of the daemon -/

/-- While nothing is read the connections stay as they are. -/
theorem Held.keep {c : ClientProcess} {peer : ℕ} (h : s.Held c peer)
    (hasked : s'.service.server.asked = s.service.server.asked)
    (hconnected : s.connected ≤ s'.connected) (hown : peer ∉ s'.strangers)
    (hinbox : s'.inbox peer = s.inbox peer) (hhanded : s'.handed = s.handed) :
    s'.Held c peer where
  known := Nat.lt_of_lt_of_le h.known hconnected
  own := hown
  inbox := by simpa only [hinbox, Unread, hasked] using h.inbox
  unsent := by simpa only [Unread, hasked] using h.unsent
  once hfirst hsecond := h.once (hasked ▸ hfirst) (hasked ▸ hsecond)
  handed hread := hhanded ▸ h.handed (hasked ▸ hread)

/-- A step of the service that reads nothing. -/
theorem Conversing.service (h : Conversing strerror s) {label : Service.Label} {service : Service}
    (hlabel : ∀ io, label ≠ .event io) (hstep : s.service.step label = some service) :
    Conversing strerror { s with service := service } := by
  have hasked := Service.asked_of_step hlabel hstep
  have hdaemon : service.daemon.AnswersPlainly ∧
      service.daemon.requests = s.service.daemon.requests ∧
      s.service.daemon.replies ⊆ service.daemon.replies := by
    rcases Service.daemon_of_step hlabel hstep with heq | ⟨own, hwire, hown⟩
    · rw [heq]
      exact ⟨h.plain, rfl, fun _ hmem => hmem⟩
    · exact ⟨h.plain.step hown, Daemon.answered_of_step hwire hown⟩
  have hfollows : Follows s { s with service := service } :=
    ⟨fun _ hmem => hasked ▸ hmem, List.prefix_rfl, hdaemon.2.2⟩
  exact
    { coherent := h.coherent.step hstep
      plain := hdaemon.1
      counted := h.counted.trans hdaemon.2.1.symm
      decodes := h.decodes
      held := fun hc hpeer =>
        (h.held hc hpeer).keep hasked (Nat.le_refl _) (h.held hc hpeer).own rfl rfl
      apart := h.apart
      fresh := fun peer hpeer => by simpa only [Unread, hasked] using h.fresh peer hpeer
      strange := h.strange
      told := fun hc hphase => (h.told hc hphase).mono hfollows }

/-- An event reads nothing, or the oldest datagram of one connection, which may be a request. -/
theorem hear_cases {io : SessionIO} (hhear : s.hear io = some s') :
    ∃ service inbox handed,
      s' = { s with service := service, inbox := inbox, handed := s.handed ++ handed } ∧
      s.service.step (.event io) = some service ∧
      (inbox = s.inbox ∧ handed = [] ∧ service.server.asked = s.service.server.asked ∧
          service.daemon = s.service.daemon ∨
        ∃ peer bytes rest, s.inbox peer = bytes :: rest ∧
          inbox = Function.update s.inbox peer rest ∧
          (handed = [] ∧ service.server.asked = s.service.server.asked ∧
              service.daemon = s.service.daemon ∨
            ∃ session message, handed = [message] ∧ Message.deserialize bytes = some message ∧
              service.server.asked = s.service.server.asked ++
                [(session, some peer, s.service.daemon.requests)] ∧
              service.daemon = s.service.daemon.receive message)) := by
  unfold hear at hhear
  cases hready : s.service.ready with
  | nil => simp [hready] at hhear
  | cons first ready =>
      obtain ⟨id, events⟩ := first
      simp only [hready] at hhear
      obtain ⟨inbox, hreceives, rfl⟩ := Option.map_eq_some_iff.mp hhear
      set v : Service := { s.service with ready := ready } with hv
      have hstep : s.service.step (.event io) = some (v.onSessionEvent id events io) := by
        simp only [Service.step, hready, hv]
      refine ⟨_, inbox, _, rfl, hstep, ?_⟩
      have hasked := v.asked_onSessionEvent id events io
      have hdaemon := v.daemon_onSessionEvent id events io
      have hsilent (hnone : v.handedOn id events io = none) :
          (v.handedOn id events io).toList = [] ∧
            (v.onSessionEvent id events io).server.asked = s.service.server.asked ∧
            (v.onSessionEvent id events io).daemon = s.service.daemon := by
        rw [hnone] at hasked hdaemon ⊢
        exact ⟨rfl, by simpa using hasked, hdaemon⟩
      obtain ⟨rfl, hnone⟩ | ⟨peer, bytes, rest, hinbox, rfl, hhanded⟩ :=
        Service.receives_cases hreceives
      · exact .inl ⟨rfl, hsilent hnone⟩
      · refine .inr ⟨peer, bytes, rest, hinbox, rfl, ?_⟩
        rcases hhanded with hnone | ⟨server, session, message, hreading, hpeer, hmessage, hdecode⟩
        · exact .inl (hsilent hnone)
        · rw [hmessage] at hasked hdaemon ⊢
          refine .inr ⟨id, message, rfl, hdecode, ?_, hdaemon⟩
          simpa [hreading, hpeer] using hasked

/-- A datagram that is read leaves its inbox. -/
theorem Held.taken {c : ClientProcess} {peer other : ℕ} (h : s.Held c peer) {bytes : List UInt8}
    {rest : List (List UInt8)} (hinbox : s.inbox other = bytes :: rest) :
    Function.update s.inbox other rest peer = [] ∨
      c.phase.sent = true ∧ Function.update s.inbox other rest peer = [c.command.serialize] ∧
        s.Unread peer ∧ peer ≠ other := by
  by_cases heq : peer = other
  · subst heq
    rcases h.inbox with hempty | ⟨-, hone, -⟩
    · exact absurd (hempty.symm.trans hinbox) (by simp)
    · left
      obtain ⟨-, rfl⟩ := List.cons.inj (hone.symm.trans hinbox)
      exact Function.update_self ..
  · rw [Function.update_of_ne heq]
    exact h.inbox.imp id fun ⟨hsent, hone, hunread⟩ => ⟨hsent, hone, hunread, heq⟩

/-- A datagram is read and dropped. -/
theorem Conversing.dropped (h : Conversing strerror s) {service : Service}
    (hcoherent : Service.Coherent service)
    (hasked : service.server.asked = s.service.server.asked)
    (hdaemon : service.daemon = s.service.daemon) {inbox : ℕ → List (List UInt8)}
    (hinbox : ∀ {c peer}, s.Held c peer → inbox peer = [] ∨
      c.phase.sent = true ∧ inbox peer = [c.command.serialize] ∧ s.Unread peer)
    (hfresh : ∀ peer, s.inbox peer = [] → inbox peer = []) :
    Conversing strerror { s with service := service, inbox := inbox } := by
  have hunread {peer} (hpeer : s.Unread peer) :
      Unread { s with service := service, inbox := inbox } peer := by
    simpa only [Unread, hasked] using hpeer
  have hfollows : Follows s { s with service := service, inbox := inbox } :=
    ⟨fun _ hmem => hasked ▸ hmem, List.prefix_rfl, fun _ hmem => hdaemon ▸ hmem⟩
  exact
    { coherent := hcoherent
      plain := hdaemon ▸ h.plain
      counted := by simpa [hdaemon] using h.counted
      decodes := h.decodes
      held := fun hc hpeer => by
        have hheld := h.held hc hpeer
        exact
          { known := hheld.known
            own := hheld.own
            inbox := (hinbox hheld).imp id fun ⟨hsent, hone, hpeer⟩ => ⟨hsent, hone, hunread hpeer⟩
            unsent := fun hsent => hunread (hheld.unsent hsent)
            once := fun hfirst hsecond => hheld.once (hasked ▸ hfirst) (hasked ▸ hsecond)
            handed := fun hread => hheld.handed (hasked ▸ hread) }
      apart := h.apart
      fresh := fun peer hpeer => ⟨hfresh peer (h.fresh peer hpeer).1, hunread (h.fresh peer hpeer).2⟩
      strange := h.strange
      told := fun hc hphase => (h.told hc hphase).mono hfollows }

/-- A request is read and handed on. -/
theorem Conversing.request (h : Conversing strerror s) {service : Service}
    (hcoherent : Service.Coherent service) {other session : ℕ} {bytes : List UInt8}
    {rest : List (List UInt8)} {message : Message} (hinbox : s.inbox other = bytes :: rest)
    (hdecode : Message.deserialize bytes = some message)
    (hasked : service.server.asked = s.service.server.asked ++
      [(session, some other, s.service.daemon.requests)])
    (hdaemon : service.daemon = s.service.daemon.receive message) :
    Conversing strerror { s with
      service := service
      inbox := Function.update s.inbox other rest
      handed := s.handed ++ [message] } := by
  set s' : Conversation := { s with
    service := service
    inbox := Function.update s.inbox other rest
    handed := s.handed ++ [message] } with hs'
  have hanswering := s.service.daemon.answering_receive message
  simp only [Daemon.answering, Prod.mk.injEq, ← hdaemon] at hanswering
  have hfollows : Follows s s' :=
    ⟨fun _ hmem => hasked ▸ List.mem_append_left _ hmem, ⟨[message], rfl⟩,
      fun _ hmem => hanswering.2 ▸ List.mem_append_left _ hmem⟩
  have hread {peer session' request} (hmem : (session', some peer, request) ∈ s'.service.server.asked) :
      (session', some peer, request) ∈ s.service.server.asked ∨
        peer = other ∧ request = s.service.daemon.requests := by
    rcases List.mem_append.mp (hasked ▸ hmem) with hold | hnew
    · exact .inl hold
    · simp only [List.mem_singleton, Prod.mk.injEq, Option.some.injEq] at hnew
      exact .inr hnew.2
  have hunread {peer} (hpeer : s.Unread peer) (hne : peer ≠ other) : s'.Unread peer :=
    fun session' request hmem =>
      (hread hmem).elim (hpeer session' request) fun hnew => hne hnew.1
  have hknown {peer} (hpeer : s.connected ≤ peer) : peer ≠ other := by
    rintro rfl
    exact absurd ((h.fresh peer hpeer).1.symm.trans hinbox) (by simp)
  exact
    { coherent := hcoherent
      plain := hdaemon ▸ h.plain.receive message
      counted := by simp [hs', h.counted, hanswering.1]
      decodes := h.decodes
      held := fun {pid c peer} hc hpeer => by
        have hheld := h.held hc hpeer
        have hown : peer = other → c.phase.sent = true ∧ c.command = message ∧ s.Unread peer := by
          rintro rfl
          rcases hheld.inbox with hempty | ⟨hsent, hone, hpeer⟩
          · exact absurd (hempty.symm.trans hinbox) (by simp)
          · obtain ⟨rfl, -⟩ := List.cons.inj (hone.symm.trans hinbox)
            exact ⟨hsent, Option.some.inj ((h.decodes hc).symm.trans hdecode), hpeer⟩
        exact
          { known := hheld.known
            own := hheld.own
            inbox := by
              refine (hheld.taken hinbox).imp id ?_
              rintro ⟨hsent, hone, hpeer, hne⟩
              exact ⟨hsent, hone, hunread hpeer hne⟩
            unsent := fun hsent => by
              refine hunread (hheld.unsent hsent) fun heq => ?_
              simp [(hown heq).1] at hsent
            once := fun {session₁ request₁ session₂ request₂} hfirst hsecond => by
              rcases hread hfirst with hfirst | ⟨heq, rfl⟩ <;>
                rcases hread hsecond with hsecond | ⟨heq', rfl⟩
              · exact hheld.once hfirst hsecond
              · exact absurd hfirst ((hown heq').2.2 _ _)
              · exact absurd hsecond ((hown heq).2.2 _ _)
              · rfl
            handed := fun {session' request} hmem => by
              rcases hread hmem with hold | ⟨heq, rfl⟩
              · exact hfollows.getElem? (hheld.handed hold)
              · rw [(hown heq).2.1, hs', ← h.counted]
                simp }
      apart := h.apart
      fresh := fun peer hpeer =>
        ⟨(Function.update_of_ne (hknown hpeer) _ _).trans (h.fresh peer hpeer).1,
          hunread (h.fresh peer hpeer).2 (hknown hpeer)⟩
      strange := h.strange
      told := fun hc hphase => (h.told hc hphase).mono hfollows }

theorem Conversing.hear (h : Conversing strerror s) {io : SessionIO} (hhear : s.hear io = some s') :
    Conversing strerror s' := by
  obtain ⟨service, inbox, handed, rfl, hstep, hcases⟩ := hear_cases hhear
  have hmachine : Service.machine.step s.service (.event io) = some service := hstep
  have hcoherent : Service.Coherent service := h.coherent.step hmachine
  obtain ⟨rfl, rfl, hasked, hdaemon⟩ | ⟨other, bytes, rest, hinbox, rfl, hread⟩ := hcases
  · rw [List.append_nil]
    exact h.dropped hcoherent hasked hdaemon (fun hheld => hheld.inbox) fun _ hempty => hempty
  · obtain ⟨rfl, hasked, hdaemon⟩ | ⟨session, message, rfl, hdecode, hasked, hdaemon⟩ := hread
    · rw [List.append_nil]
      refine h.dropped hcoherent hasked hdaemon (fun hheld => ?_) fun peer hempty => ?_
      · exact (hheld.taken hinbox).imp id fun ⟨hsent, hone, hunread, _⟩ => ⟨hsent, hone, hunread⟩
      · rw [Function.update_of_ne, hempty]
        rintro rfl
        exact absurd (hempty.symm.trans hinbox) (by simp)
    · exact h.request hcoherent hinbox hdecode hasked hdaemon

/-! ## Steps of the others -/

/-- A client is started, or goes on. -/
theorem Conversing.withClient (h : Conversing strerror s) {pid : ℕ} {c : ClientProcess}
    {connected : ℕ} {inbox : ℕ → List (List UInt8)} (hconnected : s.connected ≤ connected)
    (hdecodes : Message.deserialize c.command.serialize = some c.command)
    (hheld : ∀ peer, c.phase.peer = some peer →
      Held { s with connected := connected, inbox := inbox } c peer)
    (happart : ∀ {pid' c' peer}, pid' ≠ pid → s.clients pid' = some c' →
      c'.phase.peer = some peer → c.phase.peer ≠ some peer)
    (hinbox : ∀ peer, c.phase.peer ≠ some peer → inbox peer = s.inbox peer)
    (htold : ∀ {peer sent report}, c.phase = .exited peer sent report →
      s.Told strerror c.command peer sent report) :
    Conversing strerror { s.withClient pid c with connected := connected, inbox := inbox } := by
  set s' : Conversation := { s.withClient pid c with connected := connected, inbox := inbox }
    with hs'
  have hcases {pid' c'} (hc' : s'.clients pid' = some c') :
      pid' = pid ∧ c' = c ∨ pid' ≠ pid ∧ s.clients pid' = some c' := by
    by_cases heq : pid' = pid
    · subst heq
      exact .inl ⟨rfl, by simpa [hs', Conversation.withClient] using hc'.symm⟩
    · refine .inr ⟨heq, ?_⟩
      simpa [hs', Conversation.withClient, Function.update_of_ne heq] using hc'
  have hself {peer} (hpeer : c.phase.peer = some peer) : s'.Held c peer :=
    (hheld peer hpeer).keep rfl (Nat.le_refl _) (hheld peer hpeer).own rfl rfl
  exact
    { coherent := h.coherent
      plain := h.plain
      counted := h.counted
      decodes := fun hc' => by
        obtain ⟨-, rfl⟩ | ⟨-, hold⟩ := hcases hc'
        · exact hdecodes
        · exact h.decodes hold
      held := fun {pid' c' peer} hc' hpeer => by
        obtain ⟨-, rfl⟩ | ⟨hne, hold⟩ := hcases hc'
        · exact hself hpeer
        · exact (h.held hold hpeer).keep rfl hconnected (h.held hold hpeer).own
            (hinbox peer (happart hne hold hpeer)) rfl
      apart := fun {pid₁ c₁ pid₂ c₂ peer} hc₁ hc₂ hpeer₁ hpeer₂ => by
        obtain ⟨rfl, rfl⟩ | ⟨hne₁, hold₁⟩ := hcases hc₁ <;>
          obtain ⟨rfl, rfl⟩ | ⟨hne₂, hold₂⟩ := hcases hc₂
        · rfl
        · exact absurd hpeer₁ (happart hne₂ hold₂ hpeer₂)
        · exact absurd hpeer₂ (happart hne₁ hold₁ hpeer₁)
        · exact h.apart hold₁ hold₂ hpeer₁ hpeer₂
      fresh := fun peer hpeer => by
        have hfresh := h.fresh peer (Nat.le_trans hconnected hpeer)
        have hother : c.phase.peer ≠ some peer := fun heq =>
          Nat.lt_irrefl peer (Nat.lt_of_lt_of_le (hself heq).known hpeer)
        exact ⟨(hinbox peer hother).trans hfresh.1, hfresh.2⟩
      strange := fun peer hmem => Nat.lt_of_lt_of_le (h.strange peer hmem) hconnected
      told := fun hc' hphase => by
        obtain ⟨-, rfl⟩ | ⟨-, hold⟩ := hcases hc'
        · exact (htold hphase).mono ⟨fun _ hmem => hmem, List.prefix_rfl, fun _ hmem => hmem⟩
        · exact (h.told hold hphase).mono
            ⟨fun _ hmem => hmem, List.prefix_rfl, fun _ hmem => hmem⟩ }

theorem Conversing.run (h : Conversing strerror s) {pid : ℕ} {getenv : String → Option Text}
    {argv : List Text} (hstep : s.step strerror (.run pid getenv argv) = some s') :
    Conversing strerror s' := by
  simp only [step] at hstep
  split at hstep
  · next command socketPathOverride hnone hparse =>
      rw [← Option.some.inj hstep]
      obtain ⟨spec, hspec, positional, hcommand⟩ := ArgumentParser.exists_parse_of_runClient hparse
      refine h.withClient (Nat.le_refl _) (built_of_mem_kCommands hspec hcommand).agreed.decoded ?_ ?_
        (fun _ _ => rfl) ?_
      · rintro peer ⟨⟩
      · rintro pid' c' peer - - - ⟨⟩
      · rintro peer sent report ⟨⟩
  · cases hstep

theorem Conversing.connect (h : Conversing strerror s) {pid : ℕ} {io : ConnectIO}
    (hstep : s.step strerror (.connect pid io) = some s') : Conversing strerror s' := by
  simp only [step] at hstep
  split at hstep
  · next path command hc =>
      have hdecodes : Message.deserialize command.serialize = some command := h.decodes hc
      cases hconnect : SocketClient.connect path io with
      | some err =>
          rw [if_pos (by simp [hconnect])] at hstep
          rw [← Option.some.inj hstep]
          simp only [ClientProcess.onConnect, hconnect]
          refine h.withClient (Nat.le_refl _) hdecodes ?_ ?_ (fun _ _ => rfl) ?_
          · rintro peer ⟨⟩
          · rintro pid' c' peer - - - ⟨⟩
          · rintro peer sent report ⟨⟩
            exact .unreachable err (SocketClient.kind_of_connect hconnect)
      | none =>
          rw [if_neg (by simp [hconnect])] at hstep
          split_ifs at hstep
          rw [← Option.some.inj hstep]
          simp only [ClientProcess.onConnect, hconnect]
          have hfresh := h.fresh s.connected (Nat.le_refl _)
          refine h.withClient (Nat.le_succ _) hdecodes ?_ ?_ (fun _ _ => rfl) ?_
          · rintro peer ⟨⟩
            exact
              { known := Nat.lt_succ_self _
                own := fun hmem => Nat.lt_irrefl _ (h.strange _ hmem)
                inbox := .inl hfresh.1
                unsent := fun _ => hfresh.2
                once := fun hread => absurd hread (hfresh.2 _ _)
                handed := fun hread => absurd hread (hfresh.2 _ _) }
          · rintro pid' c' peer - hc' hpeer heq
            obtain rfl : s.connected = peer := Option.some.inj heq
            exact Nat.lt_irrefl _ (h.held hc' hpeer).known
          · rintro peer sent report ⟨⟩
  · cases hstep

theorem Conversing.send (h : Conversing strerror s) {pid : ℕ} {io : SendAnswer}
    (hstep : s.step strerror (.send pid io) = some s') : Conversing strerror s' := by
  simp only [step] at hstep
  split at hstep
  · next path command peer hc =>
      have hdecodes : Message.deserialize command.serialize = some command := h.decodes hc
      have hheld : s.Held ⟨path, command, .connected peer⟩ peer := h.held hc rfl
      have hunread := hheld.unsent rfl
      have happart {pid' c' other} (hne : pid' ≠ pid) (hc' : s.clients pid' = some c')
          (hother : c'.phase.peer = some other) : some peer ≠ some other := by
        rintro ⟨⟩
        exact hne (h.apart hc' hc hother rfl)
      cases io with
      | failed err =>
          obtain rfl := Option.some.inj hstep
          refine h.withClient (Nat.le_refl _) hdecodes ?_ happart (fun _ _ => rfl) ?_
          · rintro _ ⟨⟩
            exact
              { known := hheld.known
                own := hheld.own
                inbox := hheld.inbox.imp id (by rintro ⟨⟨⟩, -⟩)
                unsent := fun _ => hunread
                once := hheld.once
                handed := hheld.handed }
          · rintro _ _ _ ⟨⟩
            exact .unsent peer _ rfl
      | sent count =>
          dsimp only at hstep
          split_ifs at hstep with hwhole
          obtain rfl := Option.some.inj hstep
          have hsend : SocketClient.send command (.sent count) = none := by
            simp [SocketClient.send, hwhole]
          have hempty : s.inbox peer = [] :=
            hheld.inbox.elim id fun hsent => Bool.noConfusion hsent.1
          simp only [ClientProcess.onSend, hsend, hempty, List.nil_append]
          refine h.withClient (Nat.le_refl _) hdecodes ?_ happart ?_ ?_
          · rintro _ ⟨⟩
            exact
              { known := hheld.known
                own := hheld.own
                inbox := .inr ⟨rfl, Function.update_self .., hunread⟩
                unsent := fun hsent => Bool.noConfusion hsent
                once := hheld.once
                handed := hheld.handed }
          · intro other hne
            have hother : other ≠ peer := fun heq => hne (congrArg some heq.symm)
            exact Function.update_of_ne hother _ _
          · rintro _ _ _ ⟨⟩
  · cases hstep

/-- What comes on a client's connection answers its command. -/
theorem Conversing.answered (h : Conversing strerror s) {pid : ℕ} {c : ClientProcess} {peer : ℕ}
    (hc : s.clients pid = some c) (hpeer : c.phase.peer = some peer) {bytes : List UInt8}
    (hbytes : s.toPeer peer = some bytes) :
    ∃ session request response, bytes = response.serialize ∧ response.IsResponse ∧
      (session, some peer, request) ∈ s.service.server.asked ∧
      s.handed[request]? = some c.command ∧ (request, response) ∈ s.service.daemon.replies := by
  obtain ⟨e, he, hsent⟩ := List.mem_filterMap.mp (List.mem_of_head? hbytes)
  cases e with
  | read | dropped => cases hsent
  | sent other number datagram =>
      cases other with
      | none => cases hsent
      | some other =>
          simp only [ServerEvent.sentTo] at hsent
          split_ifs at hsent with heq
          subst heq
          obtain rfl := Option.some.inj hsent
          obtain ⟨p, request, response, session, hp, -, hreply, rfl, hread⟩ :=
            h.coherent.paired.recorded.sent he
          obtain rfl := Option.some.inj hp
          have hasked : (session, some other, request) ∈ s.service.server.asked :=
            List.mem_filterMap.mpr ⟨_, hread, rfl⟩
          exact ⟨session, request, response, rfl, h.plain.replies _ hreply, hasked,
            (h.held hc hpeer).handed hasked, hreply⟩

theorem Conversing.receive (h : Conversing strerror s) {pid : ℕ} {io : RecvAnswer}
    (hstep : s.step strerror (.receive pid io) = some s') : Conversing strerror s' := by
  simp only [step] at hstep
  split at hstep
  · next path command peer hc =>
      set c : ClientProcess := ⟨path, command, .waiting peer⟩ with hcdef
      have hheld : s.Held c peer := h.held hc rfl
      have hdecodes : Message.deserialize command.serialize = some command := h.decodes hc
      have hexits (report : Report) (htold : s.Told strerror command (some peer) true report) :
          Conversing strerror (s.withClient pid { c with phase := .exited (some peer) true report }) := by
        refine h.withClient (Nat.le_refl _) hdecodes ?_ ?_ (fun _ _ => rfl) ?_
        · rintro _ ⟨⟩
          exact
            { known := hheld.known
              own := hheld.own
              inbox := hheld.inbox
              unsent := fun hsent => Bool.noConfusion hsent
              once := hheld.once
              handed := hheld.handed }
        · rintro pid' c' other hne hc' hother ⟨⟩
          exact hne (h.apart hc' hc hother rfl)
        · rintro _ _ _ ⟨⟩
          exact htold
      have hnothing (hbytes : ∀ bytes, io = .received bytes → bytes = []) :
          Conversing strerror (s.withClient pid (c.onReceive strerror io)) := by
        cases hreceive : SocketClient.receive io with
        | error err =>
            have hkind := SocketClient.kind_of_receive hreceive hbytes
            simpa only [ClientProcess.onReceive, hcdef, hreceive] using
              hexits _ (.unanswered peer err hkind)
        | ok response =>
            cases io with
            | failed err => cases hreceive
            | received bytes =>
                obtain rfl := hbytes bytes rfl
                cases hreceive
      cases io with
      | failed err => exact Option.some.inj hstep ▸ hnothing (by simp)
      | received bytes =>
          dsimp only at hstep
          split_ifs at hstep with hguard
          rw [← Option.some.inj hstep]
          rcases hguard with rfl | hbytes
          · exact hnothing (by simp)
          · obtain ⟨session, request, response, rfl, hresponse, hasked, hhanded, hreply⟩ :=
              h.answered hc rfl hbytes
            have hreceive := SocketClient.receive_serialize hresponse.deserialize
            simpa only [ClientProcess.onReceive, hcdef, hreceive] using
              hexits _ (.answered peer session request response hasked hhanded hreply hresponse)
  · cases hstep

/-- A datagram from somebody else is nothing to a client. -/
theorem Conversing.strangers (h : Conversing strerror s) {connected : ℕ} {strangers : List ℕ}
    {inbox : ℕ → List (List UInt8)} (hconnected : s.connected ≤ connected)
    (hold : ∀ peer < s.connected, peer ∉ s.strangers → peer ∉ strangers)
    (hstrange : ∀ peer ∈ strangers, peer < connected)
    (hinbox : ∀ peer, peer ∉ s.strangers → inbox peer = s.inbox peer) :
    Conversing strerror
      { s with connected := connected, strangers := strangers, inbox := inbox } where
  coherent := h.coherent
  plain := h.plain
  counted := h.counted
  decodes := h.decodes
  held hc hpeer :=
    have hheld := h.held hc hpeer
    hheld.keep rfl hconnected (hold _ hheld.known hheld.own) (hinbox _ hheld.own) rfl
  apart := h.apart
  fresh peer hpeer :=
    have hunknown := Nat.le_trans hconnected hpeer
    ⟨(hinbox peer fun hmem => Nat.not_lt.mpr hunknown (h.strange peer hmem)).trans
      (h.fresh peer hunknown).1, (h.fresh peer hunknown).2⟩
  strange := hstrange
  told hc hphase := (h.told hc hphase).mono ⟨fun _ hmem => hmem, List.prefix_rfl, fun _ hmem => hmem⟩

theorem Conversing.step (h : Conversing strerror s) {label : Label}
    (hstep : (machine strerror).step s label = some s') : Conversing strerror s' := by
  change s.step strerror label = some s' at hstep
  cases label with
  | run pid getenv argv => exact h.run hstep
  | connect pid io => exact h.connect hstep
  | send pid io => exact h.send hstep
  | receive pid io => exact h.receive hstep
  | stranger =>
      simp only [Conversation.step] at hstep
      split_ifs at hstep
      obtain rfl := Option.some.inj hstep
      refine h.strangers (Nat.le_succ _) ?_ ?_ fun _ _ => rfl
      · intro peer hlt hown hmem
        exact (List.mem_cons.mp hmem).elim (Nat.ne_of_lt hlt) hown
      · intro peer hmem
        rcases List.mem_cons.mp hmem with rfl | hold
        · exact Nat.lt_succ_self _
        · exact Nat.lt_succ_of_lt (h.strange peer hold)
  | strangerSends peer bytes =>
      simp only [Conversation.step] at hstep
      split_ifs at hstep with hstranger
      obtain rfl := Option.some.inj hstep
      refine h.strangers (Nat.le_refl _) (fun _ _ hown => hown) h.strange fun other hown => ?_
      exact Function.update_of_ne (by rintro rfl; exact hown hstranger) _ _
  | service label =>
      have hother (hlabel : ∀ io, label ≠ .event io)
          (h' : ((s.service.step label).bind fun service =>
            if service.server.accepted ≤ s.connected then some { s with service := service }
            else none) = some s') : Conversing strerror s' := by
        obtain ⟨service, hservice, hguard⟩ := Option.bind_eq_some_iff.mp h'
        split_ifs at hguard
        exact Option.some.inj hguard ▸ h.service hlabel hservice
      cases label with
      | event io => exact h.hear hstep
      | _ => exact hother (by simp) hstep

theorem Conversing.boot (path : Text) (setup : Daemon.Setup) (io : StartIO) :
    Conversing strerror (boot path setup io) where
  coherent := Service.Coherent.boot setup io
  plain := Daemon.AnswersPlainly.boot setup
  counted := rfl
  decodes := by rintro pid c ⟨⟩
  held := by rintro pid c peer ⟨⟩
  apart := by rintro pid c pid' c' peer ⟨⟩
  fresh peer _ := by
    refine ⟨rfl, fun session request hmem => ?_⟩
    have hlog : (Conversation.boot path setup io).service.server.log = [] :=
      (SocketServer.start_spec io).2
    simp [SocketServer.asked, hlog] at hmem
  strange := by simp [Conversation.boot]
  told := by rintro pid c peer sent report ⟨⟩

end Steps

/-- How the clients of a daemon are served. -/
structure Served (s : Conversation) : Prop where
  /-- No connection is shared. -/
  apart : ∀ {pid c pid' c' peer}, s.clients pid = some c → s.clients pid' = some c' →
    c.phase.peer = some peer → c'.phase.peer = some peer → pid = pid'
  /-- The daemon is handed at most one request on a client's connection: its command. -/
  heard : ∀ {pid c peer session request}, s.clients pid = some c → c.phase.peer = some peer →
    (session, some peer, request) ∈ s.service.server.asked →
      s.handed[request]? = some c.command ∧ c.phase.sent = true ∧
        ∀ session' request', (session', some peer, request') ∈ s.service.server.asked →
          request' = request
  /-- A report is what it says. -/
  told : ∀ {pid c peer sent report}, s.clients pid = some c → c.phase = .exited peer sent report →
    s.Told strerror c.command peer sent report
  /-- A client exits successfully only if its command was handed to the daemon and answered with
  `RESP_SUCCESS`, the one answer it has been given. -/
  success : ∀ {pid c peer sent report}, s.clients pid = some c →
    c.phase = .exited peer sent report → report.exit = CECClient.EXIT_SUCCESS →
      ∃ request, s.handed[request]? = some c.command ∧
        ∀ response, (request, response) ∈ s.service.daemon.replies ↔ response = Daemon.respSuccess

variable {strerror}

theorem Conversing.served {s : Conversation} (h : Conversing strerror s) : Served strerror s where
  apart := h.apart
  heard {pid c peer session request} hc hpeer hread := by
    have hheld := h.held hc hpeer
    refine ⟨hheld.handed hread, ?_, fun _ _ hread' => hheld.once hread' hread⟩
    cases hsent : c.phase.sent with
    | true => rfl
    | false => exact absurd hread (hheld.unsent hsent session request)
  told := h.told
  success {pid c peer sent report} hc hphase hexit := by
    cases h.told hc hphase with
    | unreachable | unsent | unanswered => cases hexit
    | answered peer session request response hasked hhanded hreply hresponse =>
        refine ⟨request, hhanded, fun other => ?_⟩
        have hsuccess : response = Daemon.respSuccess := by
          have htype := (CECClient.renderResponse_exit response).mp hexit
          rcases hresponse with rfl | rfl
          · rfl
          · cases htype
        subst hsuccess
        refine ⟨fun hother => ?_, fun hother => hother ▸ hreply⟩
        exact h.coherent.accounted.balanced.eq_of_replies hother hreply

/-- **Clients are served**, whatever the order of everybody's steps: no command is handed to the
daemon twice or as another's, and no client reports what has not happened. -/
theorem clients_served {path : Text} {setup : Daemon.Setup} {io : StartIO} {labels : List Label}
    {s : Conversation} (hrun : (machine strerror).run (boot path setup io) labels = some s) :
    Served strerror s :=
  ((machine strerror).invariant_of_step (fun h hstep => h.step hstep)
    (Conversing.boot path setup io) hrun : Conversing strerror s).served

/-- A client whose command is answered on the spot, next to a stranger. -/
def oneClient : List Label :=
  [.stranger, .run 0 (fun _ => none) (["cec-control", "suspend"].map String.toList), .connect 0 {},
    .service (.accept [.client 7 true 0, .client 8 true 0, .again]), .send 0 (.sent 2),
    .service (.poll 2 { epollin := true }), .service (.event { request := { recv := .received [8, 0] } }),
    .receive 0 (.received [100, 0])]

theorem clients_served_oneClient :
    ∃ s, (machine fun _ => "").run (boot "/run/cec-control/socket".toList {} {}) oneClient = some s ∧
      (s.clients 0).map (·.phase) = some (.exited (some 1) true
        { exit := 0, out := "Command executed successfully\n" }) ∧ Served (fun _ => "") s := by
  have hphase : ((machine fun _ => "").run (boot "/run/cec-control/socket".toList {} {})
      oneClient).map (fun s => (s.clients 0).map (·.phase)) =
      some (some (.exited (some 1) true
        { exit := 0, out := "Command executed successfully\n" })) := by decide
  obtain ⟨s, hs, hphase⟩ := Option.map_eq_some_iff.mp hphase
  exact ⟨s, hs, hphase, clients_served hs⟩

end Conversation

end CecControl
