/-
# The table of sessions

What the comment above the session record promises, and what goes without saying
around it: a session reads, handles or sends, and its poll mask, flag and buffer
agree on which; the loop has a registration for every session and for nothing else
under a session's handler; there are never too many sessions, no number is used
twice, and the idle sweep leaves a session alone while there is work for it.

The first part follows from the pairing of requests and responses. The rest is
about the server alone, and is proved operation by operation: `Tends` is what every
operation does to the table, whatever else it does.
-/

import CecControl.Server.Pairing

namespace CecControl

open Lib

namespace SocketServer

/-- Every session handler in the loop is that of an open session. -/
def SessionHandlers (server : SocketServer) : Prop :=
  ∀ fd position id, server.loop.handlers.find fd = some ⟨position, .session id⟩ →
    ∃ s, server.findSession id = some s ∧ s.fd = fd

/-- The loop's session handlers are those of the open sessions, and there are not too
many. -/
structure Registered (server : SocketServer) : Prop where
  handler : ∀ {id s}, server.findSession id = some s →
    ∃ position, server.loop.handlers.find s.fd = some ⟨position, .session id⟩
  session : SessionHandlers server
  numbered : ∀ {id s}, server.findSession id = some s → id < server.nextId
  bounded : server.sessions.keys.length ≤ kMaxConnections

theorem SessionHandlers.closeSession {server : SocketServer} (h : SessionHandlers server)
    (id : ℕ) : SessionHandlers (server.closeSession id) := by
  cases hfind : server.findSession id with
  | none =>
      unfold SocketServer.closeSession
      rw [hfind]
      exact h
  | some s =>
      intro fd position other hhandler
      have hloop : (server.closeSession id).loop = server.loop.remove s.fd := by
        simp [SocketServer.closeSession, hfind]
      rw [hloop] at hhandler
      have hfd : fd ≠ s.fd := by
        rintro rfl
        simp [EventLoop.find_remove_self] at hhandler
      rw [EventLoop.find_remove_of_ne _ hfd] at hhandler
      obtain ⟨s', hopen, hs'⟩ := h fd position other hhandler
      have hne : other ≠ id := by
        rintro rfl
        obtain rfl := Option.some.inj (hfind.symm.trans hopen)
        exact hfd hs'.symm
      exact ⟨s', (findSession_closeSession_of_ne server hne).trans hopen, hs'⟩

theorem SessionHandlers.closeSessions {server : SocketServer} (h : SessionHandlers server)
    (ids : List ℕ) : SessionHandlers (server.closeSessions ids) := by
  induction ids generalizing server with
  | nil => exact h
  | cons id ids ih => exact ih (h.closeSession id)

/-- Removing a handler of any kind adds none. -/
theorem SessionHandlers.remove {server server' : SocketServer} (h : SessionHandlers server) (fd : ℤ)
    (hloop : server'.loop = server.loop.remove fd) (hsessions : server'.sessions = server.sessions) :
    SessionHandlers server' := by
  intro fd' position id hhandler
  rw [hloop] at hhandler
  rw [findSession, hsessions]
  by_cases hne : fd' = fd
  · subst hne
    simp [EventLoop.find_remove_self] at hhandler
  · rw [EventLoop.find_remove_of_ne _ hne] at hhandler
    exact h fd' position id hhandler

/-- Nor does adding one of another kind. -/
theorem SessionHandlers.add {server server' : SocketServer} (h : SessionHandlers server) (fd : ℤ)
    (events : EventMask) (source : LoopSource) (polled : Bool)
    (hsource : ∀ id, source ≠ .session id)
    (hloop : server'.loop = (server.loop.add fd events source polled).1)
    (hsessions : server'.sessions = server.sessions) : SessionHandlers server' := by
  intro fd' position id hhandler
  rw [findSession, hsessions]
  rcases server.loop.add_cases fd events source polled with heq | ⟨_, heq⟩
  · rw [hloop, heq] at hhandler
    exact h fd' position id hhandler
  · rw [hloop, heq] at hhandler
    by_cases hne : fd = fd'
    · simp only [Registry.find, if_pos hne, Option.some.injEq, Entry.mk.injEq] at hhandler
      exact absurd hhandler.2 (hsource id)
    · rw [Registry.find_cons_of_ne (show (Change.inserted fd source).key ≠ fd' from hne)] at hhandler
      exact h fd' position id hhandler

theorem SessionHandlers.stop {server : SocketServer} (h : SessionHandlers server) :
    SessionHandlers server.stop := by
  unfold SocketServer.stop
  split_ifs
  · exact h
  · have htimer : SessionHandlers { server with
        loop := server.loop.remove server.idleTimerFd, idleTimer := server.idleTimer.disarm } :=
      h.remove server.idleTimerFd rfl rfl
    cases hlistener : server.listener with
    | none =>
        rw [hlistener] at htimer
        exact htimer.closeSessions _
    | some fd =>
        refine SessionHandlers.closeSessions ?_ _
        exact htimer.remove fd (by rfl) (by rfl)

/-- No two sessions have the same descriptor. -/
theorem Registered.apart {server : SocketServer} (h : Registered server) {id id' : ℕ}
    {s s' : Session} (hfind : server.findSession id = some s)
    (hfind' : server.findSession id' = some s') (hfd : s.fd = s'.fd) : id = id' := by
  obtain ⟨position, hhandler⟩ := h.handler hfind
  obtain ⟨position', hhandler'⟩ := h.handler hfind'
  rw [hfd, hhandler'] at hhandler
  simp only [Option.some.injEq, Entry.mk.injEq, LoopSource.session.injEq] at hhandler
  exact hhandler.2.symm

/-- What an operation of the server does to the table of sessions. -/
structure Tends (server server' : SocketServer) : Prop where
  registered : Registered server → Registered server'
  nextId : server.nextId ≤ server'.nextId
  gone : ∀ {id}, id < server.nextId → server.findSession id = none →
    server'.findSession id = none

theorem Tends.refl (server : SocketServer) : Tends server server :=
  ⟨fun h => h, Nat.le_refl _, fun _ h => h⟩

theorem Tends.trans {server server' server'' : SocketServer} (h : Tends server server')
    (h' : Tends server' server'') : Tends server server'' :=
  ⟨fun hr => h'.registered (h.registered hr), Nat.le_trans h.nextId h'.nextId,
    fun hlt hnone => h'.gone (Nat.lt_of_lt_of_le hlt h.nextId) (h.gone hlt hnone)⟩

/-- Operations on anything else. -/
theorem Tends.of_same {server server' : SocketServer} (hsessions : server'.sessions = server.sessions)
    (hhandlers : server'.loop.handlers = server.loop.handlers)
    (hnext : server.nextId ≤ server'.nextId) : Tends server server' where
  registered h :=
    { handler := fun hfind => by
        rw [hhandlers]
        exact h.handler (by rwa [findSession, ← hsessions])
      session := fun fd position id hhandler => by
        rw [hhandlers] at hhandler
        rw [findSession, hsessions]
        exact h.session fd position id hhandler
      numbered := fun hfind =>
        Nat.lt_of_lt_of_le (h.numbered (by rwa [findSession, ← hsessions])) hnext
      bounded := hsessions ▸ h.bounded }
  nextId := hnext
  gone _ hnone := by rwa [findSession, hsessions]

theorem tends_closeSession (server : SocketServer) (id : ℕ) :
    Tends server (server.closeSession id) where
  registered h := by
    cases hfind : server.findSession id with
    | none =>
        unfold closeSession
        rw [hfind]
        exact h
    | some s =>
        have hloop : (server.closeSession id).loop = server.loop.remove s.fd := by
          simp [closeSession, hfind]
        have hsessions : (server.closeSession id).sessions = server.sessions.erase id := by
          simp [closeSession, hfind]
        refine ⟨fun {other s'} hopen => ?_, fun fd position other hhandler => ?_,
          fun {other s'} hopen => ?_, ?_⟩
        · obtain ⟨hne, hopen⟩ := findSession_of_closeSession hopen
          obtain ⟨position, hhandler⟩ := h.handler hopen
          have hfd : s'.fd ≠ s.fd := fun heq => hne (h.apart hopen hfind heq)
          exact ⟨position, by rw [hloop, EventLoop.find_remove_of_ne _ hfd, hhandler]⟩
        · exact h.session.closeSession id fd position other hhandler
        · rw [closeSession_nextId]
          exact h.numbered (findSession_of_closeSession hopen).2
        · rw [hsessions, AList.keys_erase]
          exact Nat.le_trans (List.length_erase_le) h.bounded
  nextId := Nat.le_of_eq (server.closeSession_nextId id).symm
  gone {other} _ hnone := by
    by_cases hne : other = id
    · exact hne ▸ findSession_closeSession_self server id
    · exact (findSession_closeSession_of_ne server hne).trans hnone

theorem tends_withSession (server : SocketServer) {id : ℕ} {s : Session}
    (hfind : server.findSession id = some s) (next : Session) (hfd : next.fd = s.fd)
    (events : EventMask) : Tends server (server.withSession id next events) where
  registered h := by
    refine ⟨fun {other s'} hopen => ?_, fun fd position other hhandler => ?_,
      fun {other s'} hopen => ?_, ?_⟩
    · by_cases hne : other = id
      · subst hne
        rw [findSession_withSession_self] at hopen
        obtain rfl := Option.some.inj hopen
        exact hfd ▸ h.handler hfind
      · rw [findSession_withSession_of_ne _ _ _ hne] at hopen
        exact h.handler hopen
    · obtain ⟨s', hopen, hs'⟩ := h.session fd position other hhandler
      by_cases hne : other = id
      · subst hne
        obtain rfl := Option.some.inj (hfind.symm.trans hopen)
        exact ⟨next, findSession_withSession_self _ _ _ _, hfd.trans hs'⟩
      · exact ⟨s', (findSession_withSession_of_ne _ _ _ hne).trans hopen, hs'⟩
    · by_cases hne : other = id
      · subst hne
        exact h.numbered hfind
      · exact h.numbered ((findSession_withSession_of_ne _ _ _ hne).symm.trans hopen)
    · have hmem := mem_keys_of_findSession hfind
      have hpos := List.length_pos_of_mem hmem
      have hbounded := h.bounded
      simp only [withSession, AList.keys_insert, List.length_cons, List.length_erase_of_mem hmem]
      omega
  nextId := Nat.le_refl _
  gone {other} _ hnone := by
    by_cases hne : other = id
    · subst hne
      simp [hfind] at hnone
    · exact (findSession_withSession_of_ne _ _ _ hne).trans hnone

theorem tends_rearm (server : SocketServer) {id : ℕ} {s : Session}
    (hfind : server.findSession id = some s) (next : Session) (hfd : next.fd = s.fd)
    (events : EventMask) (modified : Bool) :
    Tends server (server.rearm id next events modified).1 := by
  rcases server.rearm_cases hfind next hfd events modified with heq | heq
  · rw [heq]
    exact server.tends_withSession hfind next hfd events
  · rw [heq]
    exact server.tends_closeSession id

theorem tends_emit (server : SocketServer) (e : ServerEvent) : Tends server (server.emit e) :=
  .of_same rfl rfl (Nat.le_refl _)

theorem tends_delivered (server : SocketServer) {id : ℕ} {s : Session}
    (hfind : server.findSession id = some s) (request : Option ℕ) (bytes : List UInt8)
    (io : SendIO) : Tends server (server.delivered id s request bytes io).1 := by
  unfold delivered
  exact (server.tends_emit _).trans (tends_rearm (server.emit _) hfind _ (by rfl) .READ io.modified)

theorem tends_drainPendingSend (server : SocketServer) (id : ℕ) (io : SendIO) :
    Tends server (server.drainPendingSend id io).1 := by
  unfold drainPendingSend
  cases hfind : server.findSession id with
  | none => exact .refl _
  | some s =>
      dsimp only
      cases io.result with
      | sent => exact server.tends_delivered hfind _ _ io
      | again => exact .refl _
      | failed => exact server.tends_closeSession id

theorem tends_sendResponse (server : SocketServer) (id request : ℕ) (response : Message)
    (io : SendIO) : Tends server (server.sendResponse id request response io) := by
  unfold sendResponse
  cases hfind : server.findSession id with
  | none => exact .refl _
  | some s =>
      dsimp only
      cases io.result with
      | sent => exact server.tends_delivered hfind _ _ io
      | again => exact server.tends_rearm hfind _ (by rfl) .WRITE io.modified
      | failed => exact server.tends_closeSession id

theorem tends_readRequest (server : SocketServer) {id : ℕ} {s : Session}
    (hfind : server.findSession id = some s) (request : ℕ) (io : RequestIO) :
    Tends server (server.readRequest id s request io).1 := by
  have hclosed := server.tends_closeSession id
  unfold readRequest
  cases io.recv with
  | again => exact .refl _
  | failed => exact hclosed
  | received bytes =>
      dsimp only
      split_ifs
      · exact hclosed
      · exact hclosed
      cases Message.deserialize bytes with
      | none => exact hclosed
      | some message =>
          let busy : Session :=
            { s with requestInFlight := true, lastActivity := io.now, serving := some request }
          have hrearmed := server.tends_rearm hfind busy rfl .none io.modified
          dsimp only [busy] at hrearmed ⊢
          generalize server.rearm id _ .none io.modified = outcome at hrearmed
          rcases outcome with ⟨server', _ | _⟩
          · exact hrearmed.trans (tends_emit _ _)
          · exact hrearmed.trans (tends_emit _ _)

/-- A client accepted under the limit is registered under its new number. -/
theorem tends_accepted {server server' : SocketServer} {fd : ℤ} {now : ℕ}
    (hlimit : server.sessions.keys.length < kMaxConnections)
    (hfree : server.loop.handlers.find fd = none)
    (hnext : server'.nextId = server.nextId + 1)
    (hsessions : server'.sessions =
      server.sessions.insert server.nextId { fd := fd, lastActivity := now })
    (hhandlers : server'.loop.handlers =
      .inserted fd (.session server.nextId) :: server.loop.handlers) :
    Tends server server' := by
  have hself : server'.findSession server.nextId = some { fd := fd, lastActivity := now } := by
    rw [findSession, hsessions]
    exact AList.lookup_insert _
  have hother {other : ℕ} (hne : other ≠ server.nextId) :
      server'.findSession other = server.findSession other := by
    rw [findSession, hsessions]
    exact AList.lookup_insert_ne hne
  have hfind {fd' : ℤ} (hne : fd' ≠ fd) :
      server'.loop.handlers.find fd' = server.loop.handlers.find fd' := by
    rw [hhandlers]
    exact Registry.find_cons_of_ne hne.symm
  refine ⟨fun h => ⟨fun {other s'} hopen => ?_, fun fd' position other hhandler => ?_,
      fun {other s'} hopen => ?_, ?_⟩,
    by simp [hnext], fun hlt hnone => (hother (Nat.ne_of_lt hlt)).trans hnone⟩
  · by_cases hne : other = server.nextId
    · subst hne
      obtain rfl := Option.some.inj (hself.symm.trans hopen)
      exact ⟨server.loop.handlers.length, by rw [hhandlers]; exact if_pos rfl⟩
    · rw [hother hne] at hopen
      obtain ⟨position, hhandler⟩ := h.handler hopen
      have hfd : s'.fd ≠ fd := by
        rintro rfl
        simp [hfree] at hhandler
      exact ⟨position, (hfind hfd).trans hhandler⟩
  · by_cases hfd : fd' = fd
    · subst hfd
      rw [hhandlers, show Registry.find (.inserted fd' (.session server.nextId) ::
        server.loop.handlers) fd' = some ⟨_, .session server.nextId⟩ from if_pos rfl] at hhandler
      simp only [Option.some.injEq, Entry.mk.injEq, LoopSource.session.injEq] at hhandler
      exact hhandler.2 ▸ ⟨_, hself, rfl⟩
    · rw [hfind hfd] at hhandler
      obtain ⟨s', hopen, hs'⟩ := h.session fd' position other hhandler
      exact ⟨s', (hother (Nat.ne_of_lt (h.numbered hopen))).trans hopen, hs'⟩
  · rw [hnext]
    by_cases hne : other = server.nextId
    · exact hne ▸ Nat.lt_succ_self _
    · exact Nat.lt_succ_of_lt (h.numbered ((hother hne).symm.trans hopen))
  · rw [hsessions, AList.keys_insert, List.length_cons]
    exact Nat.lt_of_le_of_lt (List.length_erase_le) hlimit

theorem tends_acceptClients {answers : List AcceptResult} {server server' : SocketServer}
    (haccept : acceptClients answers server = some server') : Tends server server' := by
  induction answers generalizing server with
  | nil => cases haccept
  | cons answer answers ih =>
      cases answer with
      | again => exact Option.some.inj haccept ▸ .refl _
      | failed => exact Option.some.inj haccept ▸ .refl _
      | interrupted => exact ih haccept
      | client fd polled now =>
          simp only [acceptClients] at haccept
          split_ifs at haccept with _ hlimit
          · have hrefused : Tends server { server with accepted := server.accepted + 1 } :=
              .of_same rfl rfl (Nat.le_refl _)
            exact hrefused.trans (ih haccept)
          rcases server.loop.add_cases fd .READ (.session server.nextId) polled with
            heq | ⟨hfree, heq⟩
          · rw [heq] at haccept
            have hrefused : Tends server { server with
                accepted := server.accepted + 1, nextId := server.nextId + 1 } :=
              .of_same rfl rfl (Nat.le_succ _)
            exact hrefused.trans (ih haccept)
          · rw [heq] at haccept
            have hrest := ih haccept
            exact (tends_accepted (Nat.not_le.mp hlimit) hfree rfl rfl rfl).trans hrest

theorem tends_closeSessions (server : SocketServer) (ids : List ℕ) :
    Tends server (server.closeSessions ids) := by
  induction ids generalizing server with
  | nil => exact .refl _
  | cons id ids ih => exact (server.tends_closeSession id).trans (ih (server.closeSession id))

theorem tends_onIdleSweep (server : SocketServer) (now : ℕ) (armed : Bool) :
    Tends server (server.onIdleSweep now armed) := by
  have hconsumed : Tends server { server with idleTimer := server.idleTimer.consume } :=
    .of_same rfl rfl (Nat.le_refl _)
  exact (hconsumed.trans (tends_closeSessions _ _)).trans (.of_same rfl rfl (Nat.le_refl _))

/-- A server with no session open. -/
theorem registered_of_closed {server : SocketServer} (h : SessionHandlers server)
    (hnone : ∀ id, server.findSession id = none) : Registered server where
  handler hfind := by simp [hnone] at hfind
  session := h
  numbered hfind := by simp [hnone] at hfind
  bounded := by
    have hkeys : server.sessions.keys = [] := by
      refine List.eq_nil_iff_forall_not_mem.mpr fun id hmem => ?_
      exact AList.lookup_eq_none.mp (hnone id) (AList.mem_keys.mpr hmem)
    simp [hkeys]

theorem tends_stop (server : SocketServer) : Tends server server.stop where
  registered h := registered_of_closed h.session.stop server.stop_spec.1
  nextId := Nat.le_of_eq server.stop_spec.2.2.symm
  gone _ _ := server.stop_spec.1 _

theorem sessionHandlers_start (io : StartIO) : SessionHandlers (start {} io).1 := by
  have hfresh : SessionHandlers {} := fun fd position id hhandler => by cases hhandler
  unfold start
  rw [if_neg (by simp), if_neg (by decide)]
  by_cases hwritable : (!io.writable) = true
  · rw [if_pos hwritable]
    exact hfresh
  rw [if_neg hwritable]
  cases io.listenFd with
  | none => exact hfresh
  | some fd =>
      dsimp only
      split
      · next loop heq =>
          refine SessionHandlers.stop (hfresh.add fd .READ .listener io.listenerAdded
            (by simp) ?_ rfl)
          exact (congrArg Prod.fst heq).symm
      · next loop heq =>
          have hlistening : SessionHandlers { loop := loop, listener := some fd } :=
            hfresh.add fd .READ .listener io.listenerAdded (by simp) (congrArg Prod.fst heq).symm rfl
          split
          · next loop' heq' =>
              refine SessionHandlers.stop (hlistening.add 3 .READ .idleTimer io.timerAdded
                (by simp) ?_ rfl)
              exact (congrArg Prod.fst heq').symm
          · next loop' heq' =>
              have hstarted : SessionHandlers { loop := loop', listener := some fd } :=
                hlistening.add 3 .READ .idleTimer io.timerAdded (by simp)
                  (congrArg Prod.fst heq').symm rfl
              split_ifs
              · exact hstarted
              · exact hstarted.stop

/-- The idle sweep has nothing to say to a session that is at work. -/
theorem findSession_onIdleSweep (server : SocketServer) {id : ℕ} {s : Session}
    (hfind : server.findSession id = some s) (hbusy : s.requestInFlight = true) (now : ℕ)
    (armed : Bool) : (server.onIdleSweep now armed).findSession id = some s := by
  have hspared : id ∉ server.expired now := by
    intro hmem
    obtain ⟨⟨key, s'⟩, hentry, rfl⟩ := List.mem_map.mp hmem
    obtain ⟨hentry, hexpired⟩ := List.mem_filter.mp hentry
    have hfind' : server.findSession key = some s' := AList.mem_lookup_iff.mpr hentry
    obtain rfl := Option.some.inj (hfind.symm.trans hfind')
    simp [hbusy] at hexpired
  have hkept (server : SocketServer) (ids : List ℕ) (hnot : id ∉ ids) :
      (server.closeSessions ids).findSession id = server.findSession id := by
    induction ids generalizing server with
    | nil => rfl
    | cons other ids ih =>
        rw [List.mem_cons, not_or] at hnot
        exact (ih _ hnot.2).trans (findSession_closeSession_of_ne server hnot.1)
  exact (hkept { server with idleTimer := server.idleTimer.consume } _ hspared).trans hfind

end SocketServer

/-! ## The server with any handler -/

namespace Exchange

/-- What the handler makes of a request: it calls the sink before it returns, keeps it
for later, or throws. A handler that throws never calls the sink. -/
inductive Handling
  | answers (response : Message)
  | defers
  | throws
  deriving DecidableEq, Repr

/-- The response that is sent before `processRequest` returns. -/
def Handling.response : Handling → Option Message
  | .answers response => some response
  | .defers => none
  | .throws => some ⟨.respError, 0, []⟩

/-- Who moves, and what the environment answers. -/
inductive Label
  | accept (answers : List AcceptResult)
  /-- The poller reports a session's descriptor. -/
  | poll (id : ℕ) (flags : EpollFlags)
  /-- The oldest poll result is handled. -/
  | event (io : SessionIO) (handling : Handling)
  /-- A sink that was kept is called. -/
  | sink (request : ℕ) (response : Message) (io : SendIO)
  | idleSweep (now : ℕ) (armed : Bool)
  | stop
  deriving DecidableEq, Repr

/-- The request numbered `request` is answered on the session its sink remembers. -/
def answer (x : Exchange) (id request : ℕ) (response : Message) (io : SendIO) : Exchange :=
  { x with
    replies := x.replies ++ [(request, response)]
    server := x.server.sendResponse id request response io }

def processRequest (x : Exchange) (id : ℕ) (session : Session) (io : RequestIO)
    (handling : Handling) : Exchange :=
  match x.server.readRequest id session x.requests io with
  | (server, none) => { x with server := server }
  | (server, some _) =>
      let begun :=
        { x with requests := x.requests + 1, sinks := x.sinks ++ [id], server := server }
      match handling.response with
      | some response => begun.answer id x.requests response io.reply
      | none => begun

def onSessionEvent (x : Exchange) (id : ℕ) (events : EventMask) (io : SessionIO)
    (handling : Handling) : Exchange :=
  match if events.write then x.server.drainPendingSend id io.drain else (x.server, true) with
  | (server, false) => { x with server := server }
  | (server, true) =>
      let x := { x with server := server }
      match if events.read then (server.findSession id).filter (!·.requestInFlight) else none with
      | some session => x.processRequest id session io.request handling
      | none => if events.isError then { x with server := server.closeSession id } else x

/-- A poll reports what the descriptor is watched for, and each descriptor once. -/
def poll (x : Exchange) (id : ℕ) (flags : EpollFlags) : Option Exchange :=
  match x.server.findSession id with
  | none => none
  | some session =>
      let watched := EventPoller.eventsToEpoll (x.server.loop.interest session.fd)
      if EventPoller.reportable watched flags && decide (id ∉ x.ready.map (·.1)) then
        some { x with ready := x.ready ++ [(id, EventPoller.epollToEvents flags)] }
      else none

/-- A sink is called at most once. -/
def callSink (x : Exchange) (request : ℕ) (response : Message) (io : SendIO) : Option Exchange :=
  if request ∈ x.replies.map (·.1) then none
  else (x.sinks[request]?).map fun id => x.answer id request response io

def step (x : Exchange) : Label → Option Exchange
  | .accept answers =>
      (x.server.onAcceptReady answers).map fun server => { x with server := server }
  | .poll id flags => x.poll id flags
  | .event io handling =>
      match x.ready with
      | [] => none
      | (id, events) :: ready => some (onSessionEvent { x with ready := ready } id events io handling)
  | .sink request response io => x.callSink request response io
  | .idleSweep now armed => some { x with server := x.server.onIdleSweep now armed }
  | .stop => some { x with server := x.server.stop }

def machine : Machine Exchange Label where
  step := step

/-- The server as started, with the work queue registered in its loop. -/
def started (io : StartIO) : Exchange where
  replies := []
  requests := 0
  sinks := []
  ready := []
  server :=
    let server := (SocketServer.start {} io).1
    { server with loop := (server.loop.add Service.workFd .READ .work true).1 }

/-! ### Every step keeps requests and responses paired -/

theorem paired_answer {x : Exchange} (h : Paired x) {id request : ℕ}
    (hsink : x.sinks[request]? = some id) (hunanswered : ¬ x.Answered request)
    (response : Message) (io : SendIO) : Paired (x.answer id request response io) :=
  h.sendResponse hsink hunanswered (fun entry => by simp) io

theorem paired_processRequest {x : Exchange} (h : Paired x) {id : ℕ} {s : Session}
    (hfind : x.server.findSession id = some s) (hidle : s.Idle x) (io : RequestIO)
    (handling : Handling) : Paired (x.processRequest id s io handling) := by
  have hread := h.readRequest hfind hidle io
  unfold processRequest
  generalize x.server.readRequest id s x.requests io = outcome at hread
  rcases outcome with ⟨server, _ | message⟩
  · exact hread
  · cases hresponse : handling.response with
    | none => simpa only [hresponse] using hread
    | some response =>
        refine paired_answer hread ?_ ?_ response io.reply
        · simp [← h.recorded.counted]
        · exact fun hanswered => Nat.lt_irrefl _ (h.recorded.asked hanswered)

theorem paired_onSessionEvent {x : Exchange} (h : Paired x) {id : ℕ} {events : EventMask}
    (hunpolled : ∀ polled, (id, polled) ∉ x.ready)
    (hwrite : events.write = true → ∀ s, x.server.findSession id = some s →
      x.server.loop.interest s.fd = .WRITE) (io : SessionIO) (handling : Handling) :
    Paired (x.onSessionEvent id events io handling) := by
  have hdrained : Paired { x with
      server := (if events.write then x.server.drainPendingSend id io.drain
        else (x.server, true)).1 } := by
    split_ifs with hflag
    · exact h.drainPendingSend io.drain hunpolled (hwrite hflag)
    · exact h
  unfold onSessionEvent
  generalize (if events.write then x.server.drainPendingSend id io.drain else (x.server, true)) =
    drained at hdrained
  rcases drained with ⟨server, _ | _⟩
  · exact hdrained
  · dsimp only at hdrained ⊢
    cases hread : (if events.read then (server.findSession id).filter (!·.requestInFlight)
        else none) with
    | none =>
        dsimp only
        split_ifs
        · exact hdrained.close id
        · exact hdrained
    | some s =>
        split_ifs at hread
        obtain ⟨hfind, hflight⟩ := Option.filter_eq_some_iff.mp hread
        refine paired_processRequest hdrained hfind ?_ io.request handling
        rcases (hdrained.attended.tracked hfind).phase with hidle | ⟨request, hserves⟩
        · exact hidle
        · simp [hserves.inFlight] at hflight

theorem paired_step {x x' : Exchange} (h : Paired x) {label : Label}
    (hstep : machine.step x label = some x') : Paired x' := by
  change step x label = some x' at hstep
  cases label with
  | accept answers =>
      obtain ⟨server, haccept, rfl⟩ := Option.map_eq_some_iff.mp hstep
      unfold SocketServer.onAcceptReady at haccept
      split_ifs at haccept
      · exact Option.some.inj haccept ▸ h
      · exact h.acceptClients haccept
  | poll id flags =>
      simp only [step, poll] at hstep
      cases hfind : x.server.findSession id with
      | none => simp [hfind] at hstep
      | some s =>
          rw [hfind] at hstep
          dsimp only at hstep
          split_ifs at hstep with hguard
          rw [← Option.some.inj hstep]
          simp only [Bool.and_eq_true, decide_eq_true_eq] at hguard
          exact h.polled hfind hguard.1 hguard.2
  | event io handling =>
      cases hready : x.ready with
      | nil => simp [step, hready] at hstep
      | cons first ready =>
          obtain ⟨id, events⟩ := first
          simp only [step, hready, Option.some.injEq] at hstep
          obtain ⟨hpopped, hunpolled, hwrite⟩ := h.popped hready
          rw [← hstep]
          exact paired_onSessionEvent hpopped hunpolled hwrite io handling
  | sink request response io =>
      simp only [step, callSink] at hstep
      split_ifs at hstep with hcalled
      obtain ⟨id, hsink, rfl⟩ := Option.map_eq_some_iff.mp hstep
      refine paired_answer h hsink ?_ response io
      rintro ⟨answer, hanswer⟩
      exact hcalled (List.mem_map_of_mem (f := (·.1)) hanswer)
  | idleSweep now armed => exact Option.some.inj hstep ▸ h.onIdleSweep now armed
  | stop => exact Option.some.inj hstep ▸ h.stopped

theorem paired_started (io : StartIO) : Paired (started io) := by
  obtain ⟨hnone, hlog⟩ := SocketServer.start_spec io
  exact paired_of_fresh hnone hlog

/-! ### And tends the table -/

open SocketServer (Tends Registered)

theorem tends_processRequest (x : Exchange) {id : ℕ} {s : Session}
    (hfind : x.server.findSession id = some s) (io : RequestIO) (handling : Handling) :
    Tends x.server (x.processRequest id s io handling).server := by
  have hread := x.server.tends_readRequest hfind x.requests io
  unfold processRequest
  generalize x.server.readRequest id s x.requests io = outcome at hread
  rcases outcome with ⟨server, _ | message⟩
  · exact hread
  · dsimp only
    cases handling.response with
    | none => exact hread
    | some response => exact hread.trans (server.tends_sendResponse id x.requests response io.reply)

theorem tends_onSessionEvent (x : Exchange) (id : ℕ) (events : EventMask) (io : SessionIO)
    (handling : Handling) : Tends x.server (x.onSessionEvent id events io handling).server := by
  have hdrained : Tends x.server
      (if events.write then x.server.drainPendingSend id io.drain else (x.server, true)).1 := by
    split_ifs
    · exact x.server.tends_drainPendingSend id io.drain
    · exact .refl _
  unfold onSessionEvent
  generalize (if events.write then x.server.drainPendingSend id io.drain else (x.server, true)) =
    drained at hdrained
  rcases drained with ⟨server, _ | _⟩
  · exact hdrained
  · dsimp only at hdrained ⊢
    cases hread : (if events.read then (server.findSession id).filter (!·.requestInFlight)
        else none) with
    | none =>
        dsimp only
        split_ifs
        · exact hdrained.trans (server.tends_closeSession id)
        · exact hdrained
    | some s =>
        split_ifs at hread
        obtain ⟨hfind, _⟩ := Option.filter_eq_some_iff.mp hread
        exact hdrained.trans
          (tends_processRequest { x with server := server } hfind io.request handling)

theorem tends_step {x x' : Exchange} {label : Label} (hstep : machine.step x label = some x') :
    Tends x.server x'.server := by
  change step x label = some x' at hstep
  cases label with
  | accept answers =>
      obtain ⟨server, haccept, rfl⟩ := Option.map_eq_some_iff.mp hstep
      unfold SocketServer.onAcceptReady at haccept
      split_ifs at haccept
      · exact Option.some.inj haccept ▸ .refl _
      · exact SocketServer.tends_acceptClients haccept
  | poll id flags =>
      simp only [step, poll] at hstep
      cases hfind : x.server.findSession id with
      | none => simp [hfind] at hstep
      | some s =>
          rw [hfind] at hstep
          dsimp only at hstep
          split_ifs at hstep
          rw [← Option.some.inj hstep]
          exact .refl _
  | event io handling =>
      cases hready : x.ready with
      | nil => simp [step, hready] at hstep
      | cons first ready =>
          simp only [step, hready, Option.some.injEq] at hstep
          rw [← hstep]
          exact tends_onSessionEvent { x with ready := ready } _ _ io handling
  | sink request response io =>
      simp only [step, callSink] at hstep
      split_ifs at hstep
      obtain ⟨id, _, rfl⟩ := Option.map_eq_some_iff.mp hstep
      exact x.server.tends_sendResponse id request response io
  | idleSweep now armed => exact Option.some.inj hstep ▸ x.server.tends_onIdleSweep now armed
  | stop => exact Option.some.inj hstep ▸ x.server.tends_stop

theorem tends_run {x x' : Exchange} {labels : List Label}
    (hrun : machine.run x labels = some x') : Tends x.server x'.server :=
  machine.invariant_of_step (I := fun y => Tends x.server y.server)
    (fun h hstep => h.trans (tends_step hstep)) (.refl _) hrun

theorem registered_started (io : StartIO) : Registered (started io).server :=
  SocketServer.registered_of_closed
    ((SocketServer.sessionHandlers_start io).add Service.workFd .READ .work true (by simp) rfl rfl)
    (SocketServer.start_spec io).1

/-! ### What every run keeps -/

inductive Phase
  | reading
  | handling
  | sending
  deriving DecidableEq, Repr

/-- Mask, flag and buffer agree on the phase. -/
def InPhase (mask : EventMask) (s : Session) : Phase → Prop
  | .reading => mask = .READ ∧ s.requestInFlight = false ∧ s.pendingResponse = []
  | .handling => mask = .none ∧ s.requestInFlight = true ∧ s.pendingResponse = []
  | .sending => mask = .WRITE ∧ s.requestInFlight = true ∧ s.pendingResponse ≠ []

theorem InPhase.unique {mask : EventMask} {s : Session} {phase phase' : Phase}
    (h : InPhase mask s phase) (h' : InPhase mask s phase') : phase' = phase := by
  have hmask : ∀ {p}, InPhase mask s p →
      mask = match p with | .reading => .READ | .handling => .none | .sending => .WRITE := by
    intro p hp
    cases p <;> exact hp.1
  have heq := (hmask h).symm.trans (hmask h')
  cases phase <;> cases phase' <;> first | rfl | cases heq

/-- The representation of sessions. -/
structure SessionsKept (x : Exchange) : Prop where
  phase : ∀ {id s}, x.server.findSession id = some s →
    ∃! phase, InPhase (x.server.loop.interest s.fd) s phase
  /-- The loop has a session's handler under a descriptor just in case that session is
  open and has this descriptor. -/
  registered : ∀ fd id,
    (∃ position, x.server.loop.handlers.find fd = some ⟨position, .session id⟩) ↔
      ∃ s, x.server.findSession id = some s ∧ s.fd = fd
  apart : ∀ {id id' s s'}, x.server.findSession id = some s → x.server.findSession id' = some s' →
    s.fd = s'.fd → id = id'
  bounded : x.server.sessions.keys.length ≤ SocketServer.kMaxConnections
  /-- A session that is no longer open never is again. -/
  onceOnly : ∀ {id s first y second z}, x.server.findSession id = some s →
    machine.run x first = some y → y.server.findSession id = none →
    machine.run y second = some z → z.server.findSession id = none
  /-- The idle sweep closes no session that is at work. -/
  spared : ∀ {id s} now armed, x.server.findSession id = some s →
    ¬ InPhase (x.server.loop.interest s.fd) s .reading →
    (x.server.onIdleSweep now armed).findSession id = some s

theorem exists_phase {x : Exchange} (h : Paired x) {id : ℕ} {s : Session}
    (hfind : x.server.findSession id = some s) :
    ∃ phase, InPhase (x.server.loop.interest s.fd) s phase := by
  rcases (h.attended.tracked hfind).phase with hidle | ⟨request, hserves⟩
  · exact ⟨.reading, hidle.mask, hidle.inFlight, hidle.pending⟩
  rcases hserves.mask with ⟨hmask, hpending, _⟩ | ⟨hmask, response, _, hpending⟩
  · exact ⟨.handling, hmask, hserves.inFlight, hpending⟩
  · refine ⟨.sending, hmask, hserves.inFlight, ?_⟩
    simp [hpending, Message.serialize]

theorem invariants_of_run {io : StartIO} {labels : List Label} {x : Exchange}
    (hrun : machine.run (started io) labels = some x) : Paired x ∧ Registered x.server :=
  ⟨machine.invariant_of_step (fun h hstep => paired_step h hstep) (paired_started io) hrun,
    (tends_run hrun).registered (registered_started io)⟩

theorem sessionsKept_of_paired {x : Exchange} (h : Paired x) (hregistered : Registered x.server) :
    SessionsKept x where
  phase hfind := by
    obtain ⟨phase, hphase⟩ := exists_phase h hfind
    exact ⟨phase, hphase, fun _ hother => hphase.unique hother⟩
  registered fd id := by
    constructor
    · rintro ⟨position, hhandler⟩
      exact hregistered.session fd position id hhandler
    · rintro ⟨s, hfind, rfl⟩
      exact hregistered.handler hfind
  apart := hregistered.apart
  bounded := hregistered.bounded
  onceOnly hfind hfirst hgone hsecond :=
    (tends_run hsecond).gone
      (Nat.lt_of_lt_of_le (hregistered.numbered hfind) (tends_run hfirst).nextId) hgone
  spared {id s} now armed hfind hphase := by
    refine SocketServer.findSession_onIdleSweep _ hfind ?_ now armed
    obtain ⟨phase, hphase'⟩ := exists_phase h hfind
    cases phase with
    | reading => exact absurd hphase' hphase
    | handling => exact hphase'.2.1
    | sending => exact hphase'.2.1

/-- **The table of sessions is kept** in every run of the server, whatever handler is
behind it. -/
theorem sessions_kept {io : StartIO} {labels : List Label} {x : Exchange}
    (hrun : machine.run (started io) labels = some x) : SessionsKept x := by
  obtain ⟨hpaired, hregistered⟩ := invariants_of_run hrun
  exact sessionsKept_of_paired hpaired hregistered

/-- Two clients: one reads again after a handler that throws, the other has its
response waiting. -/
def twoClients : List Label :=
  [.accept [.client 7 true 0, .client 8 true 0, .again],
    .poll 1 { epollin := true }, .poll 2 { epollin := true },
    .event { request := { recv := .received [8, 0] } } .throws,
    .event { request := { recv := .received [9, 0] } } .defers,
    .sink 1 ⟨.respSuccess, 0, []⟩ { result := .again }]

theorem sessions_kept_twoClients :
    ∃ x s s', machine.run (started {}) twoClients = some x ∧
      x.server.findSession 1 = some s ∧ s.requestInFlight = false ∧
      x.server.findSession 2 = some s' ∧ s'.pendingResponse = [100, 0] ∧ SessionsKept x := by
  have hsessions : (machine.run (started {}) twoClients).map
      (fun x => (x.server.findSession 1, x.server.findSession 2)) =
      some (some { fd := 7, lastActivity := 0 },
        some { fd := 8, lastActivity := 0, pendingResponse := [100, 0], requestInFlight := true,
               serving := some 1 }) := by decide
  obtain ⟨x, hrun, heq⟩ := Option.map_eq_some_iff.mp hsessions
  obtain ⟨hfirst, hsecond⟩ := Prod.mk.inj heq
  exact ⟨x, _, _, hrun, hfirst, rfl, hsecond, rfl, sessions_kept hrun⟩

end Exchange

/-! ## The daemon is such a handler -/

namespace Service

theorem exchange_processRequest (v : Service) (id : ℕ) (s : Session) (io : RequestIO) :
    ∃ handling, (v.processRequest id s io).exchange =
      v.exchange.processRequest id s io handling := by
  simp only [Service.processRequest, Exchange.processRequest, exchange]
  generalize v.server.readRequest id s v.daemon.requests io = outcome
  rcases outcome with ⟨server, _ | message⟩
  · exact ⟨.defers, rfl⟩
  · have hanswering := v.daemon.answering_receive message
    simp only [Daemon.answering, Prod.mk.injEq] at hanswering
    obtain ⟨hrequests, hreplies⟩ := hanswering
    cases hresponse : (v.daemon.handleCommand ⟨v.daemon.requests, message⟩).2 with
    | none =>
        refine ⟨.defers, ?_⟩
        simp [hrequests, hreplies, hresponse, Exchange.Handling.response]
    | some response =>
        refine ⟨.answers response, ?_⟩
        simp [hrequests, hreplies, hresponse, Exchange.Handling.response, Exchange.answer]

theorem exchange_onSessionEvent (v : Service) (id : ℕ) (events : EventMask) (io : SessionIO) :
    ∃ handling, (v.onSessionEvent id events io).exchange =
      v.exchange.onSessionEvent id events io handling := by
  simp only [Service.onSessionEvent, Exchange.onSessionEvent, show v.exchange.server = v.server from rfl]
  generalize (if events.write then v.server.drainPendingSend id io.drain else (v.server, true)) =
    drained
  rcases drained with ⟨server, _ | _⟩
  · exact ⟨.defers, rfl⟩
  dsimp only
  cases (if events.read then (server.findSession id).filter (!·.requestInFlight) else none) with
  | none =>
      refine ⟨.defers, ?_⟩
      split_ifs <;> rfl
  | some s => exact exchange_processRequest { v with server := server } id s io.request

/-- The exchanges that a run of the server, with some handler, leads to. -/
def Leads (x x' : Exchange) : Prop := ∃ labels, Exchange.machine.run x labels = some x'

theorem Leads.single {x x' : Exchange} (label : Exchange.Label) (hstep : x.step label = some x') :
    Leads x x' :=
  ⟨[label], Exchange.machine.run_cons_eq_some.mpr ⟨x', hstep, rfl⟩⟩

/-- A step of the daemon that calls no sink is none of the server's. -/
theorem leads_of_silent {v : Service} {label : Daemon.Label} {daemon : Daemon}
    (hsilent : v.daemon.silent label = true) (hstep : v.daemon.step label = some daemon) :
    Leads v.exchange { v with daemon := daemon }.exchange := by
  have hsame := Daemon.answering_of_step hsilent (show Daemon.machine.step _ _ = _ from hstep)
  simp only [Daemon.answering, Prod.mk.injEq] at hsame
  exact ⟨[], by simp [exchange, hsame.1, hsame.2]⟩

theorem leads_of_poll {v v' : Service} {id : ℕ} {flags : EpollFlags}
    (hpoll : v.poll id flags = some v') : Leads v.exchange v'.exchange := by
  refine .single (.poll id flags) ?_
  unfold Service.poll at hpoll
  simp only [Exchange.step, Exchange.poll, show v.exchange.server = v.server from rfl,
    show v.exchange.ready = v.ready from rfl]
  cases hfind : v.server.findSession id with
  | none => simp [hfind] at hpoll
  | some s =>
      rw [hfind] at hpoll
      dsimp only at hpoll ⊢
      split_ifs at hpoll with hguard
      rw [if_pos hguard, ← Option.some.inj hpoll]
      rfl

theorem leads_of_drain {v v' : Service} (h : Coherent v) {io : SendIO}
    (hdrain : v.drain io = some v') : Leads v.exchange v'.exchange := by
  obtain ⟨daemon, hstep, rfl⟩ := Option.map_eq_some_iff.mp hdrain
  have hsilent (hnot : v.daemon.silent .drain = true) :
      Leads v.exchange { v with daemon := daemon }.exchange := leads_of_silent hnot hstep
  cases hposts : v.daemon.posts with
  | nil => exact hsilent (by simp [Daemon.silent, hposts])
  | cons post posts =>
      cases post with
      | reply request response =>
          obtain ⟨hlt, hunanswered⟩ :=
            h.accounted.balanced.unanswered (hposts ▸ List.mem_cons_self)
          have hdaemon : daemon = { v.daemon with
              posts := posts, log := v.daemon.log ++ [.replied request response] } := by
            simp only [Daemon.step, hposts, Option.some.injEq] at hstep
            exact hstep.symm
          have hsinks : request < v.sinks.length :=
            (show v.sinks.length = v.daemon.requests from h.paired.recorded.counted) ▸ hlt
          have hsink : v.sinks[request]? = some v.sinks[request] := List.getElem?_eq_getElem hsinks
          have huncalled : request ∉ v.exchange.replies.map (·.1) := by
            intro hmem
            obtain ⟨⟨_, answer⟩, hanswer, rfl⟩ := List.mem_map.mp hmem
            exact hunanswered answer hanswer
          refine .single (.sink request response io) ?_
          simp only [Exchange.step, Exchange.callSink, if_neg huncalled, callSink, hsink,
            show v.exchange.sinks = v.sinks from rfl, Option.map_some]
          simp [hdaemon, exchange, Exchange.answer, Daemon.replies, Effect.reply?]
      | suspendDone ticket => exact hsilent (by simp [Daemon.silent, hposts])
      | resumeDone ticket adapterValid => exact hsilent (by simp [Daemon.silent, hposts])
      | reconnectDone ticket ok => exact hsilent (by simp [Daemon.silent, hposts])
      | connectionLost => exact hsilent (by simp [Daemon.silent, hposts])
      | power kind => exact hsilent (by simp [Daemon.silent, hposts])

/-- **The service refines the server with any handler**: each of its steps is one of
the server's, or none. -/
theorem leads_of_step {v v' : Service} (h : Coherent v) {label : Label}
    (hstep : machine.step v label = some v') : Leads v.exchange v'.exchange := by
  change Service.step v label = some v' at hstep
  cases label with
  | accept answers =>
      obtain ⟨server, haccept, rfl⟩ := Option.map_eq_some_iff.mp hstep
      exact .single (.accept answers) (by simp [Exchange.step, exchange, haccept])
  | poll id flags => exact leads_of_poll hstep
  | event io =>
      cases hready : v.ready with
      | nil => simp [Service.step, hready] at hstep
      | cons first ready =>
          simp only [Service.step, hready, Option.some.injEq] at hstep
          obtain ⟨handling, heq⟩ :=
            exchange_onSessionEvent { v with ready := ready } first.1 first.2 io
          refine .single (.event io handling) ?_
          simp only [Exchange.step, show v.exchange.ready = _ from hready, ← hstep]
          exact congrArg some heq.symm
  | idleSweep now armed =>
      rw [← Option.some.inj hstep]
      exact .single (.idleSweep now armed) (by rfl)
  | stopServer =>
      rw [← Option.some.inj hstep]
      exact .single .stop (by rfl)
  | drain io => exact leads_of_drain h hstep
  | daemon label =>
      have hother (heq : Service.step v (.daemon label) =
          (v.daemon.step label).map fun daemon => { v with daemon := daemon })
          (hsilent : v.daemon.silent label = true) : Leads v.exchange v'.exchange := by
        obtain ⟨daemon, hdaemon, rfl⟩ := Option.map_eq_some_iff.mp (heq.symm.trans hstep)
        exact leads_of_silent hsilent hdaemon
      cases label with
      | wire message => simp [Service.step] at hstep
      | drain => simp [Service.step] at hstep
      | _ => exact hother rfl rfl

/-- So what every run of the server keeps, every run of the service keeps. -/
theorem sessionsKept_of_run {setup : Daemon.Setup} {io : StartIO} {labels : List Label}
    {v : Service} (hrun : machine.run (boot setup io) labels = some v) :
    Exchange.SessionsKept v.exchange := by
  have hreached : Coherent v ∧ Leads (Exchange.started io) v.exchange := by
    refine machine.invariant_of_step
      (I := fun v => Coherent v ∧ Leads (Exchange.started io) v.exchange)
      (fun {v label v'} h hstep => ?_) ⟨Coherent.boot setup io, [], by rfl⟩ hrun
    obtain ⟨hcoherent, first, hfirst⟩ := h
    obtain ⟨second, hsecond⟩ := leads_of_step hcoherent hstep
    exact ⟨hcoherent.step hstep, first ++ second,
      Exchange.machine.run_append_eq_some.mpr ⟨_, hfirst, hsecond⟩⟩
  obtain ⟨_, labels', hrun'⟩ := hreached
  obtain ⟨hpaired, hregistered⟩ := Exchange.invariants_of_run hrun'
  exact Exchange.sessionsKept_of_paired hpaired hregistered

end Service

end CecControl
