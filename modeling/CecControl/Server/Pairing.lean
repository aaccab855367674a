/-
# Every response goes to its request

A session is between requests, or serving one that the daemon has yet to answer, or
waiting to send the answer it was given; and the mask its descriptor is polled with
says which. What the log says about requests and responses follows from there: a
request is answered at most once, on the connection it came from, before the next
one is read, and an answer the daemon has given is out, or waiting, or its session
is gone.

The daemon's side of it is only that the sink of a request is called at most once,
which is what its ledger says.
-/

import CecControl.Server.Service
import CecControl.Daemon.Replies

namespace CecControl

open Lib

namespace ServerEvent

/-- The request a datagram answers. -/
def answers : ServerEvent → Option ℕ
  | .sent _ request _ => request
  | _ => none

/-- The session a well-formed request was read on. -/
def reads : ServerEvent → Option ℕ
  | .read session _ _ => some session
  | .dropped session _ => some session
  | .sent _ _ _ => none

end ServerEvent

/-- A request is read on a session only when every earlier one has been answered. -/
def InOrder (log : List ServerEvent) : Prop :=
  ∀ before e after id, log = before ++ e :: after → e.reads = some id →
    ∀ peer request, .read id peer request ∈ before →
      ∃ bytes, .sent peer (some request) bytes ∈ before

theorem InOrder.snoc {log : List ServerEvent} (h : InOrder log) (e : ServerEvent)
    (hnew : ∀ id, e.reads = some id → ∀ peer request, .read id peer request ∈ log →
      ∃ bytes, .sent peer (some request) bytes ∈ log) : InOrder (log ++ [e]) := by
  intro before e' after id hsplit hreads
  rcases List.eq_nil_or_concat after with rfl | ⟨rest, last, rfl⟩
  · obtain ⟨rfl, rfl⟩ : log = before ∧ e = e' := by simpa using List.append_inj' hsplit rfl
    exact hnew id hreads
  · refine h before e' rest id ?_ hreads
    have hsplit' : log ++ [e] = (before ++ e' :: rest) ++ [last] := by simpa using hsplit
    exact (List.append_inj' hsplit' rfl).1

namespace SocketServer

/-! ## What the operations do to the sessions -/

/-- Store a session and its poll mask. -/
def withSession (server : SocketServer) (id : ℕ) (session : Session) (events : EventMask) :
    SocketServer :=
  { server with
    sessions := server.sessions.insert id session
    loop := server.loop.watch session.fd events }

theorem erase_insert (sessions : AList fun _ : ℕ => Session) (id : ℕ) (session : Session) :
    (sessions.insert id session).erase id = sessions.erase id :=
  AList.ext (List.kerase_cons_eq rfl)

/-- A session is stored with its new mask, or closed. -/
theorem rearm_cases (server : SocketServer) {id : ℕ} {session : Session}
    (hfind : server.findSession id = some session) (next : Session) (hfd : next.fd = session.fd)
    (events : EventMask) (modified : Bool) :
    server.rearm id next events modified = (server.withSession id next events, true) ∨
      server.rearm id next events modified = (server.closeSession id, false) := by
  unfold rearm EventLoop.modify
  dsimp only
  split_ifs
  · right
    simp [closeSession, findSession, erase_insert, hfd,
      show server.sessions.lookup id = some session from hfind]
  · right
    simp [closeSession, findSession, erase_insert, hfd,
      show server.sessions.lookup id = some session from hfind]
  · exact .inl rfl

theorem findSession_withSession_self (server : SocketServer) (id : ℕ) (session : Session)
    (events : EventMask) : (server.withSession id session events).findSession id = some session :=
  AList.lookup_insert _

theorem findSession_withSession_of_ne (server : SocketServer) {id other : ℕ} (session : Session)
    (events : EventMask) (hne : other ≠ id) :
    (server.withSession id session events).findSession other = server.findSession other :=
  AList.lookup_insert_ne hne

theorem findSession_closeSession_self (server : SocketServer) (id : ℕ) :
    (server.closeSession id).findSession id = none := by
  unfold closeSession
  cases hfind : server.findSession id with
  | none => exact hfind
  | some session => exact AList.lookup_erase _ _

theorem findSession_closeSession_of_ne (server : SocketServer) {id other : ℕ} (hne : other ≠ id) :
    (server.closeSession id).findSession other = server.findSession other := by
  unfold closeSession
  split
  · rfl
  · exact AList.lookup_erase_ne hne

theorem findSession_of_closeSession {server : SocketServer} {id other : ℕ} {session : Session}
    (h : (server.closeSession id).findSession other = some session) :
    other ≠ id ∧ server.findSession other = some session := by
  have hne : other ≠ id := by
    rintro rfl
    simp [findSession_closeSession_self] at h
  exact ⟨hne, findSession_closeSession_of_ne server hne ▸ h⟩

theorem closeSession_log (server : SocketServer) (id : ℕ) :
    (server.closeSession id).log = server.log := by
  unfold closeSession
  split <;> rfl

theorem closeSession_nextId (server : SocketServer) (id : ℕ) :
    (server.closeSession id).nextId = server.nextId := by
  unfold closeSession
  split <;> rfl

/-- Closing a session leaves every other descriptor alone. -/
theorem closeSession_other (server : SocketServer) {id : ℕ} {fd : ℤ}
    (hfd : ∀ session, server.findSession id = some session → fd ≠ session.fd) :
    (server.closeSession id).loop.interest fd = server.loop.interest fd ∧
      (server.closeSession id).peers fd = server.peers fd := by
  unfold closeSession
  cases hfind : server.findSession id with
  | none => exact ⟨rfl, rfl⟩
  | some session =>
      have hne := hfd session hfind
      refine ⟨?_, Function.update_of_ne hne _ _⟩
      dsimp only
      unfold EventLoop.remove
      split_ifs
      · rfl
      · exact Function.update_of_ne hne _ _

theorem closeSessions_log (server : SocketServer) (ids : List ℕ) :
    (server.closeSessions ids).log = server.log := by
  induction ids generalizing server with
  | nil => rfl
  | cons id ids ih => exact (ih (server.closeSession id)).trans (server.closeSession_log id)

theorem closeSessions_nextId (server : SocketServer) (ids : List ℕ) :
    (server.closeSessions ids).nextId = server.nextId := by
  induction ids generalizing server with
  | nil => rfl
  | cons id ids ih => exact (ih (server.closeSession id)).trans (server.closeSession_nextId id)

/-- Closing every open session leaves none. -/
theorem findSession_closeSessions (server : SocketServer) {ids : List ℕ}
    (hall : ∀ id session, server.findSession id = some session → id ∈ ids) (id : ℕ) :
    (server.closeSessions ids).findSession id = none := by
  induction ids generalizing server with
  | nil =>
      cases hfind : server.findSession id with
      | none => exact hfind
      | some session => exact absurd (hall id session hfind) List.not_mem_nil
  | cons first ids ih =>
      refine ih (server.closeSession first) fun other session hfind => ?_
      obtain ⟨hne, hopen⟩ := findSession_of_closeSession hfind
      exact (List.mem_cons.mp (hall other session hopen)).resolve_left hne

theorem mem_keys_of_findSession {server : SocketServer} {id : ℕ} {session : Session}
    (h : server.findSession id = some session) : id ∈ server.sessions.keys :=
  AList.mem_keys.mp (AList.lookup_isSome.mp (by rw [show server.sessions.lookup id = _ from h]; rfl))

/-- Stopping leaves no session, and the log as it is. -/
theorem stop_spec (server : SocketServer) :
    (∀ id, server.stop.findSession id = none) ∧ server.stop.log = server.log ∧
      server.stop.nextId = server.nextId := by
  unfold stop
  split_ifs with hidle
  · refine ⟨fun id => ?_, rfl, rfl⟩
    cases hfind : server.findSession id with
    | none => rfl
    | some session =>
        have hmem := mem_keys_of_findSession hfind
        simp only [Bool.and_eq_true, List.isEmpty_iff] at hidle
        simp [hidle.2] at hmem
  · dsimp only
    split <;>
      exact ⟨findSession_closeSessions _ fun _ _ => mem_keys_of_findSession,
        closeSessions_log _ _, closeSessions_nextId _ _⟩

/-- A server that has been started, or has failed to, has no session and has logged
nothing. -/
theorem start_spec (io : StartIO) :
    (∀ id, (start {} io).1.findSession id = none) ∧ (start {} io).1.log = [] := by
  have hstop (server : SocketServer) (hlog : server.log = []) :
      (∀ id, server.stop.findSession id = none) ∧ server.stop.log = [] :=
    ⟨server.stop_spec.1, server.stop_spec.2.1.trans hlog⟩
  have hfresh (server : SocketServer) (hsessions : server.sessions = ∅) (hlog : server.log = []) :
      (∀ id, server.findSession id = none) ∧ server.log = [] := by
    refine ⟨fun id => ?_, hlog⟩
    rw [findSession, hsessions]
    rfl
  unfold start
  rw [if_neg (by simp), if_neg (by decide)]
  by_cases hwritable : (!io.writable) = true
  · rw [if_pos hwritable]
    exact hfresh _ rfl rfl
  rw [if_neg hwritable]
  cases io.listenFd with
  | none => exact hfresh _ rfl rfl
  | some fd =>
      dsimp only
      split
      · exact hstop _ rfl
      · split
        · exact hstop _ rfl
        · split_ifs
          · exact hfresh _ rfl rfl
          · exact hstop _ rfl

end SocketServer

/-! ## The invariant -/

/-- What the pairing of requests and responses depends on: the answers the daemon has
given, the number of requests it has been handed, and the server. -/
structure Exchange where
  replies : List (ℕ × Message)
  requests : ℕ
  sinks : List ℕ
  ready : List (ℕ × EventMask)
  server : SocketServer

/-- The daemon has answered the request. -/
def Exchange.Answered (x : Exchange) (request : ℕ) : Prop :=
  ∃ response, (request, response) ∈ x.replies

/-- A session between requests. -/
structure Session.Idle (s : Session) (x : Exchange) : Prop where
  inFlight : s.requestInFlight = false
  serving : s.serving = none
  pending : s.pendingResponse = []
  mask : x.server.loop.interest s.fd = .READ

/-- A session serving a request: not yet answered, or with its answer waiting. -/
structure Session.Serves (s : Session) (x : Exchange) (id request : ℕ) : Prop where
  inFlight : s.requestInFlight = true
  serving : s.serving = some request
  sink : x.sinks[request]? = some id
  wasRead : .read id (x.server.peers s.fd) request ∈ x.server.log
  unsent : ∀ e ∈ x.server.log, e.answers ≠ some request
  mask : x.server.loop.interest s.fd = .none ∧ s.pendingResponse = [] ∧ ¬ x.Answered request ∨
    x.server.loop.interest s.fd = .WRITE ∧
      ∃ response, (request, response) ∈ x.replies ∧ s.pendingResponse = response.serialize

/-- The state of an open session. -/
structure Session.Tracked (s : Session) (x : Exchange) (id : ℕ) : Prop where
  numbered : id < x.server.nextId
  peer : ∃ peer, x.server.peers s.fd = some peer
  phase : s.Idle x ∨ ∃ request, s.Serves x id request

/-- What holds of the open sessions and of the poll results waiting for them. -/
structure Attended (x : Exchange) : Prop where
  tracked : ∀ {id s}, x.server.findSession id = some s → s.Tracked x id
  apart : ∀ {id id' s s'}, x.server.findSession id = some s → x.server.findSession id' = some s' →
    s.fd = s'.fd → id = id'
  polledOnce : (x.ready.map (·.1)).Nodup
  polledKnown : ∀ id ∈ x.ready.map (·.1), id < x.server.nextId
  polledWrite : ∀ {id events s}, (id, events) ∈ x.ready → events.write = true →
    x.server.findSession id = some s → x.server.loop.interest s.fd = .WRITE

/-- What holds of the requests and responses in the log. -/
structure Recorded (x : Exchange) : Prop where
  counted : x.sinks.length = x.requests
  asked : ∀ {request}, x.Answered request → request < x.requests
  wasRead : ∀ request < x.requests, ∃ id peer, .read id peer request ∈ x.server.log
  known : ∀ {id peer request}, .read id peer request ∈ x.server.log →
    id < x.server.nextId ∧ x.sinks[request]? = some id
  connection : ∀ {id peer request s}, .read id peer request ∈ x.server.log →
    x.server.findSession id = some s → peer = x.server.peers s.fd
  settled : ∀ {id peer request}, .read id peer request ∈ x.server.log →
    (∃ bytes, .sent peer (some request) bytes ∈ x.server.log) ∨ x.server.findSession id = none ∨
      ∃ s, x.server.findSession id = some s ∧ s.serving = some request
  sent : ∀ {peer request bytes}, .sent peer request bytes ∈ x.server.log →
    ∃ p r response id, peer = some p ∧ request = some r ∧ (r, response) ∈ x.replies ∧
      bytes = response.serialize ∧ .read id (some p) r ∈ x.server.log
  once : ∀ request, tally ServerEvent.answers x.server.log request ≤ 1
  inOrder : InOrder x.server.log

structure Paired (x : Exchange) : Prop where
  attended : Attended x
  recorded : Recorded x

/-- A session stays tracked while nothing concerning it changes. -/
theorem Session.Tracked.keep {s : Session} {x x' : Exchange} {id : ℕ} (h : s.Tracked x id)
    (hnext : x.server.nextId ≤ x'.server.nextId)
    (hpeers : x'.server.peers s.fd = x.server.peers s.fd)
    (hmask : x'.server.loop.interest s.fd = x.server.loop.interest s.fd)
    (hsinks : x.sinks <+: x'.sinks)
    (hlog : ∃ more, x'.server.log = x.server.log ++ more ∧
      ∀ e ∈ more, ∀ request, s.serving = some request → e.answers ≠ some request)
    (hreplies : ∀ request, s.serving = some request → ∀ response,
      (request, response) ∈ x'.replies ↔ (request, response) ∈ x.replies) : s.Tracked x' id where
  numbered := Nat.lt_of_lt_of_le h.numbered hnext
  peer := hpeers ▸ h.peer
  phase := by
    obtain ⟨more, hlog, hmore⟩ := hlog
    rcases h.phase with hidle | ⟨request, hserves⟩
    · exact .inl ⟨hidle.inFlight, hidle.serving, hidle.pending, hmask ▸ hidle.mask⟩
    · refine .inr ⟨request, hserves.inFlight, hserves.serving, ?_, ?_, ?_, ?_⟩
      · obtain ⟨added, hadded⟩ := hsinks
        have hlt := (List.getElem?_eq_some_iff.mp hserves.sink).1
        rw [← hadded, List.getElem?_append_left hlt]
        exact hserves.sink
      · rw [hpeers, hlog]
        exact List.mem_append_left _ hserves.wasRead
      · intro e he
        rw [hlog, List.mem_append] at he
        exact he.elim (hserves.unsent e) fun hnew => hmore e hnew request hserves.serving
      · have hsame := hreplies request hserves.serving
        simpa only [hmask, Exchange.Answered, hsame] using hserves.mask

/-! ## Closing -/

section Transitions

variable {x : Exchange} {id : ℕ} {s : Session}

/-- No other open session has the descriptor. -/
theorem Attended.fd_ne (h : Attended x) {other : ℕ} {s' : Session}
    (hfind : x.server.findSession id = some s) (hother : x.server.findSession other = some s')
    (hne : other ≠ id) : s'.fd ≠ s.fd :=
  fun heq => hne (h.apart hother hfind heq)

theorem Attended.close (h : Attended x) (id : ℕ) :
    Attended { x with server := x.server.closeSession id } := by
  have hother {other s'} (hfind : (x.server.closeSession id).findSession other = some s') :
      x.server.findSession other = some s' ∧
        (x.server.closeSession id).loop.interest s'.fd = x.server.loop.interest s'.fd ∧
        (x.server.closeSession id).peers s'.fd = x.server.peers s'.fd := by
    obtain ⟨hne, hopen⟩ := SocketServer.findSession_of_closeSession hfind
    exact ⟨hopen, x.server.closeSession_other fun s hs => h.fd_ne hs hopen hne⟩
  constructor
  · intro other s' hfind
    obtain ⟨hopen, hmask, hpeers⟩ := hother hfind
    refine (h.tracked hopen).keep (Nat.le_of_eq (x.server.closeSession_nextId id).symm) hpeers
      hmask (List.prefix_refl _) ⟨[], ?_, by simp⟩ fun _ _ _ => Iff.rfl
    simp [SocketServer.closeSession_log]
  · intro one other s₁ s₂ h₁ h₂
    exact h.apart (hother h₁).1 (hother h₂).1
  · exact h.polledOnce
  · intro other hmem
    rw [SocketServer.closeSession_nextId]
    exact h.polledKnown other hmem
  · intro other events s' hmem hwrite hfind
    obtain ⟨hopen, hmask, _⟩ := hother hfind
    exact hmask.trans (h.polledWrite hmem hwrite hopen)

/-- The record depends on the log, and on the sessions only so far. -/
theorem Recorded.keep (h : Recorded x) {x' : Exchange} (hlog : x'.server.log = x.server.log)
    (hnext : x.server.nextId ≤ x'.server.nextId) (hsinks : x'.sinks = x.sinks)
    (hrequests : x'.requests = x.requests)
    (hreplies : ∀ {entry}, entry ∈ x.replies → entry ∈ x'.replies)
    (hasked : ∀ {request}, x'.Answered request → request < x.requests)
    (hsessions : ∀ {id}, id < x.server.nextId → x'.server.findSession id = none ∨
      ∃ s s', x.server.findSession id = some s ∧ x'.server.findSession id = some s' ∧
        x'.server.peers s'.fd = x.server.peers s.fd ∧ s'.serving = s.serving) :
    Recorded x' := by
  constructor
  · rw [hsinks, hrequests, h.counted]
  · rw [hrequests]
    exact hasked
  · rw [hrequests, hlog]
    exact h.wasRead
  · intro id peer request hread
    rw [hlog] at hread
    rw [hsinks]
    exact ⟨Nat.lt_of_lt_of_le (h.known hread).1 hnext, (h.known hread).2⟩
  · intro id peer request s' hread hfind
    rw [hlog] at hread
    rcases hsessions (h.known hread).1 with hnone | ⟨s, s₂, hopen, hopen', hpeers, _⟩
    · simp [hnone] at hfind
    · obtain rfl := Option.some.inj (hopen'.symm.trans hfind)
      exact (h.connection hread hopen).trans hpeers.symm
  · intro id peer request hread
    rw [hlog] at hread ⊢
    rcases hsessions (h.known hread).1 with hnone | ⟨s, s', hopen, hopen', _, hserving⟩
    · exact .inr (.inl hnone)
    · rcases h.settled hread with hsent | hclosed | ⟨s₂, hopen₂, hserving₂⟩
      · exact .inl hsent
      · simp [hopen] at hclosed
      · obtain rfl := Option.some.inj (hopen.symm.trans hopen₂)
        exact .inr (.inr ⟨s', hopen', hserving.trans hserving₂⟩)
  · intro peer request bytes hsent
    rw [hlog] at hsent ⊢
    obtain ⟨p, r, response, id, hpeer, hrequest, hreply, hbytes, hread⟩ := h.sent hsent
    exact ⟨p, r, response, id, hpeer, hrequest, hreplies hreply, hbytes, hread⟩
  · rw [hlog]
    exact h.once
  · rw [hlog]
    exact h.inOrder

theorem Paired.close (h : Paired x) (id : ℕ) :
    Paired { x with server := x.server.closeSession id } where
  attended := h.attended.close id
  recorded := by
    refine h.recorded.keep (x.server.closeSession_log id)
      (Nat.le_of_eq (x.server.closeSession_nextId id).symm) rfl rfl (fun hmem => hmem)
      h.recorded.asked fun {other} _ => ?_
    cases hfind : (x.server.closeSession id).findSession other with
    | none => exact .inl rfl
    | some s =>
        obtain ⟨hne, hopen⟩ := SocketServer.findSession_of_closeSession hfind
        have hsame := x.server.closeSession_other fun s' hs' => h.attended.fd_ne hs' hopen hne
        exact .inr ⟨s, s, hopen, rfl, hsame.2, rfl⟩

/-! ## Storing -/

/-- A session that serves a request is the one its sink remembers. -/
theorem Attended.sink_of_serving (h : Attended x) (hfind : x.server.findSession id = some s)
    {request : ℕ} (hserving : s.serving = some request) : x.sinks[request]? = some id := by
  rcases (h.tracked hfind).phase with hidle | ⟨other, hserves⟩
  · simp [hidle.serving] at hserving
  · obtain rfl := Option.some.inj (hserves.serving.symm.trans hserving)
    exact hserves.sink

/-- Storing a session over a change that concerns one request leaves the others
alone. -/
theorem Attended.store (h : Attended x) (hfind : x.server.findSession id = some s)
    (next : Session) (events : EventMask) (hfd : next.fd = s.fd) {x' : Exchange} (request : ℕ)
    (more : List ServerEvent)
    (hserver : x'.server =
      { x.server.withSession id next events with log := x.server.log ++ more })
    (hready : x'.ready = x.ready) (hsinks : x.sinks <+: x'.sinks)
    (hnext : next.Tracked x' id)
    (hwrite : ∀ polled, (id, polled) ∈ x.ready → polled.write = true → events = .WRITE)
    (hmore : ∀ e ∈ more, ∀ other, e.answers = some other → other = request)
    (hreplies : ∀ other ≠ request, ∀ response,
      (other, response) ∈ x'.replies ↔ (other, response) ∈ x.replies)
    (hsink : ∀ other, x.sinks[request]? = some other → other = id) : Attended x' := by
  have hother {other s'} (hne : other ≠ id) (hopen : x'.server.findSession other = some s') :
      x.server.findSession other = some s' ∧
        x'.server.loop.interest s'.fd = x.server.loop.interest s'.fd := by
    rw [hserver] at hopen ⊢
    have hopen := (x.server.findSession_withSession_of_ne next events hne).symm.trans hopen
    exact ⟨hopen, Function.update_of_ne (hfd ▸ h.fd_ne hfind hopen hne) _ _⟩
  have hself {s'} (hopen : x'.server.findSession id = some s') : s' = next := by
    rw [hserver] at hopen
    exact Option.some.inj
      (hopen.symm.trans (x.server.findSession_withSession_self id next events))
  have hfds {other s'} (hopen : x'.server.findSession other = some s') :
      ∃ s₂, x.server.findSession other = some s₂ ∧ s'.fd = s₂.fd := by
    by_cases hne : other = id
    · subst hne
      exact ⟨s, hfind, hself hopen ▸ hfd⟩
    · exact ⟨s', (hother hne hopen).1, rfl⟩
  constructor
  · intro other s' hopen
    by_cases hne : other = id
    · subst hne
      exact hself hopen ▸ hnext
    · obtain ⟨hopen', hmask⟩ := hother hne hopen
      have hdiffer (r : ℕ) (hserving : s'.serving = some r) : r ≠ request := by
        rintro rfl
        exact hne (hsink other (h.sink_of_serving hopen' hserving))
      refine (h.tracked hopen').keep (by rw [hserver]; exact Nat.le_refl _) (by rw [hserver]; rfl)
        hmask hsinks ⟨more, by rw [hserver], fun e he r hserving hanswers => ?_⟩
        fun r hserving => hreplies r (hdiffer r hserving)
      exact hdiffer r hserving (hmore e he r hanswers)
  · intro one other s₁ s₂ h₁ h₂ heq
    obtain ⟨s₁', hopen₁, hfd₁⟩ := hfds h₁
    obtain ⟨s₂', hopen₂, hfd₂⟩ := hfds h₂
    exact h.apart hopen₁ hopen₂ (hfd₁ ▸ hfd₂ ▸ heq)
  · rw [hready]
    exact h.polledOnce
  · rw [hready, hserver]
    exact h.polledKnown
  · intro other polled s' hmem hflag hopen
    rw [hready] at hmem
    by_cases hne : other = id
    · subst hne
      obtain rfl := hself hopen
      rw [hserver, ← hwrite polled hmem hflag]
      exact Function.update_self _ _ _
    · obtain ⟨hopen', hmask⟩ := hother hne hopen
      exact hmask.trans (h.polledWrite hmem hflag hopen')

/-- Only the sessions, the log and what concerns open descriptors matter. -/
theorem Paired.congr (h : Paired x) {server' : SocketServer} (hlog : server'.log = x.server.log)
    (hnext : x.server.nextId ≤ server'.nextId)
    (hsessions : ∀ id, server'.findSession id = x.server.findSession id)
    (hfds : ∀ {id s}, x.server.findSession id = some s →
      server'.loop.interest s.fd = x.server.loop.interest s.fd ∧
        server'.peers s.fd = x.server.peers s.fd) : Paired { x with server := server' } := by
  refine ⟨⟨?_, ?_, h.attended.polledOnce, ?_, ?_⟩, ?_⟩
  · intro id s hfind
    have hopen := (hsessions id).symm.trans hfind
    exact (h.attended.tracked hopen).keep hnext (hfds hopen).2 (hfds hopen).1
      (List.prefix_refl _) ⟨[], by simp [hlog], by simp⟩ fun _ _ _ => Iff.rfl
  · intro id id' s s' hfind hfind'
    exact h.attended.apart ((hsessions id).symm.trans hfind) ((hsessions id').symm.trans hfind')
  · intro id hmem
    exact Nat.lt_of_lt_of_le (h.attended.polledKnown id hmem) hnext
  · intro id events s hmem hwrite hfind
    have hopen := (hsessions id).symm.trans hfind
    exact (hfds hopen).1.trans (h.attended.polledWrite hmem hwrite hopen)
  · refine h.recorded.keep hlog hnext rfl rfl (fun hmem => hmem)
      h.recorded.asked fun {id} _ => ?_
    cases hfind : x.server.findSession id with
    | none => exact .inl ((hsessions id).trans hfind)
    | some s => exact .inr ⟨s, s, rfl, (hsessions id).trans hfind, (hfds hfind).2, rfl⟩

/-- It is enough to look at the outcome in which the poll mask could be changed. -/
theorem Paired.rearm (hfind : x.server.findSession id = some s) (next : Session)
    (events : EventMask) (hfd : next.fd = s.fd) (modified : Bool)
    (hstored : Paired { x with server := x.server.withSession id next events }) :
    Paired { x with server := (x.server.rearm id next events modified).1 } := by
  rcases x.server.rearm_cases hfind next hfd events modified with heq | heq
  · rw [heq]
    exact hstored
  rw [heq]
  have hself := x.server.findSession_withSession_self id next events
  refine (hstored.close id).congr ?_ ?_ ?_ ?_
  · simp [SocketServer.closeSession_log, SocketServer.withSession]
  · simp [SocketServer.closeSession_nextId, SocketServer.withSession]
  · intro other
    by_cases hne : other = id
    · subst hne
      simp [SocketServer.findSession_closeSession_self]
    · simp only [SocketServer.findSession_closeSession_of_ne _ hne,
        SocketServer.findSession_withSession_of_ne _ _ _ hne]
  · intro other s' hopen
    obtain ⟨hne, hopen'⟩ := SocketServer.findSession_of_closeSession hopen
    have hne' : s'.fd ≠ next.fd := hstored.attended.fd_ne hself hopen' hne
    have hstoredSame := (x.server.withSession id next events).closeSession_other
      fun s₂ hs₂ => hstored.attended.fd_ne hs₂ hopen' hne
    have hsame : (x.server.closeSession id).loop.interest s'.fd = x.server.loop.interest s'.fd ∧
        (x.server.closeSession id).peers s'.fd = x.server.peers s'.fd :=
      x.server.closeSession_other fun s₂ hs₂ => by
        obtain rfl := Option.some.inj (hfind.symm.trans hs₂)
        exact hfd ▸ hne'
    exact ⟨hsame.1.trans ((Function.update_of_ne hne' _ _).symm.trans hstoredSame.1.symm),
      hsame.2.trans hstoredSame.2.symm⟩

/-- One event is logged with a session stored: it reads a request which the session
then serves, or answers the request the session was serving. -/
theorem Recorded.store (h : Recorded x) (hfind : x.server.findSession id = some s)
    (next : Session) (events : EventMask) (hfd : next.fd = s.fd) {x' : Exchange}
    (e : ServerEvent)
    (hserver : x'.server =
      { x.server.withSession id next events with log := x.server.log ++ [e] })
    (hsinks : x.sinks <+: x'.sinks) (hcounted : x'.sinks.length = x'.requests)
    (hasked : ∀ {request}, x'.Answered request → request < x'.requests)
    (hreplies : ∀ {entry}, entry ∈ x.replies → entry ∈ x'.replies)
    (hread : ∀ {id' peer request}, e = .read id' peer request →
      id' = id ∧ id < x.server.nextId ∧ peer = x.server.peers s.fd ∧
        x'.sinks[request]? = some id ∧ next.serving = some request)
    (hnew : ∀ request < x'.requests, request < x.requests ∨
      e = .read id (x.server.peers s.fd) request)
    (hserving : ∀ {request}, s.serving = some request →
      next.serving = some request ∨ ∃ bytes, e = .sent (x.server.peers s.fd) (some request) bytes)
    (hsent : ∀ {peer request bytes}, e = .sent peer request bytes →
      ∃ p r response id', peer = some p ∧ request = some r ∧ (r, response) ∈ x'.replies ∧
        bytes = response.serialize ∧ .read id' (some p) r ∈ x.server.log)
    (hunsent : ∀ {request}, e.answers = some request →
      ∀ e' ∈ x.server.log, e'.answers ≠ some request)
    (horder : ∀ id', e.reads = some id' → ∀ peer request, .read id' peer request ∈ x.server.log →
      ∃ bytes, .sent peer (some request) bytes ∈ x.server.log) : Recorded x' := by
  have hlog : x'.server.log = x.server.log ++ [e] := by rw [hserver]
  have hself : x'.server.findSession id = some next := by
    rw [hserver]
    exact x.server.findSession_withSession_self id next events
  have hother {other : ℕ} (hne : other ≠ id) :
      x'.server.findSession other = x.server.findSession other := by
    rw [hserver]
    exact x.server.findSession_withSession_of_ne next events hne
  have hold {e' : ServerEvent} (hmem : e' ∈ x.server.log) : e' ∈ x'.server.log :=
    hlog ▸ List.mem_append_left _ hmem
  have hlast : e ∈ x'.server.log := hlog ▸ List.mem_append_right _ (List.mem_singleton_self e)
  have hcases {e' : ServerEvent} (hmem : e' ∈ x'.server.log) : e' ∈ x.server.log ∨ e = e' := by
    simpa [hlog, eq_comm] using hmem
  constructor
  · exact hcounted
  · exact hasked
  · intro request hlt
    rcases hnew request hlt with hlt | rfl
    · obtain ⟨id', peer, hmem⟩ := h.wasRead request hlt
      exact ⟨id', peer, hold hmem⟩
    · exact ⟨_, _, hlast⟩
  · intro id' peer request hmem
    rcases hcases hmem with hmem | rfl
    · obtain ⟨hlt, hsink⟩ := h.known hmem
      obtain ⟨added, hadded⟩ := hsinks
      have hin := (List.getElem?_eq_some_iff.mp hsink).1
      refine ⟨by rw [hserver]; exact hlt, ?_⟩
      rw [← hadded, List.getElem?_append_left hin]
      exact hsink
    · obtain ⟨rfl, hlt, _, hsink, _⟩ := hread rfl
      exact ⟨by rw [hserver]; exact hlt, hsink⟩
  · intro id' peer request s' hmem hopen
    have hpeers : x'.server.peers = x.server.peers := by
      rw [hserver]
      rfl
    rw [hpeers]
    by_cases hne : id' = id
    · subst hne
      obtain rfl := Option.some.inj (hopen.symm.trans hself)
      rw [hfd]
      rcases hcases hmem with hmem | rfl
      · exact h.connection hmem hfind
      · exact (hread rfl).2.2.1
    · rcases hcases hmem with hmem | rfl
      · exact h.connection hmem ((hother hne).symm.trans hopen)
      · exact absurd (hread rfl).1 hne
  · intro id' peer request hmem
    by_cases hne : id' = id
    · subst hne
      rcases hcases hmem with hmem | rfl
      · rcases h.settled hmem with ⟨bytes, hanswer⟩ | hclosed | ⟨s', hopen, hserves⟩
        · exact .inl ⟨bytes, hold hanswer⟩
        · simp [hfind] at hclosed
        · obtain rfl := Option.some.inj (hfind.symm.trans hopen)
          rcases hserving hserves with hnext | ⟨bytes, rfl⟩
          · exact .inr (.inr ⟨next, hself, hnext⟩)
          · exact .inl ⟨bytes, h.connection hmem hfind ▸ hlast⟩
      · exact .inr (.inr ⟨next, hself, (hread rfl).2.2.2.2⟩)
    · rcases hcases hmem with hmem | rfl
      · rcases h.settled hmem with ⟨bytes, hanswer⟩ | hclosed | ⟨s', hopen, hserves⟩
        · exact .inl ⟨bytes, hold hanswer⟩
        · exact .inr (.inl ((hother hne).trans hclosed))
        · exact .inr (.inr ⟨s', (hother hne).trans hopen, hserves⟩)
      · exact absurd (hread rfl).1 hne
  · intro peer request bytes hmem
    rcases hcases hmem with hmem | rfl
    · obtain ⟨p, r, response, id', hp, hr, hreply, hbytes, hwas⟩ := h.sent hmem
      exact ⟨p, r, response, id', hp, hr, hreplies hreply, hbytes, hold hwas⟩
    · obtain ⟨p, r, response, id', hp, hr, hreply, hbytes, hwas⟩ := hsent rfl
      exact ⟨p, r, response, id', hp, hr, hreply, hbytes, hold hwas⟩
  · intro request
    rw [hlog, tally_append, tally_cons, tally_nil, Nat.add_zero]
    by_cases hanswers : e.answers = some request
    · have hzero : tally ServerEvent.answers x.server.log request = 0 := by
        refine Nat.eq_zero_of_not_pos fun hpos => ?_
        obtain ⟨e', he', hanswers'⟩ := tally_pos_iff.mp hpos
        exact hunsent hanswers e' he' hanswers'
      simp [hzero, share, hanswers]
    · simpa [share, hanswers] using h.once request
  · rw [hlog]
    exact h.inOrder.snoc e horder

/-! ## Responses -/

/-- The answers given, once `request` has been answered with `response`. -/
def Answers (x : Exchange) (request : ℕ) (response : Message) (replies : List (ℕ × Message)) :
    Prop :=
  ∀ entry, entry ∈ replies ↔ entry ∈ x.replies ∨ entry = (request, response)

theorem Answers.others {request : ℕ} {response : Message} {replies : List (ℕ × Message)}
    (h : Answers x request response replies) {other : ℕ} (hne : other ≠ request)
    (answer : Message) : (other, answer) ∈ replies ↔ (other, answer) ∈ x.replies := by
  simp [h (other, answer), hne]

theorem Paired.request_lt (h : Paired x) {request : ℕ} (hserves : s.Serves x id request) :
    request < x.requests :=
  h.recorded.counted ▸ (List.getElem?_eq_some_iff.mp hserves.sink).1

theorem Paired.asked_of_answers (h : Paired x) {request : ℕ} (hserves : s.Serves x id request)
    {response : Message} {replies : List (ℕ × Message)}
    (hreplies : Answers x request response replies) {other : ℕ} {answer : Message}
    (hanswer : (other, answer) ∈ replies) : other < x.requests := by
  rcases (hreplies _).mp hanswer with hbefore | heq
  · exact h.recorded.asked ⟨answer, hbefore⟩
  · exact (Prod.mk.inj heq).1 ▸ h.request_lt hserves

/-- The response to the request a session is serving goes out. -/
theorem Paired.delivered (h : Paired x) (hfind : x.server.findSession id = some s) {request : ℕ}
    (hserves : s.Serves x id request)
    (hpolled : ∀ polled, (id, polled) ∈ x.ready → polled.write = false)
    {response : Message} {replies : List (ℕ × Message)}
    (hreplies : Answers x request response replies) (io : SendIO) :
    Paired { x with
      replies := replies
      server := (x.server.delivered id s (some request) response.serialize io).1 } := by
  obtain ⟨peer, hpeer⟩ := (h.attended.tracked hfind).peer
  let e : ServerEvent := .sent (x.server.peers s.fd) (some request) response.serialize
  let next : Session :=
    { s with pendingResponse := [], requestInFlight := false, lastActivity := io.now,
             serving := none }
  have hstored : Paired { x with
      replies := replies, server := (x.server.emit e).withSession id next .READ } := by
    refine ⟨?_, ?_⟩
    · refine h.attended.store hfind next .READ rfl request [e] rfl rfl (List.prefix_refl _) ?_ ?_ ?_
        (fun other => hreplies.others) ?_
      · exact ⟨(h.attended.tracked hfind).numbered, ⟨peer, hpeer⟩,
          .inl ⟨rfl, rfl, rfl, Function.update_self _ _ _⟩⟩
      · intro polled hmem hwrite
        simp [hpolled polled hmem] at hwrite
      · intro e' he' other hanswers
        obtain rfl := List.mem_singleton.mp he'
        exact (Option.some.inj hanswers).symm
      · intro other hsink
        exact Option.some.inj (hsink.symm.trans hserves.sink)
    · refine h.recorded.store hfind next .READ rfl e rfl (List.prefix_refl _) h.recorded.counted
        (fun ⟨_, hanswer⟩ => h.asked_of_answers hserves hreplies hanswer)
        (fun hmem => (hreplies _).mpr (.inl hmem)) ?_ (fun _ => .inl) ?_ ?_ ?_ ?_
      · intro id' peer' request' heq
        simp [e] at heq
      · intro other hserving
        obtain rfl := Option.some.inj (hserves.serving.symm.trans hserving)
        exact .inr ⟨_, rfl⟩
      · intro peer' request' bytes heq
        obtain ⟨rfl, rfl, rfl⟩ := ServerEvent.sent.inj heq
        exact ⟨peer, request, response, id, hpeer, rfl, (hreplies _).mpr (.inr rfl), rfl,
          hpeer ▸ hserves.wasRead⟩
      · intro other hanswers
        obtain rfl := Option.some.inj hanswers
        exact hserves.unsent
      · intro id' hreads
        cases hreads
  exact Paired.rearm (x := { x with replies := replies, server := x.server.emit e }) hfind next
    .READ rfl io.modified hstored

/-- The response has to wait for the descriptor to become writable. -/
theorem Paired.parked (h : Paired x) (hfind : x.server.findSession id = some s) {request : ℕ}
    (hserves : s.Serves x id request) {response : Message} {replies : List (ℕ × Message)}
    (hreplies : Answers x request response replies) (modified : Bool) :
    Paired { x with
      replies := replies
      server := (x.server.rearm id
        { s with pendingResponse := response.serialize, serving := some request }
        .WRITE modified).1 } := by
  let next : Session :=
    { s with pendingResponse := response.serialize, serving := some request }
  have hstored : Paired { x with
      replies := replies, server := x.server.withSession id next .WRITE } := by
    refine ⟨?_, ?_⟩
    · refine h.attended.store hfind next .WRITE rfl request [] (by simp [SocketServer.withSession]) rfl
        (List.prefix_refl _) ?_ (fun _ _ _ => rfl) (by simp) (fun other => hreplies.others) ?_
      · refine ⟨(h.attended.tracked hfind).numbered, (h.attended.tracked hfind).peer,
          .inr ⟨request, hserves.inFlight, rfl, hserves.sink, hserves.wasRead, hserves.unsent,
            .inr ⟨Function.update_self _ _ _, response, (hreplies _).mpr (.inr rfl), rfl⟩⟩⟩
      · intro other hsink
        exact Option.some.inj (hsink.symm.trans hserves.sink)
    · refine h.recorded.keep rfl (Nat.le_refl _) rfl rfl (fun hmem => (hreplies _).mpr (.inl hmem))
        (fun ⟨_, hanswer⟩ => h.asked_of_answers hserves hreplies hanswer) fun {other} _ => ?_
      by_cases hne : other = id
      · subst hne
        exact .inr ⟨s, next, hfind, SocketServer.findSession_withSession_self _ _ _ _, rfl,
          hserves.serving.symm⟩
      · cases hopen : x.server.findSession other with
        | none =>
            exact .inl ((SocketServer.findSession_withSession_of_ne _ _ _ hne).trans hopen)
        | some s' =>
            exact .inr ⟨s', s', rfl,
              (SocketServer.findSession_withSession_of_ne _ _ _ hne).trans hopen, rfl, rfl⟩
  exact Paired.rearm (x := { x with replies := replies }) hfind next .WRITE rfl modified hstored

/-- An answer to a request whose session has been closed concerns nobody. -/
theorem Paired.answeredClosed (h : Paired x) {request : ℕ} (hsink : x.sinks[request]? = some id)
    (hclosed : x.server.findSession id = none) {response : Message}
    {replies : List (ℕ × Message)} (hreplies : Answers x request response replies) :
    Paired { x with replies := replies } := by
  have hothers {other s'} (hopen : x.server.findSession other = some s') (r : ℕ)
      (hr : s'.serving = some r) : r ≠ request := by
    rintro rfl
    obtain rfl := Option.some.inj (hsink.symm.trans (h.attended.sink_of_serving hopen hr))
    simp [hclosed] at hopen
  refine ⟨⟨?_, h.attended.apart, h.attended.polledOnce, h.attended.polledKnown,
    h.attended.polledWrite⟩, ?_⟩
  · intro other s' hopen
    exact (h.attended.tracked hopen).keep (Nat.le_refl _) rfl rfl (List.prefix_refl _)
      ⟨[], by simp, by simp⟩ fun r hr => hreplies.others (hothers hopen r hr)
  · refine h.recorded.keep rfl (Nat.le_refl _) rfl rfl (fun hmem => (hreplies _).mpr (.inl hmem))
      ?_ fun {other} _ => ?_
    · rintro other ⟨answer, hanswer⟩
      rcases (hreplies _).mp hanswer with hbefore | heq
      · exact h.recorded.asked ⟨answer, hbefore⟩
      · obtain ⟨rfl, _⟩ := Prod.mk.inj heq
        exact h.recorded.counted ▸ (List.getElem?_eq_some_iff.mp hsink).1
    · cases hopen : x.server.findSession other with
      | none => exact .inl rfl
      | some s' => exact .inr ⟨s', s', rfl, rfl, rfl, rfl⟩

/-- An open session that the sink of an unanswered request remembers is serving it. -/
theorem Paired.serves_of_sink (h : Paired x) (hfind : x.server.findSession id = some s)
    {request : ℕ} (hsink : x.sinks[request]? = some id) (hunanswered : ¬ x.Answered request) :
    s.Serves x id request := by
  have hlt : request < x.requests :=
    h.recorded.counted ▸ (List.getElem?_eq_some_iff.mp hsink).1
  obtain ⟨id', peer, hread⟩ := h.recorded.wasRead request hlt
  obtain rfl := Option.some.inj ((h.recorded.known hread).2.symm.trans hsink)
  rcases h.recorded.settled hread with ⟨bytes, hsent⟩ | hclosed | ⟨s', hopen, hs'⟩
  · obtain ⟨_, r, answer, _, _, hr, hanswer, _⟩ := h.recorded.sent hsent
    exact absurd ⟨answer, Option.some.inj hr ▸ hanswer⟩ hunanswered
  · simp [hfind] at hclosed
  · obtain rfl := Option.some.inj (hfind.symm.trans hopen)
    rcases (h.attended.tracked hfind).phase with hidle | ⟨other, hserves⟩
    · simp [hidle.serving] at hs'
    · exact Option.some.inj (hserves.serving.symm.trans hs') ▸ hserves

/-- A writable report means that an answer is waiting. -/
theorem Attended.not_write (h : Attended x) (hfind : x.server.findSession id = some s)
    (hmask : x.server.loop.interest s.fd ≠ .WRITE) {polled : EventMask}
    (hmem : (id, polled) ∈ x.ready) : polled.write = false := by
  by_contra hwrite
  exact hmask (h.polledWrite hmem (by simpa using hwrite) hfind)

/-- The sink of a request that has not been answered yet is called. -/
theorem Paired.sendResponse (h : Paired x) {request : ℕ} (hsink : x.sinks[request]? = some id)
    (hunanswered : ¬ x.Answered request) {response : Message} {replies : List (ℕ × Message)}
    (hreplies : Answers x request response replies) (io : SendIO) :
    Paired { x with
      replies := replies
      server := x.server.sendResponse id request response io } := by
  unfold SocketServer.sendResponse
  cases hfind : x.server.findSession id with
  | none => exact h.answeredClosed hsink hfind hreplies
  | some s =>
      have hserves := h.serves_of_sink hfind hsink hunanswered
      have hmask : x.server.loop.interest s.fd ≠ .WRITE := by
        rcases hserves.mask with ⟨hmask, _⟩ | ⟨_, answer, hanswer, _⟩
        · rw [hmask]
          decide
        · exact absurd ⟨answer, hanswer⟩ hunanswered
      dsimp only
      cases io.result with
      | sent =>
          exact h.delivered hfind hserves
            (fun _ hmem => h.attended.not_write hfind hmask hmem) hreplies io
      | again => exact h.parked hfind hserves hreplies io.modified
      | failed =>
          exact (h.close id).answeredClosed hsink
            (x.server.findSession_closeSession_self id) hreplies

/-- A waiting response is sent, or has to wait on, or its session is closed. -/
theorem Paired.drainPendingSend (h : Paired x) (io : SendIO)
    (hunpolled : ∀ polled, (id, polled) ∉ x.ready)
    (hwrite : ∀ s, x.server.findSession id = some s → x.server.loop.interest s.fd = .WRITE) :
    Paired { x with server := (x.server.drainPendingSend id io).1 } := by
  unfold SocketServer.drainPendingSend
  cases hfind : x.server.findSession id with
  | none => exact h
  | some s =>
      dsimp only
      cases io.result with
      | sent =>
          have hwritable := hwrite s hfind
          rcases (h.attended.tracked hfind).phase with hidle | ⟨request, hserves⟩
          · exact absurd (hidle.mask.symm.trans hwritable) (by decide)
          rcases hserves.mask with ⟨hmask, _⟩ | ⟨_, response, hanswer, hpending⟩
          · exact absurd (hmask.symm.trans hwritable) (by decide)
          rw [hserves.serving, hpending]
          refine h.delivered hfind hserves (fun polled hmem => absurd hmem (hunpolled polled))
            (fun entry => ⟨.inl, ?_⟩) io
          rintro (hmem | rfl)
          · exact hmem
          · exact hanswer
      | again => exact h
      | failed => exact h.close id

/-! ## Requests -/

/-- Every request read on an idle session has been answered. -/
theorem Paired.answered_of_idle (h : Paired x) (hfind : x.server.findSession id = some s)
    (hidle : s.Idle x) (peer : Option ℕ) (request : ℕ)
    (hread : .read id peer request ∈ x.server.log) :
    ∃ bytes, .sent peer (some request) bytes ∈ x.server.log := by
  rcases h.recorded.settled hread with hsent | hclosed | ⟨s', hopen, hserving⟩
  · exact hsent
  · simp [hfind] at hclosed
  · obtain rfl := Option.some.inj (hfind.symm.trans hopen)
    simp [hidle.serving] at hserving

/-- An idle session reads a request and hands it on. -/
theorem Paired.begun (h : Paired x) (hfind : x.server.findSession id = some s)
    (hidle : s.Idle x) (now : ℕ) :
    Paired { x with
      requests := x.requests + 1
      sinks := x.sinks ++ [id]
      server := (x.server.withSession id
        { s with requestInFlight := true, lastActivity := now, serving := some x.requests }
        .none).emit (.read id (x.server.peers s.fd) x.requests) } := by
  let e : ServerEvent := .read id (x.server.peers s.fd) x.requests
  let next : Session :=
    { s with requestInFlight := true, lastActivity := now, serving := some x.requests }
  have hsink : (x.sinks ++ [id])[x.requests]? = some id := by simp [← h.recorded.counted]
  have hextends : x.sinks <+: x.sinks ++ [id] := List.prefix_append _ _
  -- the number is new: nothing has been sent for it, and nothing answered
  have hunsent : ∀ e' ∈ x.server.log, e'.answers ≠ some x.requests := by
    intro e' he' hanswers
    cases e' with
    | sent peer request bytes =>
        obtain ⟨_, r, response, _, _, hr, hanswer, _⟩ := h.recorded.sent he'
        obtain rfl : r = x.requests := Option.some.inj (hr.symm.trans hanswers)
        exact Nat.lt_irrefl _ (h.recorded.asked ⟨response, hanswer⟩)
    | read session peer request => cases hanswers
    | dropped session peer => cases hanswers
  refine ⟨?_, ?_⟩
  · refine h.attended.store hfind next .none rfl x.requests [e] rfl rfl hextends ?_ ?_ ?_
      (fun _ _ _ => Iff.rfl) ?_
    · refine ⟨(h.attended.tracked hfind).numbered, (h.attended.tracked hfind).peer,
        .inr ⟨x.requests, rfl, rfl, hsink, ?_, ?_,
          .inl ⟨Function.update_self _ _ _, hidle.pending, ?_⟩⟩⟩
      · exact List.mem_append_right _ (List.mem_singleton_self e)
      · intro e' he'
        rcases List.mem_append.mp he' with hmem | hmem
        · exact hunsent e' hmem
        · obtain rfl := List.mem_singleton.mp hmem
          simp [ServerEvent.answers]
      · exact fun hanswered => Nat.lt_irrefl _ (h.recorded.asked hanswered)
    · intro polled hmem hflag
      have hmask : x.server.loop.interest s.fd ≠ .WRITE := by
        rw [hidle.mask]
        decide
      simp [h.attended.not_write hfind hmask hmem] at hflag
    · intro e' he' other hanswers
      obtain rfl := List.mem_singleton.mp he'
      cases hanswers
    · intro other hother
      have hlt := (List.getElem?_eq_some_iff.mp hother).1
      rw [h.recorded.counted] at hlt
      exact absurd hlt (Nat.lt_irrefl _)
  · refine h.recorded.store hfind next .none rfl e rfl hextends (by simp [h.recorded.counted])
      (fun hanswered => Nat.lt_succ_of_lt (h.recorded.asked hanswered)) (fun hmem => hmem)
      ?_ ?_ ?_ ?_ ?_ ?_
    · intro id' peer request heq
      obtain ⟨rfl, rfl, rfl⟩ := ServerEvent.read.inj heq
      exact ⟨rfl, (h.attended.tracked hfind).numbered, rfl, hsink, rfl⟩
    · intro request hlt
      rcases Nat.lt_succ_iff_lt_or_eq.mp hlt with hlt | rfl
      · exact .inl hlt
      · exact .inr rfl
    · intro request hserving
      simp [hidle.serving] at hserving
    · intro peer request bytes heq
      simp [e] at heq
    · intro request hanswers
      simp [e, ServerEvent.answers] at hanswers
    · intro id' hreads
      obtain rfl : id = id' := Option.some.inj hreads
      exact h.answered_of_idle hfind hidle

/-- A request whose session had to be closed is only logged. -/
theorem Paired.dropped (h : Paired x) (peer : Option ℕ)
    (hsettled : ∀ peer request, .read id peer request ∈ x.server.log →
      ∃ bytes, .sent peer (some request) bytes ∈ x.server.log) :
    Paired { x with server := x.server.emit (.dropped id peer) } := by
  have hread {id' peer' request}
      (hmem : .read id' peer' request ∈ x.server.log ++ [.dropped id peer]) :
      .read id' peer' request ∈ x.server.log := by
    simpa using hmem
  have hold {e : ServerEvent} (hmem : e ∈ x.server.log) :
      e ∈ x.server.log ++ [.dropped id peer] := List.mem_append_left _ hmem
  refine ⟨⟨?_, h.attended.apart, h.attended.polledOnce, h.attended.polledKnown,
    h.attended.polledWrite⟩, h.recorded.counted, h.recorded.asked, ?_, ?_, ?_, ?_, ?_, ?_, ?_⟩
  · intro other s' hopen
    refine (h.attended.tracked hopen).keep (Nat.le_refl _) rfl rfl (List.prefix_refl _)
      ⟨_, rfl, fun e he r _ => ?_⟩ fun _ _ _ => Iff.rfl
    obtain rfl := List.mem_singleton.mp he
    simp [ServerEvent.answers]
  · intro request hlt
    obtain ⟨id', peer', hmem⟩ := h.recorded.wasRead request hlt
    exact ⟨id', peer', hold hmem⟩
  · exact fun hmem => h.recorded.known (hread hmem)
  · exact fun hmem => h.recorded.connection (hread hmem)
  · intro id' peer' request hmem
    rcases h.recorded.settled (hread hmem) with ⟨bytes, hsent⟩ | hrest
    · exact .inl ⟨bytes, hold hsent⟩
    · exact .inr hrest
  · intro peer' request bytes hmem
    obtain ⟨p, r, response, id', hp, hr, hanswer, hbytes, hwas⟩ :=
      h.recorded.sent (show .sent peer' request bytes ∈ x.server.log by
        simpa [SocketServer.emit] using hmem)
    exact ⟨p, r, response, id', hp, hr, hanswer, hbytes, hold hwas⟩
  · intro request
    simpa [SocketServer.emit, tally_append, tally_cons, ServerEvent.answers] using
      h.recorded.once request
  · refine h.recorded.inOrder.snoc _ fun id' hreads => ?_
    obtain rfl : id = id' := Option.some.inj hreads
    exact hsettled

/-- What reading on an idle session comes to. -/
theorem Paired.readRequest (h : Paired x) (hfind : x.server.findSession id = some s)
    (hidle : s.Idle x) (io : RequestIO) :
    match x.server.readRequest id s x.requests io with
    | (server, none) => Paired { x with server := server }
    | (server, some _) =>
        Paired { x with
          requests := x.requests + 1, sinks := x.sinks ++ [id], server := server } := by
  have hclosed := h.close id
  unfold SocketServer.readRequest
  cases io.recv with
  | again => exact h
  | failed => exact hclosed
  | received bytes =>
      dsimp only
      split_ifs
      · exact hclosed
      · exact hclosed
      cases Message.deserialize bytes with
      | none => exact hclosed
      | some message =>
          let busy : Session :=
            { s with requestInFlight := true, lastActivity := io.now, serving := some x.requests }
          rcases x.server.rearm_cases hfind busy rfl .none io.modified with heq | heq
          · simp only [busy] at heq
            rw [heq]
            exact h.begun hfind hidle io.now
          · simp only [busy] at heq
            rw [heq]
            refine hclosed.dropped (x.server.peers s.fd) ?_
            simpa only [SocketServer.closeSession_log] using h.answered_of_idle hfind hidle

/-! ## Poll results -/

/-- A poll result that says writable was asked for. -/
theorem interest_of_reportable {mask : EventMask} {flags : EpollFlags}
    (hreport : EventPoller.reportable (EventPoller.eventsToEpoll mask) flags = true)
    (hwrite : (EventPoller.epollToEvents flags).write = true) : mask.write = true := by
  simp only [EventPoller.reportable, EventPoller.eventsToEpoll, Bool.and_eq_true] at hreport
  obtain ⟨⟨_, hout⟩, _⟩ := hreport
  simpa [show flags.epollout = true from hwrite] using hout

/-- The poller reports an open session. -/
theorem Paired.polled (h : Paired x) (hfind : x.server.findSession id = some s)
    {flags : EpollFlags}
    (hreport : EventPoller.reportable
      (EventPoller.eventsToEpoll (x.server.loop.interest s.fd)) flags = true)
    (hfresh : id ∉ x.ready.map (·.1)) :
    Paired { x with ready := x.ready ++ [(id, EventPoller.epollToEvents flags)] } := by
  have htracked := h.attended.tracked hfind
  refine ⟨⟨?_, h.attended.apart, ?_, ?_, ?_⟩, h.recorded.keep rfl (Nat.le_refl _) rfl rfl
    (fun hmem => hmem) h.recorded.asked fun {other} _ => ?_⟩
  · intro other s' hopen
    exact (h.attended.tracked hopen).keep (Nat.le_refl _) rfl rfl (List.prefix_refl _)
      ⟨[], by simp, by simp⟩ fun _ _ _ => Iff.rfl
  · simp only [List.map_append, List.map_cons, List.map_nil]
    exact List.nodup_append.mpr ⟨h.attended.polledOnce, List.nodup_singleton _, by
      rintro a ha b hb rfl
      exact hfresh (List.mem_singleton.mp hb ▸ ha)⟩
  · intro other hmem
    simp only [List.map_append, List.map_cons, List.map_nil, List.mem_append,
      List.mem_singleton] at hmem
    rcases hmem with hmem | rfl
    · exact h.attended.polledKnown other hmem
    · exact htracked.numbered
  · intro other polled s' hmem hwrite hopen
    rcases List.mem_append.mp hmem with hmem | hmem
    · exact h.attended.polledWrite hmem hwrite hopen
    · obtain ⟨rfl, rfl⟩ := Prod.mk.inj (List.mem_singleton.mp hmem)
      obtain rfl := Option.some.inj (hfind.symm.trans hopen)
      have hwritable := interest_of_reportable hreport hwrite
      rcases htracked.phase with hidle | ⟨request, hserves⟩
      · rw [hidle.mask] at hwritable
        cases hwritable
      · rcases hserves.mask with ⟨hmask, _⟩ | ⟨hmask, _⟩
        · rw [hmask] at hwritable
          cases hwritable
        · exact hmask
  · cases x.server.findSession other with
    | none => exact .inl rfl
    | some s' => exact .inr ⟨s', s', rfl, rfl, rfl, rfl⟩

/-- The oldest poll result is taken up. -/
theorem Paired.popped (h : Paired x) {events : EventMask} {ready : List (ℕ × EventMask)}
    (hready : x.ready = (id, events) :: ready) :
    Paired { x with ready := ready } ∧ (∀ polled, (id, polled) ∉ ready) ∧
      (events.write = true → ∀ s, x.server.findSession id = some s →
        x.server.loop.interest s.fd = .WRITE) := by
  have honce : id ∉ ready.map (·.1) ∧ (ready.map (·.1)).Nodup := by
    simpa [hready] using h.attended.polledOnce
  refine ⟨⟨⟨fun hopen => ?_, h.attended.apart, honce.2, fun other hmem => ?_, fun hmem => ?_⟩, ?_⟩,
    fun polled hmem => ?_, fun hwrite s hopen => ?_⟩
  · exact (h.attended.tracked hopen).keep (Nat.le_refl _) rfl rfl (List.prefix_refl _)
      ⟨[], by simp, by simp⟩ fun _ _ _ => Iff.rfl
  · refine h.attended.polledKnown other ?_
    simpa only [hready, List.map_cons] using List.mem_cons_of_mem _ hmem
  · refine h.attended.polledWrite ?_
    simpa only [hready] using List.mem_cons_of_mem _ hmem
  · exact ⟨h.recorded.counted, h.recorded.asked, h.recorded.wasRead, h.recorded.known,
      h.recorded.connection, h.recorded.settled, h.recorded.sent, h.recorded.once,
      h.recorded.inOrder⟩
  · exact honce.1 (List.mem_map_of_mem (f := (·.1)) hmem)
  · exact h.attended.polledWrite (by simp [hready]) hwrite hopen

/-! ## Clients come and go -/

/-- A client is accepted under a new number, on a descriptor nobody has. -/
theorem Paired.accepted (h : Paired x) {fd : ℤ} (hfree : x.server.peers fd = none) (now : ℕ)
    {server' : SocketServer} (hlog : server'.log = x.server.log)
    (hnext : server'.nextId = x.server.nextId + 1)
    (hmask : server'.loop.interest = Function.update x.server.loop.interest fd .READ)
    (hsessions : server'.sessions =
      x.server.sessions.insert x.server.nextId { fd := fd, lastActivity := now })
    (hpeers : server'.peers = Function.update x.server.peers fd (some x.server.accepted)) :
    Paired { x with server := server' } := by
  have hself : server'.findSession x.server.nextId = some { fd := fd, lastActivity := now } := by
    rw [SocketServer.findSession, hsessions]
    exact AList.lookup_insert _
  have hother {other : ℕ} (hne : other ≠ x.server.nextId) :
      server'.findSession other = x.server.findSession other := by
    rw [SocketServer.findSession, hsessions]
    exact AList.lookup_insert_ne hne
  have hfds {other s'} (hopen : x.server.findSession other = some s') :
      s'.fd ≠ fd ∧ server'.loop.interest s'.fd = x.server.loop.interest s'.fd ∧
        server'.peers s'.fd = x.server.peers s'.fd := by
    have hne : s'.fd ≠ fd := by
      rintro rfl
      obtain ⟨peer, hpeer⟩ := (h.attended.tracked hopen).peer
      simp [hpeer] at hfree
    rw [hmask, hpeers]
    exact ⟨hne, Function.update_of_ne hne _ _, Function.update_of_ne hne _ _⟩
  refine ⟨⟨?_, ?_, h.attended.polledOnce, ?_, ?_⟩, ?_⟩
  · intro other s' hopen
    by_cases hne : other = x.server.nextId
    · subst hne
      obtain rfl := Option.some.inj (hself.symm.trans hopen)
      refine ⟨hnext ▸ Nat.lt_succ_self _, ⟨x.server.accepted, ?_⟩, .inl ⟨rfl, rfl, rfl, ?_⟩⟩
      · simp [hpeers]
      · simp [hmask]
    · have hopen := (hother hne).symm.trans hopen
      obtain ⟨_, hsame, hpeer⟩ := hfds hopen
      exact (h.attended.tracked hopen).keep (by simp [hnext]) hpeer hsame (List.prefix_refl _)
        ⟨[], by simp [hlog], by simp⟩ fun _ _ _ => Iff.rfl
  · intro one other s₁ s₂ h₁ h₂ heq
    by_cases hone : one = x.server.nextId
    · by_cases htwo : other = x.server.nextId
      · exact hone.trans htwo.symm
      · subst hone
        obtain rfl := Option.some.inj (hself.symm.trans h₁)
        exact absurd heq.symm (hfds ((hother htwo).symm.trans h₂)).1
    · by_cases htwo : other = x.server.nextId
      · subst htwo
        obtain rfl := Option.some.inj (hself.symm.trans h₂)
        exact absurd heq (hfds ((hother hone).symm.trans h₁)).1
      · exact h.attended.apart ((hother hone).symm.trans h₁) ((hother htwo).symm.trans h₂) heq
  · intro other hmem
    exact hnext ▸ Nat.lt_succ_of_lt (h.attended.polledKnown other hmem)
  · intro other polled s' hmem hwrite hopen
    have hlt := h.attended.polledKnown other (List.mem_map_of_mem (f := (·.1)) hmem)
    have hopen := (hother (Nat.ne_of_lt hlt)).symm.trans hopen
    exact (hfds hopen).2.1.trans (h.attended.polledWrite hmem hwrite hopen)
  · refine h.recorded.keep hlog (by simp [hnext]) rfl rfl (fun hmem => hmem) h.recorded.asked
      fun {other} hlt => ?_
    rw [hother (Nat.ne_of_lt hlt)]
    cases hopen : x.server.findSession other with
    | none => exact .inl rfl
    | some s' => exact .inr ⟨s', s', rfl, rfl, (hfds hopen).2.2, rfl⟩

theorem Paired.acceptClients (h : Paired x) {answers : List AcceptResult} {server : SocketServer}
    (haccept : SocketServer.acceptClients answers x.server = some server) :
    Paired { x with server := server } := by
  induction answers generalizing x with
  | nil => cases haccept
  | cons answer answers ih =>
      cases answer with
      | again => exact Option.some.inj haccept ▸ h
      | failed => exact Option.some.inj haccept ▸ h
      | interrupted => exact ih h haccept
      | client fd polled now =>
          simp only [SocketServer.acceptClients] at haccept
          split_ifs at haccept with hopen hlimit
          · have hrefused : Paired { x with
                server := { x.server with accepted := x.server.accepted + 1 } } :=
              h.congr rfl (Nat.le_refl _) (fun _ => rfl) fun _ => ⟨rfl, rfl⟩
            have hrest := ih hrefused haccept
            exact hrest
          rcases x.server.loop.add_cases fd .READ (.session x.server.nextId) polled with
            heq | ⟨_, heq⟩
          · rw [heq] at haccept
            have hrefused : Paired { x with
                server := { x.server with
                  accepted := x.server.accepted + 1, nextId := x.server.nextId + 1 } } :=
              h.congr rfl (Nat.le_succ _) (fun _ => rfl) fun _ => ⟨rfl, rfl⟩
            have hrest := ih hrefused haccept
            exact hrest
          · rw [heq] at haccept
            have hfree : x.server.peers fd = none := by simpa using hopen
            let loop : EventLoop LoopSource :=
              { x.server.loop.watch fd .READ with
                handlers := .inserted fd (.session x.server.nextId) :: x.server.loop.handlers }
            have hjoined : Paired { x with
                server := { x.server with
                  accepted := x.server.accepted + 1
                  nextId := x.server.nextId + 1
                  loop := loop
                  sessions :=
                    x.server.sessions.insert x.server.nextId { fd := fd, lastActivity := now }
                  peers := Function.update x.server.peers fd (some x.server.accepted) } } :=
              h.accepted hfree now rfl rfl rfl rfl rfl
            have hrest := ih hjoined haccept
            exact hrest

theorem Paired.closeSessions (h : Paired x) (ids : List ℕ) :
    Paired { x with server := x.server.closeSessions ids } := by
  induction ids generalizing x with
  | nil => exact h
  | cons id ids ih => exact ih (h.close id)

theorem Paired.onIdleSweep (h : Paired x) (now : ℕ) (armed : Bool) :
    Paired { x with server := x.server.onIdleSweep now armed } := by
  have hconsumed : Paired { x with
      server := { x.server with idleTimer := x.server.idleTimer.consume } } :=
    h.congr rfl (Nat.le_refl _) (fun _ => rfl) fun _ => ⟨rfl, rfl⟩
  exact (hconsumed.closeSessions (SocketServer.expired
    { x.server with idleTimer := x.server.idleTimer.consume } now)).congr rfl (Nat.le_refl _)
    (fun _ => rfl) fun _ => ⟨rfl, rfl⟩

/-- With no session open the log is all there is. -/
theorem Paired.stopped (h : Paired x) : Paired { x with server := x.server.stop } := by
  obtain ⟨hnone, hlog, hnext⟩ := x.server.stop_spec
  refine ⟨⟨?_, ?_, h.attended.polledOnce, ?_, ?_⟩, ?_⟩
  · intro id s hfind
    simp [hnone] at hfind
  · intro id id' s s' hfind
    simp [hnone] at hfind
  · exact fun id hmem => hnext ▸ h.attended.polledKnown id hmem
  · intro id events s _ _ hfind
    simp [hnone] at hfind
  · exact h.recorded.keep hlog (Nat.le_of_eq hnext.symm) rfl rfl (fun hmem => hmem)
      h.recorded.asked fun {id} _ => .inl (hnone id)

/-- A fresh server. -/
theorem paired_of_fresh {server : SocketServer} (hnone : ∀ id, server.findSession id = none)
    (hlog : server.log = []) : Paired ⟨[], 0, [], [], server⟩ where
  attended :=
    { tracked := fun hfind => by simp [hnone] at hfind
      apart := fun hfind => by simp [hnone] at hfind
      polledOnce := List.nodup_nil
      polledKnown := by simp
      polledWrite := by simp }
  recorded :=
    { counted := rfl
      asked := by simp [Exchange.Answered]
      wasRead := by simp
      known := by simp [hlog]
      connection := by simp [hlog]
      settled := by simp [hlog]
      sent := by simp [hlog]
      once := by simp [hlog]
      inOrder := by simp [InOrder, hlog] }

end Transitions

namespace Service

/-! ## The service keeps requests and responses paired -/

def exchange (v : Service) : Exchange :=
  ⟨v.daemon.replies, v.daemon.requests, v.sinks, v.ready, v.server⟩

/-- The daemon's ledger balances, and the exchange is paired. -/
structure Coherent (v : Service) : Prop where
  accounted : Daemon.Accounted v.daemon
  paired : Paired v.exchange

theorem Coherent.processRequest {v : Service} (h : Coherent v) {id : ℕ} {s : Session}
    (hfind : v.server.findSession id = some s) (hidle : s.Idle v.exchange) (io : RequestIO) :
    Coherent (v.processRequest id s io) := by
  have hread := h.paired.readRequest hfind hidle io
  unfold Service.processRequest
  change match v.server.readRequest id s v.daemon.requests io with
    | (server, none) => _
    | (server, some _) => _ at hread
  generalize v.server.readRequest id s v.daemon.requests io = outcome at hread
  rcases outcome with ⟨server, _ | message⟩
  · exact ⟨h.accounted, hread⟩
  · have hreceived : Daemon.Accounted (v.daemon.receive message) :=
      Daemon.Accounted.stepStable.receive trivial h.accounted
    refine ⟨hreceived, ?_⟩
    have hanswering := v.daemon.answering_receive message
    simp only [Daemon.answering, Prod.mk.injEq] at hanswering
    obtain ⟨hrequests, hreplies⟩ := hanswering
    simp only [exchange, hrequests, hreplies]
    cases (v.daemon.handleCommand ⟨v.daemon.requests, message⟩).2 with
    | none => simpa [exchange] using hread
    | some response =>
        refine hread.sendResponse ?_ ?_ ?_ io.reply
        · simp [exchange, ← show v.sinks.length = v.daemon.requests from h.paired.recorded.counted]
        · rintro ⟨answer, hanswer⟩
          exact Nat.lt_irrefl _ (h.paired.recorded.asked ⟨answer, hanswer⟩)
        · intro entry
          simp [exchange]

theorem Coherent.onSessionEvent {v : Service} (h : Coherent v) {id : ℕ} {events : EventMask}
    (hunpolled : ∀ polled, (id, polled) ∉ v.ready)
    (hwrite : events.write = true → ∀ s, v.server.findSession id = some s →
      v.server.loop.interest s.fd = .WRITE) (io : SessionIO) :
    Coherent (v.onSessionEvent id events io) := by
  have hdrained : Coherent { v with
      server := (if events.write then v.server.drainPendingSend id io.drain
        else (v.server, true)).1 } := by
    split_ifs with hflag
    · exact ⟨h.accounted, h.paired.drainPendingSend io.drain hunpolled (hwrite hflag)⟩
    · exact h
  unfold Service.onSessionEvent
  generalize (if events.write then v.server.drainPendingSend id io.drain else (v.server, true)) =
    drained at hdrained
  rcases drained with ⟨server, _ | _⟩
  · exact hdrained
  · dsimp only at hdrained ⊢
    cases hread : (if events.read then (server.findSession id).filter (!·.requestInFlight)
        else none) with
    | none =>
        dsimp only
        split_ifs
        · exact ⟨h.accounted, hdrained.paired.close id⟩
        · exact hdrained
    | some s =>
        split_ifs at hread
        obtain ⟨hfind, hflight⟩ := Option.filter_eq_some_iff.mp hread
        refine hdrained.processRequest hfind ?_ io.request
        rcases (hdrained.paired.attended.tracked hfind).phase with hidle | ⟨request, hserves⟩
        · exact hidle
        · simp [hserves.inFlight] at hflight

theorem Coherent.poll {v v' : Service} (h : Coherent v) {id : ℕ} {flags : EpollFlags}
    (hpoll : v.poll id flags = some v') : Coherent v' := by
  unfold Service.poll at hpoll
  cases hfind : v.server.findSession id with
  | none => simp [hfind] at hpoll
  | some s =>
      rw [hfind] at hpoll
      dsimp only at hpoll
      split_ifs at hpoll with hguard
      rw [← Option.some.inj hpoll]
      simp only [Bool.and_eq_true, decide_eq_true_eq] at hguard
      exact ⟨h.accounted, h.paired.polled hfind hguard.1 hguard.2⟩

theorem Coherent.drain {v v' : Service} (h : Coherent v) {io : SendIO}
    (hdrain : v.drain io = some v') : Coherent v' := by
  obtain ⟨daemon, hstep, rfl⟩ := Option.map_eq_some_iff.mp hdrain
  have hmachine : Daemon.machine.step v.daemon .drain = some daemon := hstep
  have haccounted : Daemon.Accounted daemon :=
    Daemon.Accounted.stepStable.step h.accounted trivial hmachine
  have hsilent (hnot : v.daemon.silent .drain = true) : Coherent { v with daemon := daemon } := by
    have hsame := Daemon.answering_of_step hnot hmachine
    simp only [Daemon.answering, Prod.mk.injEq] at hsame
    refine ⟨haccounted, ?_⟩
    simpa only [exchange, hsame.1, hsame.2] using h.paired
  cases hposts : v.daemon.posts with
  | nil => exact hsilent (by simp [Daemon.silent, hposts])
  | cons post posts =>
      cases post with
      | reply request response =>
          obtain ⟨hlt, hunanswered⟩ :=
            h.accounted.balanced.unanswered (hposts ▸ List.mem_cons_self)
          have hdaemon : daemon = { v.daemon with
              posts := posts, log := v.daemon.log ++ [.replied request response] } := by
            simp only [Daemon.step, hposts, Option.some.injEq] at hstep
            exact hstep.symm
          have hreplies : daemon.replies = v.daemon.replies ++ [(request, response)] := by
            simp [hdaemon, Daemon.replies, Effect.reply?]
          have hrequests : daemon.requests = v.daemon.requests := by rw [hdaemon]
          have hsinks : request < v.sinks.length :=
            (show v.sinks.length = v.daemon.requests from h.paired.recorded.counted) ▸ hlt
          obtain ⟨id, hsink⟩ : ∃ id, v.sinks[request]? = some id :=
            ⟨_, List.getElem?_eq_getElem hsinks⟩
          dsimp only [callSink]
          rw [hsink]
          refine ⟨haccounted, ?_⟩
          simp only [exchange, hreplies, hrequests]
          refine h.paired.sendResponse hsink ?_ ?_ io
          · rintro ⟨answer, hanswer⟩
            exact hunanswered answer hanswer
          · intro entry
            simp [exchange]
      | suspendDone ticket => exact hsilent (by simp [Daemon.silent, hposts])
      | resumeDone ticket adapterValid => exact hsilent (by simp [Daemon.silent, hposts])
      | reconnectDone ticket ok => exact hsilent (by simp [Daemon.silent, hposts])
      | connectionLost => exact hsilent (by simp [Daemon.silent, hposts])
      | power kind => exact hsilent (by simp [Daemon.silent, hposts])

/-- Every step of the service keeps it coherent. -/
theorem Coherent.step {v v' : Service} (h : Coherent v) {label : Label}
    (hstep : machine.step v label = some v') : Coherent v' := by
  change Service.step v label = some v' at hstep
  cases label with
  | accept answers =>
      obtain ⟨server, haccept, rfl⟩ := Option.map_eq_some_iff.mp hstep
      unfold SocketServer.onAcceptReady at haccept
      split_ifs at haccept
      · exact Option.some.inj haccept ▸ h
      · exact ⟨h.accounted, h.paired.acceptClients haccept⟩
  | poll id flags => exact h.poll hstep
  | event io =>
      cases hready : v.ready with
      | nil => simp [Service.step, hready] at hstep
      | cons first ready =>
          obtain ⟨id, events⟩ := first
          simp only [Service.step, hready, Option.some.injEq] at hstep
          obtain ⟨hpopped, hunpolled, hwrite⟩ :=
            h.paired.popped (show v.exchange.ready = _ from hready)
          have hcoherent : Coherent { v with ready := ready } := ⟨h.accounted, hpopped⟩
          rw [← hstep]
          exact hcoherent.onSessionEvent hunpolled hwrite io
  | idleSweep now armed =>
      exact Option.some.inj hstep ▸ ⟨h.accounted, h.paired.onIdleSweep now armed⟩
  | stopServer => exact Option.some.inj hstep ▸ ⟨h.accounted, h.paired.stopped⟩
  | drain io => exact h.drain hstep
  | daemon label =>
      have hother (heq : Service.step v (.daemon label) =
          (v.daemon.step label).map fun daemon => { v with daemon := daemon })
          (hsilent : v.daemon.silent label = true) : Coherent v' := by
        obtain ⟨daemon, hdaemon, rfl⟩ := Option.map_eq_some_iff.mp (heq.symm.trans hstep)
        have hmachine : Daemon.machine.step v.daemon label = some daemon := hdaemon
        have hsame := Daemon.answering_of_step hsilent hmachine
        simp only [Daemon.answering, Prod.mk.injEq] at hsame
        refine ⟨Daemon.Accounted.stepStable.step h.accounted trivial hmachine, ?_⟩
        simpa only [exchange, hsame.1, hsame.2] using h.paired
      cases label with
      | wire message => simp [Service.step] at hstep
      | drain => simp [Service.step] at hstep
      | _ => exact hother rfl rfl

theorem Coherent.boot (setup : Daemon.Setup) (io : StartIO) : Coherent (boot setup io) where
  accounted := Daemon.Accounted.boot setup
  paired := by
    obtain ⟨hnone, hlog⟩ := SocketServer.start_spec io
    exact paired_of_fresh hnone hlog

/-- How requests and responses go together. -/
structure ResponsesPaired (v : Service) : Prop where
  /-- A request is answered at most once. -/
  atMostOnce : ∀ request, tally ServerEvent.answers v.server.log request ≤ 1
  /-- Every datagram answers a request, and goes to the connection it was read on. -/
  sameSession : ∀ {peer request bytes}, .sent peer request bytes ∈ v.server.log →
    ∃ p r id, peer = some p ∧ request = some r ∧ .read id (some p) r ∈ v.server.log
  /-- The next request of a session is read after the response to the last is out. -/
  inOrder : InOrder v.server.log
  /-- A request whose sink has been called is answered, or its response waits for the
  descriptor to become writable, or its session has been closed. -/
  notLost : ∀ {request answer}, (request, answer) ∈ v.daemon.replies →
    ∃ id peer, .read id peer request ∈ v.server.log ∧
      ((∃ bytes, .sent peer (some request) bytes ∈ v.server.log) ∨
        v.server.findSession id = none ∨
        ∃ s response, v.server.findSession id = some s ∧ s.serving = some request ∧
          (request, response) ∈ v.daemon.replies ∧ s.pendingResponse = response.serialize ∧
          v.server.loop.interest s.fd = .WRITE)

theorem Coherent.responsesPaired {v : Service} (h : Coherent v) : ResponsesPaired v where
  atMostOnce := h.paired.recorded.once
  sameSession hsent := by
    obtain ⟨p, r, _, id, hpeer, hrequest, _, _, hread⟩ := h.paired.recorded.sent hsent
    exact ⟨p, r, id, hpeer, hrequest, hread⟩
  inOrder := h.paired.recorded.inOrder
  notLost {request answer} hreply := by
    have hanswered : v.exchange.Answered request := ⟨answer, hreply⟩
    obtain ⟨id, peer, hread⟩ := h.paired.recorded.wasRead request (h.paired.recorded.asked hanswered)
    refine ⟨id, peer, hread, ?_⟩
    rcases h.paired.recorded.settled hread with hsent | hclosed | ⟨s, hfind, hserving⟩
    · exact .inl hsent
    · exact .inr (.inl hclosed)
    · refine .inr (.inr ?_)
      rcases (h.paired.attended.tracked hfind).phase with hidle | ⟨other, hserves⟩
      · simp [hidle.serving] at hserving
      · obtain rfl := Option.some.inj (hserves.serving.symm.trans hserving)
        rcases hserves.mask with ⟨_, _, hunanswered⟩ | ⟨hmask, response, hmem, hpending⟩
        · exact absurd hanswered hunanswered
        · exact ⟨s, response, hfind, hserving, hmem, hpending, hmask⟩

/-- **Requests and responses are paired** in every run of the daemon behind its
server. -/
theorem responses_paired {setup : Daemon.Setup} {io : StartIO} {labels : List Label} {v : Service}
    (hrun : machine.run (boot setup io) labels = some v) : ResponsesPaired v :=
  (machine.invariant_of_step (fun h hstep => h.step hstep) (Coherent.boot setup io) hrun :
    Coherent v).responsesPaired

/-- A command answered on the spot, whose response has to wait for the client. -/
def deferredResponse : List Label :=
  [.accept [.client 7 true 0, .again], .poll 1 { epollin := true },
    .event { request := { recv := .received [8, 0], reply := { result := .again } } },
    .poll 1 { epollout := true }, .event {}]

theorem responses_paired_deferredResponse :
    ∃ v, machine.run (boot {} {}) deferredResponse = some v ∧
      v.server.log = [.read 1 (some 0) 0, .sent (some 0) (some 0) [100, 0]] ∧
      ResponsesPaired v := by
  have hlog : (machine.run (boot {} {}) deferredResponse).map (fun v => v.server.log) =
      some [.read 1 (some 0) 0, .sent (some 0) (some 0) [100, 0]] := by decide
  obtain ⟨v, hv, hlog⟩ := Option.map_eq_some_iff.mp hlog
  exact ⟨v, hv, hlog, responses_paired hv⟩

end Service

end CecControl
