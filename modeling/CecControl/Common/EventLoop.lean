/-
# The event loop

One thread polls a set of descriptors and calls the handler registered for each
descriptor that is ready. A poll answers a batch, and the loop looks every
handler up again when its event's turn comes, by descriptor number: a handler
that has been removed by an earlier one is skipped.

The kernel reuses descriptor numbers at once, so a number can be removed, closed,
handed out again and registered by somebody else while an event raised for its
previous owner still waits in the batch. The handler map is therefore kept as a
`Registry`, which tells registrations of one number apart, and the main result
says exactly which events cross over.
-/

import CecControl.Lib.Registry
import Mathlib.Data.Int.Notation
import Mathlib.Logic.Function.Basic
import Mathlib.Tactic.SplitIfs

namespace CecControl

open Lib

/-! ## Masks -/

/-- A set of `EventPoller::Event` flags. -/
structure EventMask where
  read : Bool := false
  write : Bool := false
  error : Bool := false
  hangup : Bool := false
  invalid : Bool := false
  deriving DecidableEq, Repr

namespace EventMask

/-- The empty mask. -/
def none : EventMask := {}

def READ : EventMask := { read := true }

def WRITE : EventMask := { write := true }

/-- Some flag of `EventPoller::ERROR_EVENTS` is set. -/
def isError (events : EventMask) : Bool := events.error || events.hangup || events.invalid

end EventMask

/-- The `epoll` flags the poller uses. -/
structure EpollFlags where
  epollin : Bool := false
  epollout : Bool := false
  epollerr : Bool := false
  epollhup : Bool := false
  epollrdhup : Bool := false
  deriving DecidableEq, Repr

namespace EventPoller

def epollToEvents (flags : EpollFlags) : EventMask where
  read := flags.epollin
  write := flags.epollout
  error := flags.epollerr
  hangup := flags.epollhup || flags.epollrdhup

/-- A remote hang-up is watched for along with input. -/
def eventsToEpoll (events : EventMask) : EpollFlags where
  epollin := events.read
  epollout := events.write
  epollerr := events.error
  epollhup := events.hangup
  epollrdhup := events.read

/-- What `epoll_wait` can report for a descriptor watched for `watched`: errors and
hang-ups always, anything else only if asked for. -/
def reportable (watched reported : EpollFlags) : Bool :=
  (!reported.epollin || watched.epollin) && (!reported.epollout || watched.epollout) &&
    (!reported.epollrdhup || watched.epollrdhup)

end EventPoller

/-- A ready descriptor, as `EventPoller::wait` reports it. -/
structure EventData where
  fd : ℤ
  events : EventMask
  deriving DecidableEq, Repr

/-! ## The loop's own operations -/

/-- The loop with handlers of type `η`. -/
structure EventLoop (η : Type) where
  handlers : Registry ℤ η := []
  /-- What the poller watches each descriptor for. -/
  interest : ℤ → EventMask := fun _ => .none
  stopRequested : Bool := false

namespace EventLoop

variable {η : Type}

/-- The poller's mask of one descriptor is replaced. -/
def watch (loop : EventLoop η) (fd : ℤ) (events : EventMask) : EventLoop η :=
  { loop with interest := Function.update loop.interest fd events }

/-- `EventLoop::add`; `polled` is the answer of `EventPoller::add`. -/
def add (loop : EventLoop η) (fd : ℤ) (events : EventMask) (handler : η) (polled : Bool) :
    EventLoop η × Bool :=
  if fd < 0 then (loop, false)
  else if (loop.handlers.find fd).isSome then (loop, false)
  else if !polled then (loop, false)
  else ({ loop.watch fd events with handlers := .inserted fd handler :: loop.handlers }, true)

/-- `EventLoop::modify`; `polled` is the answer of `EventPoller::modify`. -/
def modify (loop : EventLoop η) (fd : ℤ) (events : EventMask) (polled : Bool) :
    EventLoop η × Bool :=
  if (loop.handlers.find fd).isNone then (loop, false)
  else if !polled then (loop, false)
  else (loop.watch fd events, true)

/-- `EventLoop::remove`: removing an unknown descriptor does nothing. -/
def remove (loop : EventLoop η) (fd : ℤ) : EventLoop η :=
  if (loop.handlers.find fd).isNone then loop
  else { loop.watch fd .none with handlers := .erased fd :: loop.handlers }

def stop (loop : EventLoop η) : EventLoop η := { loop with stopRequested := true }

/-- One loop can become another through calls of its methods. -/
inductive Evolves : EventLoop η → EventLoop η → Prop
  | refl (loop : EventLoop η) : Evolves loop loop
  | add {loop loop' : EventLoop η} (h : Evolves loop loop') (fd : ℤ) (events : EventMask)
      (handler : η) (polled : Bool) : Evolves loop (loop'.add fd events handler polled).1
  | modify {loop loop' : EventLoop η} (h : Evolves loop loop') (fd : ℤ) (events : EventMask)
      (polled : Bool) : Evolves loop (loop'.modify fd events polled).1
  | remove {loop loop' : EventLoop η} (h : Evolves loop loop') (fd : ℤ) :
      Evolves loop (loop'.remove fd)
  | stop {loop loop' : EventLoop η} (h : Evolves loop loop') : Evolves loop loop'.stop

/-- An `add` is refused and changes nothing, or registers and watches a descriptor
that had no handler. -/
theorem add_cases (loop : EventLoop η) (fd : ℤ) (events : EventMask) (handler : η)
    (polled : Bool) :
    loop.add fd events handler polled = (loop, false) ∨
      loop.handlers.find fd = none ∧ loop.add fd events handler polled =
        ({ loop.watch fd events with handlers := .inserted fd handler :: loop.handlers }, true) := by
  unfold add
  split_ifs with _ hregistered
  · exact .inl rfl
  · exact .inl rfl
  · exact .inl rfl
  · exact .inr ⟨by simpa using hregistered, rfl⟩

theorem suffix_add (loop : EventLoop η) (fd : ℤ) (events : EventMask) (handler : η)
    (polled : Bool) : loop.handlers <:+ (loop.add fd events handler polled).1.handlers := by
  rcases loop.add_cases fd events handler polled with heq | ⟨_, heq⟩ <;> simp [heq]

theorem handlers_modify (loop : EventLoop η) (fd : ℤ) (events : EventMask) (polled : Bool) :
    (loop.modify fd events polled).1.handlers = loop.handlers := by
  unfold modify
  split_ifs <;> rfl

theorem suffix_remove (loop : EventLoop η) (fd : ℤ) :
    loop.handlers <:+ (loop.remove fd).handlers := by
  unfold remove
  split_ifs <;> simp

/-- A removed descriptor has no handler. -/
theorem find_remove_self (loop : EventLoop η) (fd : ℤ) :
    (loop.remove fd).handlers.find fd = none := by
  unfold remove
  split_ifs with hnone
  · exact Option.isNone_iff_eq_none.mp hnone
  · exact if_pos rfl

theorem find_remove_of_ne (loop : EventLoop η) {fd other : ℤ} (hne : other ≠ fd) :
    (loop.remove fd).handlers.find other = loop.handlers.find other := by
  unfold remove
  split_ifs
  · rfl
  · exact Registry.find_cons_of_ne hne.symm

/-- The methods only ever add to the history of registrations. -/
theorem Evolves.suffix {loop loop' : EventLoop η} (h : Evolves loop loop') :
    loop.handlers <:+ loop'.handlers := by
  induction h with
  | refl => exact List.suffix_rfl
  | add _ fd events handler polled ih => exact ih.trans (suffix_add _ fd events handler polled)
  | modify _ fd events polled ih => rwa [handlers_modify]
  | remove _ fd ih => exact ih.trans (suffix_remove _ fd)
  | stop _ ih => exact ih

theorem Evolves.trans {loop loop' loop'' : EventLoop η} (h : Evolves loop loop')
    (h' : Evolves loop' loop'') : Evolves loop loop'' := by
  induction h' with
  | refl => exact h
  | add _ fd events handler polled ih => exact ih.add fd events handler polled
  | modify _ fd events polled ih => exact ih.modify fd events polled
  | remove _ fd ih => exact ih.remove fd
  | stop _ ih => exact ih.stop

end EventLoop

/-! ## Running handlers -/

/-- A program around a loop: what each handler does, to the loop through its
methods and to everything else as it likes. -/
structure Host (η σ : Type) where
  loop : σ → EventLoop η
  invoke : η → EventMask → σ → σ
  mediated : ∀ handler events s, (loop s).Evolves (loop (invoke handler events s))

namespace Host

/-- The turn of one event of a batch. -/
structure Turn (η σ : Type) where
  event : EventData
  /-- The state the turn finds. -/
  found : σ
  /-- The handler called, with the registration it comes from. -/
  invoked : Option (Entry η)

variable {η σ : Type} (host : Host η σ)

/-- The handler registered for a descriptor. -/
def registered (s : σ) (fd : ℤ) : Option (Entry η) := (host.loop s).handlers.find fd

/-- The body of `EventLoop::run`: one batch, in order. Answers the final state and
the turns of the events, as far as they came. -/
def dispatch : List EventData → σ → σ × List (Turn η σ)
  | [], s => (s, [])
  | event :: events, s =>
      match host.registered s event.fd with
      | none => ((dispatch events s).1, ⟨event, s, none⟩ :: (dispatch events s).2)
      | some entry =>
          let next := host.invoke entry.value event.events s
          if (host.loop next).stopRequested then (next, [⟨event, s, some entry⟩])
          else ((dispatch events next).1, ⟨event, s, some entry⟩ :: (dispatch events next).2)

/-- `EventLoop::run` over the successive answers of the poller, `none` being an
unrecoverable error. Answers the final state and the batches dispatched, each with
the state in which it was collected. -/
def run : List (Option (List EventData)) → σ → σ × List (List EventData × σ)
  | [], s => (s, [])
  | poll :: polls, s =>
      if (host.loop s).stopRequested then (s, [])
      else
        match poll with
        | none => (s, [])
        | some events =>
            let next := (host.dispatch events s).1
            ((run polls next).1, (events, s) :: (run polls next).2)

/-- Every event of the batch is delivered to the handler that was registered for
its descriptor when the batch was collected, or to none. -/
def Faithful (batch : List EventData) (collected : σ) : Prop :=
  ∀ turn ∈ (host.dispatch batch collected).2, ∀ entry, turn.invoked = some entry →
    host.registered collected turn.event.fd = some entry

/-- No event's turn comes after a handler of the same batch has registered its
descriptor number anew. -/
def Undisturbed (batch : List EventData) (collected : σ) : Prop :=
  ∀ turn ∈ (host.dispatch batch collected).2,
    ¬ (Registry.since (host.loop turn.found).handlers
      (host.loop collected).handlers).Inserts turn.event.fd

instance (batch : List EventData) (collected : σ) :
    Decidable (host.Undisturbed batch collected) :=
  inferInstanceAs (Decidable (∀ turn ∈ _, _))

/-- At its turn an event goes to the handler registered by then, and until then the loop
has only seen calls of its methods. -/
theorem turn_cases {batch : List EventData} {s : σ} {turn : Turn η σ}
    (hturn : turn ∈ (host.dispatch batch s).2) :
    turn.invoked = host.registered turn.found turn.event.fd ∧
      (host.loop s).Evolves (host.loop turn.found) := by
  induction batch generalizing s with
  | nil => simp [dispatch] at hturn
  | cons event events ih =>
      rw [dispatch] at hturn
      split at hturn
      case h_1 hnone =>
          rcases List.mem_cons.mp hturn with rfl | hrest
          · exact ⟨hnone.symm, .refl _⟩
          · exact ih hrest
      case h_2 entry hentry =>
          have hnext := host.mediated entry.value event.events s
          simp only at hturn
          split at hturn
          · obtain rfl := List.mem_singleton.mp hturn
            exact ⟨hentry.symm, .refl _⟩
          · rcases List.mem_cons.mp hturn with rfl | hrest
            · exact ⟨hentry.symm, .refl _⟩
            · exact ⟨(ih hrest).1, hnext.trans (ih hrest).2⟩

/-- A batch is dispatched faithfully exactly if it is undisturbed. -/
theorem faithful_iff_undisturbed (batch : List EventData) (collected : σ) :
    host.Faithful batch collected ↔ host.Undisturbed batch collected := by
  refine forall₂_congr fun turn hturn => ?_
  obtain ⟨hinvoked, hevolves⟩ := host.turn_cases hturn
  rw [hinvoked]
  exact Registry.find_before_iff hevolves.suffix turn.event.fd

/-- **Dispatch stays within registrations exactly if no number is registered anew
while its event waits.** For every program around the loop and every sequence of
polls, the batches dispatched all deliver to the handlers they were collected for
if and only if none of them is disturbed. -/
theorem run_faithful_iff (polls : List (Option (List EventData))) (s : σ) :
    (∀ collected ∈ (host.run polls s).2, host.Faithful collected.1 collected.2) ↔
      ∀ collected ∈ (host.run polls s).2, host.Undisturbed collected.1 collected.2 :=
  forall₂_congr fun collected _ => host.faithful_iff_undisturbed collected.1 collected.2

end Host

end CecControl
