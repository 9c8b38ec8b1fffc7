import JoinTrust.Exchange

set_option autoImplicit false

/-!
How an exchange over the wire ends. It is open, and its deadline armed, until the end of the reply, an error or
the deadline arrives. The first of these decides what the caller gets: the whole body or none of it. What the
wire delivers after that changes nothing. A request that is refused when it is opened has failed before anything
is delivered.
-/

namespace JoinTrust

/-!
## Events of the wire
-/

namespace WireEvent

/-- Whether an exchange that is open is over with this event. -/
def ends : WireEvent → Bool
  | .head _ _ _ => false
  | .chunk _ => false
  | .finish => true
  | .replyError _ => true
  | .requestError _ => true
  | .deadline => true

/-- What a wire can deliver: at most one head of a reply, and nothing else of the reply before it. The flag tells
whether the head has been there. -/
def Orderly : Bool → List WireEvent → Prop
  | _, [] => True
  | headed, .head _ _ _ :: rest => headed = false ∧ Orderly true rest
  | headed, .chunk _ :: rest => headed = true ∧ Orderly headed rest
  | headed, .finish :: rest => headed = true ∧ Orderly headed rest
  | headed, .replyError _ :: rest => headed = true ∧ Orderly headed rest
  | headed, .requestError _ :: rest => Orderly headed rest
  | headed, .deadline :: rest => Orderly headed rest

/-- The bytes of a body that were delivered, in the order of their delivery. -/
def delivered (events : List WireEvent) : Bytes :=
  events.flatMap fun
    | .chunk data => data
    | _ => []

/-- What the caller gets when an event ends an exchange after what was delivered before it, and the message that
the request is destroyed with. Only a deadline destroys it, and only the end of a reply yields a body. -/
inductive Decides (lateness : String) (before : List WireEvent) :
    WireEvent → Except Thrown Reply → Option String → Prop where
  | replied {status : Option Int} {statusText : Option String} {headers : List (String × HeaderValue)} :
      .head status statusText headers ∈ before →
      Decides lateness before .finish
        (.ok ⟨status.getD 0, statusText.getD "", HeaderValue.normalize headers, delivered before⟩) none
  | broken {thrown : Thrown} : Decides lateness before (.replyError thrown) (.error thrown) none
  | failed {thrown : Thrown} : Decides lateness before (.requestError thrown) (.error thrown) none
  | late : Decides lateness before .deadline (.error (.error "Error" lateness)) (some lateness)

theorem Orderly.before {headed : Bool} {before rest : List WireEvent} (orderly : Orderly headed (before ++ rest)) :
    Orderly headed before := by
  induction before generalizing headed with
  | nil => trivial
  | cons event before ih =>
      cases event with
      | head => exact ⟨orderly.1, ih orderly.2⟩
      | chunk => exact ⟨orderly.1, ih orderly.2⟩
      | finish => exact ⟨orderly.1, ih orderly.2⟩
      | replyError => exact ⟨orderly.1, ih orderly.2⟩
      | requestError => exact @ih headed orderly
      | deadline => exact @ih headed orderly

/-- As long as nothing ends an exchange, its wire has delivered nothing, or a head and then chunks. -/
theorem Orderly.headed_first {events : List WireEvent} (orderly : Orderly false events)
    (quiet : ∀ event ∈ events, event.ends = false) :
    events = [] ∨ ∃ status statusText headers rest,
      events = .head status statusText headers :: rest ∧ Orderly true rest := by
  cases events with
  | nil => exact .inl rfl
  | cons event rest =>
      cases event with
      | head status statusText headers => exact .inr ⟨status, statusText, headers, rest, rfl, orderly.2⟩
      | chunk => exact absurd orderly.1 (by decide)
      | _ => simp [ends] at quiet

/-- Of the events that end an exchange there is a first one. -/
theorem split_at_ending {events : List WireEvent} (loud : ¬ ∀ event ∈ events, event.ends = false) :
    ∃ before ending after, events = before ++ ending :: after ∧
      (∀ event ∈ before, event.ends = false) ∧ ending.ends = true := by
  induction events with
  | nil => simp at loud
  | cons event rest ih =>
      by_cases first : event.ends = true
      · exact ⟨[], event, rest, rfl, by simp, first⟩
      · have later : ¬ ∀ event ∈ rest, event.ends = false := by
          intro quiet
          exact loud (List.forall_mem_cons.mpr ⟨by simpa using first, quiet⟩)
        obtain ⟨before, ending, after, rfl, quiet, ends⟩ := ih later
        exact ⟨event :: before, ending, after, rfl, List.forall_mem_cons.mpr ⟨by simpa using first, quiet⟩, ends⟩

end WireEvent

/-!
## Exchanges
-/

namespace Exchange

open WireEvent (Orderly Decides delivered)

variable {exchange : Exchange} {before after events : List WireEvent} {ending : WireEvent}

theorem run_append (exchange : Exchange) (first rest : List WireEvent) :
    exchange.run (first ++ rest) = (exchange.run first).run rest :=
  List.foldl_append

/-- Until something ends it, an exchange only gathers its reply. -/
theorem run_quiet (quiet : ∀ event ∈ events, event.ends = false) :
    exchange.run events = { exchange with arriving := (exchange.run events).arriving } := by
  induction events generalizing exchange with
  | nil => rfl
  | cons event rest ih =>
      obtain ⟨first, later⟩ := List.forall_mem_cons.mp quiet
      have next := @ih (exchange.step event) later
      cases event with
      | head => exact next
      | chunk => exact next
      | _ => simp [WireEvent.ends] at first

/-- A body grows by the chunks, in their order. -/
theorem arriving_run_of_headed {arriving : Arriving} (quiet : ∀ event ∈ events, event.ends = false)
    (orderly : Orderly true events) (headed : exchange.arriving = some arriving) :
    (exchange.run events).arriving = some { arriving with body := arriving.body ++ delivered events } := by
  induction events generalizing exchange arriving with
  | nil => simp [run, delivered, headed]
  | cons event rest ih =>
      obtain ⟨first, later⟩ := List.forall_mem_cons.mp quiet
      cases event with
      | head => exact absurd orderly.1 (by decide)
      | chunk data =>
          have grown : (exchange.step (.chunk data)).arriving =
              some { arriving with body := arriving.body ++ data } := by simp [step, headed]
          have next := ih later orderly.2 grown
          simpa [run, delivered] using next
      | _ => simp [WireEvent.ends] at first

/-- What has arrived before the end: nothing, or the head with all the bytes delivered so far. -/
theorem arriving_run (quiet : ∀ event ∈ events, event.ends = false) (orderly : Orderly false events)
    (fresh : exchange.arriving = none) :
    (events = [] ∧ (exchange.run events).arriving = none) ∨
      ∃ status statusText headers, .head status statusText headers ∈ events ∧
        (exchange.run events).arriving = some ⟨status, statusText, headers, delivered events⟩ := by
  rcases orderly.headed_first quiet with rfl | ⟨status, statusText, headers, rest, rfl, further⟩
  · exact .inl ⟨rfl, fresh⟩
  · refine .inr ⟨status, statusText, headers, List.mem_cons_self, ?_⟩
    have begun : (exchange.step (.head status statusText headers)).arriving =
        some ⟨status, statusText, headers, []⟩ := rfl
    have later := arriving_run_of_headed (List.forall_mem_cons.mp quiet).2 further begun
    simpa [run, delivered] using later

/-- An exchange is over, with this outcome and this fate of its request. -/
def Over (exchange : Exchange) (outcome : Except Thrown Reply) (destroyed : Option String) : Prop :=
  exchange.settled = some outcome ∧ exchange.armed = false ∧ exchange.destroyed = destroyed

/-- Whatever else comes of an exchange that is over, its outcome stays. -/
theorem Over.settle {outcome : Except Thrown Reply} {destroyed : Option String}
    (isOver : exchange.Over outcome destroyed) (other : Except Thrown Reply) :
    (exchange.settle other).Over outcome destroyed := by
  obtain ⟨settled, _, fate⟩ := isOver
  exact ⟨by simp [Exchange.settle, settled], rfl, fate⟩

theorem Over.step {outcome : Except Thrown Reply} {destroyed : Option String}
    (isOver : exchange.Over outcome destroyed) (event : WireEvent) :
    (exchange.step event).Over outcome destroyed := by
  cases event with
  | head => exact isOver
  | chunk => exact isOver
  | requestError thrown => exact isOver.settle _
  | deadline =>
      obtain ⟨_, disarmed, _⟩ := id isOver
      simpa [Exchange.step, disarmed] using isOver
  | finish =>
      cases arrived : exchange.arriving with
      | none => simpa [Exchange.step, arrived] using isOver
      | some arriving => simpa [Exchange.step, arrived] using isOver.settle (.ok arriving.reply)
  | replyError thrown =>
      cases arrived : exchange.arriving with
      | none => simpa [Exchange.step, arrived] using isOver
      | some arriving => simpa [Exchange.step, arrived] using isOver.settle (.error thrown)

/-- No event does anything to the outcome of an exchange that is over. -/
theorem Over.run {outcome : Except Thrown Reply} {destroyed : Option String}
    (isOver : exchange.Over outcome destroyed) (events : List WireEvent) :
    (exchange.run events).Over outcome destroyed := by
  induction events generalizing exchange with
  | nil => exact isOver
  | cons event rest ih => exact ih (isOver.step event)

/-- The first outcome of an exchange is its outcome. -/
theorem over_settle (pending : exchange.settled = none) (outcome : Except Thrown Reply) :
    (exchange.settle outcome).Over outcome exchange.destroyed :=
  ⟨by simp [Exchange.settle, pending], rfl, rfl⟩

/-- An exchange that is open and whose reply has not begun. -/
structure Fresh (exchange : Exchange) : Prop where
  pending : exchange.settled = none
  armed : exchange.armed = true
  whole : exchange.destroyed = none
  unanswered : exchange.arriving = none

/-- The first event that ends an exchange decides its outcome. -/
theorem Fresh.over_run (fresh : exchange.Fresh) (quiet : ∀ event ∈ before, event.ends = false)
    (ends : ending.ends = true) (orderly : Orderly false (before ++ ending :: after)) :
    ∃ outcome destroyed, Decides exchange.timeoutMessage before ending outcome destroyed ∧
      (exchange.run (before ++ ending :: after)).Over outcome destroyed := by
  have arrived := arriving_run quiet orderly.before fresh.unanswered
  have pending : (exchange.run before).settled = none := by rw [run_quiet quiet]; exact fresh.pending
  have armed : (exchange.run before).armed = true := by rw [run_quiet quiet]; exact fresh.armed
  have whole : (exchange.run before).destroyed = none := by rw [run_quiet quiet]; exact fresh.whole
  have told : (exchange.run before).timeoutMessage = exchange.timeoutMessage := by rw [run_quiet quiet]; rfl
  have settles (outcome : Except Thrown Reply) : ((exchange.run before).settle outcome).Over outcome none :=
    whole ▸ over_settle pending outcome
  -- The end of a reply and an error in it come after its head, so that something has arrived.
  have answered : ending = .finish ∨ (∃ thrown, ending = .replyError thrown) →
      ∃ status statusText headers, .head status statusText headers ∈ before ∧
        (exchange.run before).arriving = some ⟨status, statusText, headers, delivered before⟩ := by
    intro within
    rcases arrived with ⟨rfl, _⟩ | arrived
    · rcases within with rfl | ⟨thrown, rfl⟩
      · exact absurd orderly.1 (by decide)
      · exact absurd orderly.1 (by decide)
    · exact arrived
  have ran : exchange.run (before ++ ending :: after) = ((exchange.run before).step ending).run after :=
    run_append exchange before (ending :: after)
  rw [ran]
  cases ending with
  | head => cases ends
  | chunk => cases ends
  | requestError thrown => exact ⟨_, _, .failed, (settles (.error thrown)).run after⟩
  | finish =>
      obtain ⟨status, statusText, headers, headed, arriving⟩ := answered (.inl rfl)
      refine ⟨_, _, .replied headed, Over.run ?_ after⟩
      have done : (exchange.run before).step .finish =
          (exchange.run before).settle (.ok (Arriving.reply ⟨status, statusText, headers, delivered before⟩)) := by
        simp [step, arriving]
      rw [done]
      exact settles _
  | replyError thrown =>
      obtain ⟨status, statusText, headers, headed, arriving⟩ := answered (.inr ⟨thrown, rfl⟩)
      refine ⟨_, _, .broken, Over.run ?_ after⟩
      have broke : (exchange.run before).step (.replyError thrown) = (exchange.run before).settle (.error thrown) := by
        simp [step, arriving]
      rw [broke]
      exact settles _
  | deadline =>
      refine ⟨_, _, .late, Over.run ?_ after⟩
      have due : (exchange.run before).step .deadline =
          settle { exchange.run before with destroyed := some exchange.timeoutMessage }
            (.error (.error "Error" exchange.timeoutMessage)) := by
        simp [step, armed, told]
      rw [due]
      exact @over_settle { exchange.run before with destroyed := some exchange.timeoutMessage } pending _

end Exchange

end JoinTrust
