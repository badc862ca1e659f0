import DessMonitor.Foundation.BoundedLog
import DessMonitor.Foundation.DecimalRounding
import DessMonitor.Foundation.LabelledRun
import DessMonitor.Foundation.ListUpdate

/-!
# The diagnostic event hub

Producers publish debug events while a debug panel is open.  The hub keeps the
last ones in a ring and puts each into the queue of every subscriber.  A panel
that opens is sent the end of the ring at once, then a task of its own passes
its queue on to it.

No task suspends between the subscription and the end of the replay, so what a
panel is shown has no gap and no repetition where the two meet.
-/

namespace DessMonitor
namespace DiagHub

open BoundedLog DecimalRounding LabelledRun ListUpdate

def ringMax : ℕ := 1000
def subQueueMax : ℕ := 2000
def replayLimit : ℕ := 150

structure DebugEvent (Payload : Type*) where
  ts : Option ℚ
  payload : Payload
  deriving DecidableEq

variable {Payload : Type*}

/-- `event.setdefault("ts", round(time.time(), 3))`. -/
def DebugEvent.stamped (event : DebugEvent Payload) (now : ℚ) :
    DebugEvent Payload :=
  { event with ts := some (event.ts.getD (roundDecimals 3 now)) }

/-- A subscription: its queue, and the messages its connection was sent. -/
structure Panel (Payload : Type*) where
  queue : List (DebugEvent Payload)
  sent : List (DebugEvent Payload)
  subscribed : Bool
  pumping : Bool
  deriving DecidableEq

/-- The queue of a subscriber that is full drops the event. -/
def Panel.notify (panel : Panel Payload) (event : DebugEvent Payload) :
    Panel Payload :=
  if panel.subscribed then
    { panel with queue := offer subQueueMax panel.queue event }
  else panel

structure Hub (Payload : Type*) where
  ring : List (DebugEvent Payload)
  panels : List (Panel Payload)

namespace Hub

def initial : Hub Payload := ⟨[], []⟩

def active (hub : Hub Payload) : Bool :=
  hub.panels.any Panel.subscribed

def publish (hub : Hub Payload) (event : DebugEvent Payload) (now : ℚ) :
    Hub Payload :=
  if hub.active then
    let stamped := event.stamped now
    { ring := push ringMax hub.ring stamped
      panels := hub.panels.map (Panel.notify · stamped) }
  else hub

def recent (hub : Hub Payload) (limit : Option ℕ) :
    List (DebugEvent Payload) :=
  match limit with
  | none | some 0 => hub.ring
  | some limit => hub.ring.rtake limit

def subscribe (hub : Hub Payload) : Hub Payload :=
  { hub with panels :=
      hub.panels ++ [⟨[], hub.recent (some replayLimit), true, true⟩] }

/-- One turn of `_pump`. -/
def pump (hub : Hub Payload) (index : ℕ) : Option (Hub Payload) := do
  let panel ← hub.panels[index]?
  match panel.pumping, panel.queue with
  | true, event :: queue =>
      some { hub with
        panels := hub.panels.set index
          { panel with queue := queue, sent := panel.sent ++ [event] } }
  | _, _ => none

/-- The panel unsubscribes, or its connection is lost. -/
def unsubscribe (hub : Hub Payload) (index : ℕ) : Option (Hub Payload) := do
  let panel ← hub.panels[index]?
  if panel.pumping then
    some { hub with
      panels := hub.panels.set index
        { panel with subscribed := false, pumping := false } }
  else none

def clear (hub : Hub Payload) : Hub Payload where
  ring := []
  panels := hub.panels.map fun panel => { panel with subscribed := false }

end Hub

inductive Event (Payload : Type*) where
  | publish (event : DebugEvent Payload) (now : ℚ)
  | subscribe
  | pump (index : ℕ)
  | unsubscribe (index : ℕ)
  | clear

def Hub.step (hub : Hub Payload) : Event Payload → Option (Hub Payload)
  | .publish event now => some (hub.publish event now)
  | .subscribe => some hub.subscribe
  | .pump index => hub.pump index
  | .unsubscribe index => hub.unsubscribe index
  | .clear => some hub.clear

/-! ## The history of a panel -/

/-- What had been recorded when a panel subscribed, what was recorded while it
was subscribed, and whether its queue refused any of that. -/
structure View (Payload : Type*) where
  before : List (DebugEvent Payload)
  during : List (DebugEvent Payload)
  dropped : Bool

/-- Everything recorded since the last `clear`, and the view of each panel. -/
structure History (Payload : Type*) where
  log : List (DebugEvent Payload)
  views : ℕ → View Payload

namespace History

def initial : History Payload := ⟨[], fun _ => ⟨[], [], false⟩⟩

def record (hub : Hub Payload) (history : History Payload)
    (event : DebugEvent Payload) : History Payload where
  log := history.log ++ [event]
  views index :=
    let view := history.views index
    match hub.panels[index]? with
    | none => view
    | some panel =>
        if panel.subscribed then
          { view with
            during := view.during ++ [event]
            dropped := view.dropped || decide (subQueueMax ≤ panel.queue.length) }
        else view

def observe (hub : Hub Payload) (event : Event Payload)
    (history : History Payload) : History Payload :=
  match event with
  | .publish event now =>
      if hub.active then history.record hub (event.stamped now) else history
  | .subscribe =>
      { history with
        views := Function.update history.views hub.panels.length
          ⟨history.log, [], false⟩ }
  | .clear => { history with log := [] }
  | _ => history

end History

/-! ## The invariant -/

structure Shown (log : List (DebugEvent Payload)) (panel : Panel Payload)
    (view : View Payload) : Prop where
  delivers : Delivers (view.before.rtake replayLimit) view.during
    (view.dropped = false) panel.sent panel.queue
  bounded : panel.queue.length ≤ subQueueMax
  joined : panel.subscribed = true → view.before ++ view.during = log

structure Streams (hub : Hub Payload) (history : History Payload) :
    Prop where
  ring : hub.ring = history.log.rtake ringMax
  panels : ∀ (index : ℕ) (panel : Panel Payload),
    hub.panels[index]? = some panel →
      Shown history.log panel (history.views index)

section Steps

variable {hub after : Hub Payload} {history : History Payload}
  {panel : Panel Payload} {event : DebugEvent Payload} {index : ℕ}

theorem Streams.initial :
    Streams (Hub.initial : Hub Payload) History.initial := by
  constructor <;> simp [Hub.initial, History.initial]

theorem Shown.record (hpanel : hub.panels[index]? = some panel)
    (hshown : Shown history.log panel (history.views index)) :
    Shown (history.log ++ [event]) (panel.notify event)
      ((history.record hub event).views index) := by
  cases hsubscribed : panel.subscribed with
  | false =>
      simp only [Panel.notify, History.record, hpanel, hsubscribed]
      exact ⟨hshown.delivers, hshown.bounded, by simp [hsubscribed]⟩
  | true =>
      have hdelivers : Delivers _ (_ ++ [event]) (_ ∧ _ < subQueueMax) _ _ :=
        hshown.delivers.offer
      simp only [Panel.notify, History.record, hpanel, hsubscribed, if_true]
      constructor
      · apply hdelivers.weaken
        simp
      · exact length_offer_le hshown.bounded
      · intro _
        rw [← List.append_assoc, hshown.joined hsubscribed]

theorem Streams.publish (hstreams : Streams hub history) (now : ℚ) :
    Streams (hub.publish event now)
      (history.observe hub (.publish event now)) := by
  simp only [Hub.publish, History.observe]
  split_ifs
  · constructor
    · simp only [hstreams.ring, push_rtake, History.record]
    · intro index panel hpanel
      obtain ⟨before, hbefore, rfl⟩ := by
        simpa using hpanel
      exact (hstreams.panels index before hbefore).record hbefore
  · exact hstreams

theorem Streams.subscribe (hstreams : Streams hub history) :
    Streams hub.subscribe (history.observe hub .subscribe) := by
  constructor
  · exact hstreams.ring
  · intro index panel hpanel
    simp only [History.observe]
    rcases getElem?_append_singleton_cases hpanel with
      hold | ⟨rfl, rfl⟩
    · have hindex := (List.getElem?_eq_some_iff.mp hold).1
      rw [Function.update_of_ne (by omega)]
      exact hstreams.panels index panel hold
    · rw [Function.update_self]
      have hreplay : hub.recent (some replayLimit) =
          history.log.rtake replayLimit := by
        rw [← rtake_rtake (by decide : replayLimit ≤ ringMax),
          ← hstreams.ring]
        simp only [Hub.recent, replayLimit]
      rw [hreplay]
      constructor
      · dsimp only
        exact Delivers.opened
      · simp
      · simp

theorem Streams.pump (hstreams : Streams hub history)
    (hpump : hub.pump index = some after) :
    Streams after (history.observe hub (.pump index)) := by
  simp only [Hub.pump, Option.bind_eq_bind, Option.bind_eq_some_iff] at hpump
  obtain ⟨panel, hpanel, hpump⟩ := hpump
  split at hpump
  next head queue hpumping hqueue =>
    cases hpump
    have hshown := hstreams.panels index panel hpanel
    constructor
    · exact hstreams.ring
    · intro other found hfound
      rcases getElem?_set_cases hfound with ⟨rfl, rfl⟩ | ⟨-, hkept⟩
      · have hdelivers := hshown.delivers
        have hbounded := hshown.bounded
        rw [hqueue] at hdelivers hbounded
        exact ⟨hdelivers.pop, Nat.le_of_succ_le hbounded, hshown.joined⟩
      · exact hstreams.panels other found hkept
  next => cases hpump

theorem Streams.unsubscribe (hstreams : Streams hub history)
    (hunsubscribe : hub.unsubscribe index = some after) :
    Streams after (history.observe hub (.unsubscribe index)) := by
  simp only [Hub.unsubscribe, Option.bind_eq_bind,
    Option.bind_eq_some_iff] at hunsubscribe
  obtain ⟨panel, hpanel, hunsubscribe⟩ := hunsubscribe
  split_ifs at hunsubscribe
  cases hunsubscribe
  have hshown := hstreams.panels index panel hpanel
  constructor
  · exact hstreams.ring
  · intro other found hfound
    rcases getElem?_set_cases hfound with ⟨rfl, rfl⟩ | ⟨-, hkept⟩
    · exact ⟨hshown.delivers, hshown.bounded, by simp⟩
    · exact hstreams.panels other found hkept

theorem Streams.clear (hstreams : Streams hub history) :
    Streams hub.clear (history.observe hub .clear) := by
  constructor
  · simp [Hub.clear, History.observe]
  · intro index panel hpanel
    obtain ⟨before, hbefore, rfl⟩ := by
      simpa [Hub.clear] using hpanel
    have hshown := hstreams.panels index before hbefore
    exact ⟨hshown.delivers, hshown.bounded, by simp⟩

theorem Streams.after_step {next : Event Payload}
    (hstreams : Streams hub history) (hstep : hub.step next = some after) :
    Streams after (history.observe hub next) := by
  cases next with
  | publish event now =>
      cases hstep
      exact hstreams.publish now
  | subscribe =>
      cases hstep
      exact hstreams.subscribe
  | pump index => exact hstreams.pump hstep
  | unsubscribe index => exact hstreams.unsubscribe hstep
  | clear =>
      cases hstep
      exact hstreams.clear

end Steps

/-! ## What a panel is shown -/

/-- In every run the ring holds the end of what was recorded.  What a panel was
sent, and then what waits for it, is the end of what had been recorded when it
subscribed, followed by what was recorded since, in order; nothing of that is
missing unless its queue was full. -/
theorem panel_shown_stream {events : List (Event Payload)} {hub : Hub Payload}
    {history : History Payload} {index : ℕ} {panel : Panel Payload}
    (hrun : Run (tracked (graph Hub.step) History.observe)
      (.initial, .initial) events (hub, history))
    (hpanel : hub.panels[index]? = some panel) :
    hub.ring = history.log.rtake ringMax ∧
      panel.queue.length ≤ subQueueMax ∧
      (panel.subscribed = true →
        (history.views index).before ++ (history.views index).during =
          history.log) ∧
      ∃ received,
        panel.sent ++ panel.queue =
          (history.views index).before.rtake replayLimit ++ received ∧
        received.Sublist (history.views index).during ∧
        ((history.views index).dropped = false →
          received = (history.views index).during) := by
  have hstreams : Streams hub history := by
    apply hrun.invariant fun state => Streams state.1 state.2
    · exact .initial
    · rintro ⟨hub, history⟩ event ⟨after, later⟩ hbefore ⟨hstep, rfl⟩
      exact hbefore.after_step hstep
  have hshown := hstreams.panels index panel hpanel
  exact ⟨hstreams.ring, hshown.bounded, hshown.joined,
    hshown.delivers.passed⟩

/-- The first event has no panel to show it to, and the second panel opens
between the other two. -/
def twoPanels : List (Event ℕ) :=
  [.publish ⟨none, 0⟩ 1, .subscribe, .publish ⟨none, 1⟩ 2, .pump 0,
    .subscribe, .publish ⟨none, 2⟩ 3, .pump 1]

def afterTwoPanels : Hub ℕ × History ℕ :=
  (execute (trackedNext Hub.step History.observe) (.initial, .initial)
    twoPanels).get (by decide +kernel)

theorem twoPanels_run :
    Run (tracked (graph Hub.step) History.observe) (.initial, .initial)
      twoPanels afterTwoPanels :=
  tracked_run_of_execute (Option.some_get _).symm

theorem panel_shown_stream_two_panels :
    ∃ panel, afterTwoPanels.1.panels[1]? = some panel ∧
      panel.sent = [⟨some 2, 1⟩, ⟨some 3, 2⟩] ∧ panel.queue = [] ∧
      afterTwoPanels.1.ring = afterTwoPanels.2.log.rtake ringMax ∧
      ∃ received,
        panel.sent ++ panel.queue =
          (afterTwoPanels.2.views 1).before.rtake replayLimit ++ received ∧
        received = (afterTwoPanels.2.views 1).during := by
  have hpanel : afterTwoPanels.1.panels[1]? =
      some ⟨[], [⟨some 2, 1⟩, ⟨some 3, 2⟩], true, true⟩ := by
    decide +kernel
  obtain ⟨hring, -, -, received, happend, -, hall⟩ :=
    panel_shown_stream twoPanels_run hpanel
  exact ⟨_, hpanel, rfl, rfl, hring, received, happend,
    hall (by decide +kernel)⟩

end DiagHub
end DessMonitor
