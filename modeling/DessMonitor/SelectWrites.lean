import DessMonitor.Foundation.LabelledRun
import DessMonitor.Foundation.ListUpdate
import DessMonitor.SelectModel

/-!
# The writes of one call

The steps of the system take each call from phase to phase.  The phase of a
call tells how many writes the inverter has received from it, and a call that
has left its write loop writes no more.
-/

namespace DessMonitor
namespace Select

open LabelledRun ListUpdate
open Direct (Section)

/-! ## From phase to phase -/

/-- A phase, the writes that the inverter receives, and the next phase. -/
inductive PhaseStep : Phase → ℕ → Phase → Prop where
  | stays (phase : Phase) : PhaseStep phase 0 phase
  | acked (attempt : ℕ) : PhaseStep (.sending attempt) 1 (.confirming 0)
  | refused (attempt : ℕ) : PhaseStep (.sending attempt) 1 (.pausing attempt)
  | failed (attempt : ℕ) : PhaseStep (.sending attempt) 1 .returned
  | again {attempt : ℕ} (hleft : attempt + 1 < setAttempts) :
      PhaseStep (.pausing attempt) 0 (.sending (attempt + 1))
  | givesUp (attempt : ℕ) : PhaseStep (.pausing attempt) 0 (.confirming 0)
  | rereads (round : ℕ) :
      PhaseStep (.confirming round) 0 (.confirming (round + 1))
  | returns (round : ℕ) : PhaseStep (.confirming round) 0 .returned

/-- So many writes lead to this phase. -/
def Phase.Counts : Phase → ℕ → Prop
  | .sending attempt, writes => writes = attempt ∧ attempt < setAttempts
  | .pausing attempt, writes => writes = attempt + 1 ∧ attempt < setAttempts
  | .confirming _, writes => writes ≤ setAttempts
  | .returned, writes => writes ≤ setAttempts

/-- The write loop is over. -/
def Phase.Settled : Phase → Prop
  | .sending _ => False
  | .pausing _ => False
  | .confirming _ => True
  | .returned => True

section Phases

variable {before after : Phase} {writes : ℕ}

theorem PhaseStep.counts (hstep : PhaseStep before writes after) {past : ℕ}
    (hcounts : before.Counts past) : after.Counts (past + writes) := by
  cases hstep with
  | stays => exact hcounts
  | acked attempt =>
      obtain ⟨rfl, hlt⟩ := hcounts
      exact hlt
  | refused attempt =>
      obtain ⟨rfl, hlt⟩ := hcounts
      exact ⟨rfl, hlt⟩
  | failed attempt =>
      obtain ⟨rfl, hlt⟩ := hcounts
      exact hlt
  | again hleft =>
      obtain ⟨rfl, -⟩ := hcounts
      exact ⟨rfl, hleft⟩
  | givesUp attempt =>
      obtain ⟨rfl, hlt⟩ := hcounts
      exact hlt
  | rereads round => exact hcounts
  | returns round => exact hcounts

theorem PhaseStep.settled (hstep : PhaseStep before writes after)
    (hsettled : before.Settled) : writes = 0 ∧ after.Settled := by
  cases hstep with
  | stays => exact ⟨rfl, hsettled⟩
  | acked attempt => cases hsettled
  | refused attempt => cases hsettled
  | failed attempt => cases hsettled
  | again hleft => cases hsettled
  | givesUp attempt => cases hsettled
  | rereads round => exact ⟨rfl, hsettled⟩
  | returns round => exact ⟨rfl, trivial⟩

end Phases

theorem phaseStep_answered {call : Call} {attempt : ℕ}
    (hphase : call.phase = .sending attempt) (acked : Bool) :
    PhaseStep call.phase 1 (call.answered attempt acked).phase := by
  rw [hphase]
  cases acked with
  | true => exact .acked attempt
  | false => exact .refused attempt

theorem phaseStep_checked {call : Call} {round : ℕ}
    (hphase : call.phase = .confirming round)
    (pendingOption : Option String) :
    PhaseStep call.phase 0 (call.checked round pendingOption).phase := by
  rw [hphase]
  unfold Call.checked
  split
  · exact .returns round
  · exact .rereads round

/-! ## Steps of the system -/

/-- What a step does to the calls and to the writes. -/
inductive CallsStep (world after : World) : Prop where
  | chosen (option : String)
      (hcalls : after.calls = world.calls ++ [⟨option, .sending 0, false⟩])
      (hsent : after.sent = world.sent)
  | kept (hcalls : after.calls = world.calls)
      (hsent : after.sent = world.sent)
  | moved {cid : ℕ} {call replacement : Call}
      (hcall : world.calls[cid]? = some call)
      (hcalls : after.calls = world.calls.set cid replacement)
      (hsent : after.sent = world.sent)
      (hphase : PhaseStep call.phase 0 replacement.phase)
  | wrote (sent : Sent) {call replacement : Call}
      (hcall : world.calls[sent.cid]? = some call)
      (hcalls : after.calls = world.calls.set sent.cid replacement)
      (hsent : after.sent = world.sent ++ [sent])
      (hphase : PhaseStep call.phase 1 replacement.phase)

theorem callsStep_wake {world : World} {cid : ℕ} {call : Call} {attempt : ℕ}
    (hcall : world.calls[cid]? = some call)
    (hphase : call.phase = .pausing attempt) :
    CallsStep world (world.wake cid call attempt) := by
  unfold World.wake
  split
  next hleft =>
    refine .moved hcall rfl rfl ?_
    rw [hphase]
    exact .again hleft
  next =>
    refine .moved hcall rfl rfl ?_
    rw [hphase]
    exact .givesUp attempt

theorem callsStep_of_step {base : SelectBase} {world after : World}
    {event : Event} (hstep : world.step base event = some after) :
    CallsStep world after := by
  cases event with
  | select option time =>
      simp only [World.step] at hstep
      split at hstep
      · obtain rfl := Option.some.inj hstep
        exact .chosen option rfl rfl
      · cases hstep
  | update device time =>
      simp only [World.step] at hstep
      split at hstep
      · split at hstep
        · obtain rfl := Option.some.inj hstep
          exact .kept rfl rfl
        · obtain rfl := Option.some.inj hstep
          exact .kept rfl rfl
      · cases hstep
  | start =>
      simp only [World.step] at hstep
      split at hstep
      · obtain rfl := Option.some.inj hstep
        exact .kept rfl rfl
      · cases hstep
  | answer result =>
      simp only [World.step, Option.bind_eq_bind,
        Option.bind_eq_some_iff] at hstep
      obtain ⟨cid, -, call, hcall, setter, -, hstep⟩ := hstep
      split at hstep
      next attempt hphase =>
        obtain rfl := Option.some.inj hstep
        exact .wrote ⟨cid, setter, isAck result⟩ hcall rfl rfl
          (phaseStep_answered hphase (isAck result))
      next => cases hstep
  | raised =>
      simp only [World.step, Option.bind_eq_bind,
        Option.bind_eq_some_iff] at hstep
      obtain ⟨cid, -, call, hcall, setter, -, hstep⟩ := hstep
      split at hstep
      next attempt hphase =>
        obtain rfl := Option.some.inj hstep
        refine .wrote ⟨cid, setter, false⟩ hcall rfl rfl ?_
        rw [hphase]
        exact .failed attempt
      next => cases hstep
  | wake cid =>
      simp only [World.step, Option.bind_eq_bind,
        Option.bind_eq_some_iff] at hstep
      obtain ⟨call, hcall, hstep⟩ := hstep
      split at hstep
      next attempt hphase =>
        obtain rfl := Option.some.inj hstep
        exact callsStep_wake hcall hphase
      next => cases hstep
  | check cid =>
      simp only [World.step, Option.bind_eq_bind,
        Option.bind_eq_some_iff] at hstep
      obtain ⟨call, hcall, hstep⟩ := hstep
      split at hstep
      next round hphase =>
        obtain rfl := Option.some.inj hstep
        exact .moved hcall rfl rfl (phaseStep_checked hphase _)
      next => cases hstep

/-! ## Counting -/

/-- The writes of this call that the inverter received. -/
def World.writesOf (world : World) (cid : ℕ) : ℕ :=
  world.sent.countP fun sent => decide (sent.cid = cid)

/-- The phases tell the writes, and every write is that of a call. -/
structure Counted (world : World) : Prop where
  known : ∀ sent ∈ world.sent, sent.cid < world.calls.length
  counts : ∀ (cid : ℕ) (call : Call), world.calls[cid]? = some call →
    call.phase.Counts (world.writesOf cid)

section Steps

variable {base : SelectBase} {world after : World} {cid : ℕ} {call : Call}

theorem writesOf_of_sent {sent : Sent}
    (hsent : after.sent = world.sent ++ [sent]) (cid : ℕ) :
    after.writesOf cid =
      world.writesOf cid + if sent.cid = cid then 1 else 0 := by
  unfold World.writesOf
  rw [hsent, List.countP_append, List.countP_singleton]
  by_cases heq : sent.cid = cid
  · rw [if_pos heq, if_pos (decide_eq_true heq)]
  · rw [if_neg heq, if_neg (by simpa using heq)]

theorem writesOf_congr (hsent : after.sent = world.sent) :
    after.writesOf cid = world.writesOf cid := by
  unfold World.writesOf
  rw [hsent]

/-- A step takes every call at most one phase further. -/
theorem CallsStep.phaseStep (hstep : CallsStep world after)
    (hcall : world.calls[cid]? = some call) :
    ∃ moved count, after.calls[cid]? = some moved ∧
      after.writesOf cid = world.writesOf cid + count ∧
      PhaseStep call.phase count moved.phase := by
  have hbound := (List.getElem?_eq_some_iff.mp hcall).1
  cases hstep with
  | chosen option hcalls hsent =>
      refine ⟨call, 0, ?_, writesOf_congr hsent, .stays call.phase⟩
      rw [hcalls, List.getElem?_append_left hbound]
      exact hcall
  | kept hcalls hsent =>
      refine ⟨call, 0, ?_, writesOf_congr hsent, .stays call.phase⟩
      rw [hcalls]
      exact hcall
  | @moved other found replacement hfound hcalls hsent hphase =>
      by_cases heq : other = cid
      · subst heq
        rw [hcall] at hfound
        obtain rfl := Option.some.inj hfound
        refine ⟨replacement, 0, ?_, writesOf_congr hsent, hphase⟩
        rw [hcalls, List.getElem?_set_self hbound]
      · refine ⟨call, 0, ?_, writesOf_congr hsent, .stays call.phase⟩
        rw [hcalls, List.getElem?_set_ne heq]
        exact hcall
  | @wrote sent found replacement hfound hcalls hsent hphase =>
      have hwrites := writesOf_of_sent hsent cid
      by_cases heq : sent.cid = cid
      · rw [heq, hcall] at hfound
        obtain rfl := Option.some.inj hfound
        rw [if_pos heq] at hwrites
        refine ⟨replacement, 1, ?_, hwrites, hphase⟩
        rw [hcalls, heq, List.getElem?_set_self hbound]
      · rw [if_neg heq] at hwrites
        refine ⟨call, 0, ?_, hwrites, .stays call.phase⟩
        rw [hcalls, List.getElem?_set_ne heq]
        exact hcall

/-- A call of the next state is an old one or was just made. -/
theorem CallsStep.call_cases (hstep : CallsStep world after)
    (hcall : after.calls[cid]? = some call) :
    (∃ old, world.calls[cid]? = some old) ∨
      (cid = world.calls.length ∧ call.phase = .sending 0 ∧
        after.sent = world.sent) := by
  cases hstep with
  | chosen option hcalls hsent =>
      rw [hcalls] at hcall
      rcases getElem?_append_singleton_cases hcall with hold | ⟨hcid, rfl⟩
      · exact .inl ⟨call, hold⟩
      · exact .inr ⟨hcid, rfl, hsent⟩
  | kept hcalls hsent =>
      rw [hcalls] at hcall
      exact .inl ⟨call, hcall⟩
  | moved hfound hcalls hsent hphase =>
      rw [hcalls] at hcall
      rcases getElem?_set_cases hcall with ⟨rfl, -⟩ | ⟨-, hold⟩
      · exact .inl ⟨_, hfound⟩
      · exact .inl ⟨call, hold⟩
  | wrote sent hfound hcalls hsent hphase =>
      rw [hcalls] at hcall
      rcases getElem?_set_cases hcall with ⟨rfl, -⟩ | ⟨-, hold⟩
      · exact .inl ⟨_, hfound⟩
      · exact .inl ⟨call, hold⟩

theorem initial_counted (currentOption : PyValue) :
    Counted (World.initial currentOption) := by
  constructor
  · intro sent hmem
    cases hmem
  · intro cid call hcall
    cases hcall

/-- A call that was just made has no write. -/
theorem Counted.writesOf_length (hcounted : Counted world) :
    world.writesOf world.calls.length = 0 := by
  unfold World.writesOf
  rw [List.countP_eq_zero]
  intro sent hmem hcid
  have hlt := hcounted.known sent hmem
  rw [of_decide_eq_true hcid] at hlt
  exact absurd hlt (lt_irrefl _)

theorem Counted.after_step (hcounted : Counted world)
    (hstep : CallsStep world after) : Counted after := by
  constructor
  · intro sent hmem
    cases hstep with
    | chosen option hcalls hsent =>
        rw [hsent] at hmem
        rw [hcalls, List.length_append]
        exact Nat.lt_add_right _ (hcounted.known sent hmem)
    | kept hcalls hsent =>
        rw [hsent] at hmem
        rw [hcalls]
        exact hcounted.known sent hmem
    | moved hfound hcalls hsent hphase =>
        rw [hsent] at hmem
        rw [hcalls, List.length_set]
        exact hcounted.known sent hmem
    | wrote sent hfound hcalls hsent hphase =>
        rw [hsent] at hmem
        rw [hcalls, List.length_set]
        rcases List.mem_append.mp hmem with hold | hnew
        · exact hcounted.known _ hold
        · rw [List.mem_singleton.mp hnew]
          exact (List.getElem?_eq_some_iff.mp hfound).1
  · intro cid call hcall
    rcases hstep.call_cases hcall with ⟨old, hold⟩ | ⟨rfl, hphase, hsent⟩
    · obtain ⟨moved, count, hmoved, hwrites, hphase⟩ := hstep.phaseStep hold
      rw [hcall] at hmoved
      obtain rfl := Option.some.inj hmoved
      rw [hwrites]
      exact hphase.counts (hcounted.counts cid old hold)
    · rw [hphase, writesOf_congr hsent, hcounted.writesOf_length]
      exact ⟨rfl, by decide⟩

end Steps

/-! ## Runs -/

/-- When write number `attempt` of a call was answered so, the call has written
`attempt + 1` times in every later state of every run.  In particular, a first
write that is answered so is the only one. -/
def WrittenOnce (result : Option Section) : Prop :=
  ∀ (base : SelectBase) (currentOption : PyValue)
    (earlier later : List Event) (world after final : World)
    (cid attempt : ℕ) (call : Call),
    Run (graph (World.step base)) (World.initial currentOption) earlier
        world →
      world.running = some cid → world.calls[cid]? = some call →
      call.phase = .sending attempt →
      world.step base (.answer result) = some after →
      Run (graph (World.step base)) after later final →
      final.writesOf cid = attempt + 1

section Runs

variable {base : SelectBase} {currentOption : PyValue} {events : List Event}
  {world final : World} {cid : ℕ} {call : Call}

theorem counted_of_run
    (hrun : Run (graph (World.step base)) (World.initial currentOption)
      events final) : Counted final := by
  apply hrun.invariant Counted (initial_counted currentOption)
  intro before event after hbefore hstep
  exact hbefore.after_step (callsStep_of_step hstep)

/-- Whatever the answers are, a call writes three times at most. -/
theorem writesOf_le_of_run
    (hrun : Run (graph (World.step base)) (World.initial currentOption)
      events final) (hcall : final.calls[cid]? = some call) :
    final.writesOf cid ≤ setAttempts := by
  have hcounts := (counted_of_run hrun).counts cid call hcall
  cases hphase : call.phase with
  | sending attempt =>
      rw [hphase] at hcounts
      exact hcounts.1 ▸ hcounts.2.le
  | pausing attempt =>
      rw [hphase] at hcounts
      exact hcounts.1 ▸ hcounts.2
  | confirming round =>
      rw [hphase] at hcounts
      exact hcounts
  | returned =>
      rw [hphase] at hcounts
      exact hcounts

/-- A call that has left its write loop writes no more. -/
theorem writesOf_of_settled (hrun : Run (graph (World.step base)) world
      events final) (hcall : world.calls[cid]? = some call)
    (hsettled : call.phase.Settled) :
    final.writesOf cid = world.writesOf cid := by
  have hfinal : ∃ last, final.calls[cid]? = some last ∧
      last.phase.Settled ∧ final.writesOf cid = world.writesOf cid := by
    apply hrun.invariant fun state => ∃ last, state.calls[cid]? = some last ∧
      last.phase.Settled ∧ state.writesOf cid = world.writesOf cid
    · exact ⟨call, hcall, hsettled, rfl⟩
    · rintro before event after ⟨last, hlast, hlastSettled, hsame⟩ hstep
      obtain ⟨moved, count, hmoved, hwrites, hphase⟩ :=
        (callsStep_of_step hstep).phaseStep hlast
      obtain ⟨rfl, hmovedSettled⟩ := hphase.settled hlastSettled
      exact ⟨moved, hmoved, hmovedSettled, hwrites.trans hsame⟩
  obtain ⟨last, -, -, hsame⟩ := hfinal
  exact hsame

/-- The end of a write that is answered. -/
theorem answer_eq_finish {after : World} {attempt : ℕ}
    {result : Option Section} (hrunning : world.running = some cid)
    (hcall : world.calls[cid]? = some call)
    (hphase : call.phase = .sending attempt)
    (hstep : world.step base (.answer result) = some after) :
    ∃ setter, after = world.finish cid (call.answered attempt (isAck result))
      setter (isAck result) := by
  simp only [World.step, Option.bind_eq_bind,
    Option.bind_eq_some_iff] at hstep
  obtain ⟨other, hother, found, hfound, setter, -, hstep⟩ := hstep
  rw [hrunning] at hother
  obtain rfl := Option.some.inj hother
  rw [hcall] at hfound
  obtain rfl := Option.some.inj hfound
  rw [hphase] at hstep
  exact ⟨setter, (Option.some.inj hstep).symm⟩

theorem writtenOnce_of_isAck {result : Option Section}
    (hack : isAck result = true) : WrittenOnce result := by
  intro base currentOption earlier later world after final cid attempt call
    hrun hrunning hcall hphase hstep hlater
  obtain ⟨setter, rfl⟩ := answer_eq_finish hrunning hcall hphase hstep
  rw [hack] at hlater
  have hbound := (List.getElem?_eq_some_iff.mp hcall).1
  have hafter : (world.finish cid (call.answered attempt true) setter
      true).calls[cid]? = some (call.answered attempt true) :=
    List.getElem?_set_self hbound
  have hwrites : (world.finish cid (call.answered attempt true) setter
      true).writesOf cid = world.writesOf cid + 1 := by
    rw [writesOf_of_sent rfl cid, if_pos rfl]
  have hcounts := (counted_of_run hrun).counts cid call hcall
  rw [hphase] at hcounts
  rw [writesOf_of_settled hlater hafter trivial, hwrites, hcounts.1]

end Runs

/-! ## Answers that are no acknowledgement -/

/-- The system reads nothing but the acknowledgement from an answer. -/
theorem answer_congr {left right : Option Section}
    (hack : isAck left = isAck right) (base : SelectBase) (world : World) :
    world.step base (.answer left) = world.step base (.answer right) := by
  simp only [World.step]
  rw [hack]

def firstWrite : List Event := [.select "Solar" 0, .start]

def inFirstWrite : World :=
  (execute (World.step inverterOutputPrioritySelect)
    (World.initial (.str "SBU")) firstWrite).get (by decide +kernel)

def afterRefusal : World :=
  (inFirstWrite.step inverterOutputPrioritySelect (.answer none)).get
    (by decide +kernel)

def secondWrite : List Event := [.wake 0, .start, .raised]

def afterSecondWrite : World :=
  (execute (World.step inverterOutputPrioritySelect) afterRefusal
    secondWrite).get (by decide +kernel)

/-- Nothing but an acknowledgement ends the writes of a call. -/
theorem isAck_of_writtenOnce {result : Option Section}
    (honce : WrittenOnce result) : isAck result = true := by
  by_contra hnot
  have hsame : isAck result = isAck none := Bool.eq_false_iff.mpr hnot
  have hstep : inFirstWrite.step inverterOutputPrioritySelect
      (.answer result) = some afterRefusal := by
    rw [answer_congr hsame]
    exact (Option.some_get _).symm
  have hrun : Run (graph (World.step inverterOutputPrioritySelect))
      (World.initial (.str "SBU")) firstWrite inFirstWrite :=
    run_of_execute (Option.some_get _).symm
  have hlater : Run (graph (World.step inverterOutputPrioritySelect))
      afterRefusal secondWrite afterSecondWrite :=
    run_of_execute (Option.some_get _).symm
  have hwrites := honce _ _ firstWrite secondWrite inFirstWrite afterRefusal
    afterSecondWrite 0 0 ⟨"Solar", .sending 0, false⟩ hrun
    (by decide +kernel) (by decide +kernel) rfl hstep hlater
  exact absurd hwrites (by decide +kernel)

/-! ## Calls in line -/

/-- Every call in line is in its write loop, and in line once. -/
structure InLine (base : SelectBase) (world : World) : Prop where
  nodup : world.enqueued.Nodup
  sending : ∀ cid ∈ world.enqueued, ∃ call attempt,
    world.calls[cid]? = some call ∧ call.phase = .sending attempt
  offered : ∀ call ∈ world.calls, call.option ∈ base.options

section Line

variable {base : SelectBase} {world after : World} {cid : ℕ}
  {call replacement : Call}

theorem initial_inLine (base : SelectBase) (currentOption : PyValue) :
    InLine base (World.initial currentOption) := by
  constructor <;> simp [World.initial, World.enqueued]

theorem InLine.same (hline : InLine base world)
    (henqueued : after.enqueued = world.enqueued)
    (hcalls : after.calls = world.calls) : InLine base after := by
  constructor
  · rw [henqueued]
    exact hline.nodup
  · rw [henqueued, hcalls]
    exact hline.sending
  · rw [hcalls]
    exact hline.offered

/-- A call that is not in its write loop is not in line. -/
theorem InLine.notMem (hline : InLine base world)
    (hcall : world.calls[cid]? = some call)
    (hphase : ∀ attempt, call.phase ≠ .sending attempt) :
    cid ∉ world.enqueued := by
  intro hmem
  obtain ⟨found, attempt, hfound, hsending⟩ := hline.sending cid hmem
  rw [hcall] at hfound
  obtain rfl := Option.some.inj hfound
  exact hphase attempt hsending

/-- One call moves on, and the others in line stay where they are. -/
theorem InLine.move (hline : InLine base world)
    (hcall : world.calls[cid]? = some call)
    (hcalls : after.calls = world.calls.set cid replacement)
    (hoption : replacement.option = call.option)
    (hnodup : after.enqueued.Nodup)
    (hmembers : ∀ other ∈ after.enqueued,
      (other ∈ world.enqueued ∧ other ≠ cid) ∨
        (other = cid ∧ ∃ attempt, replacement.phase = .sending attempt)) :
    InLine base after := by
  have hlength := (List.getElem?_eq_some_iff.mp hcall).1
  constructor
  · exact hnodup
  · intro other hmem
    rw [hcalls]
    rcases hmembers other hmem with ⟨hold, hne⟩ | ⟨rfl, attempt, hsending⟩
    · rw [List.getElem?_set_ne hne.symm]
      exact hline.sending other hold
    · exact ⟨replacement, attempt, List.getElem?_set_self hlength, hsending⟩
  · intro other hmem
    rw [hcalls] at hmem
    rcases List.mem_or_eq_of_mem_set hmem with hold | rfl
    · exact hline.offered other hold
    · rw [hoption]
      exact hline.offered call (List.mem_of_getElem? hcall)

/-- The running write is over. -/
theorem InLine.finish (hline : InLine base world)
    (hrunning : world.running = some cid)
    (hcall : world.calls[cid]? = some call)
    (hoption : replacement.option = call.option) (setter : Smg.Setter)
    (acked : Bool) : InLine base (world.finish cid replacement setter acked) := by
  have henqueued : world.enqueued = cid :: world.queue := by
    simp [World.enqueued, hrunning]
  have hnodup := hline.nodup
  rw [henqueued, List.nodup_cons] at hnodup
  have hqueue : (world.finish cid replacement setter acked).enqueued =
      world.queue := by
    simp [World.enqueued, World.finish, World.setCall]
  apply hline.move hcall rfl hoption
  · rw [hqueue]
    exact hnodup.2
  · intro other hmem
    rw [hqueue] at hmem
    rw [henqueued]
    refine .inl ⟨List.mem_cons_of_mem cid hmem, ?_⟩
    rintro rfl
    exact hnodup.1 hmem

theorem InLine.select (hline : InLine base world) {option : String}
    (hoffered : option ∈ base.options) (time : ℚ) :
    InLine base (world.select option time) := by
  have henqueued : (world.select option time).enqueued =
      world.enqueued ++ [world.calls.length] := by
    simp [World.enqueued, World.select]
  have hknown : ∀ cid ∈ world.enqueued, cid < world.calls.length := by
    intro cid hmem
    obtain ⟨call, attempt, hcall, -⟩ := hline.sending cid hmem
    exact (List.getElem?_eq_some_iff.mp hcall).1
  constructor
  · rw [henqueued, List.nodup_append_comm]
    refine List.nodup_cons.mpr ⟨?_, hline.nodup⟩
    intro hmem
    exact lt_irrefl _ (hknown _ hmem)
  · intro cid hmem
    rw [henqueued] at hmem
    rcases List.mem_append.mp hmem with hold | hnew
    · obtain ⟨call, attempt, hcall, hsending⟩ := hline.sending cid hold
      refine ⟨call, attempt, ?_, hsending⟩
      exact (List.getElem?_append_left (hknown cid hold)).trans hcall
    · rw [List.mem_singleton.mp hnew]
      exact ⟨⟨option, .sending 0, false⟩, 0, List.getElem?_concat_length, rfl⟩
  · intro call hmem
    rcases List.mem_append.mp hmem with hold | hnew
    · exact hline.offered call hold
    · rw [List.mem_singleton.mp hnew]
      exact hoffered

theorem InLine.wake (hline : InLine base world)
    (hcall : world.calls[cid]? = some call) {attempt : ℕ}
    (hphase : call.phase = .pausing attempt) :
    InLine base (world.wake cid call attempt) := by
  have hout : cid ∉ world.enqueued := by
    apply hline.notMem hcall
    rw [hphase]
    exact fun _ => Phase.noConfusion
  have hother : ∀ other ∈ world.enqueued, other ≠ cid := by
    rintro other hmem rfl
    exact hout hmem
  unfold World.wake
  split
  · have henqueued : World.enqueued { world.setCall cid
        { call with phase := .sending (attempt + 1) } with
          queue := world.queue ++ [cid] } = world.enqueued ++ [cid] := by
      simp [World.enqueued, World.setCall]
    have hnodup : (world.enqueued ++ [cid]).Nodup := by
      rw [List.nodup_append_comm]
      exact List.nodup_cons.mpr ⟨hout, hline.nodup⟩
    refine hline.move hcall rfl rfl ?_ ?_
    · rwa [henqueued]
    · intro other hmem
      rw [henqueued] at hmem
      rcases List.mem_append.mp hmem with hold | hnew
      · exact .inl ⟨hold, hother other hold⟩
      · exact .inr ⟨List.mem_singleton.mp hnew, attempt + 1, rfl⟩
  · refine hline.move hcall rfl rfl hline.nodup ?_
    exact fun other hmem => .inl ⟨hmem, hother other hmem⟩

theorem InLine.check (hline : InLine base world)
    (hcall : world.calls[cid]? = some call) {round : ℕ}
    (hphase : call.phase = .confirming round) :
    InLine base (world.setCall cid
      (call.checked round world.entity.pendingOption)) := by
  have hout : cid ∉ world.enqueued := by
    apply hline.notMem hcall
    rw [hphase]
    exact fun _ => Phase.noConfusion
  have hoption : (call.checked round world.entity.pendingOption).option =
      call.option := by
    unfold Call.checked
    split <;> rfl
  have hmembers : ∀ other ∈ world.enqueued, other ∈ world.enqueued ∧
      other ≠ cid := by
    intro other hmem
    refine ⟨hmem, ?_⟩
    rintro rfl
    exact hout hmem
  refine hline.move hcall rfl hoption hline.nodup ?_
  exact fun other hmem => .inl (hmembers other hmem)

theorem InLine.after_step (hline : InLine base world) {event : Event}
    (hstep : world.step base event = some after) : InLine base after := by
  cases event with
  | select option time =>
      simp only [World.step] at hstep
      split at hstep
      next hoffered =>
        obtain rfl := Option.some.inj hstep
        exact hline.select hoffered.2 time
      next => cases hstep
  | update device time =>
      simp only [World.step] at hstep
      split at hstep
      · split at hstep
        · obtain rfl := Option.some.inj hstep
          exact hline.same rfl rfl
        · obtain rfl := Option.some.inj hstep
          exact hline.same rfl rfl
      · cases hstep
  | start =>
      simp only [World.step] at hstep
      split at hstep
      next cid queue hrunning hqueue =>
        obtain rfl := Option.some.inj hstep
        refine hline.same ?_ rfl
        simp [World.enqueued, hrunning, hqueue]
      next => cases hstep
  | answer result =>
      simp only [World.step, Option.bind_eq_bind,
        Option.bind_eq_some_iff] at hstep
      obtain ⟨cid, hrunning, call, hcall, setter, -, hstep⟩ := hstep
      split at hstep
      next attempt hphase =>
        obtain rfl := Option.some.inj hstep
        apply hline.finish hrunning hcall
        cases isAck result <;> rfl
      next => cases hstep
  | raised =>
      simp only [World.step, Option.bind_eq_bind,
        Option.bind_eq_some_iff] at hstep
      obtain ⟨cid, hrunning, call, hcall, setter, -, hstep⟩ := hstep
      split at hstep
      next attempt hphase =>
        obtain rfl := Option.some.inj hstep
        refine hline.finish hrunning hcall ?_ setter false
        rfl
      next => cases hstep
  | wake cid =>
      simp only [World.step, Option.bind_eq_bind,
        Option.bind_eq_some_iff] at hstep
      obtain ⟨call, hcall, hstep⟩ := hstep
      split at hstep
      next attempt hphase =>
        obtain rfl := Option.some.inj hstep
        exact hline.wake hcall hphase
      next => cases hstep
  | check cid =>
      simp only [World.step, Option.bind_eq_bind,
        Option.bind_eq_some_iff] at hstep
      obtain ⟨call, hcall, hstep⟩ := hstep
      split at hstep
      next round hphase =>
        obtain rfl := Option.some.inj hstep
        exact hline.check hcall hphase
      next => cases hstep

/-- The running write has a command, so every answer takes its call on. -/
theorem InLine.answerable (hline : InLine base world) (hbase : base ∈ selects)
    (hrunning : world.running = some cid) (result : Option Section) :
    (world.step base (.answer result)).isSome = true := by
  have hmem : cid ∈ world.enqueued := by
    simp [World.enqueued, hrunning]
  obtain ⟨call, attempt, hcall, hphase⟩ := hline.sending cid hmem
  have hoffered := hline.offered call (List.mem_of_getElem? hcall)
  obtain ⟨setter, hsetter⟩ := Option.isSome_iff_exists.mp
    (request_isSome_of_mem hbase call.option hoffered)
  simp [World.step, hrunning, hcall, hsetter, hphase]

end Line

/-- In every run of one of the entities: a choice is in line once at most and
its command is there, it writes three times at most, and the answers that end
its writes are those that `_is_ack` accepts. -/
theorem writeLoop_spec :
    (∀ base ∈ selects, ∀ (currentOption : PyValue) (events : List Event)
      (final : World),
      Run (graph (World.step base)) (World.initial currentOption) events
        final →
      final.enqueued.Nodup ∧
        (∀ cid, final.running = some cid → ∀ result,
          (final.step base (.answer result)).isSome = true) ∧
        ∀ cid call, final.calls[cid]? = some call →
          final.writesOf cid ≤ setAttempts) ∧
      ∀ result, WrittenOnce result ↔ isAck result = true := by
  constructor
  · intro base hbase currentOption events final hrun
    have hline := hrun.invariant (InLine base)
      (initial_inLine base currentOption)
      fun _ _ _ hbefore hstep => hbefore.after_step hstep
    refine ⟨hline.nodup, ?_, ?_⟩
    · intro cid hrunning result
      exact hline.answerable hbase hrunning result
    · intro cid call hcall
      exact writesOf_le_of_run hrun hcall
  · intro result
    exact ⟨isAck_of_writtenOnce, writtenOnce_of_isAck⟩

end Select
end DessMonitor
