import DessMonitor.Foundation.ListUpdate
import DessMonitor.SelectModel

/-!
# The last choice

The writes of one entity are executed in the order in which they were
enqueued, so the first write of a call never reaches the inverter after a
write of a later call.  A retry does: the write loop of a call goes on when a
later call has made another choice.
-/

namespace DessMonitor
namespace Select

open LabelledRun ListUpdate Smg

/-! ## The property -/

def World.lastAcked? (world : World) : Option Sent :=
  (world.sent.filter Sent.acked).getLast?

/-- The last acknowledged write carries the option of the last call, if that
call was acknowledged and no call is left. -/
def World.LastChoiceWins (base : SelectBase) (world : World) : Prop :=
  ∀ last, world.calls.getLast? = some last →
    (∀ call ∈ world.calls, call.phase = .returned) → last.acked = true →
      ∃ sent, world.lastAcked? = some sent ∧
        base.request last.option = some sent.setter

/-- The last call was not yet acknowledged, or chose this option as well. -/
def World.agrees (world : World) (option : String) : Bool :=
  match world.calls.getLast? with
  | some last => !last.acked || decide (option = last.option)
  | none => true

/-- A retry is not executed for another option once the last call was
acknowledged. -/
def World.retriesAgree (world : World) : Event → Bool
  | .start =>
      match world.queue.head?.bind fun cid => world.calls[cid]? with
      | some call =>
          decide (call.phase = .sending 0) || world.agrees call.option
      | none => true
  | _ => true

/-! ## The order of the writes -/

/-- The first write of the call is not over. -/
def World.OnFirst (world : World) (cid : ℕ) : Prop :=
  ∃ call, world.calls[cid]? = some call ∧ call.phase = .sending 0

structure Ordered (world : World) : Prop where
  known : ∀ cid ∈ world.enqueued, cid < world.calls.length
  sending : ∀ cid call attempt, world.calls[cid]? = some call →
    call.phase = .sending attempt → cid ∈ world.enqueued
  order : world.enqueued.Pairwise fun earlier later =>
    world.OnFirst later → earlier < later
  later : ∀ earlier later, earlier < later → later < world.calls.length →
    world.OnFirst earlier → world.OnFirst later
  acked : ∀ call ∈ world.calls, call.acked = true →
    ∀ attempt, call.phase ≠ .sending attempt ∧ call.phase ≠ .pausing attempt

theorem initial_ordered (currentOption : PyValue) :
    Ordered (World.initial currentOption) := by
  constructor
  · intro cid hmem
    cases hmem
  · intro cid call attempt hcall
    cases hcall
  · exact .nil
  · intro earlier later _ hlater
    cases hlater
  · intro call hmem
    cases hmem

section Steps

variable {world after : World} {cid : ℕ} {call replacement : Call}

theorem World.onFirst_of_set
    (hphase : replacement.phase ≠ .sending 0) {other : ℕ}
    (hafter : ∃ found, (world.calls.set cid replacement)[other]? = some found ∧
      found.phase = .sending 0) :
    other ≠ cid ∧ world.OnFirst other := by
  obtain ⟨found, hfound, hsending⟩ := hafter
  rcases getElem?_set_cases hfound with ⟨-, rfl⟩ | ⟨hne, hold⟩
  · exact absurd hsending hphase
  · exact ⟨hne, found, hold, hsending⟩

/-- A call leaves its first write only when that write is the next one to be
over, so every earlier call is past its own. -/
theorem Ordered.not_onFirst_of_head (hordered : Ordered world)
    {rest : List ℕ} (henqueued : world.enqueued = cid :: rest) {other : ℕ}
    (hlt : other < cid) : ¬ world.OnFirst other := by
  intro hfirst
  obtain ⟨call, hcall, hphase⟩ := hfirst
  have hmem := hordered.sending other call 0 hcall hphase
  have horder := hordered.order
  rw [henqueued] at hmem horder
  rcases List.mem_cons.mp hmem with rfl | hrest
  · omega
  · have hbefore := (List.pairwise_cons.mp horder).1 other hrest
      ⟨call, hcall, hphase⟩
    omega

/-- One call moves on, to a phase other than its first write. -/
theorem Ordered.move (hordered : Ordered world)
    (hcall : world.calls[cid]? = some call)
    (hcalls : after.calls = world.calls.set cid replacement)
    (hphase : replacement.phase ≠ .sending 0)
    (hearlier : ∀ earlier, earlier < cid → ¬ world.OnFirst earlier)
    (hacked : replacement.acked = true → ∀ attempt,
      replacement.phase ≠ .sending attempt ∧
        replacement.phase ≠ .pausing attempt)
    (hknown : ∀ other ∈ after.enqueued, other < world.calls.length)
    (hsending : ∀ attempt, replacement.phase = .sending attempt →
      cid ∈ after.enqueued)
    (hothers : ∀ other ∈ world.enqueued, other ≠ cid →
      other ∈ after.enqueued)
    (horder : after.enqueued.Pairwise fun earlier later =>
      later ≠ cid → world.OnFirst later → earlier < later) :
    Ordered after := by
  have honFirst : ∀ other, after.OnFirst other →
      other ≠ cid ∧ world.OnFirst other := by
    intro other hafter
    unfold World.OnFirst at hafter
    rw [hcalls] at hafter
    exact World.onFirst_of_set hphase hafter
  constructor
  · intro other hmem
    rw [hcalls, List.length_set]
    exact hknown other hmem
  · intro other found attempt hfound hfoundPhase
    rw [hcalls] at hfound
    rcases getElem?_set_cases hfound with ⟨rfl, rfl⟩ | ⟨hne, hold⟩
    · exact hsending attempt hfoundPhase
    · exact hothers other (hordered.sending other found attempt hold
        hfoundPhase) hne
  · apply horder.imp
    intro earlier later hlt hafter
    obtain ⟨hne, hfirst⟩ := honFirst later hafter
    exact hlt hne hfirst
  · intro earlier later hlt hlater hafter
    obtain ⟨hne, hfirst⟩ := honFirst earlier hafter
    rw [hcalls, List.length_set] at hlater
    have hlaterFirst := hordered.later earlier later hlt hlater hfirst
    have hnotCid : later ≠ cid := by
      rintro rfl
      exact hearlier earlier hlt hfirst
    obtain ⟨found, hfound, hfoundPhase⟩ := hlaterFirst
    refine ⟨found, ?_, hfoundPhase⟩
    rw [hcalls, List.getElem?_set_ne hnotCid.symm]
    exact hfound
  · intro found hmem hfoundAcked attempt
    rw [hcalls] at hmem
    rcases List.mem_or_eq_of_mem_set hmem with hold | rfl
    · exact hordered.acked found hold hfoundAcked attempt
    · exact hacked hfoundAcked attempt

/-- A call that was not on its first write moves on. -/
theorem Ordered.earlier_not_onFirst (hordered : Ordered world)
    (hcall : world.calls[cid]? = some call)
    (hphase : call.phase ≠ .sending 0) {other : ℕ} (hlt : other < cid) :
    ¬ world.OnFirst other := by
  intro hfirst
  have hbound := (List.getElem?_eq_some_iff.mp hcall).1
  obtain ⟨found, hfound, hfoundPhase⟩ :=
    hordered.later other cid hlt hbound hfirst
  rw [hcall] at hfound
  obtain rfl := Option.some.inj hfound
  exact hphase hfoundPhase

theorem Ordered.select (hordered : Ordered world) (option : String)
    (time : ℚ) : Ordered (world.select option time) := by
  have henqueued : (world.select option time).enqueued =
      world.enqueued ++ [world.calls.length] :=
    (List.append_assoc _ _ _).symm
  have hlength : (world.select option time).calls.length =
      world.calls.length + 1 := by
    simp [World.select]
  have hnew : (world.select option time).calls[world.calls.length]? =
      some ⟨option, .sending 0, false⟩ := by
    simp [World.select]
  have hold : ∀ other, other < world.calls.length →
      ((world.select option time).OnFirst other ↔ world.OnFirst other) := by
    intro other hlt
    unfold World.OnFirst World.select
    rw [List.getElem?_append_left hlt]
  constructor
  · intro other hmem
    rw [henqueued] at hmem
    rw [hlength]
    rcases List.mem_append.mp hmem with hmem | hmem
    · exact Nat.lt_succ_of_lt (hordered.known other hmem)
    · rw [List.mem_singleton.mp hmem]
      exact Nat.lt_succ_self _
  · intro other found attempt hfound hphase
    rw [henqueued]
    rcases getElem?_append_singleton_cases hfound with hfound | ⟨rfl, -⟩
    · exact List.mem_append_left _
        (hordered.sending other found attempt hfound hphase)
    · exact List.mem_append_right _ (List.mem_singleton_self _)
  · rw [henqueued, List.pairwise_append]
    refine ⟨?_, List.pairwise_singleton _ _, ?_⟩
    · apply hordered.order.imp_of_mem
      intro earlier later _ hlater hlt hfirst
      exact hlt ((hold later (hordered.known later hlater)).mp hfirst)
    · intro earlier hearlier later hlater _
      rw [List.mem_singleton.mp hlater]
      exact hordered.known earlier hearlier
  · intro earlier later hlt hlater hfirst
    rw [hlength] at hlater
    rcases Nat.lt_succ_iff_lt_or_eq.mp hlater with hbefore | rfl
    · rw [hold later hbefore]
      rw [hold earlier (hlt.trans hbefore)] at hfirst
      exact hordered.later earlier later hlt hbefore hfirst
    · exact ⟨_, hnew, rfl⟩
  · intro found hmem hacked attempt
    rcases List.mem_append.mp hmem with hmem | hmem
    · exact hordered.acked found hmem hacked attempt
    · rw [List.mem_singleton.mp hmem] at hacked
      cases hacked

/-- The running write is over. -/
theorem Ordered.finish (hordered : Ordered world)
    (hrunning : world.running = some cid)
    (hcall : world.calls[cid]? = some call)
    (hphase : ∀ attempt, replacement.phase ≠ .sending attempt)
    (hacked : replacement.acked = true → ∀ attempt,
      replacement.phase ≠ .pausing attempt) (setter : Setter)
    (acked : Bool) :
    Ordered (world.finish cid replacement setter acked) := by
  have hbefore : world.enqueued = cid :: world.queue := by
    unfold World.enqueued
    rw [hrunning]
    rfl
  refine hordered.move hcall rfl (hphase 0)
    (fun earlier hlt => hordered.not_onFirst_of_head hbefore hlt)
    (fun h attempt => ⟨hphase attempt, hacked h attempt⟩) ?_ ?_ ?_ ?_
  · intro other hmem
    apply hordered.known
    rw [hbefore]
    exact List.mem_cons_of_mem cid hmem
  · intro attempt hsending
    exact absurd hsending (hphase attempt)
  · intro other hmem hne
    rw [hbefore] at hmem
    exact (List.mem_cons.mp hmem).resolve_left hne
  · have horder := hordered.order
    rw [hbefore] at horder
    apply (List.pairwise_cons.mp horder).2.imp
    intro earlier later hlt _ hfirst
    exact hlt hfirst

/-- A call that is not sending moves on without enqueuing a write. -/
theorem Ordered.setCall (hordered : Ordered world)
    (hcall : world.calls[cid]? = some call)
    (hold : call.phase ≠ .sending 0)
    (hphase : ∀ attempt, replacement.phase ≠ .sending attempt ∧
      replacement.phase ≠ .pausing attempt) :
    Ordered (world.setCall cid replacement) := by
  refine hordered.move hcall rfl
    (hphase 0).1 (fun _ hlt => hordered.earlier_not_onFirst hcall hold hlt)
    (fun _ => hphase) hordered.known ?_ (fun _ hmem _ => hmem) ?_
  · intro attempt hsending
    exact absurd hsending (hphase attempt).1
  · apply hordered.order.imp
    intro earlier later hlt _ hfirst
    exact hlt hfirst

theorem Ordered.wake (hordered : Ordered world)
    (hcall : world.calls[cid]? = some call) {attempt : ℕ}
    (hpausing : call.phase = .pausing attempt) :
    Ordered (world.wake cid call attempt) := by
  have hold : call.phase ≠ .sending 0 := by
    rw [hpausing]
    exact Phase.noConfusion
  unfold World.wake
  split
  · have henqueued : World.enqueued { world.setCall cid
        { call with phase := .sending (attempt + 1) } with
        queue := world.queue ++ [cid] } = world.enqueued ++ [cid] :=
      (List.append_assoc _ _ _).symm
    apply hordered.move hcall rfl
    · intro hfirst
      cases hfirst
    · intro other hlt
      exact hordered.earlier_not_onFirst hcall hold hlt
    · intro hacked
      exact absurd hpausing (hordered.acked call
        (List.mem_of_getElem? hcall) hacked attempt).2
    · intro other hmem
      rw [henqueued] at hmem
      rcases List.mem_append.mp hmem with hmem | hmem
      · exact hordered.known other hmem
      · rw [List.mem_singleton.mp hmem]
        exact (List.getElem?_eq_some_iff.mp hcall).1
    · intro _ _
      rw [henqueued]
      exact List.mem_append_right _ (List.mem_singleton_self cid)
    · intro other hmem _
      rw [henqueued]
      exact List.mem_append_left _ hmem
    · rw [henqueued, List.pairwise_append]
      refine ⟨?_, List.pairwise_singleton _ _, ?_⟩
      · apply hordered.order.imp
        intro earlier later hlt _ hfirst
        exact hlt hfirst
      · intro earlier _ later hlater hne _
        exact absurd (List.mem_singleton.mp hlater) hne
  · apply hordered.setCall hcall hold
    intro other
    exact ⟨Phase.noConfusion, Phase.noConfusion⟩

end Steps

/-! ## The acknowledged writes -/

/-- Once the last call is acknowledged, the last acknowledged write is for its
option, and so is the running one. -/
structure Agreeing (base : SelectBase) (world : World) : Prop where
  ordered : Ordered world
  sent : ∀ last, world.calls.getLast? = some last → last.acked = true →
    ∃ sent, world.lastAcked? = some sent ∧
      base.request last.option = some sent.setter
  running : ∀ last, world.calls.getLast? = some last → last.acked = true →
    ∀ cid call, world.running = some cid → world.calls[cid]? = some call →
      call.option = last.option

theorem initial_agreeing (base : SelectBase) (currentOption : PyValue) :
    Agreeing base (World.initial currentOption) := by
  constructor
  · exact initial_ordered currentOption
  · intro last hlast
    cases hlast
  · intro last hlast
    cases hlast

theorem getLast?_set_cases {calls : List Call} {cid : ℕ}
    {call replacement last : Call} (hcall : calls[cid]? = some call)
    (hlast : (calls.set cid replacement).getLast? = some last) :
    (last = replacement ∧ calls.getLast? = some call) ∨
      calls.getLast? = some last := by
  rw [List.getLast?_eq_getElem?, List.length_set] at hlast
  rcases getElem?_set_cases hlast with ⟨hindex, rfl⟩ | ⟨-, hold⟩
  · left
    rw [List.getLast?_eq_getElem?, hindex]
    exact ⟨rfl, hcall⟩
  · right
    rw [List.getLast?_eq_getElem?]
    exact hold

section Steps

variable {base : SelectBase} {world : World} {cid : ℕ} {call : Call}

theorem Agreeing.select (hagreeing : Agreeing base world) (option : String)
    (time : ℚ) : Agreeing base (world.select option time) := by
  have hlast : (world.select option time).calls.getLast? =
      some ⟨option, .sending 0, false⟩ := by
    simp [World.select]
  constructor
  · exact hagreeing.ordered.select option time
  · intro last hsome hacked
    rw [hlast] at hsome
    obtain rfl := Option.some.inj hsome
    cases hacked
  · intro last hsome hacked
    rw [hlast] at hsome
    obtain rfl := Option.some.inj hsome
    cases hacked

/-- An acknowledged last call is past its first write, and so is every call
before it. -/
theorem Ordered.past_first_of_acked (hordered : Ordered world) {last : Call}
    (hlast : world.calls.getLast? = some last) (hacked : last.acked = true)
    (hcall : world.calls[cid]? = some call) : call.phase ≠ .sending 0 := by
  intro hfirst
  rw [List.getLast?_eq_getElem?] at hlast
  have hbound := (List.getElem?_eq_some_iff.mp hcall).1
  have hpast := hordered.acked last (List.mem_of_getElem? hlast) hacked 0
  by_cases hindex : cid = world.calls.length - 1
  · rw [hindex, hlast] at hcall
    obtain rfl := Option.some.inj hcall
    exact hpast.1 hfirst
  · obtain ⟨found, hfound, hphase⟩ := hordered.later cid
      (world.calls.length - 1) (by omega) (by omega) ⟨call, hcall, hfirst⟩
    rw [hlast] at hfound
    obtain rfl := Option.some.inj hfound
    exact hpast.1 hphase

theorem Agreeing.start (hagreeing : Agreeing base world) {queue : List ℕ}
    (hrunning : world.running = none) (hqueue : world.queue = cid :: queue)
    (hretries : world.retriesAgree .start = true) :
    Agreeing base { world with running := some cid, queue := queue } := by
  have henqueued : World.enqueued { world with
      running := some cid
      queue := queue } = world.enqueued := by
    unfold World.enqueued
    rw [hrunning, hqueue]
    rfl
  have hordered := hagreeing.ordered
  constructor
  · constructor
    · rw [henqueued]
      exact hordered.known
    · rw [henqueued]
      exact hordered.sending
    · rw [henqueued]
      exact hordered.order
    · exact hordered.later
    · exact hordered.acked
  · exact hagreeing.sent
  · intro last hlast hacked started found hstarted hfound
    obtain rfl := Option.some.inj hstarted
    unfold World.retriesAgree World.agrees at hretries
    dsimp only at hlast hfound
    rw [hqueue, List.head?_cons, Option.bind_some, hfound, hlast] at hretries
    have hpast := hordered.past_first_of_acked hlast hacked hfound
    simpa [hacked, hpast] using hretries

theorem Agreeing.finish (hagreeing : Agreeing base world)
    (hrunning : world.running = some cid)
    (hcall : world.calls[cid]? = some call) {attempt : ℕ}
    (hphase : call.phase = .sending attempt) {setter : Setter}
    (hsetter : base.request call.option = some setter)
    {replacement : Call} {acked : Bool}
    (hacked : replacement.acked = (acked || call.acked))
    (hoption : replacement.option = call.option)
    (hordered : Ordered (world.finish cid replacement setter acked)) :
    Agreeing base (world.finish cid replacement setter acked) := by
  have hunacked : call.acked = false := by
    by_contra hcalled
    exact (hagreeing.ordered.acked call (List.mem_of_getElem? hcall)
      (by simpa using hcalled) attempt).1 hphase
  have hsent : (world.finish cid replacement setter acked).lastAcked? =
      if acked = true then some ⟨cid, setter, acked⟩ else world.lastAcked? := by
    unfold World.lastAcked? World.finish
    cases acked <;> simp
  refine ⟨hordered, ?_, fun _ _ _ _ _ hnone => nomatch hnone⟩
  intro last hlast hlastAcked
  rw [hsent]
  cases acked with
  | true =>
      rw [if_pos rfl]
      refine ⟨_, rfl, ?_⟩
      rcases getLast?_set_cases hcall hlast with ⟨rfl, -⟩ | hold
      · rw [hoption]
        exact hsetter
      · rw [← hagreeing.running last hold hlastAcked cid call hrunning hcall]
        exact hsetter
  | false =>
      rw [if_neg Bool.false_ne_true]
      rcases getLast?_set_cases hcall hlast with ⟨rfl, -⟩ | hold
      · rw [hacked, hunacked] at hlastAcked
        cases hlastAcked
      · exact hagreeing.sent last hold hlastAcked

/-- A call moves on without being answered. -/
theorem Agreeing.move (hagreeing : Agreeing base world) {after : World}
    {replacement : Call} (hcall : world.calls[cid]? = some call)
    (hcalls : after.calls = world.calls.set cid replacement)
    (hsent : after.sent = world.sent) (hrunning : after.running = world.running)
    (hacked : replacement.acked = call.acked)
    (hoption : replacement.option = call.option)
    (hordered : Ordered after) : Agreeing base after := by
  have hlast : ∀ last, after.calls.getLast? = some last →
      last.acked = true → ∃ old, world.calls.getLast? = some old ∧
        old.acked = true ∧ last.option = old.option := by
    intro last hsome hlastAcked
    rw [hcalls] at hsome
    rcases getLast?_set_cases hcall hsome with ⟨rfl, hold⟩ | hold
    · rw [hacked] at hlastAcked
      exact ⟨call, hold, hlastAcked, hoption⟩
    · exact ⟨last, hold, hlastAcked, rfl⟩
  refine ⟨hordered, ?_, ?_⟩
  · intro last hsome hlastAcked
    obtain ⟨old, hold, holdAcked, hsame⟩ := hlast last hsome hlastAcked
    rw [hsame]
    unfold World.lastAcked?
    rw [hsent]
    exact hagreeing.sent old hold holdAcked
  · intro last hsome hlastAcked other found hother hfound
    obtain ⟨old, hold, holdAcked, hsame⟩ := hlast last hsome hlastAcked
    rw [hrunning] at hother
    rw [hcalls] at hfound
    rw [hsame]
    rcases getElem?_set_cases hfound with ⟨rfl, rfl⟩ | ⟨-, hfound⟩
    · rw [hoption]
      exact hagreeing.running old hold holdAcked other call hother hcall
    · exact hagreeing.running old hold holdAcked other found hother hfound

/-- The running call is answered, and returns or waits for the next round. -/
theorem Agreeing.answer (hagreeing : Agreeing base world)
    (hrunning : world.running = some cid)
    (hcall : world.calls[cid]? = some call) {attempt : ℕ}
    (hphase : call.phase = .sending attempt) {setter : Setter}
    (hsetter : base.request call.option = some setter) (acked : Bool) :
    Agreeing base
      (world.finish cid (call.answered attempt acked) setter acked) := by
  have hordered := hagreeing.ordered
  apply hagreeing.finish hrunning hcall hphase hsetter
  · unfold Call.answered
    cases acked <;> rfl
  · unfold Call.answered
    cases acked <;> rfl
  · apply hordered.finish hrunning hcall
    · intro other
      unfold Call.answered
      cases acked <;> exact Phase.noConfusion
    · intro hcalled other
      unfold Call.answered at hcalled ⊢
      cases acked with
      | true => exact Phase.noConfusion
      | false =>
          exact absurd hphase (hordered.acked call
            (List.mem_of_getElem? hcall) hcalled attempt).1

/-- A check neither sends nor pauses, and keeps what the call is for. -/
theorem Call.checked_spec (call : Call) (round : ℕ)
    (pending : Option String) :
    (call.checked round pending).acked = call.acked ∧
      (call.checked round pending).option = call.option ∧
      ∀ attempt, (call.checked round pending).phase ≠ .sending attempt ∧
        (call.checked round pending).phase ≠ .pausing attempt := by
  unfold Call.checked
  split
  · exact ⟨rfl, rfl, fun _ => ⟨Phase.noConfusion, Phase.noConfusion⟩⟩
  · exact ⟨rfl, rfl, fun _ => ⟨Phase.noConfusion, Phase.noConfusion⟩⟩

theorem Agreeing.after_step (hagreeing : Agreeing base world) {after : World}
    {event : Event} (hstep : world.step base event = some after)
    (hretries : world.retriesAgree event = true) : Agreeing base after := by
  have hordered := hagreeing.ordered
  cases event with
  | select option time =>
      simp only [World.step] at hstep
      split at hstep
      · obtain rfl := Option.some.inj hstep
        exact hagreeing.select option time
      · cases hstep
  | update device time =>
      have hentity : ∀ entity, Agreeing base
          { world with entity := entity, clock := time } := by
        intro entity
        exact ⟨⟨hordered.known, hordered.sending, hordered.order,
          hordered.later, hordered.acked⟩, hagreeing.sent, hagreeing.running⟩
      simp only [World.step] at hstep
      split at hstep
      · split at hstep
        · obtain rfl := Option.some.inj hstep
          exact hentity _
        · obtain rfl := Option.some.inj hstep
          exact hentity world.entity
      · cases hstep
  | start =>
      simp only [World.step] at hstep
      split at hstep
      next cid queue hrunning hqueue =>
        obtain rfl := Option.some.inj hstep
        exact hagreeing.start hrunning hqueue hretries
      next => cases hstep
  | answer result =>
      simp only [World.step, Option.bind_eq_bind,
        Option.bind_eq_some_iff] at hstep
      obtain ⟨cid, hrunning, call, hcall, setter, hsetter, hstep⟩ := hstep
      split at hstep
      next attempt hphase =>
        obtain rfl := Option.some.inj hstep
        exact hagreeing.answer hrunning hcall hphase hsetter _
      next => cases hstep
  | raised =>
      simp only [World.step, Option.bind_eq_bind,
        Option.bind_eq_some_iff] at hstep
      obtain ⟨cid, hrunning, call, hcall, setter, hsetter, hstep⟩ := hstep
      split at hstep
      next attempt hphase =>
        obtain rfl := Option.some.inj hstep
        have hafter : Ordered (world.finish cid
            { call with phase := .returned } setter false) := by
          apply hordered.finish hrunning hcall
          · intro other
            exact Phase.noConfusion
          · intro _ other
            exact Phase.noConfusion
        exact hagreeing.finish hrunning hcall hphase hsetter rfl rfl hafter
      next => cases hstep
  | wake cid =>
      simp only [World.step, Option.bind_eq_bind,
        Option.bind_eq_some_iff] at hstep
      obtain ⟨call, hcall, hstep⟩ := hstep
      split at hstep
      next attempt hpausing =>
        obtain rfl := Option.some.inj hstep
        have hafter := hordered.wake hcall hpausing
        unfold World.wake at hafter ⊢
        split at hafter
        · rw [if_pos ‹_›]
          exact hagreeing.move hcall rfl rfl rfl rfl rfl hafter
        · rw [if_neg ‹_›]
          exact hagreeing.move hcall rfl rfl rfl rfl rfl hafter
      next => cases hstep
  | check cid =>
      simp only [World.step, Option.bind_eq_bind,
        Option.bind_eq_some_iff] at hstep
      obtain ⟨call, hcall, hstep⟩ := hstep
      split at hstep
      next round hconfirming =>
        obtain rfl := Option.some.inj hstep
        have hchecked := call.checked_spec round world.entity.pendingOption
        have hold : call.phase ≠ .sending 0 := by
          rw [hconfirming]
          exact Phase.noConfusion
        exact hagreeing.move hcall rfl rfl rfl hchecked.1 hchecked.2.1
          (hordered.setCall hcall hold hchecked.2.2)
      next => cases hstep

end Steps

/-! ## Runs -/

/-- As long as no retry is executed for another option once the last call was
acknowledged, the last choice wins. -/
theorem lastChoiceWins_of_run {base : SelectBase} {currentOption : PyValue}
    {events : List Event} {final : World}
    (hrun : Run (guarded (graph (World.step base))
      fun world event => world.retriesAgree event = true)
      (World.initial currentOption) events final) :
    final.LastChoiceWins base := by
  have hagreeing := hrun.invariant (Agreeing base)
    (initial_agreeing base currentOption)
    fun _ _ _ hbefore hstep => hbefore.after_step hstep.1 hstep.2
  intro last hlast _ hacked
  exact hagreeing.sent last hlast hacked

def statusResult (status : String) : Option Direct.Section :=
  some (.ofPairs [("status", .str status)])

def ack : Option Direct.Section := statusResult "ACK"
def nak : Option Direct.Section := statusResult "NAK"

/-- All rounds of confirmation, with no reading that shows the option. -/
def unconfirmed (cid : ℕ) : List Event :=
  List.replicate confirmAttempts (.check cid)

/-- The first write is refused, and its retry comes before the next choice. -/
def retryThenChoice : List Event :=
  [.select "UtilityFirst" 0, .start, .answer nak, .wake 0, .start,
    .answer ack, .select "Solar" 2, .start, .answer ack] ++
    unconfirmed 0 ++ unconfirmed 1

def afterRetryThenChoice : World :=
  (execute (guardedNext (World.step inverterOutputPrioritySelect)
    World.retriesAgree) (World.initial (.str "SBU")) retryThenChoice).get
    (by decide +kernel)

theorem lastChoiceWins_retryThenChoice :
    afterRetryThenChoice.LastChoiceWins inverterOutputPrioritySelect := by
  have hrun : Run (guarded (graph (World.step inverterOutputPrioritySelect))
      fun world event => world.retriesAgree event = true)
      (World.initial (.str "SBU")) retryThenChoice afterRetryThenChoice :=
    run_of_guarded_execute (Option.some_get _).symm
  exact lastChoiceWins_of_run hrun

/-- The retry comes after the next choice was acknowledged. -/
def choiceThenRetry : List Event :=
  [.select "UtilityFirst" 0, .start, .answer nak, .select "Solar" 0, .start,
    .answer ack, .wake 0, .start, .answer ack] ++
    unconfirmed 0 ++ unconfirmed 1

def afterChoiceThenRetry : World :=
  (execute (World.step inverterOutputPrioritySelect)
    (World.initial (.str "SBU")) choiceThenRetry).get (by decide +kernel)

theorem choiceThenRetry_loses :
    ¬ ∀ (base : SelectBase) (currentOption : PyValue) (events : List Event)
      (final : World),
      Run (graph (World.step base)) (World.initial currentOption) events
        final → final.LastChoiceWins base := by
  intro hall
  have hrun : Run (graph (World.step inverterOutputPrioritySelect))
      (World.initial (.str "SBU")) choiceThenRetry afterChoiceThenRetry :=
    run_of_execute (Option.some_get _).symm
  have hcalls : afterChoiceThenRetry.calls =
      [⟨"UtilityFirst", .returned, true⟩, ⟨"Solar", .returned, true⟩] := by
    decide +kernel
  have hsent : afterChoiceThenRetry.lastAcked? =
      some ⟨0, .outputSourcePriority .utilityFirst, true⟩ := by
    decide +kernel
  obtain ⟨sent, hlastAcked, hrequest⟩ := hall _ _ choiceThenRetry
    afterChoiceThenRetry hrun ⟨"Solar", .returned, true⟩
    (by rw [hcalls]; rfl) (by rw [hcalls]; decide) rfl
  rw [hsent] at hlastAcked
  obtain rfl := Option.some.inj hlastAcked
  exact absurd hrequest (by decide +kernel)

end Select
end DessMonitor
