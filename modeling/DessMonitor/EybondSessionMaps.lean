import DessMonitor.EybondManagerSteps
import DessMonitor.Foundation.ListUpdate

/-!
# The session maps stay consistent

The four session structures see only three things of a session: that it
joined, the product number it claims, and that its handler ended.  A small
transition system over the maps and this outline carries the invariant, and
every event of the manager is one of its steps or leaves both alone.
-/

namespace DessMonitor
namespace Eybond

open LabelledRun ListUpdate

/-! ## The outline of the sessions -/

/-- The product number and the handler phase of every session. -/
abbrev Outline := List (String × HandlerPhase)

def Outline.pnOf (outline : Outline) (sid : ℕ) : String :=
  (outline[sid]?.map Prod.fst).getD ""

theorem Outline.pnOf_of_getElem? {outline : Outline} {sid : ℕ} {pn : String}
    {phase : HandlerPhase} (hsession : outline[sid]? = some (pn, phase)) :
    outline.pnOf sid = pn := by
  simp [Outline.pnOf, hsession]

theorem Outline.pnOf_set_self {outline : Outline} {sid : ℕ}
    (hlength : sid < outline.length) (pn : String) (phase : HandlerPhase) :
    Outline.pnOf (outline.set sid (pn, phase)) sid = pn := by
  apply Outline.pnOf_of_getElem?
  rw [List.getElem?_set_self hlength]

theorem Outline.pnOf_set_of_ne (outline : Outline) {sid other : ℕ}
    (hne : sid ≠ other) (pn : String) (phase : HandlerPhase) :
    Outline.pnOf (outline.set sid (pn, phase)) other = outline.pnOf other := by
  simp [Outline.pnOf, List.getElem?_set_ne hne]

theorem Outline.pnOf_set_same {outline : Outline} {sid : ℕ} {pn : String}
    {phase : HandlerPhase} (hsession : outline[sid]? = some (pn, phase))
    (phase' : HandlerPhase) (other : ℕ) :
    Outline.pnOf (outline.set sid (pn, phase')) other =
      outline.pnOf other := by
  by_cases heq : sid = other
  · subst heq
    have hlength : sid < outline.length :=
      (List.getElem?_eq_some_iff.mp hsession).1
    rw [Outline.pnOf_set_self hlength, Outline.pnOf_of_getElem? hsession]
  · exact outline.pnOf_set_of_ne heq pn phase'

theorem Outline.pnOf_append (outline : Outline) (phase : HandlerPhase)
    (sid : ℕ) :
    Outline.pnOf (outline ++ [("", phase)]) sid = outline.pnOf sid := by
  unfold Outline.pnOf
  by_cases hlt : sid < outline.length
  · rw [List.getElem?_append_left hlt]
  · rw [List.getElem?_append_right (by omega),
      List.getElem?_eq_none (l := outline) (by omega)]
    cases sid - outline.length <;> simp

/-! ## Consistent maps -/

structure SessionMaps.Consistent (maps : SessionMaps) (pnOf : ℕ → String) :
    Prop where
  mapped : ∀ pn sid, maps.byPn.get? pn = some sid →
    pn ≠ "" ∧ sid ∈ maps.live ∧ pnOf sid = pn
  identified : ∀ sid ∈ maps.live, pnOf sid ≠ "" →
    maps.byPn.get? (pnOf sid) = some sid
  ready : ∀ pn ready, maps.readyByPn.get? pn = some ready →
    (ready = true ↔ (maps.byPn.get? pn).isSome = true)
  anyReady : maps.anyReady = true ↔ maps.live.Nonempty

theorem SessionMaps.initial_consistent (pnOf : ℕ → String) :
    SessionMaps.initial.Consistent pnOf := by
  constructor
  · intro pn sid hmapped
    cases hmapped
  · intro sid hmem
    cases hmem
  · intro pn ready hready
    cases hready
  · simp [SessionMaps.initial]

theorem SessionMaps.Consistent.congr {maps : SessionMaps}
    {before after : ℕ → String} (hmaps : maps.Consistent before)
    (hsame : ∀ sid, after sid = before sid) : maps.Consistent after := by
  have heq : after = before := funext hsame
  rw [heq]
  exact hmaps

theorem SessionMaps.Consistent.join {maps : SessionMaps}
    {pnOf : ℕ → String} (hmaps : maps.Consistent pnOf) {sid : ℕ}
    (hunnamed : pnOf sid = "") : (maps.join sid).Consistent pnOf := by
  constructor
  · intro pn other hmapped
    have hold := hmaps.mapped pn other hmapped
    exact ⟨hold.1, Finset.mem_insert_of_mem hold.2.1, hold.2.2⟩
  · intro other hmem hnamed
    rcases Finset.mem_insert.mp hmem with heq | hold
    · rw [heq] at hnamed
      exact absurd hunnamed hnamed
    · exact hmaps.identified other hold hnamed
  · exact hmaps.ready
  · simp [SessionMaps.join]

theorem SessionMaps.Consistent.readyEventFor {maps : SessionMaps}
    {pnOf : ℕ → String} (hmaps : maps.Consistent pnOf) {pn : String}
    (hunmapped : maps.byPn.get? pn = none) :
    (maps.readyEventFor pn).1.Consistent pnOf := by
  unfold SessionMaps.readyEventFor
  cases hready : maps.readyByPn.get? pn with
  | some ready => exact hmaps
  | none =>
      refine ⟨hmaps.mapped, hmaps.identified, ?_, hmaps.anyReady⟩
      intro other ready hother
      rw [Dict.get?_set] at hother
      by_cases heq : other = pn
      · rw [if_pos heq] at hother
        obtain rfl := Option.some.inj hother
        simp [heq, hunmapped]
      · rw [if_neg heq] at hother
        exact hmaps.ready other ready hother

/-! ## Dropping a session -/

theorem SessionMaps.unmap_ready (maps : SessionMaps) (pn other : String) :
    (maps.unmap pn).readyByPn.get? other =
      if other = pn then (maps.readyByPn.get? pn).map fun _ => false
      else maps.readyByPn.get? other := by
  unfold SessionMaps.unmap
  dsimp only
  by_cases hcontains : maps.readyByPn.contains pn = true
  · rw [if_pos hcontains, Dict.get?_set]
    obtain ⟨ready, hready⟩ := Option.isSome_iff_exists.mp hcontains
    rw [hready]
    rfl
  · rw [if_neg hcontains]
    have habsent : maps.readyByPn.get? pn = none := by
      simpa [Dict.contains] using hcontains
    by_cases heq : other = pn
    · rw [if_pos heq, heq, habsent]
      rfl
    · rw [if_neg heq]

/-- Everything but the liveness of the session, which `drop` ends. -/
structure SessionMaps.Unlinked (maps : SessionMaps) (sid : ℕ)
    (pnOf : ℕ → String) : Prop where
  mapped : ∀ pn other, maps.byPn.get? pn = some other →
    other ≠ sid ∧ pn ≠ "" ∧ other ∈ maps.live ∧ pnOf other = pn
  identified : ∀ other ∈ maps.live, other ≠ sid → pnOf other ≠ "" →
    maps.byPn.get? (pnOf other) = some other
  ready : ∀ pn ready, maps.readyByPn.get? pn = some ready →
    (ready = true ↔ (maps.byPn.get? pn).isSome = true)
  anyReady : maps.anyReady = true ↔ maps.live.Nonempty

theorem SessionMaps.Consistent.unmap {maps : SessionMaps}
    {pnOf : ℕ → String} (hmaps : maps.Consistent pnOf) {sid : ℕ}
    {pn : String} (hmapped : maps.byPn.get? pn = some sid) :
    (maps.unmap pn).Unlinked sid pnOf := by
  have hpn := hmaps.mapped pn sid hmapped
  constructor
  · intro other owner hother
    have herase : (maps.byPn.erase pn).get? other = some owner := hother
    rw [Dict.get?_erase] at herase
    by_cases heq : other = pn
    · rw [if_pos heq] at herase
      cases herase
    · rw [if_neg heq] at herase
      have hold := hmaps.mapped other owner herase
      refine ⟨?_, hold⟩
      intro hsame
      apply heq
      rw [← hold.2.2, hsame, hpn.2.2]
  · intro other hlive hne hnamed
    have hold := hmaps.identified other hlive hnamed
    have herase : (maps.byPn.erase pn).get? (pnOf other) = some other := by
      rw [Dict.get?_erase]
      by_cases heq : pnOf other = pn
      · rw [heq, hmapped] at hold
        exact absurd (Option.some.inj hold).symm hne
      · rw [if_neg heq]
        exact hold
    exact herase
  · intro other ready hready
    rw [SessionMaps.unmap_ready] at hready
    have hby : (maps.unmap pn).byPn.get? other =
        if other = pn then none else maps.byPn.get? other :=
      Dict.get?_erase maps.byPn pn other
    rw [hby]
    by_cases heq : other = pn
    · rw [if_pos heq] at hready
      obtain ⟨_, _, rfl⟩ := Option.map_eq_some_iff.mp hready
      rw [if_pos heq]
      simp
    · rw [if_neg heq] at hready
      rw [if_neg heq]
      exact hmaps.ready other ready hready
  · exact hmaps.anyReady

theorem SessionMaps.Consistent.unlinked {maps : SessionMaps}
    {pnOf : ℕ → String} (hmaps : maps.Consistent pnOf) {sid : ℕ}
    (hunmapped : ¬(pnOf sid ≠ "" ∧
      maps.byPn.get? (pnOf sid) = some sid)) :
    maps.Unlinked sid pnOf := by
  refine ⟨?_, fun other hlive _ => hmaps.identified other hlive, hmaps.ready,
    hmaps.anyReady⟩
  intro pn other hmapped
  have hold := hmaps.mapped pn other hmapped
  refine ⟨?_, hold⟩
  intro heq
  subst heq
  apply hunmapped
  rw [hold.2.2]
  exact ⟨hold.1, hmapped⟩

/-- Dropping a session under its own number keeps the maps consistent. -/
theorem SessionMaps.Consistent.drop {maps : SessionMaps}
    {pnOf : ℕ → String} (hmaps : maps.Consistent pnOf) (sid : ℕ) :
    (maps.drop sid (pnOf sid)).Consistent pnOf := by
  have hkept : (if pnOf sid ≠ "" ∧ maps.byPn.get? (pnOf sid) = some sid then
      maps.unmap (pnOf sid) else maps).Unlinked sid pnOf := by
    by_cases hmapped : pnOf sid ≠ "" ∧ maps.byPn.get? (pnOf sid) = some sid
    · rw [if_pos hmapped]
      exact hmaps.unmap hmapped.2
    · rw [if_neg hmapped]
      exact hmaps.unlinked hmapped
  unfold SessionMaps.drop
  generalize (if pnOf sid ≠ "" ∧ maps.byPn.get? (pnOf sid) = some sid then
      maps.unmap (pnOf sid) else maps) = kept at hkept ⊢
  constructor
  · intro pn other hmapped
    have hold := hkept.mapped pn other hmapped
    exact ⟨hold.2.1, Finset.mem_erase.mpr ⟨hold.1, hold.2.2.1⟩, hold.2.2.2⟩
  · intro other hmem hnamed
    obtain ⟨hne, hlive⟩ := Finset.mem_erase.mp hmem
    exact hkept.identified other hlive hne hnamed
  · exact hkept.ready
  · dsimp only
    by_cases hempty : kept.live.erase sid = ∅
    · simp [hempty]
    · have hnonempty := Finset.nonempty_iff_ne_empty.mpr hempty
      have hlive := hnonempty.mono (Finset.erase_subset sid kept.live)
      rw [if_neg hempty]
      exact iff_of_true (hkept.anyReady.mpr hlive) hnonempty

/-! ## Claiming a product number -/

theorem SessionMaps.Consistent.claim {maps : SessionMaps}
    {before after : ℕ → String} {sid : ℕ} {pn : String}
    (hmaps : maps.Consistent before) (hpn : pn ≠ "")
    (hlive : sid ∈ maps.live) (hunnamed : before sid = "")
    (hunmapped : maps.byPn.get? pn = none)
    (hself : after sid = pn) (hothers : ∀ other, other ≠ sid →
      after other = before other) :
    (maps.claim pn sid).Consistent after := by
  have hnotOwner : ∀ other owner, maps.byPn.get? other = some owner →
      owner ≠ sid := by
    intro other owner hmapped heq
    have hold := hmaps.mapped other owner hmapped
    rw [heq, hunnamed] at hold
    exact hold.1 hold.2.2.symm
  have hby : ∀ other, (maps.claim pn sid).byPn.get? other =
      if other = pn then some sid else maps.byPn.get? other := by
    intro other
    exact Dict.get?_set maps.byPn pn other sid
  constructor
  · intro other owner hmapped
    rw [hby] at hmapped
    by_cases heq : other = pn
    · rw [if_pos heq] at hmapped
      obtain rfl := Option.some.inj hmapped
      rw [heq]
      exact ⟨hpn, hlive, hself⟩
    · rw [if_neg heq] at hmapped
      rw [hothers owner (hnotOwner other owner hmapped)]
      exact hmaps.mapped other owner hmapped
  · intro other hmem hnamed
    rw [hby]
    by_cases heq : other = sid
    · rw [heq, hself, if_pos rfl]
    · rw [hothers other heq] at hnamed ⊢
      have hold := hmaps.identified other hmem hnamed
      by_cases hsame : before other = pn
      · rw [hsame, hunmapped] at hold
        cases hold
      · rw [if_neg hsame]
        exact hold
  · intro other ready hready
    have hset : (maps.readyByPn.set pn true).get? other = some ready := hready
    rw [Dict.get?_set] at hset
    rw [hby]
    by_cases heq : other = pn
    · rw [if_pos heq] at hset
      obtain rfl := Option.some.inj hset
      simp [heq]
    · rw [if_neg heq] at hset
      rw [if_neg heq]
      exact hmaps.ready other ready hset
  · exact hmaps.anyReady

/-! ## The abstract transition system -/

def evict (maps : SessionMaps) (outline : Outline) (sid : ℕ) (pn : String) :
    SessionMaps :=
  match maps.byPn.get? pn with
  | some old => if old = sid then maps else maps.drop old (outline.pnOf old)
  | none => maps

/-- The ways maps and outline can change. -/
inductive MapsStep :
    SessionMaps × Outline → SessionMaps × Outline → Prop where
  | same (state : SessionMaps × Outline) : MapsStep state state
  | join (maps : SessionMaps) (outline : Outline) :
      MapsStep (maps, outline)
        (maps.join outline.length, outline ++ [("", .reading)])
  | claim {maps : SessionMaps} {outline : Outline} {sid : ℕ} {pn : String}
      (hsession : outline[sid]? = some ("", .reading)) (hpn : pn ≠ "") :
      MapsStep (maps, outline)
        ((evict maps outline sid pn).claim pn sid,
          outline.set sid (pn, .reading))
  | await {maps : SessionMaps} {outline : Outline} {pn : String}
      (hunmapped : maps.byPn.get? pn = none) :
      MapsStep (maps, outline) ((maps.readyEventFor pn).1, outline)
  | disconnect {maps : SessionMaps} {outline : Outline} {sid : ℕ}
      {pn : String} (hsession : outline[sid]? = some (pn, .reading)) :
      MapsStep (maps, outline) (maps, outline.set sid (pn, .closing))
  | teardown {maps : SessionMaps} {outline : Outline} {sid : ℕ}
      {pn : String} (hsession : outline[sid]? = some (pn, .closing)) :
      MapsStep (maps, outline)
        (maps.drop sid pn, outline.set sid (pn, .closed))

structure MapsInvariant (state : SessionMaps × Outline) : Prop where
  consistent : state.1.Consistent state.2.pnOf
  bounded : ∀ sid ∈ state.1.live, sid < state.2.length
  unidentified : ∀ sid phase, state.2[sid]? = some ("", phase) →
    phase ≠ .closed → sid ∈ state.1.live

theorem initial_mapsInvariant :
    MapsInvariant (SessionMaps.initial, []) := by
  refine ⟨SessionMaps.initial_consistent _, ?_, ?_⟩
  · intro sid hmem
    cases hmem
  · intro sid phase hsession
    simp at hsession

/-- What is left after evicting the owner of a product number. -/
structure Evicted (maps evicted : SessionMaps) (outline : Outline) (sid : ℕ)
    (pn : String) : Prop where
  consistent : evicted.Consistent outline.pnOf
  unmapped : evicted.byPn.get? pn = none
  subset : evicted.live ⊆ maps.live
  unnamed : ∀ other ∈ maps.live, outline.pnOf other = "" →
    other ∈ evicted.live

theorem MapsInvariant.evict {maps : SessionMaps} {outline : Outline}
    (hinv : MapsInvariant (maps, outline)) {sid : ℕ} {pn : String}
    (hunnamed : outline.pnOf sid = "") (hpn : pn ≠ "") :
    Evicted maps (evict maps outline sid pn) outline sid pn := by
  unfold Eybond.evict
  cases hmapped : maps.byPn.get? pn with
  | none =>
      exact ⟨hinv.consistent, hmapped, Finset.Subset.refl _,
        fun _ hlive _ => hlive⟩
  | some old =>
      have hold := hinv.consistent.mapped pn old hmapped
      have hne : old ≠ sid := by
        intro heq
        rw [heq, hunnamed] at hold
        exact hpn hold.2.2.symm
      dsimp only
      rw [if_neg hne]
      constructor
      · exact hinv.consistent.drop old
      · have hboth : outline.pnOf old ≠ "" ∧
            maps.byPn.get? (outline.pnOf old) = some old := by
          rw [hold.2.2]
          exact ⟨hpn, hmapped⟩
        unfold SessionMaps.drop
        rw [if_pos hboth]
        have herase : (maps.byPn.erase (outline.pnOf old)).get? pn = none := by
          rw [Dict.get?_erase, hold.2.2, if_pos rfl]
        exact herase
      · unfold SessionMaps.drop
        dsimp only
        split <;> exact Finset.erase_subset _ _
      · intro other hlive hother
        have hdiffer : other ≠ old := by
          intro heq
          rw [heq, hold.2.2] at hother
          exact hpn hother
        unfold SessionMaps.drop
        dsimp only
        split <;> exact Finset.mem_erase.mpr ⟨hdiffer, hlive⟩

theorem MapsInvariant.after_step {before after : SessionMaps × Outline}
    (hinv : MapsInvariant before) (hstep : MapsStep before after) :
    MapsInvariant after := by
  cases hstep with
  | same => exact hinv
  | join maps outline =>
      have hfresh : outline.pnOf outline.length = "" := by
        simp [Outline.pnOf]
      have hmaps : maps.Consistent outline.pnOf := hinv.consistent
      constructor
      · apply (hmaps.join hfresh).congr
        intro sid
        exact outline.pnOf_append .reading sid
      · intro sid hmem
        rw [List.length_append, List.length_singleton]
        rcases Finset.mem_insert.mp hmem with heq | hold
        · omega
        · have hlt : sid < outline.length := hinv.bounded sid hold
          omega
      · intro sid phase hsession hopen
        rcases getElem?_append_singleton_cases hsession with hold | ⟨heq, _⟩
        · exact Finset.mem_insert_of_mem (hinv.unidentified sid phase hold
            hopen)
        · rw [heq]
          exact Finset.mem_insert_self _ _
  | @claim maps outline sid pn hsession hpn =>
      have hlength : sid < outline.length :=
        (List.getElem?_eq_some_iff.mp hsession).1
      have hunnamed := Outline.pnOf_of_getElem? hsession
      have hlive : sid ∈ maps.live :=
        hinv.unidentified sid .reading hsession (by simp)
      have hevicted := hinv.evict hunnamed hpn
      constructor
      · apply hevicted.consistent.claim hpn
          (hevicted.unnamed sid hlive hunnamed) hunnamed hevicted.unmapped
        · exact Outline.pnOf_set_self hlength pn .reading
        · intro other hne
          exact outline.pnOf_set_of_ne (Ne.symm hne) pn .reading
      · intro other hmem
        rw [List.length_set]
        exact hinv.bounded other (hevicted.subset hmem)
      · intro other phase hother hopen
        rcases getElem?_set_cases hother with ⟨_, heq⟩ | ⟨_, hold⟩
        · exact absurd (Prod.mk.inj heq).1.symm hpn
        · apply hevicted.unnamed other
            (hinv.unidentified other phase hold hopen)
          exact Outline.pnOf_of_getElem? hold
  | await hunmapped =>
      refine ⟨SessionMaps.Consistent.readyEventFor hinv.consistent hunmapped,
        ?_, ?_⟩
      · intro sid hmem
        apply hinv.bounded sid
        unfold SessionMaps.readyEventFor at hmem
        split at hmem <;> exact hmem
      · intro sid phase hsession hopen
        have hlive := hinv.unidentified sid phase hsession hopen
        unfold SessionMaps.readyEventFor
        split <;> exact hlive
  | @disconnect maps outline sid pn hsession =>
      constructor
      · exact SessionMaps.Consistent.congr hinv.consistent
          (Outline.pnOf_set_same hsession .closing)
      · intro other hmem
        rw [List.length_set]
        exact hinv.bounded other hmem
      · intro other phase hother hopen
        rcases getElem?_set_cases hother with ⟨heq, hpair⟩ | ⟨_, hold⟩
        · have hpn := (Prod.mk.inj hpair).1
          rw [← hpn] at hsession
          rw [heq]
          exact hinv.unidentified sid .reading hsession (by simp)
        · exact hinv.unidentified other phase hold hopen
  | @teardown maps outline sid pn hsession =>
      have hmaps : maps.Consistent outline.pnOf := hinv.consistent
      have hpn := Outline.pnOf_of_getElem? hsession
      have hdropped := hmaps.drop sid
      rw [hpn] at hdropped
      have hlive : ∀ other, other ∈ (maps.drop sid pn).live ↔
          other ≠ sid ∧ other ∈ maps.live := by
        intro other
        unfold SessionMaps.drop
        dsimp only
        split <;> exact Finset.mem_erase
      constructor
      · exact hdropped.congr (Outline.pnOf_set_same hsession .closed)
      · intro other hmem
        rw [List.length_set]
        exact hinv.bounded other ((hlive other).mp hmem).2
      · intro other phase hother hopen
        rcases getElem?_set_cases hother with ⟨_, hpair⟩ | ⟨hne, hold⟩
        · exact absurd (Prod.mk.inj hpair).2 hopen
        · exact (hlive other).mpr
            ⟨hne, hinv.unidentified other phase hold hopen⟩

/-! ## The manager refines it -/

def Session.outline (session : Session) : String × HandlerPhase :=
  (session.pn, session.handler)

def Manager.outline (manager : Manager) : Outline :=
  manager.sessions.map Session.outline

/-- The part of the manager the session maps depend on. -/
def Manager.view (manager : Manager) : SessionMaps × Outline :=
  (manager.maps, manager.outline)

namespace Manager

variable {manager : Manager} {sid rid : ℕ} {session : Session}
  {request : Request}

theorem outline_getElem? (hsession : manager.sessions[sid]? = some session) :
    manager.outline[sid]? = some (session.pn, session.handler) := by
  simp [Manager.outline, hsession, Session.outline]

theorem sessions_of_outline {sid : ℕ} (hlength : sid < manager.outline.length) :
    ∃ session, manager.sessions[sid]? = some session := by
  have hsessions : sid < manager.sessions.length := by
    simpa [Manager.outline] using hlength
  exact ⟨manager.sessions[sid], List.getElem?_eq_getElem hsessions⟩

@[simp] theorem view_setRequest (manager : Manager) (rid : ℕ)
    (request : Request) :
    (manager.setRequest rid request).view = manager.view := rfl

@[simp] theorem view_settle (manager : Manager) (rid : ℕ)
    (request : Request) (phase : RequestPhase) :
    (manager.settle rid request phase).view = manager.view := rfl

@[simp] theorem view_wake (manager : Manager) (target : Option String) :
    (manager.wake target).view = manager.view := rfl

@[simp] theorem view_failPending (manager : Manager) (pending : Dict ℕ ℕ) :
    (manager.failPending pending).view = manager.view := rfl

theorem view_setSession (hsession : manager.sessions[sid]? = some session)
    {replacement : Session}
    (houtline : replacement.outline = session.outline) :
    (manager.setSession sid replacement).view = manager.view := by
  unfold Manager.view Manager.outline Manager.setSession
  rw [map_set_of_eq hsession houtline]

theorem view_setSession_outline (manager : Manager) (sid : ℕ)
    (replacement : Session) :
    (manager.setSession sid replacement).view =
      (manager.maps, manager.outline.set sid replacement.outline) := by
  unfold Manager.view Manager.outline Manager.setSession
  rw [List.map_set]

@[simp] theorem view_releaseLock (manager : Manager) (sid : ℕ) :
    (manager.releaseLock sid).view = manager.view := by
  unfold Manager.releaseLock
  cases hsession : manager.sessions[sid]? with
  | none => rfl
  | some session => exact view_setSession hsession rfl

@[simp] theorem view_popPending (manager : Manager) (sid tid : ℕ) :
    (manager.popPending sid tid).view = manager.view := by
  unfold Manager.popPending
  cases hsession : manager.sessions[sid]? with
  | none => rfl
  | some session => exact view_setSession hsession rfl

theorem view_dropSession (hsession : manager.sessions[sid]? = some session) :
    (manager.dropSession sid).view =
      (manager.maps.drop sid session.pn, manager.outline) := by
  unfold Manager.dropSession
  simp only [hsession]
  have hstored : (({ manager with
      maps := manager.maps.drop sid session.pn } : Manager).failPending
        session.pending).sessions[sid]? = some session := hsession
  rw [view_setSession hstored]
  · rfl
  · rfl

theorem view_identify (hinv : MapsInvariant manager.view) (sid : ℕ)
    (session : Session) (pn now : String) :
    (manager.identify sid session pn now).view =
      ((evict manager.maps manager.outline sid pn).claim pn sid,
        manager.outline.set sid (pn, session.handler)) := by
  unfold Manager.identify Manager.evictOwner Eybond.evict
  have hnamed := view_setSession_outline manager sid { session with pn := pn }
  have hmaps : (manager.setSession sid { session with pn := pn }).maps =
      manager.maps := rfl
  dsimp only
  rw [hmaps]
  cases hmapped : manager.maps.byPn.get? pn with
  | none => exact congrArg (fun view => (view.1.claim pn sid, view.2)) hnamed
  | some old =>
      dsimp only
      by_cases heq : old = sid
      · rw [if_pos heq, if_pos heq]
        exact congrArg (fun view => (view.1.claim pn sid, view.2)) hnamed
      · rw [if_neg heq, if_neg heq]
        have hold := hinv.consistent.mapped pn old hmapped
        obtain ⟨stale, hstale⟩ :=
          sessions_of_outline (hinv.bounded old hold.2.1)
        have hstaleNamed : (manager.setSession sid
            { session with pn := pn }).sessions[old]? = some stale := by
          unfold Manager.setSession
          rw [List.getElem?_set_ne (Ne.symm heq)]
          exact hstale
        have hpn : manager.outline.pnOf old = stale.pn :=
          Outline.pnOf_of_getElem? (outline_getElem? hstale)
        have hdropped := view_dropSession hstaleNamed
        rw [hpn]
        refine (congrArg (fun view => (view.1.claim pn sid, view.2))
          hdropped).trans ?_
        exact congrArg (fun view =>
          ((manager.maps.drop old stale.pn).claim pn sid, view.2)) hnamed

theorem view_forwardFrame (hsession : manager.sessions[sid]? = some session)
    (tid : ℕ) (payload : Bytes) :
    (manager.forwardFrame sid session tid payload).view = manager.view := by
  unfold Manager.forwardFrame
  cases session.pending.get? tid with
  | none => rfl
  | some rid =>
      have hpopped : (manager.setSession sid
          { session with pending := session.pending.erase tid }).view =
            manager.view := view_setSession hsession rfl
      dsimp only
      split
      · exact hpopped
      · split
        · exact hpopped
        · exact hpopped

end Manager

theorem mapsStep_of_heartbeat {manager : Manager} {sid : ℕ}
    {session : Session} (hinv : MapsInvariant manager.view)
    (hsession : manager.sessions[sid]? = some session)
    (hreading : session.handler = .reading) (payload : Bytes)
    (now : String) :
    MapsStep manager.view
      (manager.heartbeatFrame sid session payload now).view := by
  unfold Manager.heartbeatFrame
  dsimp only
  by_cases hfirst : heartbeatPn payload ≠ "" ∧ session.pn = ""
  · rw [if_pos hfirst, Manager.view_identify hinv, hreading]
    have houtline := Manager.outline_getElem? hsession
    rw [hfirst.2, hreading] at houtline
    exact .claim houtline hfirst.1
  · rw [if_neg hfirst]
    split <;> exact .same manager.view

theorem mapsStep_of_disconnect {manager : Manager} {sid : ℕ}
    {session : Session} (hsession : manager.sessions[sid]? = some session)
    (hreading : session.handler = .reading) :
    MapsStep manager.view (manager.setSession sid
      { session with handler := .closing, heartbeat := false }).view := by
  have houtline := Manager.outline_getElem? hsession
  rw [hreading] at houtline
  rw [Manager.view_setSession_outline]
  exact .disconnect houtline

theorem mapsStep_of_teardown {manager : Manager} {sid : ℕ}
    {session : Session} (hsession : manager.sessions[sid]? = some session)
    (hclosing : session.handler = .closing) :
    MapsStep manager.view ((manager.setSession sid
      { session with handler := .closed }).dropSession sid).view := by
  have hlength : sid < manager.sessions.length :=
    (List.getElem?_eq_some_iff.mp hsession).1
  have hclosed : (manager.setSession sid
      { session with handler := .closed }).sessions[sid]? =
        some { session with handler := .closed } :=
    List.getElem?_set_self hlength
  have houtline := Manager.outline_getElem? hsession
  rw [hclosing] at houtline
  have hdropped := Manager.view_dropSession hclosed
  have hset := congrArg Prod.snd (Manager.view_setSession_outline manager
    sid { session with handler := .closed })
  have hafter : (manager.setSession sid
      { session with handler := .closed }).outline =
        manager.outline.set sid (session.pn, .closed) := hset
  rw [hdropped, hafter]
  exact .teardown houtline

/-- Forward simulation: every event is a step of the maps. -/
theorem mapsStep_of_step {manager after : Manager} {event : Event}
    (hinv : MapsInvariant manager.view)
    (hstep : manager.step event = some after) :
    MapsStep manager.view after.view := by
  have hsame : after.view = manager.view →
      MapsStep manager.view after.view := by
    intro heq
    rw [heq]
    exact .same manager.view
  cases stepped_of_step hstep with
  | connect peer =>
      have hview : (manager.connect peer).view =
          (manager.maps.join manager.outline.length,
            manager.outline ++ [("", .reading)]) := by
        simp [Manager.connect, Manager.view, Manager.outline, Manager.wake,
          Session.outline, Session.connected]
      rw [hview]
      exact .join manager.maps manager.outline
  | heartbeat hsession hreading _ _ now =>
      exact mapsStep_of_heartbeat hinv hsession hreading _ now
  | forward hsession => exact hsame (Manager.view_forwardFrame hsession _ _)
  | otherFrame => exact hsame rfl
  | disconnect hsession hreading =>
      exact mapsStep_of_disconnect hsession hreading
  | teardown hsession hclosing => exact mapsStep_of_teardown hsession hclosing
  | heartbeatTick hsession =>
      exact hsame (Manager.view_setSession hsession rfl)
  | heartbeatFailed hsession =>
      exact hsame (Manager.view_setSession hsession rfl)
  | sendFrame => exact hsame rfl
  | startFailed => exact hsame rfl
  | chosen => exact hsame rfl
  | unrouted => exact hsame rfl
  | awaitNumber _ _ hunmapped => exact .await hunmapped
  | awaitAny => exact hsame rfl
  | waitTimeout => exact hsame rfl
  | acquire _ _ hsession =>
      exact hsame (Manager.view_setSession hsession rfl)
  | drained => exact hsame rfl
  | drainFailed => exact hsame (by simp)
  | replied => exact hsame (by simp)
  | replyTimeout => exact hsame (by simp)
  | abandoned => exact hsame rfl
  | cancelWrite => exact hsame (by simp)
  | cancelReply => exact hsame (by simp)

/-! ## Runs of the manager -/

def Manager.pnOf (manager : Manager) (sid : ℕ) : String :=
  (manager.sessions[sid]?.map Session.pn).getD ""

theorem Manager.outline_pnOf (manager : Manager) (sid : ℕ) :
    manager.outline.pnOf sid = manager.pnOf sid := by
  unfold Manager.outline Outline.pnOf Manager.pnOf
  rw [List.getElem?_map, Option.map_map]
  rfl

theorem mapsInvariant_of_run {registry : EybondRegistry}
    {events : List Event} {final : Manager}
    (hrun : Run (graph Manager.step) (Manager.initial registry) events final) :
    MapsInvariant final.view := by
  apply hrun.invariant (fun manager => MapsInvariant manager.view)
    initial_mapsInvariant
  intro before event after hbefore hstep
  exact hbefore.after_step (mapsStep_of_step hbefore hstep)

/-- In every run the four session structures agree: a mapped session is live
and carries its key, a live named session is the one mapped, the event of a
number is set exactly while the number is mapped, and the global event exactly
while a session is live. -/
theorem sessionMaps_of_run {registry : EybondRegistry} {events : List Event}
    {final : Manager}
    (hrun : Run (graph Manager.step) (Manager.initial registry) events final) :
    (∀ pn sid, final.maps.byPn.get? pn = some sid →
      sid ∈ final.maps.live ∧ final.pnOf sid = pn) ∧
    (∀ sid ∈ final.maps.live, final.pnOf sid ≠ "" →
      final.maps.byPn.get? (final.pnOf sid) = some sid) ∧
    (∀ left ∈ final.maps.live, ∀ right ∈ final.maps.live,
      final.pnOf left ≠ "" → final.pnOf left = final.pnOf right →
        left = right) ∧
    (∀ pn ready, final.maps.readyByPn.get? pn = some ready →
      (ready = true ↔ (final.maps.byPn.get? pn).isSome = true)) ∧
    (final.maps.anyReady = true ↔ final.maps.live.Nonempty) := by
  have hconsistent : final.maps.Consistent final.pnOf := by
    apply (mapsInvariant_of_run hrun).consistent.congr
    intro sid
    exact (final.outline_pnOf sid).symm
  refine ⟨?_, hconsistent.identified, ?_, hconsistent.ready,
    hconsistent.anyReady⟩
  · intro pn sid hmapped
    exact (hconsistent.mapped pn sid hmapped).2
  · intro left hleft right hright hnamed heq
    have hmappedLeft := hconsistent.identified left hleft hnamed
    have hmappedRight := hconsistent.identified right hright (heq ▸ hnamed)
    rw [← heq, hmappedLeft] at hmappedRight
    exact Option.some.inj hmappedRight

def heartbeatOf (pn : String) : Frame :=
  ⟨0, fcHeartbeat, pn.toList.map fun c => UInt8.ofNat c.toNat⟩

/-- A waiter, a dongle, its reconnection before the first connection ended,
and a late heartbeat of the evicted session. -/
def sameNumberReconnect : List Event :=
  let hello := heartbeatOf "E5000020000001"
  [.sendFrame (some "E5000020000001"), .resolve 0,
    .connect "10.0.0.7:5001", .frame 0 hello none "t0", .resume 0,
    .connect "10.0.0.7:5002", .frame 1 hello none "t1",
    .frame 0 hello none "t2", .disconnect 0, .teardown 0 "t3"]

def reconnected : Manager :=
  (execute Manager.step (Manager.initial .empty) sameNumberReconnect).get
    (by decide +kernel)

theorem sessionMaps_of_reconnect :
    1 ∈ reconnected.maps.live ∧ reconnected.pnOf 1 = "E5000020000001" := by
  have hrun : Run (graph Manager.step) (Manager.initial .empty)
      sameNumberReconnect reconnected :=
    run_of_execute (Option.some_get _).symm
  have hmapped : reconnected.maps.byPn.get? "E5000020000001" = some 1 := by
    decide +kernel
  exact (sessionMaps_of_run hrun).1 "E5000020000001" 1 hmapped

end Eybond
end DessMonitor
