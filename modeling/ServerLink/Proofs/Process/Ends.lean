import Mathlib
import ServerLink.Process.Supervisor

/-!
# Children and their ends

What a supervisor knows of the children it started.

**Ended.**  `Ended s`: every child has ended.  No move brings a child back to life.

**Tracked.**  `Tracks s`: there is one child, and as long as it lives the state names it.  Whatever
happens outside keeps this (`Tracks.outside`), and a supervisor that tracks its child and kills what
the state names leaves nothing alive (`Tracks.ended_kill`).
-/

namespace ServerLink.Process.Supervisor

/-- Every child has ended. -/
def Ended (s : Supervisor) : Prop := ∀ c ∈ s.children, c.ending.isSome = true

/-- There is one child, and the state names it as long as it lives. -/
def Tracks (s : Supervisor) : Prop :=
  ∃ c, s.children = [c] ∧ (c.ending = none → s.state = .running c.pid)

/-- What can happen without the program. -/
def Move.isOutside : Move → Bool
  | .exit _ _ | .record _ | .tell _ => true
  | _ => false

variable {s t : Supervisor} {m : Move}

lemma ended_new : Ended new := by simp [Ended, new]

/-! ## Changes of children -/

lemma ended_change (h : s.Ended) {pid : Nat} {f : Child → Child}
    (hf : ∀ c, c.ending.isSome = true → (f c).ending.isSome = true) : (s.change pid f).Ended := by
  intro c hc
  obtain ⟨c', hc', rfl⟩ := List.mem_map.1 hc
  split
  · exact hf c' (h c' hc')
  · exact h c' hc'

lemma ended_givenUp (h : s.Ended) : s.givenUp.Ended := by
  rw [givenUp]
  split
  · exact ended_change h fun _ hc => hc
  · exact h

lemma ended_reap (h : s.Ended) : (s.move .reap).Ended := by
  have hreap : (s.move .reap).children = s.children := by
    rw [move, move?]
    split
    · split <;> rfl
    · rfl
  intro c hc
  exact h c (hreap ▸ hc)

lemma ended_closePipe (h : s.Ended) : (s.move .closePipe).Ended := by
  have hclose : (s.move .closePipe).children = s.children := by
    rw [move, move?]
    split <;> rfl
  intro c hc
  exact h c (hclose ▸ hc)

lemma ended_finishStop (h : s.Ended) : s.finishStop.Ended := ended_givenUp (ended_reap h)

@[simp] lemma isRunning_kill (s : Supervisor) : s.kill.isRunning = false := by
  rw [kill, move, move?]
  cases hpid : s.state.pid? with
  | none => simp [isRunning, ProcessState.isRunning, hpid]
  | some pid => rfl

/-! ## What happens outside -/

lemma outside_new (hm : m.isOutside = true) : new.move? m = none := by
  cases m with
  | exit | record | tell => rfl
  | _ => exact absurd hm (by simp [Move.isOutside])

/-- What happens outside ends children, and a supervisor that takes none to be running keeps to
it. -/
lemma Ended.outside (h : s.Ended) (hm : m.isOutside = true) (hmove : s.move? m = some t) :
    t.Ended := by
  cases m with
  | exit pid code =>
    rw [move?, Option.ite_none_right_eq_some] at hmove
    cases hmove.2
    exact ended_change h fun _ _ => rfl
  | record pid =>
    rw [move?] at hmove
    split at hmove
    · rw [Option.ite_none_right_eq_some] at hmove
      cases hmove.2
      exact ended_change (s := s) h fun _ hc => hc
    · exact absurd hmove (by simp)
  | tell pid =>
    rw [move?] at hmove
    split at hmove
    · cases hmove
      exact ended_change (s := s) h fun _ hc => hc
    · exact absurd hmove (by simp)
  | _ => exact absurd hm (by simp [Move.isOutside])

/-- Only the end that is recorded takes back that a child runs. -/
lemma isRunning_of_unrecorded (hm : m.isOutside = true) (hrecord : ∀ pid, m ≠ .record pid)
    (hmove : s.move? m = some t) : t.isRunning = s.isRunning := by
  cases m with
  | exit pid code =>
    rw [move?, Option.ite_none_right_eq_some] at hmove
    cases hmove.2
    rfl
  | record pid => exact absurd rfl (hrecord pid)
  | tell pid =>
    rw [move?] at hmove
    split at hmove
    · cases hmove
      rfl
    · exact absurd hmove (by simp)
  | _ => exact absurd hm (by simp [Move.isOutside])

lemma isRunning_of_recorded {pid : Nat} (hmove : s.move? (.record pid) = some t) :
    t.isRunning = false := by
  rw [move?] at hmove
  split at hmove
  · rw [Option.ite_none_right_eq_some] at hmove
    cases hmove.2
    rfl
  · exact absurd hmove (by simp)

lemma isRunning_outside (hm : m.isOutside = true) (hmove : s.move? m = some t)
    (h : s.isRunning = false) : t.isRunning = false := by
  by_cases hrecord : ∃ pid, m = .record pid
  · obtain ⟨pid, rfl⟩ := hrecord
    exact isRunning_of_recorded hmove
  · exact (isRunning_of_unrecorded hm (fun pid hpid => hrecord ⟨pid, hpid⟩) hmove).trans h

/-! ## One child -/

section Tracks

variable {pid : Nat}

lemma change_singleton {c : Child} (hc : s.children = [c]) (f : Child → Child) :
    (s.change pid f).children = [if c.pid = pid then f c else c] := by
  rw [change, hc]
  rfl

lemma child?_singleton {c d : Child} (hc : s.children = [c]) (hd : s.child? pid = some d) :
    d = c ∧ c.pid = pid := by
  rw [child?, hc, List.find?_singleton] at hd
  split at hd
  · rename_i hpid
    cases hd
    exact ⟨rfl, by simpa using hpid⟩
  · exact absurd hd (by simp)

/-- **What happens outside** leaves the one child tracked. -/
lemma Tracks.outside (h : s.Tracks) (hm : m.isOutside = true) (hmove : s.move? m = some t) :
    t.Tracks := by
  obtain ⟨c, hc, halive⟩ := h
  cases m with
  | exit pid code =>
    rw [move?, Option.ite_none_right_eq_some] at hmove
    cases hmove.2
    refine ⟨_, change_singleton hc _, ?_⟩
    split
    · exact nofun
    · exact halive
  | record pid =>
    rw [move?] at hmove
    split at hmove
    · rename_i d hd
      obtain ⟨rfl, hpid⟩ := child?_singleton hc hd
      simp only [Option.ite_none_right_eq_some, Bool.and_eq_true] at hmove
      cases hmove.2
      refine ⟨_, change_singleton hc _, ?_⟩
      rw [if_pos hpid]
      intro hnone
      exact absurd hmove.1.1 (by simp [show d.ending = none from hnone])
    · exact absurd hmove (by simp)
  | tell pid =>
    rw [move?] at hmove
    split at hmove
    · cases hmove
      refine ⟨_, change_singleton hc _, ?_⟩
      split
      · exact halive
      · exact halive
    · exact absurd hmove (by simp)
  | _ => exact absurd hm (by simp [Move.isOutside])

/-- A child that is not known to be running has ended. -/
lemma Tracks.ended (h : s.Tracks) (hpid : s.state.pid? = none) : s.Ended := by
  obtain ⟨c, hc, halive⟩ := h
  intro d hd
  rw [hc, List.mem_singleton] at hd
  subst hd
  by_contra hnone
  rw [Option.not_isSome_iff_eq_none] at hnone
  rw [halive hnone] at hpid
  exact absurd hpid (by simp [ProcessState.pid?])

/-- **The child that the state names, killed, was the last alive.** -/
lemma Tracks.ended_kill (h : s.Tracks) : s.kill.Ended := by
  rw [kill, move, move?]
  cases hpid : s.state.pid? with
  | none => exact h.ended hpid
  | some pid =>
    obtain ⟨c, hc, halive⟩ := h
    refine ended_givenUp fun d hd => ?_
    rw [change_singleton hc, List.mem_singleton] at hd
    subst hd
    by_cases hnone : c.ending = none
    · rw [halive hnone] at hpid
      cases hpid
      rw [if_pos rfl]
      simp [hnone]
    · split
      · cases hending : c.ending <;> simp_all
      · exact Option.isSome_iff_ne_none.2 hnone

lemma Ended.kill (h : s.Ended) : s.kill.Ended := by
  rw [Supervisor.kill, move, move?]
  split
  · refine ended_givenUp (ended_change h fun c hc => ?_)
    obtain ⟨code, hcode⟩ := Option.isSome_iff_exists.1 hc
    simp [hcode]
  · exact h

/-- The child that the state names has ended once it was made to. -/
lemma Tracks.ended_exit (h : s.Tracks) (hpid : s.state.pid? = some pid) (code : Option Nat) :
    (s.move (.exit pid code)).Ended := by
  obtain ⟨c, hc, halive⟩ := h
  by_cases hnone : c.ending = none
  · have hc' : c.pid = pid := by
      rw [halive hnone] at hpid
      exact Option.some.inj hpid
    have hlives : s.isAlive pid = true := by
      rw [isAlive, child?, hc, List.find?_singleton, if_pos (by simpa using hc')]
      simp [hnone]
    intro d hd
    rw [move, move?, if_pos hlives, Option.getD_some, change_singleton hc, if_pos hc',
      List.mem_singleton] at hd
    rw [hd]
    rfl
  · have hended : s.Ended := by
      intro d hd
      rw [hc, List.mem_singleton] at hd
      exact hd ▸ Option.isSome_iff_ne_none.2 hnone
    rw [move]
    cases hmove : s.move? (.exit pid code) with
    | none => exact hended
    | some t => exact hended.outside rfl hmove

/-- A supervisor that starts its first child tracks it. -/
lemma tracks_launch (pid : Nat) : ((new.move (.launch pid)).takePipe.1).Tracks :=
  ⟨⟨pid, none, .awaited, true, true⟩, rfl, fun _ => rfl⟩

end Tracks

end ServerLink.Process.Supervisor
