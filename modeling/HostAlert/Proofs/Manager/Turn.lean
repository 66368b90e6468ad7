import HostAlert.Manager.Supervisor
import HostAlert.Proofs.Manager.Run

/-!
# Turns of a supervisor

`Turns` is `Supervisor.Move` with a label that says whose move it is, and `Course` a sequence of
such moves with its labels, so that what happens between two states can be spoken of
(`Supervisor.reach_iff_course`). Seen from one worker, a turn does one of a few things to it
(`Worker.Follows`): it may tell it to end, which is never taken back, and only the worker itself
moves its loop on.
-/

namespace HostAlert.Manager

/-- Whose move it is. A step of a check comes with the state it finds and where the check stands. -/
inductive Turn
  | starts (shutDown : Bool)
  | beginsStop
  | endsStop
  | signals (i : Nat)
  | rests (i : Nat)
  | heeds (i : Nat)
  | wakes (i : Nat)
  | checks (i : Nat) (shared : Shared) (c : Check) (e : Event)

def Turn.isCheckOf (i : Nat) : Turn → Bool
  | checks j _ _ _ => j == i
  | _ => false

/-! ## One worker -/

/-- The loop is between two checks. -/
def Loop.isResting : Loop → Bool
  | reading | sleeping _ => true
  | checking _ | exited => false

namespace Worker

/-- The worker once its check has moved on; after the last step the interval is read again. -/
def after (w : Worker) (c : Check) : Worker :=
  { w with loop := if c.want = .nothing then .reading else .checking c }

theorem loop_after (w : Worker) {c : Check} (h : c.want ≠ .nothing) :
    (w.after c).loop = .checking c :=
  if_neg h

/-- What a turn does to the worker of a number. -/
inductive Follows (base : String) (i : Nat) : Turn → Worker → Worker → Prop
  | idle (turn : Turn) (w : Worker) (other : turn.isCheckOf i = false) : Follows base i turn w w
  | told (w : Worker) : Follows base i .beginsStop w { w with stopping := true }
  | signalled (w : Worker) : Follows base i (.signals i) w { w with shutDown := true }
  /-- The loop moves on between two checks. -/
  | moves (turn : Turn) (w : Worker) (loop : Loop) (other : turn.isCheckOf i = false)
      (resting : w.loop.isResting = true) : Follows base i turn w { w with loop := loop }
  | checks (w : Worker) (shared shared' : Shared) (c c' : Check) (e : Event)
      (busy : w.loop = .checking c) (moved : Check.Moved base shared c e shared' c') :
      Follows base i (.checks i shared c e) w (w.after c')

variable {base : String} {i : Nat} {turn : Turn} {w w' : Worker}

theorem follows_rest (w : Worker) (shared : Shared) (other : turn.isCheckOf i = false) :
    Follows base i turn w (w.rest shared) := by
  unfold rest
  split
  · next hloop => exact .moves turn w _ other (by rw [hloop]; rfl)
  · exact .idle turn w other

theorem follows_heed (w : Worker) (other : turn.isCheckOf i = false) :
    Follows base i turn w w.heed := by
  unfold heed
  split
  · next hloop =>
    split
    · exact .moves turn w _ other (by rw [hloop]; rfl)
    · exact .idle turn w other
  · exact .idle turn w other

theorem follows_wake (w : Worker) (other : turn.isCheckOf i = false) :
    Follows base i turn w w.wake := by
  unfold wake
  split
  · next hloop => exact .moves turn w _ other (by rw [hloop]; rfl)
  · exact .idle turn w other

theorem Follows.signals (h : Follows base i turn w w') :
    (w.stopping = true → w'.stopping = true) ∧ (w.shutDown = true → w'.shutDown = true) := by
  cases h with
  | idle | moves | checks => exact ⟨id, id⟩
  | told => exact ⟨fun _ => rfl, id⟩
  | signalled => exact ⟨id, fun _ => rfl⟩

theorem Follows.exited (h : Follows base i turn w w') (hw : w.loop = .exited) :
    w'.loop = .exited := by
  cases h with
  | idle | told | signalled => exact hw
  | moves _ _ _ _ resting =>
    rw [hw] at resting
    cases resting
  | checks _ _ _ _ _ _ busy =>
    rw [hw] at busy
    cases busy

/-- Only its own step changes a check of a loop. -/
theorem Follows.checking {c : Check} (h : Follows base i turn w w') (hw : w.loop = .checking c) :
    (turn.isCheckOf i = false ∧ w'.loop = .checking c) ∨
      ∃ shared shared' e c', turn = .checks i shared c e ∧ Check.Moved base shared c e shared' c' ∧
        w' = w.after c' := by
  cases h with
  | idle _ _ other => exact .inl ⟨other, hw⟩
  | told | signalled => exact .inl ⟨rfl, hw⟩
  | moves _ _ _ _ resting =>
    rw [hw] at resting
    cases resting
  | checks _ shared shared' c₁ c' e busy moved =>
    obtain rfl : c = c₁ := Loop.checking.inj (hw.symm.trans busy)
    exact .inr ⟨shared, shared', e, c', rfl, moved, rfl⟩

theorem step_eq_some_iff {shared shared' : Shared} {e : Event} :
    w.step base shared e = some (shared', w') ↔
      ∃ c c', w.loop = .checking c ∧ c.step base shared e = some (shared', c') ∧
        w' = w.after c' := by
  unfold step
  constructor
  · intro h
    split at h
    · next c hc =>
      obtain ⟨⟨shared₁, c'⟩, hstep, heq⟩ := Option.map_eq_some_iff.mp h
      cases heq
      exact ⟨c, c', hc, hstep, rfl⟩
    · cases h
  · rintro ⟨c, c', hc, hstep, rfl⟩
    simp only [hc, hstep, Option.map_some, after]

end Worker

/-! ## All workers -/

namespace Supervisor

/-- One move of a supervisor, with its label. -/
inductive Turns (base : String) : Turn → Supervisor → Supervisor → Prop
  | starts (s : Supervisor) (shutDown : Bool) (free : s.joining = none) :
      Turns base (.starts shutDown) s (s.start shutDown)
  | beginsStop (s : Supervisor) (free : s.joining = none) : Turns base .beginsStop s s.beginStop
  | endsStop (s : Supervisor) : Turns base .endsStop s s.endStop
  | signals (s : Supervisor) (i : Nat) : Turns base (.signals i) s (s.signal i)
  | rests (s : Supervisor) (i : Nat) (w : Worker) (shared : Shared)
      (here : s.workers[i]? = some w) :
      Turns base (.rests i) s { s with workers := s.workers.set i (w.rest shared) }
  | heeds (s : Supervisor) (i : Nat) (w : Worker) (here : s.workers[i]? = some w) :
      Turns base (.heeds i) s { s with workers := s.workers.set i w.heed }
  | wakes (s : Supervisor) (i : Nat) (w : Worker) (here : s.workers[i]? = some w) :
      Turns base (.wakes i) s { s with workers := s.workers.set i w.wake }
  | checks (s : Supervisor) (i : Nat) (w w' : Worker) (shared shared' : Shared) (c : Check)
      (e : Event) (here : s.workers[i]? = some w) (busy : w.loop = .checking c)
      (moved : w.step base shared e = some (shared', w')) :
      Turns base (.checks i shared c e) s { s with workers := s.workers.set i w' }

inductive Course (base : String) (s : Supervisor) : List Turn → Supervisor → Prop
  | refl : Course base s [] s
  | snoc {turns : List Turn} {s₁ s₂ : Supervisor} (course : Course base s turns s₁) (turn : Turn)
      (next : Turns base turn s₁ s₂) : Course base s (turns ++ [turn]) s₂

variable {base : String} {turn : Turn} {s s' : Supervisor}

theorem Move.exists_turn (h : Move base s s') : ∃ turn, Turns base turn s s' := by
  cases h with
  | starts b free => exact ⟨_, .starts s b free⟩
  | beginsStop free => exact ⟨_, .beginsStop s free⟩
  | endsStop => exact ⟨_, .endsStop s⟩
  | signals i => exact ⟨_, .signals s i⟩
  | steps i w w' here moved =>
    cases moved with
    | rests shared => exact ⟨_, .rests s i w shared here⟩
    | heeds => exact ⟨_, .heeds s i w here⟩
    | wakes => exact ⟨_, .wakes s i w here⟩
    | checks _ shared shared' e moved =>
      obtain ⟨c, c', busy, -⟩ := Worker.step_eq_some_iff.mp moved
      exact ⟨_, .checks s i w w' shared shared' c e here busy moved⟩

theorem Turns.move (h : Turns base turn s s') : Move base s s' := by
  cases h with
  | starts _ b free => exact .starts s b free
  | beginsStop _ free => exact .beginsStop s free
  | endsStop _ => exact .endsStop s
  | signals _ i => exact .signals s i
  | rests _ i w shared here => exact .steps s i w _ here (.rests w shared)
  | heeds _ i w here => exact .steps s i w _ here (.heeds w)
  | wakes _ i w here => exact .steps s i w _ here (.wakes w)
  | checks _ i w w' shared shared' c e here busy moved =>
    exact .steps s i w w' here (.checks w w' shared shared' e moved)

theorem Course.reach {turns : List Turn} (course : Course base s turns s') (h : Reach base s) :
    Reach base s' := by
  induction course with
  | refl => exact h
  | snoc _ _ next ih => exact ih.move next.move

/-- What a manager can come to is what some sequence of moves leads to. -/
theorem reach_iff_course : Reach base s ↔ ∃ turns, Course base .initial turns s := by
  constructor
  · intro h
    induction h with
    | initial => exact ⟨[], .refl⟩
    | move _ hmove ih =>
      obtain ⟨turns, course⟩ := ih
      obtain ⟨turn, next⟩ := hmove.exists_turn
      exact ⟨_, course.snoc turn next⟩
  · rintro ⟨turns, course⟩
    exact course.reach .initial

/-! ### What a turn does to the slots -/

theorem start_of_registered {i : Nat} (h : s.registered = some i) (b : Bool) : s.start b = s := by
  unfold start
  rw [h]

theorem start_of_free (h : s.registered = none) (b : Bool) :
    s.start b = ⟨s.workers ++ [.started b], some s.workers.length, s.joining⟩ := by
  unfold start
  rw [h]

theorem beginStop_of_free (h : s.registered = none) : s.beginStop = s := by
  unfold beginStop
  rw [h]

theorem beginStop_of_registered {i : Nat} (h : s.registered = some i) :
    s.beginStop = ⟨s.workers.modify i fun w => { w with stopping := true }, none, some i⟩ := by
  unfold beginStop
  rw [h]
  rfl

theorem endStop_cases (s : Supervisor) : s.endStop = s ∨ ∃ i w, s.joining = some i ∧
    s.workers[i]? = some w ∧ w.loop = .exited ∧ s.endStop = { s with joining := none } := by
  unfold endStop
  split
  · exact .inl rfl
  · next i hi =>
    split
    · next w hw =>
      split
      · next hex =>
        refine .inr ⟨i, w, hi, hw, ?_, rfl⟩
        cases hloop : w.loop with
        | exited => rfl
        | reading | sleeping | checking =>
          rw [hloop] at hex
          cases hex
      · exact .inl rfl
    · exact .inl rfl

/-! ### What a turn does to the workers -/

theorem follows_modify {l : List Worker} {i j : Nat} {w : Worker} {f : Worker → Worker}
    (hw : l[j]? = some w) (own : i = j → Worker.Follows base j turn w (f w))
    (other : turn.isCheckOf j = false) :
    ∃ w', (l.modify i f)[j]? = some w' ∧ Worker.Follows base j turn w w' := by
  rw [List.getElem?_modify, hw, Option.map_eq_map, Option.map_some]
  by_cases hij : i = j
  · rw [if_pos hij]
    exact ⟨f w, rfl, own hij⟩
  · rw [if_neg hij]
    exact ⟨w, rfl, .idle turn w other⟩

theorem follows_set {l : List Worker} {i j : Nat} {v v' w : Worker} (here : l[i]? = some v)
    (hw : l[j]? = some w) (own : Worker.Follows base i turn v v')
    (other : i ≠ j → turn.isCheckOf j = false) :
    ∃ w', (l.set i v')[j]? = some w' ∧ Worker.Follows base j turn w w' := by
  by_cases hij : i = j
  · subst hij
    obtain rfl : v = w := Option.some.inj (here.symm.trans hw)
    rw [List.getElem?_set_self (lt_of_getElem? here)]
    exact ⟨v', rfl, own⟩
  · rw [List.getElem?_set_ne hij, hw]
    exact ⟨w, rfl, .idle turn w (other hij)⟩

/-- Every worker stays, and follows the turn. -/
theorem Turns.worker (h : Turns base turn s s') {j : Nat} {w : Worker}
    (hw : s.workers[j]? = some w) :
    ∃ w', s'.workers[j]? = some w' ∧ Worker.Follows base j turn w w' := by
  cases h with
  | starts _ b free =>
    refine ⟨w, ?_, .idle _ w rfl⟩
    cases hreg : s.registered with
    | some i => rwa [start_of_registered hreg]
    | none =>
      rw [start_of_free hreg, List.getElem?_append_left (lt_of_getElem? hw)]
      exact hw
  | beginsStop _ free =>
    cases hreg : s.registered with
    | none =>
      rw [beginStop_of_free hreg]
      exact ⟨w, hw, .idle _ w rfl⟩
    | some i =>
      rw [beginStop_of_registered hreg]
      exact follows_modify hw (fun _ => .told w) rfl
  | endsStop _ =>
    refine ⟨w, ?_, .idle _ w rfl⟩
    obtain heq | ⟨i, v, -, -, -, heq⟩ := s.endStop_cases
    · rwa [heq]
    · rwa [heq]
  | signals _ i => exact follows_modify hw (fun hij => hij ▸ .signalled w) rfl
  | rests _ i v shared here =>
    exact follows_set here hw (Worker.follows_rest v shared rfl) fun _ => rfl
  | heeds _ i v here => exact follows_set here hw (Worker.follows_heed v rfl) fun _ => rfl
  | wakes _ i v here => exact follows_set here hw (Worker.follows_wake v rfl) fun _ => rfl
  | checks _ i v v' shared shared' c e here busy moved =>
    obtain ⟨c₁, c', busy', hstep, rfl⟩ := Worker.step_eq_some_iff.mp moved
    obtain rfl : c = c₁ := Loop.checking.inj (busy.symm.trans busy')
    exact follows_set here hw (.checks v shared shared' c c' e busy (Check.moved_of_step hstep))
      beq_false_of_ne

theorem Turns.workers_length (h : Turns base turn s s') :
    s'.workers.length = s.workers.length ∨ ∃ b, turn = .starts b ∧ s.registered = none ∧
      s'.workers = s.workers ++ [.started b] := by
  cases h with
  | starts _ b free =>
    cases hreg : s.registered with
    | some i => rw [start_of_registered hreg]; exact .inl rfl
    | none => rw [start_of_free hreg]; exact .inr ⟨b, rfl, rfl, rfl⟩
  | beginsStop _ free =>
    cases hreg : s.registered with
    | some i => rw [beginStop_of_registered hreg]; exact .inl (List.length_modify ..)
    | none => rw [beginStop_of_free hreg]; exact .inl rfl
  | endsStop =>
    obtain heq | ⟨i, v, -, -, -, heq⟩ := s.endStop_cases
    · rw [heq]; exact .inl rfl
    · rw [heq]; exact .inl rfl
  | signals _ i => exact .inl (List.length_modify ..)
  | rests | heeds | wakes | checks => exact .inl (List.length_set ..)

theorem Turns.worker_before (h : Turns base turn s s') {j : Nat} {w' : Worker}
    (hw : s'.workers[j]? = some w') :
    (∃ w, s.workers[j]? = some w ∧ Worker.Follows base j turn w w') ∨
      ∃ b, turn = .starts b ∧ s.registered = none ∧ j = s.workers.length ∧ w' = .started b := by
  cases hold : s.workers[j]? with
  | some w =>
    obtain ⟨w₁, hw₁, follows⟩ := h.worker hold
    obtain rfl : w₁ = w' := Option.some.inj (hw₁.symm.trans hw)
    exact .inl ⟨w, rfl, follows⟩
  | none =>
    have hout := List.getElem?_eq_none_iff.mp hold
    obtain hlength | ⟨b, hturn, hfree, heq⟩ := h.workers_length
    · have hlt := lt_of_getElem? hw
      omega
    · rw [heq] at hw
      obtain hw | ⟨hj, rfl⟩ := getElem?_snoc.mp hw
      · rw [hold] at hw
        cases hw
      · exact .inr ⟨b, hturn, hfree, hj, rfl⟩

end Supervisor

end HostAlert.Manager
