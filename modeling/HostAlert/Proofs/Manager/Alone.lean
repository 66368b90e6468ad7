import HostAlert.Proofs.Manager.Schedule
import HostAlert.Proofs.Manager.Turn

/-!
# One loop at a time

A worker whose loop has not ended is registered or waited for, never both and never another one
beside it (`Supervisor.Exclusive`). Every move keeps this, so that at most one loop is alive, and
none once a call to stop has taken the registered worker out and returned. What a loop was told
stays with it, and it looks at it only while it sleeps: a check that it has begun examines every
metric (`Supervisor.orderly_of_reach`).
-/

namespace HostAlert.Manager

/-! ## What a check examines -/

/-- The event is of the kind that is waited for. -/
def Want.Takes : Want → Event → Prop
  | .entry, .enter _ _ | .snapshot, .collected _ | .answer _, .answered _ => True
  | _, _ => False

namespace Check

/-- The metric that the check examines with its next step. -/
def looked : Check → List Metric
  | examining _ m _ => [m]
  | _ => []

variable {base : String} {s s' : Shared} {c c' : Check} {e : Event}

theorem exists_moved (h : c.want.Takes e) (base : String) (s : Shared) :
    ∃ s' c', Moved base s c e s' c' := by
  have hstep : ∃ s' c', c.step base s e = some (s', c') := by
    cases c <;> cases e <;> first | exact h.elim | exact ⟨_, _, rfl⟩ | skip
    case awaiting.answered work m rest time call answer =>
      cases hout : Delivery.outcome answer with
      | ok u => exact ⟨s, recording work m rest time, by rw [step, hout]⟩
      | error err => exact ⟨s, proceed work rest, by rw [step, hout]⟩
  obtain ⟨s', c', hstep⟩ := hstep
  exact ⟨s', c', moved_of_step hstep⟩

theorem want_of_isUnderWay (h : c.isUnderWay = true) : c.want ≠ .nothing := by
  cases c <;> first | exact Want.noConfusion | cases h

theorem Moved.underWay_or_finished (h : Moved base s c e s' c') :
    c'.isUnderWay = true ∨ c' = finished := by
  have hproceed : ∀ work rest, (proceed work rest).isUnderWay = true ∨
      proceed work rest = finished := by
    intro work rest
    cases rest with
    | nil => exact .inr rfl
    | cons m rest => exact .inl rfl
  cases h with
  | copies | lowers | sends | accepts => exact .inl rfl
  | declines => exact .inr rfl
  | collects | passes | fails | clears | refuses | records => exact hproceed _ _

theorem Moved.looked_append (h : Moved base s c e s' c') (hw : c.isUnderWay = true) :
    c.looked ++ c'.ahead = c.ahead := by
  cases h with
  | copies | declines => cases hw
  | lowers | sends | accepts => rfl
  | collects | passes | fails | clears | refuses | records =>
    rw [ahead_proceed]
    rfl

end Check

namespace Turn

/-- The metric that the check of a loop examines in this turn. -/
def looked (i : Nat) : Turn → List Metric
  | checks j _ c _ => if j = i then c.looked else []
  | _ => []

/-- The metrics that the checks of a loop examine in these turns. -/
def examined (i : Nat) (turns : List Turn) : List Metric :=
  turns.flatMap (looked i)

theorem examined_snoc (i : Nat) (turns : List Turn) (turn : Turn) :
    examined i (turns ++ [turn]) = examined i turns ++ turn.looked i := by
  rw [examined, List.flatMap_append, List.flatMap_singleton]
  rfl

theorem looked_of_other {i : Nat} {turn : Turn} (h : turn.isCheckOf i = false) :
    turn.looked i = [] := by
  cases turn with
  | checks j shared c e => exact if_neg (ne_of_beq_false h)
  | _ => rfl

end Turn

namespace Supervisor

/-! ## At most one loop -/

/-- Every loop that has not ended is registered or waited for, and not both at once. -/
structure Exclusive (s : Supervisor) : Prop where
  held : ∀ (i : Nat) (w : Worker), s.workers[i]? = some w → w.loop ≠ .exited →
    s.registered = some i ∨ s.joining = some i
  empty : s.joining ≠ none → s.registered = none
  started : ∀ i, s.registered = some i → i < s.workers.length

variable {base : String} {turn : Turn} {turns : List Turn} {s s' : Supervisor}

theorem exclusive_initial : Exclusive .initial where
  held i w hw := by cases hw
  empty h := absurd rfl h
  started i hi := by cases hi

namespace Exclusive

theorem start (h : s.Exclusive) (free : s.joining = none) (b : Bool) : (s.start b).Exclusive := by
  cases hreg : s.registered with
  | some i => rwa [start_of_registered hreg]
  | none =>
    rw [start_of_free hreg]
    refine ⟨fun i w hw alive => ?_, fun hjoin => absurd free hjoin, fun i hi => ?_⟩
    · obtain hold | ⟨rfl, -⟩ := getElem?_snoc.mp hw
      · -- nobody else is alive
        have hheld := h.held i w hold alive
        rw [hreg, free] at hheld
        obtain hnone | hnone := hheld <;> cases hnone
      · exact .inl rfl
    · cases hi
      rw [List.length_append, List.length_singleton]
      exact Nat.lt_succ_self _

theorem held_before (h : s.Exclusive) (next : Turns base turn s s')
    (hturn : ∀ b, turn ≠ .starts b) {i : Nat} {w : Worker} (hw : s'.workers[i]? = some w)
    (alive : w.loop ≠ .exited) : s.registered = some i ∨ s.joining = some i := by
  obtain ⟨v, hv, follows⟩ | ⟨b, hstart, -⟩ := next.worker_before hw
  · exact h.held i v hv fun hex => alive (follows.exited hex)
  · exact absurd hstart (hturn b)

theorem beginStop (h : s.Exclusive) (free : s.joining = none) : s.beginStop.Exclusive := by
  cases hreg : s.registered with
  | none => rwa [beginStop_of_free hreg]
  | some i =>
    have next : Turns "" .beginsStop s s.beginStop := .beginsStop s free
    have held := fun (j : Nat) (w : Worker) (hw : s.beginStop.workers[j]? = some w) =>
      h.held_before next (fun _ => Turn.noConfusion) hw
    rw [beginStop_of_registered hreg] at held ⊢
    refine ⟨fun j w hw alive => .inr ?_, fun _ => rfl, fun j hj => by cases hj⟩
    obtain hj | hj := held j w hw alive
    · exact hreg.symm.trans hj
    · rw [free] at hj
      cases hj

theorem endStop (h : s.Exclusive) : s.endStop.Exclusive := by
  obtain heq | ⟨i, v, hi, hv, hex, heq⟩ := s.endStop_cases
  · rwa [heq]
  · rw [heq]
    refine ⟨fun j w hw alive => .inl ?_, fun hjoin => absurd rfl hjoin, h.started⟩
    obtain hj | hj := h.held j w hw alive
    · exact hj
    · obtain rfl : i = j := Option.some.inj (hi.symm.trans hj)
      obtain rfl : v = w := Option.some.inj (hv.symm.trans hw)
      exact absurd hex alive

theorem next (h : s.Exclusive) (next : Turns base turn s s') : s'.Exclusive := by
  have hheld := fun (hturn : ∀ b, turn ≠ .starts b) (i : Nat) (w : Worker) =>
    h.held_before next hturn (i := i) (w := w)
  have hlength := next.workers_length
  cases next with
  | starts _ b free => exact h.start free b
  | beginsStop _ free => exact h.beginStop free
  | endsStop => exact h.endStop
  | signals | rests | heeds | wakes | checks =>
    refine ⟨hheld fun _ => Turn.noConfusion, h.empty, fun i hi => ?_⟩
    obtain heq | ⟨b, hturn, -⟩ := hlength
    · rw [heq]
      exact h.started i hi
    · cases hturn

theorem of_reach (h : Reach base s) : s.Exclusive := by
  induction h with
  | initial => exact exclusive_initial
  | move _ hmove ih =>
    obtain ⟨turn, next⟩ := hmove.exists_turn
    exact ih.next next

theorem alone (h : s.Exclusive) {i j : Nat} {w v : Worker} (hw : s.workers[i]? = some w)
    (hv : s.workers[j]? = some v) (alive : w.loop ≠ .exited) (alive' : v.loop ≠ .exited) :
    i = j := by
  obtain hi | hi := h.held i w hw alive
  · obtain hj | hj := h.held j v hv alive'
    · exact Option.some.inj (hi.symm.trans hj)
    · rw [h.empty (hj ▸ Option.some_ne_none j)] at hi
      cases hi
  · obtain hj | hj := h.held j v hv alive'
    · rw [h.empty (hi ▸ Option.some_ne_none i)] at hj
      cases hj
    · exact Option.some.inj (hi.symm.trans hj)

/-- When a call to stop is done waiting, every loop has ended. -/
theorem exited_of_release (h : s.Exclusive) (taken : s.joining ≠ none)
    (released : s.endStop.joining = none) : ∀ w ∈ s.endStop.workers, w.loop = .exited := by
  intro w hw
  obtain ⟨j, hw⟩ := List.getElem?_of_mem hw
  by_cases hex : w.loop = .exited
  · exact hex
  · obtain hreg | hjoin := h.endStop.held j w hw hex
    · obtain heq | ⟨i, v, -, -, -, heq⟩ := s.endStop_cases
      · rw [heq] at released
        exact absurd released taken
      · rw [heq, h.empty taken] at hreg
        cases hreg
    · rw [released] at hjoin
      cases hjoin

end Exclusive

/-! ## What lasts -/

/-- Loops that have ended stay so, and no loop begins without a call to start. -/
theorem Course.exited (course : Course base s turns s') (ended : ∀ w ∈ s.workers, w.loop = .exited)
    (quiet : ∀ b, .starts b ∉ turns) : ∀ w ∈ s'.workers, w.loop = .exited := by
  induction course with
  | refl => exact ended
  | snoc _ turn next ih =>
    have before := ih fun b hb => quiet b (List.mem_append_left _ hb)
    intro w hw
    obtain ⟨j, hw⟩ := List.getElem?_of_mem hw
    obtain ⟨v, hv, follows⟩ | ⟨b, rfl, -⟩ := next.worker_before hw
    · exact follows.exited (before v (List.mem_of_getElem? hv))
    · exact (quiet b (List.mem_append_right _ List.mem_cons_self)).elim

/-- A worker stays, with all that it was told. -/
theorem Course.worker (course : Course base s turns s') {i : Nat} {w : Worker}
    (hw : s.workers[i]? = some w) : ∃ w', s'.workers[i]? = some w' ∧
      (w.stopping = true → w'.stopping = true) ∧ (w.shutDown = true → w'.shutDown = true) := by
  induction course with
  | refl => exact ⟨w, hw, id, id⟩
  | snoc _ turn next ih =>
    obtain ⟨v, hv, hstop, hdown⟩ := ih
    obtain ⟨w', hw', follows⟩ := next.worker hv
    obtain ⟨hstop', hdown'⟩ := follows.signals
    exact ⟨w', hw', hstop' ∘ hstop, hdown' ∘ hdown⟩

theorem Course.stopping_of_beginStop {i : Nat} (course : Course base s.beginStop turns s')
    (hreg : s.registered = some i) (hi : i < s.workers.length) :
    ∃ w, s'.workers[i]? = some w ∧ w.stopping = true := by
  have told : s.beginStop.workers[i]? = some { s.workers[i] with stopping := true } := by
    rw [beginStop_of_registered hreg, List.getElem?_modify_eq, List.getElem?_eq_getElem hi]
    rfl
  obtain ⟨w, hw, hstop, -⟩ := course.worker told
  exact ⟨w, hw, hstop rfl⟩

theorem Course.shutDown_of_signal {i : Nat} (course : Course base (s.signal i) turns s')
    (hi : i < s.workers.length) : ∃ w, s'.workers[i]? = some w ∧ w.shutDown = true := by
  have told : (s.signal i).workers[i]? = some { s.workers[i] with shutDown := true } := by
    rw [signal, modify, List.getElem?_modify_eq, List.getElem?_eq_getElem hi]
    rfl
  obtain ⟨w, hw, -, hdown⟩ := course.worker told
  exact ⟨w, hw, hdown rfl⟩

/-- The loop is still in the check that copied its settings before these turns: what it examined in
them and what is ahead are all metrics, and it has made fewer steps than a check has. -/
def InCheck (s : Supervisor) (i : Nat) (since : List Turn) : Prop :=
  ∃ w c, s.workers[i]? = some w ∧ w.loop = .checking c ∧ c.isUnderWay = true ∧
    Turn.examined i since ++ c.ahead = Metric.all ∧
    c.left + since.countP (Turn.isCheckOf i) < Check.begun.left

/-- A turn leaves the loop in its check unless all metrics are examined. -/
theorem Turns.inCheck (next : Turns base turn s s') {i : Nat} {since : List Turn}
    (h : s.InCheck i since) :
    s'.InCheck i (since ++ [turn]) ∨ Turn.examined i (since ++ [turn]) = Metric.all := by
  obtain ⟨w, c, hw, hc, busy, hdone, hleft⟩ := h
  obtain ⟨w', hw', follows⟩ := next.worker hw
  rw [InCheck, Turn.examined_snoc, List.countP_append, List.countP_singleton]
  obtain ⟨other, hc'⟩ | ⟨shared, shared', e, c', rfl, moved, rfl⟩ := follows.checking hc
  · rw [Turn.looked_of_other other, List.append_nil, other, if_neg Bool.false_ne_true]
    exact .inl ⟨w', c, hw', hc', busy, hdone, hleft⟩
  · have hlooked : (Turn.checks i shared c e).looked i = c.looked := if_pos rfl
    have hown : (Turn.checks i shared c e).isCheckOf i = true := beq_self_eq_true i
    have hstep : c'.left < c.left := Check.left_step (Check.step_of_moved moved)
    rw [hlooked, hown, if_pos rfl]
    rw [← moved.looked_append busy, ← List.append_assoc] at hdone
    obtain busy' | rfl := moved.underWay_or_finished
    · exact .inl ⟨_, c', hw', w.loop_after (Check.want_of_isUnderWay busy'), busy', hdone,
        by omega⟩
    · rw [Check.ahead, List.append_nil] at hdone
      exact .inr hdone

theorem Course.inCheck (course : Course base s turns s') {i : Nat} (h : s.InCheck i []) :
    s'.InCheck i turns ∨ Metric.all <+: Turn.examined i turns := by
  induction course with
  | refl => exact .inl h
  | snoc _ turn next ih =>
    obtain hbusy | hdone := ih
    · obtain hbusy' | hdone := next.inCheck hbusy
      · exact .inl hbusy'
      · exact .inr (hdone ▸ List.prefix_refl _)
    · rw [Turn.examined_snoc]
      exact .inr (hdone.trans (List.prefix_append ..))

theorem turns_of_moved {i : Nat} {w : Worker} {c c' : Check} {e : Event} {shared shared' : Shared}
    (here : s.workers[i]? = some w) (busy : w.loop = .checking c)
    (moved : Check.Moved base shared c e shared' c') :
    Turns base (.checks i shared c e) s
      { s with workers := s.workers.set i (w.after c') } :=
  .checks s i w _ shared shared' c e here busy
    (Worker.step_eq_some_iff.mpr ⟨c, c', busy, Check.step_of_moved moved, rfl⟩)

theorem Turns.inCheck_of_copies {i : Nat} {shared : Shared} {e : Event}
    (next : Turns base (.checks i shared .begun e) s s')
    (on : shared.config.isDeliverable = true) : s'.InCheck i [] := by
  cases next with
  | checks _ _ w w' _ shared' _ _ here busy moved =>
    obtain ⟨c, c', hc, hstep, rfl⟩ := Worker.step_eq_some_iff.mp moved
    obtain rfl : Check.begun = c := Loop.checking.inj (busy.symm.trans hc)
    cases Check.moved_of_step hstep with
    | copies =>
      have busy' : (Check.collecting shared.config).isUnderWay = true := rfl
      exact ⟨_, .collecting shared.config, List.getElem?_set_self (lt_of_getElem? here),
        w.loop_after (Check.want_of_isUnderWay busy'), busy', rfl, Check.left_step hstep⟩
    | declines _ _ off =>
      rw [on] at off
      cases off

/-! ## The whole -/

/-- What callers may rely on, from a supervisor on. -/
structure Orderly (base : String) (s : Supervisor) : Prop where
  /-- At most one loop has not ended, so checks of loops do not overlap. -/
  alone : ∀ (i j : Nat) (w v : Worker), s.workers[i]? = some w → s.workers[j]? = some v →
    w.loop ≠ .exited → v.loop ≠ .exited → i = j
  /-- A call to stop that took a worker returns when no loop is alive, and until a call to start
  none is. -/
  ended : ∀ (s₁ s₂ : Supervisor) (more : List Turn), Turns base .endsStop s s₁ →
    s.joining ≠ none → s₁.joining = none → Course base s₁ more s₂ → (∀ b, .starts b ∉ more) →
    ∀ w ∈ s₂.workers, w.loop = .exited
  /-- A check of a loop with deliverable settings examines every metric in order; the loop is in it
  until then, for a bounded number of steps, and goes on with whatever the check waits for. -/
  whole : ∀ (i : Nat) (shared : Shared) (e : Event) (s₁ s₂ : Supervisor) (more : List Turn),
    Turns base (.checks i shared .begun e) s s₁ → shared.config.isDeliverable = true →
    Course base s₁ more s₂ → s₂.InCheck i more ∨ Metric.all <+: Turn.examined i more
  proceeds : ∀ (i : Nat) (w : Worker) (c : Check) (shared : Shared) (e : Event),
    s.workers[i]? = some w → w.loop = .checking c → c.want.Takes e →
    ∃ s₁, Turns base (.checks i shared c e) s s₁
  /-- The worker that a call to stop takes out is told to stop, for good. -/
  stops : ∀ (i : Nat) (s₁ s₂ : Supervisor) (more : List Turn), s.registered = some i →
    Turns base .beginsStop s s₁ → Course base s₁ more s₂ →
    ∃ w, s₂.workers[i]? = some w ∧ w.stopping = true
  /-- So is a worker to which a shutdown is signalled. -/
  shutsDown : ∀ (i : Nat) (s₁ s₂ : Supervisor) (more : List Turn), i < s.workers.length →
    Turns base (.signals i) s s₁ → Course base s₁ more s₂ →
    ∃ w, s₂.workers[i]? = some w ∧ w.shutDown = true
  /-- A loop that was told sees it whenever it sleeps. -/
  heeds : ∀ (i : Nat) (w : Worker) (interval : Span), s.workers[i]? = some w →
    w.loop = .sleeping interval → w.isSignalled = true →
    Turns base (.heeds i) s { s with workers := s.workers.set i { w with loop := .exited } }

theorem orderly_of_reach (h : Reach base s) : s.Orderly base := by
  have exclusive := Exclusive.of_reach h
  constructor
  case alone => exact fun i j w v hw hv => exclusive.alone hw hv
  case ended =>
    intro s₁ s₂ more next taken released course quiet
    cases next
    exact course.exited (exclusive.exited_of_release taken released) quiet
  case whole => exact fun i shared e s₁ s₂ more next on course =>
    course.inCheck (next.inCheck_of_copies on)
  case proceeds =>
    intro i w c shared e hw busy takes
    obtain ⟨shared', c', moved⟩ := Check.exists_moved takes base shared
    exact ⟨_, turns_of_moved hw busy moved⟩
  case stops =>
    intro i s₁ s₂ more hreg next course
    cases next
    exact course.stopping_of_beginStop hreg (exclusive.started i hreg)
  case shutsDown =>
    intro i s₁ s₂ more hi next course
    cases next
    exact course.shutDown_of_signal hi
  case heeds =>
    intro i w interval hw hsleep hsignal
    have hheed : w.heed = { w with loop := .exited } := by
      rw [Worker.heed, hsleep, if_pos hsignal]
    rw [← hheed]
    exact .heeds s i w hw

end Supervisor

namespace Sample

def idle : Snapshot :=
  { Snapshot.empty with cpuUsage := 1, memoryUsage := 1, diskUsage := 1 }

theorem moved_idle (m : Metric) (rest : List Metric) :
    Check.Moved base (.initial settings) (.examining ⟨settings, idle⟩ m rest) (.enter time time)
      (.initial settings) (Check.proceed ⟨settings, idle⟩ rest) := by
  refine moved_of_ok ?_ rest
  rw [show (Shared.initial settings).alerts.get m = .never from AlertStates.get_initial m]
  cases m <;> decide +kernel

def woken : Supervisor := ⟨[⟨false, false, .checking .begun⟩], some 0, none⟩

def copied : Supervisor := ⟨[⟨false, false, .checking (.collecting settings)⟩], some 0, none⟩

theorem reach_woken : Supervisor.Reach base woken := by
  have new : Supervisor.Reach base .initial := .initial
  have started := new.move (.starts _ false rfl)
  have sleeps := started.move (.steps _ 0 _ _ rfl (.rests _ (.initial settings)))
  exact sleeps.move (.steps _ 0 _ _ rfl (.wakes _))

theorem copied_of_woken : Supervisor.Turns base
    (.checks 0 (.initial settings) .begun (.enter time time)) woken copied := by
  have here : woken.workers[0]? = some ⟨false, false, .checking .begun⟩ := rfl
  exact Supervisor.turns_of_moved here rfl (.copies time time deliverable)

def stoppingAt (loop : Loop) : Supervisor := ⟨[⟨true, false, loop⟩], none, some 0⟩

theorem turns_stoppingAt {c c' : Check} {e : Event}
    (moved : Check.Moved base (.initial settings) c e (.initial settings) c') (loop : Loop)
    (hloop : (if c'.want = .nothing then .reading else .checking c') = loop) :
    Supervisor.Turns base (.checks 0 (.initial settings) c e) (stoppingAt (.checking c))
      (stoppingAt loop) := by
  subst hloop
  have here : (stoppingAt (.checking c)).workers[0]? = some ⟨true, false, .checking c⟩ := rfl
  exact Supervisor.turns_of_moved here rfl moved

/-- A loop is told to stop after it copied the settings for a check: it examines every metric, and
no loop is left when the call to stop returns. -/
theorem stopped_in_check : ∃ (s : Supervisor) (more : List Turn), Turn.beginsStop ∈ more ∧
    Supervisor.Course base copied more s ∧ Metric.all <+: Turn.examined 0 more ∧
    s.joining = none ∧ ∀ w ∈ s.workers, w.loop = .exited := by
  have told : Supervisor.Course base copied [.beginsStop]
      (stoppingAt (.checking (.collecting settings))) :=
    Supervisor.Course.refl.snoc _ (.beginsStop copied rfl)
  have collected := told.snoc _ (turns_stoppingAt (.collects settings idle)
    (.checking (.examining ⟨settings, idle⟩ .cpu [.memory, .disk])) rfl)
  have cpu := collected.snoc _ (turns_stoppingAt (moved_idle .cpu [.memory, .disk])
    (.checking (.examining ⟨settings, idle⟩ .memory [.disk])) rfl)
  have memory := cpu.snoc _ (turns_stoppingAt (moved_idle .memory [.disk])
    (.checking (.examining ⟨settings, idle⟩ .disk [])) rfl)
  have disk := memory.snoc _ (turns_stoppingAt (moved_idle .disk []) .reading rfl)
  have rests := disk.snoc _ (.rests (stoppingAt .reading) 0 _ (.initial settings) rfl)
  have heeds := rests.snoc _ (.heeds (stoppingAt (.sleeping settings.checkInterval)) 0 _ rfl)
  have ends := heeds.snoc _ (.endsStop (stoppingAt .exited))
  have reach := heeds.reach (reach_woken.move copied_of_woken.move)
  have ended := (Supervisor.orderly_of_reach reach).ended _ _ [] (.endsStop (stoppingAt .exited))
    (Option.some_ne_none 0) rfl .refl (fun _ => List.not_mem_nil)
  refine ⟨_, _, ?_, ends, ?_, rfl, ended⟩
  · simp
  · obtain ⟨w, c, hw, hc, -⟩ | hwhole := (Supervisor.orderly_of_reach reach_woken).whole 0 _ _ _ _ _
      copied_of_woken deliverable ends
    · rw [ended w (List.mem_of_getElem? hw)] at hc
      cases hc
    · exact hwhole

end Sample

end HostAlert.Manager
