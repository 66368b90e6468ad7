import HostAlert.Proofs.Delivery.Post
import HostAlert.Proofs.Manager.Run

/-!
# The metrics of a check in turn

An `Occasion` is the turn of one metric in a check. The steps of a check between which nothing else
changes the shared state (`Check.Path`) begin with those that treat its next metric
(`Check.Path.treats`): an evaluation, and if an alert starts and can be sent, its request and the
answer to it. What one metric is left with does not matter to the others (`Treats.append`), so a
check that comes to its end has treated each metric as it was at first (`Check.Path.concludes`).
-/

namespace HostAlert.Manager

/-! ### Signs -/

/-- What is seen of a check from outside. -/
inductive Sign
  /-- A snapshot is collected. -/
  | collects (info : Snapshot)
  /-- The metric is examined; the clock shows `now`, and `attempt` when a delivery is to begin. -/
  | examines (m : Metric) (now attempt : Instant)
  /-- The alert of the metric is requested to be delivered. -/
  | requests (m : Metric) (call : Http.Call)
  /-- The request was answered. -/
  | hears (answer : Http.Answer)

def Check.seen : Check → Event → List Sign
  | _, .collected info => [.collects info]
  | examining _ m _, .enter now attempt => [.examines m now attempt]
  | _, .answered answer => [.hears answer]
  | _, .enter _ _ => []

def Check.shown : Check → List Sign
  | awaiting _ m _ _ call => [.requests m call]
  | _ => []

def Deed.signs (d : Deed) : List Sign :=
  match d.before, d.after with
  | .check c, .check c' => c.seen d.event ++ c'.shown
  | _, _ => []

/-! ### Occasions -/

/-- The turn of a metric in a check: what the clock shows, and the answer if a request is made. -/
structure Occasion where
  metric : Metric
  now : Instant
  attempt : Instant
  answer : Http.Answer

namespace Occasion

variable (o : Occasion) (base : String) (work : Work) (a : AlertState)

def evaluation : Evaluation :=
  Check.evaluation work o.metric a o.now

/-- The request for an alert of the metric, if one starts and can be sent. -/
def call? : Option Http.Call :=
  if o.evaluation work a = .startsToExceed then
    match Delivery.prepare base work.config (Check.alertText work o.metric) with
    | .send call => some call
    | _ => none
  else none

def Accepted : Prop :=
  (o.call? base work a).isSome = true ∧ Delivery.outcome o.answer = .ok ()

def signs : List Sign :=
  .examines o.metric o.now o.attempt ::
    match o.call? base work a with
    | some call => [.requests o.metric call, .hears o.answer]
    | none => []

/-- What becomes of the alert state of the metric. -/
structure Settles (a' : AlertState) : Prop where
  active : a'.active = true ↔
    o.Accepted base work a ∨ a.active = true ∧ (o.evaluation work a).clears = false
  dated : o.Accepted base work a → a'.lastAlert = some o.attempt
  kept : ¬ o.Accepted base work a → a'.lastAlert = a.lastAlert
  /-- An alert that is not delivered leaves no trace. -/
  failed : o.evaluation work a = .startsToExceed → ¬ o.Accepted base work a → a' = a

variable {o base work a}

theorem call?_of_not_starts (h : o.evaluation work a ≠ .startsToExceed) :
    o.call? base work a = none :=
  if_neg h

theorem call?_of_send {call : Http.Call} (starts : o.evaluation work a = .startsToExceed)
    (plan : Delivery.prepare base work.config (Check.alertText work o.metric) = .send call) :
    o.call? base work a = some call := by
  rw [call?, if_pos starts, plan]

theorem call?_of_fail {e : DeliveryError}
    (plan : Delivery.prepare base work.config (Check.alertText work o.metric) = .fail e) :
    o.call? base work a = none := by
  rw [call?, plan]
  split <;> rfl

theorem signs_of_some {call : Http.Call} (h : o.call? base work a = some call) :
    o.signs base work a =
      [.examines o.metric o.now o.attempt, .requests o.metric call, .hears o.answer] := by
  rw [signs, h]

theorem signs_of_none (h : o.call? base work a = none) :
    o.signs base work a = [.examines o.metric o.now o.attempt] := by
  rw [signs, h]

theorem not_accepted (h : o.call? base work a = none) : ¬ o.Accepted base work a := by
  rintro ⟨hsome, -⟩
  rw [h] at hsome
  cases hsome

theorem not_starts_of_clears (h : (o.evaluation work a).clears = true) :
    o.evaluation work a ≠ .startsToExceed := by
  intro starts
  rw [starts] at h
  cases h

theorem settles_of_clears (h : (o.evaluation work a).clears = true) :
    o.Settles base work a { a with active := false } := by
  have hstarts := not_starts_of_clears h
  have hnot : ¬ o.Accepted base work a := not_accepted (call?_of_not_starts hstarts)
  refine ⟨?_, fun accepted => absurd accepted hnot, fun _ => rfl,
    fun starts => absurd starts hstarts⟩
  rw [h]
  simp [hnot]

theorem settles_of_not_accepted (h : (o.evaluation work a).clears = false)
    (hnot : ¬ o.Accepted base work a) : o.Settles base work a a := by
  refine ⟨?_, fun accepted => absurd accepted hnot, fun _ => rfl, fun _ _ => rfl⟩
  rw [h]
  simp [hnot]

theorem settles_of_accepted (h : o.Accepted base work a) :
    o.Settles base work a ⟨true, some o.attempt⟩ :=
  ⟨iff_of_true rfl (.inl h), fun _ => rfl, fun hnot => absurd h hnot,
    fun _ hnot => absurd h hnot⟩

end Occasion

/-! ### Treatment -/

/-- What these deeds do to the metrics of the occasions, each as its alert state was before. -/
structure Treats (base : String) (work : Work) (s : Shared) (occasions : List Occasion)
    (deeds : List Deed) (s' : Shared) : Prop where
  config : s'.config = s.config
  others : ∀ m, m ∉ occasions.map Occasion.metric → s'.alerts.get m = s.alerts.get m
  settles : ∀ o ∈ occasions,
    o.Settles base work (s.alerts.get o.metric) (s'.alerts.get o.metric)
  signs : deeds.flatMap Deed.signs =
    occasions.flatMap fun o => o.signs base work (s.alerts.get o.metric)

namespace Treats

variable {base : String} {work : Work} {s s₁ s' : Shared} {o : Occasion}
  {occasions : List Occasion} {deeds deeds' : List Deed}

theorem nil (base : String) (work : Work) (s : Shared) : Treats base work s [] [] s :=
  ⟨rfl, fun _ _ => rfl, nofun, rfl⟩

theorem single (config : s'.config = s.config)
    (others : ∀ m, m ≠ o.metric → s'.alerts.get m = s.alerts.get m)
    (settles : o.Settles base work (s.alerts.get o.metric) (s'.alerts.get o.metric))
    (signs : deeds.flatMap Deed.signs = o.signs base work (s.alerts.get o.metric)) :
    Treats base work s [o] deeds s' where
  config := config
  others m hm := others m (by simpa using hm)
  settles p hp := by
    rw [List.mem_singleton.mp hp]
    exact settles
  signs := by rw [signs, List.flatMap_singleton]

theorem cleared (low : (o.evaluation work (s.alerts.get o.metric)).clears = true)
    (signs : deeds.flatMap Deed.signs = [.examines o.metric o.now o.attempt]) :
    Treats base work s [o] deeds (s.clearAlert o.metric) := by
  have hnone : o.call? base work (s.alerts.get o.metric) = none :=
    Occasion.call?_of_not_starts (Occasion.not_starts_of_clears low)
  refine .single rfl (fun m hm => ?_) ?_ (signs.trans (Occasion.signs_of_none hnone).symm)
  · rw [Shared.clearAlert, AlertStates.get_clear, if_neg (Ne.symm hm)]
  · rw [Shared.clearAlert, AlertStates.get_clear, if_pos rfl]
    exact Occasion.settles_of_clears low

/-- A turn without a request and without an end of the alert changes nothing, -/
theorem unsent (kept : (o.evaluation work (s.alerts.get o.metric)).clears = false)
    (hnone : o.call? base work (s.alerts.get o.metric) = none)
    (signs : deeds.flatMap Deed.signs = [.examines o.metric o.now o.attempt]) :
    Treats base work s [o] deeds s :=
  .single rfl (fun _ _ => rfl)
    (Occasion.settles_of_not_accepted kept (Occasion.not_accepted hnone))
    (signs.trans (Occasion.signs_of_none hnone).symm)

/-- and neither does one whose request is not accepted. -/
theorem refused {call : Http.Call} {e : DeliveryError}
    (starts : o.evaluation work (s.alerts.get o.metric) = .startsToExceed)
    (plan : Delivery.prepare base work.config (Check.alertText work o.metric) = .send call)
    (failed : Delivery.outcome o.answer = .error e)
    (signs : deeds.flatMap Deed.signs =
      [.examines o.metric o.now o.attempt, .requests o.metric call, .hears o.answer]) :
    Treats base work s [o] deeds s := by
  have hnot : ¬ o.Accepted base work (s.alerts.get o.metric) := by
    rintro ⟨-, ok⟩
    rw [failed] at ok
    cases ok
  refine .single rfl (fun _ _ => rfl)
    (Occasion.settles_of_not_accepted (by rw [starts]; rfl) hnot) ?_
  rw [signs, Occasion.signs_of_some (Occasion.call?_of_send starts plan)]

theorem delivered {call : Http.Call} (on : s.config.enabled = true)
    (starts : o.evaluation work (s.alerts.get o.metric) = .startsToExceed)
    (plan : Delivery.prepare base work.config (Check.alertText work o.metric) = .send call)
    (ok : Delivery.outcome o.answer = .ok ())
    (signs : deeds.flatMap Deed.signs =
      [.examines o.metric o.now o.attempt, .requests o.metric call, .hears o.answer]) :
    Treats base work s [o] deeds (s.recordDelivery o.metric o.attempt) := by
  have hsome : o.call? base work (s.alerts.get o.metric) = some call :=
    Occasion.call?_of_send starts plan
  rw [Shared.recordDelivery, if_pos on]
  refine .single rfl (fun m hm => ?_) ?_ (signs.trans (Occasion.signs_of_some hsome).symm)
  · rw [AlertStates.get_markActive, if_neg (Ne.symm hm)]
  · rw [AlertStates.get_markActive, if_pos rfl]
    exact Occasion.settles_of_accepted ⟨by rw [hsome]; rfl, ok⟩

/-- Metrics that are treated later are found as they were at first. -/
theorem append (first : Treats base work s [o] deeds s₁)
    (later : Treats base work s₁ occasions deeds' s')
    (fresh : o.metric ∉ occasions.map Occasion.metric) :
    Treats base work s (o :: occasions) (deeds ++ deeds') s' := by
  have hsame : ∀ p ∈ occasions, s₁.alerts.get p.metric = s.alerts.get p.metric := by
    intro p hp
    refine first.others p.metric fun hmem => fresh ?_
    rw [List.map_singleton, List.mem_singleton] at hmem
    exact hmem ▸ List.mem_map_of_mem hp
  refine ⟨later.config.trans first.config, fun m hm => ?_, fun p hp => ?_, ?_⟩
  · rw [List.map_cons, List.mem_cons, not_or] at hm
    rw [later.others m hm.2, first.others m (by simpa using hm.1)]
  · obtain rfl | hp := List.mem_cons.mp hp
    · rw [later.others p.metric fresh]
      exact first.settles p (List.mem_singleton_self p)
    · rw [← hsame p hp]
      exact later.settles p hp
  · rw [List.flatMap_append, first.signs, later.signs, List.flatMap_singleton, List.flatMap_cons]
    have hlater : occasions.map (fun p => p.signs base work (s₁.alerts.get p.metric)) =
        occasions.map fun p => p.signs base work (s.alerts.get p.metric) :=
      List.map_congr_left fun p hp => by rw [hsame p hp]
    rw [List.flatMap_def, List.flatMap_def, hlater]

end Treats

/-! ### Steps of a check in a row -/

namespace Check

/-- The steps of a check between which nothing else changes the shared state. -/
inductive Path (base : String) (i : Nat) : Shared → Check → List Deed → Shared → Check → Prop
  | stays (s : Shared) (c : Check) : Path base i s c [] s c
  | goes {s s₁ s' : Shared} {c c₁ c' : Check} {e : Event} {deeds : List Deed}
      (moved : Moved base s c e s₁ c₁) (path : Path base i s₁ c₁ deeds s' c') :
      Path base i s c (⟨i, e, s, .check c, s₁, .check c₁⟩ :: deeds) s' c'

namespace Path

variable {base : String} {i : Nat} {s s' s'' : Shared} {c c' c'' : Check} {e : Event}
  {deeds : List Deed} {work : Work} {m : Metric} {rest : List Metric}

theorem snoc (path : Path base i s c deeds s' c') (moved : Moved base s' c' e s'' c'') :
    Path base i s c (deeds ++ [⟨i, e, s', .check c', s'', .check c''⟩]) s'' c'' := by
  induction path with
  | stays s c => exact .goes moved (.stays _ _)
  | goes first _ ih => exact .goes first (ih moved)

theorem length_le (path : Path base i s c deeds s' c') : deeds.length + c'.left ≤ c.left := by
  induction path with
  | stays => exact Nat.le_of_eq (Nat.zero_add _)
  | goes moved _ ih =>
    have hstep := left_step (step_of_moved moved)
    rw [List.length_cons]
    omega

/-- The steps of a check that treats a metric and comes to its end later begin with the steps that
treat the metric. -/
theorem treats (path : Path base i s (.examining work m rest) deeds s' .finished)
    (on : s.config.enabled = true) : ∃ (o : Occasion) (turn later : List Deed) (s₁ : Shared),
      deeds = turn ++ later ∧ o.metric = m ∧ Treats base work s [o] turn s₁ ∧
      Path base i s₁ (proceed work rest) later s' .finished := by
  cases path with
  | goes moved path =>
  cases moved with
  | lowers _ _ _ now attempt low =>
    cases path with
    | goes moved path =>
    cases moved with
    | clears =>
      refine ⟨⟨m, now, attempt, .failed⟩, [_, _], _, s.clearAlert m, rfl, rfl, ?_, path⟩
      refine .cleared low ?_
      -- where the turn ends nothing is shown, here and below, whether another metric follows or not
      cases rest <;> rfl
  | passes _ _ _ now attempt kept quiet =>
    refine ⟨⟨m, now, attempt, .failed⟩, [_], _, _, rfl, rfl, ?_, path⟩
    refine .unsent kept (Occasion.call?_of_not_starts quiet) ?_
    cases rest <;> rfl
  | fails _ _ _ now attempt starts e plan =>
    refine ⟨⟨m, now, attempt, .failed⟩, [_], _, _, rfl, rfl, ?_, path⟩
    refine .unsent (by rw [Occasion.evaluation, starts]; rfl) (Occasion.call?_of_fail plan) ?_
    cases rest <;> rfl
  | sends _ _ _ now attempt starts call plan =>
    cases path with
    | goes moved path =>
    cases moved with
    | refuses _ _ _ _ _ answer e failed =>
      refine ⟨⟨m, now, attempt, answer⟩, [_, _], _, _, rfl, rfl, ?_, path⟩
      refine .refused starts plan failed ?_
      cases rest <;> rfl
    | accepts _ _ _ _ _ answer ok =>
      cases path with
      | goes moved path =>
      cases moved with
      | records =>
        refine ⟨⟨m, now, attempt, answer⟩, [_, _, _], _, _, rfl, rfl, ?_, path⟩
        refine .delivered on starts plan ok ?_
        cases rest <;> rfl

theorem treats_all (path : Path base i s (proceed work rest) deeds s' .finished)
    (on : s.config.enabled = true) (distinct : rest.Nodup) :
    ∃ occasions : List Occasion, occasions.map Occasion.metric = rest ∧
      Treats base work s occasions deeds s' := by
  induction rest generalizing s deeds with
  | nil =>
    cases path with
    | stays => exact ⟨[], rfl, .nil base work _⟩
    | goes moved _ => cases moved
  | cons m rest ih =>
    obtain ⟨fresh, later_distinct⟩ := List.nodup_cons.mp distinct
    obtain ⟨o, turn, later, s₁, rfl, rfl, first, path⟩ := path.treats on
    obtain ⟨occasions, rfl, hlater⟩ := ih path (by rw [first.config, on]) later_distinct
    exact ⟨o :: occasions, rfl, first.append hlater fresh⟩

end Path

/-- What is seen of a check that alerts, and what it leaves once it has come to its end. -/
structure Concludes (base : String) (s : Shared) (work : Work) (occasions : List Occasion)
    (signs : List Sign) (s' : Shared) : Prop where
  copy : work.config = s.config
  metrics : occasions.map Occasion.metric = [.cpu, .memory, .disk]
  /-- One snapshot is collected, then the metrics have their turns. -/
  signs : signs = .collects work.info ::
    occasions.flatMap fun o => o.signs base work (s.alerts.get o.metric)
  /-- Every alert that starts is requested to be delivered, or there is no URL to send it to. -/
  attempts : ∀ o ∈ occasions, o.evaluation work (s.alerts.get o.metric) = .startsToExceed →
    (∃ call, o.call? base work (s.alerts.get o.metric) = some call ∧
      Delivery.Posts call s.config.chatId (alertText work o.metric)) ∨
    ∃ e, Delivery.prepare base s.config (alertText work o.metric) = .fail e
  config : s'.config = s.config
  settles : ∀ o ∈ occasions,
    o.Settles base work (s.alerts.get o.metric) (s'.alerts.get o.metric)

variable {base : String} {i : Nat} {s s' : Shared} {deeds : List Deed}

theorem attempts_of_starts {o : Occasion} {work : Work} {a : AlertState}
    (starts : o.evaluation work a = .startsToExceed) :
    (∃ call, o.call? base work a = some call ∧
      Delivery.Posts call work.config.chatId (alertText work o.metric)) ∨
    ∃ e, Delivery.prepare base work.config (alertText work o.metric) = .fail e := by
  cases plan : Delivery.prepare base work.config (alertText work o.metric) with
  | skip => exact absurd plan (Delivery.prepare_alert _ _ _ _ _ _ _)
  | fail e => exact .inr ⟨e, rfl⟩
  | send call =>
    exact .inl ⟨call, Occasion.call?_of_send starts plan, Delivery.posts_of_prepare plan⟩

/-- A check that comes to its end alerts as its settings say, or it has nobody to alert. -/
theorem Path.concludes (path : Path base i s .begun deeds s' .finished) :
    (s.config.isDeliverable = true → ∃ work occasions,
      Concludes base s work occasions (deeds.flatMap Deed.signs) s') ∧
    (s.config.isDeliverable = false → deeds.flatMap Deed.signs = [] ∧ s' = s) := by
  cases path with
  | goes moved path =>
  cases moved with
  | declines now attempt off =>
    cases path with
    | goes moved _ => cases moved
    | stays =>
      rw [off]
      exact ⟨nofun, fun _ => ⟨rfl, rfl⟩⟩
  | copies now attempt on =>
    cases path with
    | goes moved path =>
    cases moved with
    | collects _ info =>
      have enabled : s.config.enabled = true := (Bool.and_eq_true_iff.mp on).1
      obtain ⟨occasions, hmetrics, treats⟩ := path.treats_all enabled (by decide)
      rw [on]
      refine ⟨fun _ => ⟨⟨s.config, info⟩, occasions, rfl, hmetrics, ?_,
        fun o _ => attempts_of_starts, treats.config, treats.settles⟩, nofun⟩
      rw [← treats.signs]
      rfl

end Check

end HostAlert.Manager
