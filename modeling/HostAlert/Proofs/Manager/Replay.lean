import HostAlert.Proofs.Manager.Watch

/-!
# A watch beside the system

`Check.phase` is what a check is yet to do about one metric; a `Watch` agrees with it and with the
shared state through every step of the check (`Watch.Matches`). Where checks do not overlap, the
watch then shows the whole system (`Shows`), and every deed does what its cues say
(`Shows.plays`).
-/

namespace HostAlert.Manager

/-! ## What a check is yet to do about a metric -/

namespace Check

/-- No metric comes twice in what the check has left. -/
def Distinct : Check → Prop
  | examining _ m rest | clearing _ m rest | awaiting _ m rest _ _ | recording _ m rest _ =>
    (m :: rest).Nodup
  | _ => True

/-- What is to be done about a metric while others are still to be treated. -/
def remaining (work : Work) (rest : List Metric) (m : Metric) : Phase :=
  if m ∈ rest then .ahead (.ofConfig work.config m) else .idle

/-- What the check is yet to do about the metric, if an alert of it that is on its way will be
accepted or not. -/
def phase (m : Metric) (accepted : Bool) : Check → Phase
  | begun | finished => .idle
  | collecting config => .ahead (.ofConfig config m)
  | examining work n rest => remaining work (n :: rest) m
  | clearing work n rest => if n = m then .clearing else remaining work rest m
  | awaiting work n rest time _ =>
    if n = m then if accepted then .recording time else .idle else remaining work rest m
  | recording work n rest time => if n = m then .recording time else remaining work rest m

variable {base : String} {s s' : Shared} {c c' : Check} {e : Event} {m : Metric} {accepted : Bool}

theorem Moved.of_begun_cases (h : Moved base s .begun e s' c') :
    s' = s ∧ s.config.isDeliverable = true ∧ c' = .collecting s.config ∨
      s' = s ∧ s.config.isDeliverable = false ∧ c' = .finished := by
  cases h with
  | copies now attempt on => exact .inl ⟨rfl, on, rfl⟩
  | declines now attempt off => exact .inr ⟨rfl, off, rfl⟩

theorem distinct_proceed (work : Work) {rest : List Metric} (h : rest.Nodup) :
    (proceed work rest).Distinct := by
  cases rest with
  | nil => exact trivial
  | cons m rest => exact h

theorem Moved.distinct (h : Moved base s c e s' c') (hc : c.Distinct) : c'.Distinct := by
  cases h with
  | copies | declines => exact trivial
  | collects => exact distinct_proceed _ (by decide)
  | lowers | sends | accepts => exact hc
  | passes work n rest | fails work n rest | clears work n rest | refuses work n rest
  | records work n rest => exact distinct_proceed work (List.nodup_cons.mp hc).2

@[simp] theorem phase_proceed (work : Work) (rest : List Metric) (m : Metric) (accepted : Bool) :
    (proceed work rest).phase m accepted = remaining work rest m := by
  cases rest <;> rfl

theorem remaining_cons_self (work : Work) (m : Metric) (rest : List Metric) :
    remaining work (m :: rest) m = .ahead (.ofConfig work.config m) :=
  if_pos List.mem_cons_self

theorem remaining_cons_of_ne (work : Work) {n : Metric} (rest : List Metric) (hn : n ≠ m) :
    remaining work (n :: rest) m = remaining work rest m := by
  simp [remaining, Ne.symm hn]

theorem remaining_of_nodup (work : Work) {rest : List Metric} (h : (m :: rest).Nodup) :
    remaining work rest m = .idle :=
  if_neg (List.nodup_cons.mp h).1

theorem phase_of_not_underWay (h : c.isUnderWay = false) : c.phase m accepted = .idle := by
  cases c <;> first | rfl | cases h

theorem phase_of_past (ahead : m ∉ c.ahead) (quiet : ¬ c.Handles m) :
    c.phase m accepted = .idle := by
  cases c with
  | begun | finished => rfl
  | collecting => exact (ahead (Metric.mem_all m)).elim
  | examining => exact if_neg ahead
  | clearing | awaiting | recording => exact (if_neg quiet).trans (if_neg ahead)

/-- A step that does not concern the metric leaves what is to be done about it, its alert and the
settings. -/
theorem Moved.unconcerned (h : Moved base s c e s' c') (hc : (Task.check c).concerns m = false) :
    c'.phase m accepted = c.phase m accepted ∧ s'.alerts.get m = s.alerts.get m ∧
      s'.config = s.config := by
  cases h with
  | copies | declines => cases hc
  | collects config info =>
    refine ⟨?_, rfl, rfl⟩
    rw [phase_proceed]
    exact if_pos (Metric.mem_all m)
  | lowers work n rest =>
    have hn : n ≠ m := of_decide_eq_false hc
    exact ⟨(if_neg hn).trans (remaining_cons_of_ne work rest hn).symm, rfl, rfl⟩
  | sends work n rest =>
    have hn : n ≠ m := of_decide_eq_false hc
    exact ⟨(if_neg hn).trans (remaining_cons_of_ne work rest hn).symm, rfl, rfl⟩
  | passes work n rest | fails work n rest =>
    have hn : n ≠ m := of_decide_eq_false hc
    exact ⟨(phase_proceed ..).trans (remaining_cons_of_ne work rest hn).symm, rfl, rfl⟩
  | clears work n rest =>
    have hn : n ≠ m := of_decide_eq_false hc
    refine ⟨(phase_proceed ..).trans (if_neg hn).symm, ?_, rfl⟩
    rw [Shared.clearAlert, AlertStates.get_clear, if_neg hn]
  | accepts work n rest =>
    have hn : n ≠ m := of_decide_eq_false hc
    exact ⟨(if_neg hn).trans (if_neg hn).symm, rfl, rfl⟩
  | refuses work n rest =>
    have hn : n ≠ m := of_decide_eq_false hc
    exact ⟨(phase_proceed ..).trans (if_neg hn).symm, rfl, rfl⟩
  | records work n rest time =>
    have hn : n ≠ m := of_decide_eq_false hc
    refine ⟨(phase_proceed ..).trans (if_neg hn).symm, ?_, Shared.config_recordDelivery s n time⟩
    rw [Shared.recordDelivery]
    split
    · rw [AlertStates.get_markActive, if_neg hn]
    · rfl

theorem Moved.of_examining {work : Work} {rest : List Metric}
    (h : Moved base s (.examining work m rest) e s' c') :
    ∃ now attempt, e = .enter now attempt ∧ ((∃ call, c' = .awaiting work m rest attempt call) ∨
      ∀ work' rest' time call, c' ≠ .awaiting work' m rest' time call) := by
  cases h with
  | lowers _ _ _ now attempt => exact ⟨now, attempt, rfl, .inr nofun⟩
  | passes _ _ _ now attempt | fails _ _ _ now attempt =>
    refine ⟨now, attempt, rfl, .inr fun _ _ _ _ hc => ?_⟩
    exact not_handles_proceed work rest m (hc ▸ rfl)
  | sends _ _ _ now attempt _ call => exact ⟨now, attempt, rfl, .inl ⟨call, rfl⟩⟩

theorem Moved.answered_of_awaiting {work : Work} {rest : List Metric} {time : Instant}
    {call : Http.Call} (h : Moved base s (.awaiting work m rest time call) e s' c') :
    ∃ answer, e = .answered answer := by
  cases h with
  | accepts _ _ _ _ _ answer | refuses _ _ _ _ _ answer => exact ⟨answer, rfl⟩

theorem Moved.isUnderWay_of_unconcerned (h : Moved base s c e s' c')
    (hc : (Task.check c).concerns m = false) : c.isUnderWay = true := by
  cases h with
  | copies | declines => cases hc
  | _ => rfl

end Check

theorem Task.concerns_cases {t : Task} {m : Metric} (h : t.concerns m = true) :
    (∃ new, t = .update new) ∨ t = .check .begun ∨
      (∃ work rest, t = .check (.examining work m rest)) ∨
      (∃ work rest time call, t = .check (.awaiting work m rest time call)) ∨
      ((∃ work rest, t = .check (.clearing work m rest)) ∨
        ∃ work rest time, t = .check (.recording work m rest time)) := by
  cases t with
  | update new => exact .inl ⟨new, rfl⟩
  | check c =>
    cases c with
    | begun => exact .inr (.inl rfl)
    | examining work n rest =>
      obtain rfl : n = m := of_decide_eq_true h
      exact .inr (.inr (.inl ⟨work, rest, rfl⟩))
    | awaiting work n rest time call =>
      obtain rfl : n = m := of_decide_eq_true h
      exact .inr (.inr (.inr (.inl ⟨work, rest, time, call, rfl⟩)))
    | clearing work n rest =>
      obtain rfl : n = m := of_decide_eq_true h
      exact .inr (.inr (.inr (.inr (.inl ⟨work, rest, rfl⟩))))
    | recording work n rest time =>
      obtain rfl : n = m := of_decide_eq_true h
      exact .inr (.inr (.inr (.inr (.inr ⟨work, rest, time, rfl⟩))))
    | collecting | finished => cases h
  | notice | trial | updated => cases h

/-- In every run, no metric comes twice in what a check has left. -/
theorem System.Run.distinct {base : String} {config : TelegramConfig} {ok : System → Prop}
    {s : System} {log : List Deed} (run : Run base config ok s log) {i : Nat} {c : Check}
    (hc : s.tasks[i]? = some (.check c)) : c.Distinct := by
  induction run generalizing i c with
  | initial => cases hc
  | begins _ t fresh _ ih =>
    obtain hold | ⟨-, rfl⟩ := getElem?_snoc.mp hc
    · exact ih hold
    · cases c <;> first | exact trivial | cases fresh
  | steps _ d does _ ih =>
    obtain ⟨-, heq⟩ | ⟨-, hold⟩ := does.tasks_result hc
    · obtain ⟨c₀, hb, moved⟩ := does.movedTo heq.symm
      exact moved.distinct (ih (hb ▸ does.here))
    · exact ih hold

/-! ## A watch beside a check -/

/-- The watch agrees with the shared state and with what a check is yet to do. -/
structure Watch.Matches (w : Watch) (m : Metric) (accepted : Bool) (s : Shared) (c : Check) :
    Prop where
  terms : w.terms = .ofConfig s.config m
  alert : s.alerts.get m = w.alert
  phase : c.phase m accepted = w.phase

namespace Watch

variable {base : String} {s s' : Shared} {c c' : Check} {e : Event} {m : Metric} {w : Watch}
  {work : Work} {rest : List Metric} {accepted earlier : Bool} {now attempt tried : Instant}

theorem Matches.evaluation_eq (h : w.Matches m earlier s c) (now : Instant) :
    w.evaluation (.ofConfig work.config m) (m.reading work.info) now =
      Check.evaluation work m (s.alerts.get m) now := by
  rw [h.alert]
  rfl

theorem Matches.ahead (h : w.Matches m earlier s (.examining work m rest)) :
    w.phase = .ahead (.ofConfig work.config m) :=
  h.phase.symm.trans (Check.remaining_cons_self work m rest)

theorem Matches.tries_turn (h : w.Matches m earlier s (.examining work m rest)) :
    w.tries (.turn (m.reading work.info) now tried accepted) = true ↔
      Check.evaluation work m (s.alerts.get m) now = .startsToExceed := by
  simp only [tries, h.ahead, h.evaluation_eq, decide_eq_true_eq]

theorem Matches.step_turn (h : w.Matches m earlier s (.examining work m rest)) :
    w.step (.turn (m.reading work.info) now tried accepted) =
      if (Check.evaluation work m (s.alerts.get m) now).clears then { w with phase := .clearing }
      else if Check.evaluation work m (s.alerts.get m) now = .startsToExceed ∧ accepted = true then
        { w with phase := .recording tried }
      else { w with phase := .idle } := by
  simp only [step, h.ahead, h.evaluation_eq]

/-- A check that looks at the metric does what the cue of its turn says. -/
theorem Matches.turn (h : w.Matches m earlier s (.examining work m rest))
    (moved : Check.Moved base s (.examining work m rest) (.enter now attempt) s' c')
    (distinct : (m :: rest).Nodup)
    (agreed : Check.evaluation work m (s.alerts.get m) now = .startsToExceed →
      tried = attempt ∧ (accepted = true → ∃ call, c' = .awaiting work m rest attempt call)) :
    (w.step (.turn (m.reading work.info) now tried accepted)).Matches m accepted s' c' := by
  rw [h.step_turn]
  have done : (Check.proceed work rest).phase m accepted = .idle := by
    rw [Check.phase_proceed, Check.remaining_of_nodup work distinct]
  cases moved with
  | lowers _ _ _ _ _ low =>
    rw [if_pos low]
    exact ⟨h.terms, h.alert, if_pos rfl⟩
  | passes _ _ _ _ _ kept quiet =>
    rw [kept, if_neg Bool.false_ne_true, if_neg fun ⟨starts, _⟩ => quiet starts]
    exact ⟨h.terms, h.alert, done⟩
  | fails _ _ _ _ _ starts =>
    have kept : ¬ (Evaluation.startsToExceed.clears = true) := Bool.false_ne_true
    have refused : accepted ≠ true := by
      intro hacc
      obtain ⟨call, hcall⟩ := (agreed starts).2 hacc
      cases rest <;> cases hcall
    rw [starts, if_neg kept, if_neg fun ⟨_, hacc⟩ => refused hacc]
    exact ⟨h.terms, h.alert, done⟩
  | sends _ _ _ _ _ starts =>
    have kept : ¬ (Evaluation.startsToExceed.clears = true) := Bool.false_ne_true
    rw [starts, if_neg kept, (agreed starts).1]
    cases accepted with
    | true =>
      rw [if_pos ⟨rfl, rfl⟩]
      exact ⟨h.terms, h.alert, if_pos rfl⟩
    | false =>
      rw [if_neg fun ⟨_, hacc⟩ => Bool.false_ne_true hacc]
      exact ⟨h.terms, h.alert, if_pos rfl⟩

/-- An alert that is answered fares as expected. -/
theorem Matches.answer {time : Instant} {call : Http.Call} {answer : Http.Answer}
    (h : w.Matches m accepted s (.awaiting work m rest time call))
    (moved : Check.Moved base s (.awaiting work m rest time call) (.answered answer) s' c')
    (distinct : (m :: rest).Nodup) (agreed : Delivery.outcome answer = .ok () ↔ accepted = true) :
    w.Matches m accepted s' c' := by
  have hphase : (if accepted = true then Phase.recording time else .idle) = w.phase :=
    (if_pos rfl).symm.trans h.phase
  cases moved with
  | accepts _ _ _ _ _ _ ok =>
    rw [if_pos (agreed.mp ok)] at hphase
    exact ⟨h.terms, h.alert, (if_pos rfl).trans hphase⟩
  | refuses _ _ _ _ _ _ err failed =>
    have refused : ¬ accepted = true := by
      intro hacc
      rw [agreed.mpr hacc] at failed
      cases failed
    rw [if_neg refused] at hphase
    refine ⟨h.terms, h.alert, ?_⟩
    rw [Check.phase_proceed, Check.remaining_of_nodup work distinct, hphase]

/-- A check that takes the state to end or to record the alert of the metric does what the cue of a
change says. -/
theorem Matches.change (h : w.Matches m accepted s c)
    (moved : Check.Moved base s c e s' c') (distinct : c.Distinct)
    (changes : (∃ work rest, c = .clearing work m rest) ∨
      ∃ work rest time, c = .recording work m rest time) :
    (w.step .change).Matches m accepted s' c' := by
  obtain ⟨work, rest, rfl⟩ | ⟨work, rest, time, rfl⟩ := changes
  · have hphase : w.phase = .clearing := h.phase.symm.trans (if_pos rfl)
    cases moved with
    | clears =>
      simp only [step, hphase]
      refine ⟨h.terms, ?_, ?_⟩
      · rw [Shared.clearAlert, AlertStates.get_clear, if_pos rfl, h.alert]
      · rw [Check.phase_proceed, Check.remaining_of_nodup work distinct]
  · have hphase : w.phase = .recording time := h.phase.symm.trans (if_pos rfl)
    cases moved with
    | records =>
      have henabled : w.terms.enabled = s.config.enabled := by rw [h.terms]; rfl
      simp only [step, hphase]
      refine ⟨?_, ?_, ?_⟩
      · rw [Shared.config_recordDelivery]
        exact h.terms
      · rw [henabled, Shared.recordDelivery]
        split
        · rw [AlertStates.get_markActive, if_pos rfl]
        · exact h.alert
      · rw [Check.phase_proceed, Check.remaining_of_nodup work distinct]

/-- A check that does something else about metrics leaves the watch as it is. -/
theorem Matches.elsewhere (h : w.Matches m accepted s c) (moved : Check.Moved base s c e s' c')
    (hc : (Task.check c).concerns m = false) : w.Matches m accepted s' c' := by
  obtain ⟨hphase, halert, hconfig⟩ := moved.unconcerned hc
  exact ⟨hconfig ▸ h.terms, halert.trans h.alert, hphase.trans h.phase⟩

end Watch

/-! ## What a watch shows -/

/-- The watch shows the system after the script. -/
structure Shows (s : System) (script : List Cue) (m : Metric) (w : Watch) : Prop where
  terms : w.terms = .ofConfig s.shared.config m
  alert : s.shared.alerts.get m = w.alert
  /-- The check under way is yet to do what the watch says, -/
  phase : ∀ (j : Nat) (c : Check), s.tasks[j]? = some (.check c) → c.isUnderWay = true →
    c.phase m (lastAccepted script) = w.phase
  /-- and if there is none, nothing is to be done. -/
  busy : w.phase ≠ .idle → ∃ (j : Nat) (c : Check), s.tasks[j]? = some (.check c) ∧
    c.isUnderWay = true

namespace Shows

variable {base : String} {s : System} {script script' : List Cue} {m : Metric} {w w' : Watch}
  {d : Deed}

theorem initial (config : TelegramConfig) (m : Metric) :
    Shows (.initial config) [] m (.initial (.ofConfig config.normalize m)) where
  terms := rfl
  alert := AlertStates.get_initial m
  phase := by
    intro j c hj
    cases hj
  busy h := (h rfl).elim

theorem begins (h : Shows s script m w) {t : Task} (fresh : t.isFresh = true) :
    Shows ⟨s.shared, s.tasks ++ [t]⟩ script m w where
  terms := h.terms
  alert := h.alert
  phase j c hj hw := by
    obtain hold | ⟨-, rfl⟩ := getElem?_snoc.mp hj
    · exact h.phase j c hold hw
    · have hidle : (Task.check c).isUnderWay = false := Task.isUnderWay_fresh fresh
      rw [show c.isUnderWay = false from hidle] at hw
      cases hw
  busy hne := by
    obtain ⟨j, c, hj, hw⟩ := h.busy hne
    exact ⟨j, c, getElem?_snoc_of_getElem? hj, hw⟩

theorem idle (h : Shows s script m w) (idle : s.Idle m) : w.phase = .idle := by
  cases hphase : w.phase with
  | idle => rfl
  | _ =>
    obtain ⟨j, c, hj, hw⟩ := h.busy (by rw [hphase]; exact Phase.noConfusion)
    obtain ⟨hahead, hquiet⟩ := idle j c hj hw
    rw [← hphase, ← h.phase j c hj hw, Check.phase_of_past hahead hquiet]

/-- A cue that is passed over changes nothing. -/
theorem passes (h : Shows s script m w) (idle : s.Idle m) (hstep : w' = w) :
    Shows s script' m w' := by
  subst hstep
  refine ⟨h.terms, h.alert, fun j c hj hw => ?_, h.busy⟩
  obtain ⟨hahead, hquiet⟩ := idle j c hj hw
  rw [Check.phase_of_past hahead hquiet, h.idle idle]

theorem matches_of_underWay (h : Shows s script m w) {j : Nat} {c : Check}
    (hj : s.tasks[j]? = some (.check c)) (hw : c.isUnderWay = true) :
    w.Matches m (lastAccepted script) s.shared c :=
  ⟨h.terms, h.alert, h.phase j c hj hw⟩

theorem own (serial : s.Serial) (serial' : (d.result s).Serial) (does : d.Does base s)
    {c c' : Check} (before : d.before = .check c) (after : d.after = .check c')
    (moving : c.isUnderWay = true ∨ c'.isUnderWay = true)
    (agrees : w'.Matches m (lastAccepted script') d.left c') :
    Shows (d.result s) script' m w' where
  terms := agrees.terms
  alert := agrees.alert
  phase j c₁ hj hw := by
    obtain ⟨-, heq⟩ | ⟨hne, hold⟩ := does.tasks_result hj
    · rw [after] at heq
      cases heq
      exact agrees.phase
    · -- two checks would be under way
      obtain hc | hc' := moving
      · exact (hne (serial.unique hold (before ▸ does.here) hw hc)).elim
      · exact (hne (serial'.unique hj (after ▸ does.tasks_self) hw hc')).elim
  busy hne := by
    refine ⟨d.task, c', after ▸ does.tasks_self, ?_⟩
    cases hw : c'.isUnderWay with
    | true => rfl
    | false => exact (hne (agrees.phase.symm.trans (Check.phase_of_not_underWay hw))).elim

theorem aside (h : Shows s script m w) (does : d.Does base s)
    (before : ∀ c, d.before = .check c → c.isUnderWay = false)
    (after : ∀ c, d.after = .check c → c.isUnderWay = false)
    (terms : w'.terms = .ofConfig d.left.config m) (alert : d.left.alerts.get m = w'.alert)
    (phase : w'.phase = w.phase) (accepted : lastAccepted script' = lastAccepted script) :
    Shows (d.result s) script' m w' where
  terms := terms
  alert := alert
  phase j c hj hw := by
    rw [phase, accepted]
    obtain ⟨-, heq⟩ | ⟨-, hold⟩ := does.tasks_result hj
    · rw [after c heq.symm] at hw
      cases hw
    · exact h.phase j c hold hw
  busy hne := by
    rw [phase] at hne
    obtain ⟨j, c, hj, hw⟩ := h.busy hne
    refine ⟨j, c, ?_, hw⟩
    by_cases hown : j = d.task
    · have hb : d.before = .check c := Option.some.inj (does.here.symm.trans (hown ▸ hj))
      rw [before c hb] at hw
      cases hw
    · rw [Deed.Does.tasks_other hown]
      exact hj

theorem replaces (h : Shows s script m w) (does : d.Does base s) {new : TelegramConfig}
    (hb : d.before = .update new) :
    Shows (d.result s) (script ++ [.replaced (.ofConfig new.normalize m)]) m
      (w.step (.replaced (.ofConfig new.normalize m))) := by
  have hm := does.taskMoved
  rw [hb] at hm
  have hleft : d.left = s.shared.replaceConfig new := does.found ▸ hm.of_update
  refine h.aside does (fun c hc => ?_) (fun c hc => ?_) ?_ ?_ rfl (lastAccepted_replaced ..)
  · rw [hb] at hc
    cases hc
  · obtain ⟨c₀, hb', -⟩ := does.movedTo hc
    rw [hb] at hb'
    cases hb'
  · rw [hleft]
    rfl
  · have henabled : (Terms.ofConfig new.normalize m).enabled = new.enabled := rfl
    rw [hleft, Shared.replaceConfig, Watch.step, henabled]
    cases new.enabled with
    | true => exact h.alert
    | false => exact (AlertStates.get_clearAll s.shared.alerts m).trans (by rw [h.alert]; rfl)

theorem reads (h : Shows s script m w) (serial : s.Serial) (serial' : (d.result s).Serial)
    (does : d.Does base s) (hb : d.before = .check .begun) :
    Shows (d.result s) (script ++ [.read]) m (w.step .read) := by
  have hdeliverable : (w.terms.enabled && w.terms.hasCredentials) =
      s.shared.config.isDeliverable := by
    rw [h.terms]
    rfl
  obtain ⟨c', ha, moved⟩ := does.movedFrom hb
  rw [does.found] at moved
  obtain ⟨hleft, hon, rfl⟩ | ⟨hleft, hoff, rfl⟩ := moved.of_begun_cases
  · refine own serial serial' does hb ha (.inr rfl) ?_
    rw [hleft, Watch.step, hdeliverable, hon, if_pos rfl]
    exact ⟨h.terms, h.alert, by rw [h.terms]; rfl⟩
  · rw [Watch.step, hdeliverable, hoff, if_neg Bool.false_ne_true]
    refine h.aside does (fun c hc => ?_) (fun c hc => ?_) ?_ ?_ rfl (lastAccepted_read script)
    · rw [hb] at hc
      cases hc
      rfl
    · rw [ha] at hc
      cases hc
      rfl
    · rw [hleft]
      exact h.terms
    · rw [hleft]
      exact h.alert

theorem elsewhere (h : Shows s script m w) (serial : s.Serial) (serial' : (d.result s).Serial)
    (does : d.Does base s) (hd : d.before.concerns m = false) :
    Shows (d.result s) script m w := by
  have other (hb : ∀ c, d.before ≠ .check c) (hleft : d.left = s.shared) :
      Shows (d.result s) script m w := by
    refine h.aside does (fun c hc => (hb c hc).elim) (fun c hc => ?_) ?_ ?_ rfl rfl
    · obtain ⟨c₀, hc₀, -⟩ := does.movedTo hc
      exact (hb c₀ hc₀).elim
    · rw [hleft]
      exact h.terms
    · rw [hleft]
      exact h.alert
  cases hb : d.before with
  | check c =>
    obtain ⟨c', ha, moved⟩ := does.movedFrom hb
    rw [hb] at hd
    rw [does.found] at moved
    have hc : s.tasks[d.task]? = some (.check c) := hb ▸ does.here
    have hw : c.isUnderWay = true := moved.isUnderWay_of_unconcerned hd
    exact own serial serial' does hb ha (.inl hw) ((h.matches_of_underWay hc hw).elsewhere moved hd)
  | update new =>
    rw [hb] at hd
    cases hd
  | notice | trial | updated =>
    refine other (fun c hc => by rw [hb] at hc; cases hc) ?_
    obtain heq | ⟨new, hb', -⟩ | ⟨work, n, rest, hb', -⟩ | ⟨work, n, rest, time, hb', -⟩ :=
      does.taskMoved.shared_cases
    · rw [heq, does.found]
    all_goals
      rw [hb] at hb'
      cases hb'

/-- Every deed does what its cues say. -/
theorem plays (h : Shows s script m w)
    (distinct : ∀ (j : Nat) (c : Check), s.tasks[j]? = some (.check c) → c.Distinct)
    (serial : s.Serial) (serial' : (d.result s).Serial) (does : d.Does base s) {cues : List Cue}
    (plays : d.Plays m script cues) : Shows (d.result s) (script ++ cues) m (w.replay cues) := by
  cases plays with
  | replaces new before => exact h.replaces does before
  | reads before => exact h.reads serial serial' does before
  | turns work rest now attempt tried accepted before event agreed =>
    obtain ⟨c', ha, moved⟩ := does.movedFrom before
    have hc : s.tasks[d.task]? = some (.check (.examining work m rest)) := before ▸ does.here
    rw [event, does.found] at moved
    refine own serial serial' does before ha (.inl rfl) ?_
    rw [lastAccepted_turn]
    refine (h.matches_of_underWay hc rfl).turn moved (distinct _ _ hc) fun starts => ?_
    have htries : d.Tries m := ⟨work, rest, now, attempt, before, event, does.found ▸ starts⟩
    refine ⟨(agreed htries).1, fun hacc => ?_⟩
    obtain ⟨call, hcall⟩ := (agreed htries).2 hacc
    rw [ha] at hcall
    exact ⟨call, Task.check.inj hcall⟩
  | answers work rest time call answer before event agreed =>
    obtain ⟨c', ha, moved⟩ := does.movedFrom before
    have hc : s.tasks[d.task]? = some (.check (.awaiting work m rest time call)) :=
      before ▸ does.here
    rw [event, does.found] at moved
    rw [List.append_nil]
    exact own serial serial' does before ha (.inl rfl)
      ((h.matches_of_underWay hc rfl).answer moved (distinct _ _ hc) agreed)
  | changes before =>
    obtain ⟨c, hb, hchanges, hw⟩ : ∃ c, d.before = .check c ∧
        ((∃ work rest, c = .clearing work m rest) ∨
          ∃ work rest time, c = .recording work m rest time) ∧ c.isUnderWay = true := by
      obtain ⟨work, rest, hb⟩ | ⟨work, rest, time, hb⟩ := before
      · exact ⟨_, hb, .inl ⟨work, rest, rfl⟩, rfl⟩
      · exact ⟨_, hb, .inr ⟨work, rest, time, rfl⟩, rfl⟩
    obtain ⟨c', ha, moved⟩ := does.movedFrom hb
    have hc : s.tasks[d.task]? = some (.check c) := hb ▸ does.here
    rw [does.found] at moved
    refine own serial serial' does hb ha (.inl hw) ?_
    rw [lastAccepted_change]
    exact (h.matches_of_underWay hc hw).change moved (distinct _ _ hc) hchanges
  | other elsewhere =>
    rw [List.append_nil]
    exact h.elsewhere serial serial' does elsewhere

end Shows

end HostAlert.Manager
