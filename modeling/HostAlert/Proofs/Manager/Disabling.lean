import HostAlert.Proofs.Manager.Schedule

/-!
# Requests while notifications are off

The settings are copied once, when a check or a report begins, and not read again before its
requests. So switching notifications off does not stop what is under way
(`Sample.request_while_off`), but it lets nothing new begin: until they are switched on, a request
only goes out for a task that had copied deliverable settings before, and no task makes the same
request twice (`System.Run.requests_while_off`).
-/

namespace HostAlert.Manager

/-! ## The requests of one task -/

namespace Task

/-- The request for an alert of the metric, or for a report without one, may still go out. -/
def MayRequest : Task → Option Metric → Prop
  | check c, some m => m ∈ c.ahead
  | notice (.begun _), none | notice (.collecting _ _), none => True
  | _, _ => False

variable {base : String} {s s' : Shared} {t t' : Task} {e : Event} {subject : Option Metric}

theorem Moved.mayRequest_before (h : Moved base s t e s' t') (ht : t'.MayRequest subject) :
    t.MayRequest subject := by
  cases h with
  | checks moved =>
    cases subject with
    | none => exact ht
    | some m => exact moved.ahead_suffix.mem ht
  | tries => cases subject <;> exact ht.elim
  | replaces => cases subject <;> exact ht.elim
  | notifies moved =>
    cases subject with
    | some m => cases moved <;> exact ht.elim
    | none =>
      cases moved with
      | copies | declines | sends | drops => exact trivial
      | ends => exact ht.elim

end Task

namespace Deed.Does

variable {base : String} {s : System} {d : Deed} {subject : Option Metric}

/-- A request that goes out was due. -/
theorem mayRequest_of_requests (h : d.Does base s) (hr : d.Requests subject) :
    d.before.MayRequest subject := by
  cases subject with
  | some m =>
    obtain ⟨work, rest, time, call, ha⟩ := hr
    rw [(h.examining_of_awaiting ha).1]
    exact List.mem_cons_self
  | none =>
    obtain ⟨call, ha⟩ := hr
    obtain ⟨config, update, hb⟩ := h.collecting_of_awaiting ha
    rw [hb]
    exact trivial

theorem not_mayRequest_of_requests (h : d.Does base s)
    (nodup : ∀ c, d.before = .check c → c.ahead.Nodup) (hr : d.Requests subject) :
    ¬ d.after.MayRequest subject := by
  cases subject with
  | some m =>
    obtain ⟨work, rest, time, call, ha⟩ := hr
    have hnodup := nodup _ (h.examining_of_awaiting ha).1
    rw [ha]
    exact (List.nodup_cons.mp hnodup).1
  | none =>
    obtain ⟨call, ha⟩ := hr
    rw [ha]
    exact not_false

end Deed.Does

namespace System.Run

variable {base : String} {config : TelegramConfig} {ok : System → Prop} {s : System}
  {log : List Deed} {subject : Option Metric}

theorem ahead_suffix (run : Run base config ok s log) {i : Nat} {c : Check}
    (hc : s.tasks[i]? = some (.check c)) : c.ahead <:+ Metric.all := by
  induction run generalizing i c with
  | initial => cases hc
  | begins _ t fresh _ ih =>
    obtain hold | ⟨-, rfl⟩ := getElem?_snoc.mp hc
    · exact ih hold
    · cases c <;> first | exact List.suffix_refl _ | cases fresh
  | @steps s₁ log₁ run₁ d does _ ih =>
    obtain ⟨-, heq⟩ | ⟨-, hold⟩ := does.tasks_result hc
    · obtain ⟨c₀, hb, moved⟩ := does.movedTo heq.symm
      exact moved.ahead_suffix.trans (ih (hb ▸ does.here))
    · exact ih hold

theorem not_mayRequest (run : Run base config ok s log) {i : Nat} {a : Deed} {t : Task}
    (ha : log[i]? = some a) (hr : a.Requests subject) (ht : s.tasks[a.task]? = some t) :
    ¬ t.MayRequest subject := by
  induction run generalizing t with
  | initial => cases ha
  | begins run₁ t₁ _ _ ih =>
    obtain hold | ⟨hnew, -⟩ := getElem?_snoc.mp ht
    · exact ih ha hold
    · exact absurd hnew (Nat.ne_of_lt (run₁.task_lt ha))
  | @steps s₁ log₁ run₁ d does _ ih =>
    obtain hold | ⟨rfl, rfl⟩ := getElem?_snoc.mp ha
    · obtain ⟨heq, rfl⟩ | ⟨-, htask⟩ := does.tasks_result ht
      · intro hmay
        exact ih hold (heq ▸ does.here) (does.taskMoved.mayRequest_before hmay)
      · exact ih hold htask
    · have hself := does.tasks_self
      obtain rfl : t = d.after := Option.some.inj (ht.symm.trans hself)
      refine does.not_mayRequest_of_requests (fun c hc => ?_) hr
      exact (run₁.ahead_suffix (hc ▸ does.here)).sublist.nodup (by decide)

/-- A task makes each request at most once. -/
theorem request_unique (run : Run base config ok s log) {i j : Nat} {a b : Deed}
    (ha : log[i]? = some a) (hb : log[j]? = some b) (htask : a.task = b.task)
    (ha' : a.Requests subject) (hb' : b.Requests subject) : i = j := by
  have earlier : ∀ {i j : Nat} {a b : Deed}, log[i]? = some a → log[j]? = some b →
      a.task = b.task → a.Requests subject → b.Requests subject → ¬ i < j := by
    intro i j a b ha hb htask ha' hb' hij
    obtain ⟨s₀, run₀, does, -⟩ := run.systemAt hb
    have hold : (log.take j)[i]? = some a := getElem?_take_iff.mpr ⟨hij, ha⟩
    exact run₀.not_mayRequest hold ha' (htask ▸ does.here) (does.mayRequest_of_requests hb')
  have hij := earlier ha hb htask ha' hb'
  have hji := earlier hb ha htask.symm hb' ha'
  omega

/-! ## Requests and switches -/

theorem copied_before_request (run : Run base config ok s log) {k : Nat} {r : Deed}
    (hr : log[k]? = some r) (request : r.Requests subject) :
    ∃ (p : Nat) (c : Deed), p < k ∧ log[p]? = some c ∧ c.task = r.task ∧ c.Copies ∧
      c.found.config.isDeliverable = true := by
  obtain ⟨s₀, run₀, does, -⟩ := run.systemAt hr
  have hbusy : r.before.isUnderWay = true := by
    cases subject with
    | some m =>
      obtain ⟨work, rest, time, call, ha⟩ := request
      rw [(does.examining_of_awaiting ha).1]
      rfl
    | none =>
      obtain ⟨call, ha⟩ := request
      obtain ⟨config', update, hb⟩ := does.collecting_of_awaiting ha
      rw [hb]
      rfl
  obtain ⟨p, c, hc, htask, hcopy⟩ := run₀.copied does.here hbusy
  obtain ⟨hp, hc'⟩ := getElem?_take_iff.mp hc
  obtain ⟨s₁, -, does₁, -⟩ := run.systemAt hc'
  exact ⟨p, c, hp, hc', htask, hcopy, (does₁.deliverable_of_copies hcopy).1⟩

theorem switched_before_copy (run : Run base config ok s log) {u p : Nat} {d c : Deed}
    (hu : log[u]? = some d) (off : d.Switches false) (hp : log[p]? = some c) (hcopy : c.Copies)
    (hup : u < p) : ∃ (j : Nat) (f : Deed), u < j ∧ j < p ∧ log[j]? = some f ∧ f.Switches true := by
  obtain ⟨s₀, run₀, does, -⟩ := run.systemAt hp
  obtain ⟨s₁, -, does₁, -⟩ := run.systemAt hu
  obtain ⟨hon, -⟩ := does.deliverable_of_copies hcopy
  rw [TelegramConfig.isDeliverable, Bool.and_eq_true, does.found] at hon
  have hu' : (log.take p)[u]? = some d := getElem?_take_iff.mpr ⟨hup, hu⟩
  obtain heq | ⟨j, f, huj, hf, hsw⟩ := run₀.switched_since hu'
  · rw [does₁.enabled_of_switches off, hon.1] at heq
    cases heq
  · obtain ⟨hj, hf'⟩ := getElem?_take_iff.mp hf
    rw [hon.1] at hsw
    exact ⟨j, f, huj, hj, hf', hsw⟩

/-- After notifications were switched off and until they are switched on, a request only goes out
for a check or a report that had copied deliverable settings before, and only once. -/
theorem requests_while_off (run : Run base config ok s log) {u k : Nat} {d r : Deed}
    (hu : log[u]? = some d) (off : d.Switches false) (huk : u < k) (hr : log[k]? = some r)
    (request : r.Requests subject)
    (stays : ∀ (j : Nat) (f : Deed), u < j → j < k → log[j]? = some f → ¬ f.Switches true) :
    (∃ (p : Nat) (c : Deed), p < u ∧ log[p]? = some c ∧ c.task = r.task ∧ c.Copies ∧
      c.found.config.isDeliverable = true) ∧
    ∀ (j : Nat) (f : Deed), log[j]? = some f → f.task = r.task → f.Requests subject → j = k := by
  constructor
  · obtain ⟨p, c, hpk, hp, htask, hcopy, hon⟩ := run.copied_before_request hr request
    obtain hlt | rfl | hgt := Nat.lt_trichotomy p u
    · exact ⟨p, c, hlt, hp, htask, hcopy, hon⟩
    · -- an update copies no settings
      obtain rfl : c = d := Option.some.inj (hp.symm.trans hu)
      obtain ⟨new, hb, -⟩ := off
      obtain ⟨hb', -⟩ | ⟨update, hb', -⟩ := hcopy
      · rw [hb] at hb'
        cases hb'
      · rw [hb] at hb'
        cases hb'
    · obtain ⟨j, f, huj, hjp, hf, hsw⟩ := run.switched_before_copy hu off hp hcopy hgt
      exact absurd hsw (stays j f huj (by omega) hf)
  · intro j f hf htask hreq
    exact run.request_unique hf hr htask hreq request

end System.Run

namespace Sample

/-- A check is under way while notifications are switched off: its first alert is on its way, and
its second one still goes out. -/
theorem run_switched_off : ∃ (s : System) (log : List Deed) (d r : Deed),
    System.Run base settings System.Serial s log ∧ log[3]? = some d ∧ d.Switches false ∧
      log[6]? = some r ∧ r.Requests (some .memory) ∧
      ∀ (j : Nat) (f : Deed), 3 < j → j < 6 → log[j]? = some f → ¬ f.Switches true := by
  obtain ⟨call, sent⟩ := run_sent 95
  obtain ⟨call', hcall⟩ := exists_plan (readings 95) .memory
  have sends : Check.Moved base
      (((Shared.initial settings).replaceConfig silent).recordDelivery .cpu time)
      (.examining (work 95) .memory [.disk]) (.enter time time)
      (((Shared.initial settings).replaceConfig silent).recordDelivery .cpu time)
      (.awaiting (work 95) .memory [.disk] time call') := by
    refine .sends (work 95) .memory [.disk] time time ?_ call' hcall
    decide +kernel
  have off := sent.updates silent time time (Nat.le_refl 1) (Nat.le_refl 1)
  have accept := off.checks 0 rfl
    (.accepts (work 95) .cpu [.memory, .disk] time call accepted accepted_ok) (Nat.le_refl 1)
  have record := accept.checks 0 rfl (.records (work 95) .cpu [.memory, .disk] time time time)
    (Nat.le_refl 1)
  have again := record.checks 0 rfl sends (Nat.le_refl 1)
  refine ⟨_, _, _, _, again, rfl, ⟨silent, rfl, rfl⟩, rfl,
    ⟨work 95, [.disk], time, call', rfl⟩, fun j f hj hj' hf => ?_⟩
  rintro ⟨new, hb, -⟩
  obtain rfl | rfl : j = 4 ∨ j = 5 := by omega
  · cases hf
    cases hb
  · cases hf
    cases hb

theorem copied_before_switch : ∃ (log : List Deed) (d r : Deed), log[3]? = some d ∧
    d.Switches false ∧ log[6]? = some r ∧ r.Requests (some .memory) ∧
      ∃ (p : Nat) (c : Deed), p < 3 ∧ log[p]? = some c ∧ c.task = r.task ∧ c.Copies := by
  obtain ⟨s, log, d, r, run, hd, off, hr, request, stays⟩ := run_switched_off
  obtain ⟨⟨p, c, hp, hc, htask, hcopy, -⟩, -⟩ :=
    System.Run.requests_while_off run hd off (by decide) hr request stays
  exact ⟨log, d, r, hd, off, hr, request, p, c, hp, hc, htask, hcopy⟩

/-- Switching notifications off does not stop the requests of a check that is under way. -/
theorem request_while_off : ¬ ∀ (base : String) (config : TelegramConfig) (s : System)
    (log : List Deed) (u k : Nat) (d r : Deed) (subject : Option Metric),
    System.Run base config (fun _ => True) s log → log[u]? = some d → d.Switches false → u < k →
      log[k]? = some r → r.Requests subject →
      ∃ (j : Nat) (f : Deed), u < j ∧ j < k ∧ log[j]? = some f ∧ f.Switches true := by
  intro h
  obtain ⟨s, log, d, r, run, hd, off, hr, request, stays⟩ := run_switched_off
  obtain ⟨j, f, huj, hjk, hf, hsw⟩ := h base settings s log 3 6 d r (some .memory)
    (run.mono fun _ _ => trivial) hd off (by decide) hr request
  exact stays j f huj hjk hf hsw

end Sample

end HostAlert.Manager
