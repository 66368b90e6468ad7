import HostAlert.Proofs.Delivery.Post
import HostAlert.Proofs.Manager.Copy
import HostAlert.Rehearsal.Control

/-!
# Every request that goes out

A request goes out when a check, a report or a test begins the delivery of a message
(`Deed.Composes`). Whatever else goes on, it posts the text of this message to the chat of the
settings that its task copied when it began (`System.Run.posts_of_answer`). What is asked of the
control interface is done by updates and tests as well (`Session.perform_cases`).
-/

namespace HostAlert

/-- What an action of the control interface does, an update or a test does, if anything. -/
theorem Rehearsal.Session.perform_cases (s : Rehearsal.Session) (wording : Json.Wording)
    (a : Control.Action) : (s.perform wording a).1 = s ∨
      (∃ config, (s.perform wording a).1 = (s.run (.update config)).1) ∨
      ∃ message, (s.perform wording a).1 = (s.run (.trial (.begun message))).1 := by
  cases a with
  | respond | health | config | states => exact .inl rfl
  | replace config => exact .inr (.inl ⟨config, rfl⟩)
  | test message =>
    refine .inr (.inr ⟨message, ?_⟩)
    show (s.sendTest message).1 = _
    unfold sendTest
    split
    · next hrun => rw [hrun]
    · next hrun => rw [hrun]

namespace Manager

/-! ## What was copied, and by which deed -/

namespace Task

/-- The copy of the settings that a check or a report works with. -/
def config? : Task → Option TelegramConfig
  | check c => c.config?
  | notice (.collecting config _) => some config
  | _ => none

variable {base : String} {s s' : Shared} {t t' : Task} {e : Event} {config : TelegramConfig}

theorem config?_fresh (h : t.isFresh = true) : t.config? = none := by
  cases t with
  | check c => exact Check.config?_fresh h
  | notice n => cases n <;> first | rfl | cases h
  | _ => rfl

theorem Moved.config?_before (h : Moved base s t e s' t') (hc : t'.config? = some config) :
    t.config? = some config ∨ t.isFresh = true ∧ config = s.config := by
  cases h with
  | checks moved =>
    obtain hkept | ⟨rfl, hcopied⟩ := Check.Moved.config?_before moved hc
    · exact .inl hkept
    · exact .inr ⟨rfl, hcopied⟩
  | notifies moved =>
    cases moved with
    | copies => exact .inr ⟨rfl, (Option.some.inj hc).symm⟩
    | declines | sends | drops | ends => cases hc
  | tries => cases hc
  | replaces => cases hc

end Task

namespace System.Run

variable {base : String} {config : TelegramConfig} {ok : System → Prop} {s : System}
  {log : List Deed}

/-- A task that has moved stands where its last deed left it. -/
theorem deed_of_task (run : Run base config ok s log) {i : Nat} {t : Task}
    (ht : s.tasks[i]? = some t) (moved : t.isFresh = false) :
    ∃ (k : Nat) (d : Deed), log[k]? = some d ∧ d.task = i ∧ d.after = t := by
  induction run with
  | initial => cases ht
  | begins _ t₁ fresh _ ih =>
    obtain hold | ⟨-, rfl⟩ := getElem?_snoc.mp ht
    · exact ih hold
    · rw [moved] at fresh
      cases fresh
  | @steps s₁ log₁ run₁ d does _ ih =>
    obtain ⟨hi, heq⟩ | ⟨-, hold⟩ := does.tasks_result ht
    · exact ⟨log₁.length, d, getElem?_snoc.mpr (.inr ⟨rfl, rfl⟩), hi.symm, heq.symm⟩
    · obtain ⟨k, d₀, hd₀, hrest⟩ := ih hold
      exact ⟨k, d₀, getElem?_snoc_of_getElem? hd₀, hrest⟩

/-- A deed that finds its task moved has one of the same task before it, which left it so. -/
theorem deed_before (run : Run base config ok s log) {j : Nat} {d : Deed} (hd : log[j]? = some d)
    (moved : d.before.isFresh = false) :
    ∃ (k : Nat) (a : Deed) (s₀ : System), k < j ∧ log[k]? = some a ∧ a.task = d.task ∧
      a.after = d.before ∧ a.Does base s₀ := by
  obtain ⟨s₁, run₁, does, -⟩ := run.systemAt hd
  obtain ⟨k, a, ha, htask, hafter⟩ := run₁.deed_of_task does.here moved
  obtain ⟨hkj, ha⟩ := getElem?_take_iff.mp ha
  obtain ⟨s₀, -, did, -⟩ := run.systemAt ha
  exact ⟨k, a, s₀, hkj, ha, htask, hafter, did⟩

/-- The copy of a task was in force at its first step. -/
theorem copied_from (run : Run base config ok s log) {i : Nat} {t : Task} {copy : TelegramConfig}
    (ht : s.tasks[i]? = some t) (hc : t.config? = some copy) :
    ∃ (k : Nat) (c : Deed), log[k]? = some c ∧ c.task = i ∧ c.before.isFresh = true ∧
      c.found.config = copy := by
  induction run generalizing t with
  | initial => cases ht
  | begins _ t₁ fresh _ ih =>
    obtain hold | ⟨-, rfl⟩ := getElem?_snoc.mp ht
    · exact ih hold hc
    · rw [Task.config?_fresh fresh] at hc
      cases hc
  | @steps s₁ log₁ run₁ d does _ ih =>
    have earlier {t : Task} (ht : s₁.tasks[i]? = some t) (hc : t.config? = some copy) :
        ∃ (k : Nat) (c : Deed), (log₁ ++ [d])[k]? = some c ∧ c.task = i ∧
          c.before.isFresh = true ∧ c.found.config = copy := by
      obtain ⟨k, c, hk, hrest⟩ := ih ht hc
      exact ⟨k, c, getElem?_snoc_of_getElem? hk, hrest⟩
    obtain ⟨rfl, rfl⟩ | ⟨-, hold⟩ := does.tasks_result ht
    · obtain hkept | ⟨fresh, hcopied⟩ := does.taskMoved.config?_before hc
      · exact earlier does.here hkept
      · exact ⟨log₁.length, d, getElem?_snoc.mpr (.inr ⟨rfl, rfl⟩), rfl, fresh, hcopied.symm⟩
    · exact earlier hold hc

end System.Run

/-! ## Deliveries that begin -/

namespace Deed

/-- The deed begins the delivery of a message to the chat of these settings. -/
inductive Composes (d : Deed) : TelegramConfig → String → Prop
  /-- A check finds that a metric starts to exceed. -/
  | alert (work : Work) (m : Metric) (rest : List Metric)
      (before : d.before = .check (.examining work m rest)) :
      Composes d work.config (Check.alertText work m)
  /-- A report has its snapshot. -/
  | report (config : TelegramConfig) (update : FilterUpdate) (info : Snapshot)
      (before : d.before = .notice (.collecting config update))
      (event : d.event = .collected info) :
      Composes d config (Message.filterUpdate config update info)
  /-- A test begins. -/
  | test (given : String) (before : d.before = .trial (.begun given)) :
      Composes d d.found.config (Trial.messageOrDefault given)

theorem Composes.of_test {d : Deed} {config : TelegramConfig} {message given : String}
    (h : d.Composes config message) (before : d.before = .trial (.begun given)) :
    message = Trial.messageOrDefault given := by
  cases h with
  | alert work m rest hb =>
    rw [before] at hb
    cases hb
  | report config update info hb =>
    rw [before] at hb
    cases hb
  | test given' hb =>
    rw [before] at hb
    cases hb
    rfl

end Deed

theorem Task.want_proceed (work : Work) (rest : List Metric) (call : Http.Call) :
    (check (Check.proceed work rest)).want ≠ .answer call := by
  cases rest <;> exact Want.noConfusion

theorem Notice.prepare_of_deliver {base : String} {config : TelegramConfig} {message : String}
    {call : Http.Call} (h : deliver base config message = .awaiting call) :
    Delivery.prepare base config message = .send call := by
  unfold deliver at h
  split at h
  · cases h
  · split at h
    · next hplan =>
      cases h
      exact hplan
    · cases h
    · cases h

theorem Trial.prepare_of_deliver {base : String} {config : TelegramConfig} {message : String}
    {call : Http.Call} (h : deliver base config message = .awaiting call) :
    Delivery.prepare base config (messageOrDefault message) = .send call := by
  unfold deliver at h
  split at h
  · cases h
  · split at h
    · cases h
    · cases h
    · next hplan =>
      cases h
      exact hplan

theorem Trial.begun_of_answer {base : String} {s s' : Shared} {t t' : Trial} {e : Event}
    {call : Http.Call} (h : t.step base s e = some (s', t')) (hw : t'.want = .answer call) :
    ∃ given, t = .begun given ∧ deliver base s.config given = .awaiting call := by
  cases t <;> cases e <;> simp only [step, Option.some.injEq, Prod.mk.injEq, reduceCtorEq] at h
  case begun.enter given now attempt =>
    obtain ⟨-, rfl⟩ := h
    refine ⟨given, rfl, ?_⟩
    generalize deliver base s.config given = t' at hw
    cases t' with
    | awaiting call' =>
      cases hw
      rfl
    | begun | finished => cases hw
  case awaiting.answered =>
    obtain ⟨-, rfl⟩ := h
    cases hw

/-- A task waits for an answer once it has begun the delivery of a message. -/
theorem Deed.Does.composes_of_answer {base : String} {s : System} {d : Deed} {call : Http.Call}
    (does : d.Does base s) (hw : d.after.want = .answer call) :
    ∃ config message, d.Composes config message ∧
      Delivery.prepare base config message = .send call ∧
      (d.before.config? = some config ∨ d.before.isFresh = true ∧ config = d.found.config) := by
  have moved := does.taskMoved
  generalize hb : d.before = before at moved ⊢
  generalize he : d.event = e at moved
  generalize d.left = left at moved
  generalize d.after = after at moved hw
  cases moved with
  | checks moved =>
    cases moved with
    | sends work m rest now attempt starts call' plan =>
      cases hw
      exact ⟨_, _, .alert work m rest hb, plan, .inl rfl⟩
    | copies | declines | lowers | accepts => cases hw
    | collects | passes | fails | clears | refuses | records =>
      exact (Task.want_proceed _ _ _ hw).elim
  | notifies moved =>
    cases moved with
    | sends config update info call' goes =>
      cases hw
      exact ⟨_, _, .report config update info hb he, Notice.prepare_of_deliver goes, .inl rfl⟩
    | copies | declines | drops | ends => cases hw
  | tries step =>
    obtain ⟨given, rfl, hdeliver⟩ := Trial.begun_of_answer step hw
    exact ⟨_, _, .test given hb, Trial.prepare_of_deliver hdeliver, .inr ⟨rfl, rfl⟩⟩
  | replaces => cases hw

namespace System.Run

variable {base : String} {config : TelegramConfig} {ok : System → Prop} {s : System}
  {log : List Deed}

/-- Every request that goes out posts a form which reads as two pairs: the chat of the settings that
its task copied at its first step, and the text of the message that it composed. -/
theorem posts_of_answer (run : Run base config ok s log) {j : Nat} {d : Deed} {call : Http.Call}
    (hd : log[j]? = some d) (goes : d.after.want = .answer call) :
    ∃ (i : Nat) (c : Deed) (message : String), i ≤ j ∧ log[i]? = some c ∧ c.task = d.task ∧
      c.before.isFresh = true ∧ d.Composes c.found.config message ∧
      Delivery.Posts call c.found.config.chatId message := by
  obtain ⟨s₀, run₀, does, -⟩ := run.systemAt hd
  obtain ⟨copy, message, composes, plan, held | ⟨fresh, rfl⟩⟩ := does.composes_of_answer goes
  · obtain ⟨i, c, hc, htask, fresh, rfl⟩ := run₀.copied_from does.here held
    obtain ⟨hij, hc⟩ := getElem?_take_iff.mp hc
    exact ⟨i, c, message, Nat.le_of_lt hij, hc, htask, fresh, composes,
      Delivery.posts_of_prepare plan⟩
  · exact ⟨j, d, message, Nat.le_refl j, hd, rfl, fresh, composes,
      Delivery.posts_of_prepare plan⟩

end System.Run

namespace Sample

/-- Settings whose chat would forge a second text if it were posted as it stands. -/
def forging : TelegramConfig := { settings with chatId := "7&text=+%41=" }

def forgingSent (call : Http.Call) : Deed :=
  ⟨0, .enter time time, .initial forging, .trial (.begun " a=b & c\n"), .initial forging,
    .trial (.awaiting call)⟩

/-- The form keeps apart the chat and the text of a test, though both hold separators. -/
theorem forging_kept_apart : ∃ (s : System) (call : Http.Call) (pairs : List (String × String)),
    System.Run base forging (fun _ => True) s [forgingSent call] ∧ call.form = some pairs ∧
      Http.Form.decode (Http.Form.encode pairs) =
        [("chat_id", "7&text=+%41="), ("text", "a=b & c")] := by
  have hurl : (Http.Url.ofText? (Delivery.endpoint base forging.botToken)).any
      Http.Url.isSendable = true := by
    decide +kernel
  obtain ⟨url, hsome, hsend⟩ := (Option.any_eq_true _ _).mp hurl
  have hplan : Delivery.prepare base forging "a=b & c" =
      .send ⟨url, some (Delivery.form forging.chatId (Delivery.messageText "a=b & c"))⟩ :=
    Delivery.prepare_of_url hsome hsend (by decide)
  have hgiven : Trial.messageOrDefault " a=b & c\n" = "a=b & c" := by decide +kernel
  have hdeliver : Trial.deliver base forging " a=b & c\n" =
      .awaiting ⟨url, some (Delivery.form forging.chatId (Delivery.messageText "a=b & c"))⟩ := by
    rw [Trial.deliver, hgiven, hplan]
    rfl
  have new : System.Run base forging (fun _ => True) (.initial forging) [] := .initial trivial
  have begun := new.begins (.trial (.begun " a=b & c\n")) rfl trivial
  have sent := begun.steps (forgingSent _) ⟨rfl, rfl, by rw [forgingSent, ← hdeliver]; rfl⟩ trivial
  obtain ⟨i, c, message, hi, hc, -, -, composes, posts⟩ :=
    System.Run.posts_of_answer sent (j := 0) rfl rfl
  obtain rfl : i = 0 := Nat.le_zero.mp hi
  cases hc
  obtain rfl := composes.of_test rfl
  obtain ⟨pairs, hform, hread⟩ := posts.form
  refine ⟨_, _, pairs, sent, hform, ?_⟩
  have htext : Delivery.messageText "a=b & c" = "a=b & c" := by decide +kernel
  rw [hread, hgiven, htext]
  rfl

end Sample

end Manager

end HostAlert
