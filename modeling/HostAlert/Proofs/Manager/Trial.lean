import HostAlert.Proofs.Manager.Step
import HostAlert.Proofs.Message.Substance
import HostAlert.Proofs.Text.Trim

/-!
# Runs of a test message

A test message ends in one of three ways (`Trial.Sends`): no bot or no chat is named; there is no
address to post to; or its text goes out in one call, and the answer decides. Whatever answers come
and whatever other tasks do meanwhile, every run ends so (`Trial.run_begun_iff`), and a test is
never skipped for a blank text (`Trial.prepare_ne_skip`).
-/

namespace HostAlert.Manager.Trial

/-- The text of a test: the front of the trimmed message, or a fixed one for a blank message. -/
def text (message : String) : String :=
  if Text.trim message.toList = [] then "Hostwatch test notification"
  else String.ofList ((Text.trim message.toList).take 4096)

variable {base : String} {shared : Shared} {message : String}
  {exchanges : List (Http.Call × Http.Answer)} {outcome : Outcome}

theorem messageText_messageOrDefault (message : String) :
    Delivery.messageText (messageOrDefault message) = text message := by
  unfold messageOrDefault text
  by_cases hblank : Text.trim message.toList = []
  · have hempty : (Text.trimmed message).isEmpty = true := (Text.isEmpty_trimmed message).mpr hblank
    simp only [hempty, hblank, if_true]
    decide +kernel
  · have hempty : (Text.trimmed message).isEmpty = false :=
      Bool.eq_false_iff.mpr (mt (Text.isEmpty_trimmed message).mp hblank)
    simp only [hempty, hblank, Bool.false_eq_true, if_false]
    rw [Delivery.messageText, Text.trimmed, String.toList_ofList, Text.trim_trim]
    rfl

theorem trim_messageOrDefault (message : String) :
    Text.trim (messageOrDefault message).toList ≠ [] := by
  unfold messageOrDefault
  dsimp only
  split
  · exact Text.trim_ne_nil (c := 'H') (by decide) (by decide)
  · next hempty =>
    rw [Text.trimmed, String.toList_ofList, Text.trim_trim]
    exact mt (Text.isEmpty_trimmed message).mpr hempty

/-- A test is never skipped. -/
theorem prepare_ne_skip (base : String) (config : TelegramConfig) (message : String) :
    Delivery.prepare base config (messageOrDefault message) ≠ .skip :=
  Delivery.prepare_ne_skip (trim_messageOrDefault message) base config

/-! ### Runs -/

/-- A run of a test to its end, with the calls that it made and the answers to them. The shared
state is the one that it finds as it begins; an answer may find another. -/
inductive Run (base : String) (shared : Shared) :
    Trial → List (Http.Call × Http.Answer) → Outcome → Prop
  | ended (outcome : Outcome) : Run base shared (.finished outcome) [] outcome
  | entered {t t' : Trial} {left : Shared} {exchanges : List (Http.Call × Http.Answer)}
      {outcome : Outcome} (now attempt : Instant) (waits : t.want = .entry)
      (moved : t.step base shared (.enter now attempt) = some (left, t'))
      (rest : Run base shared t' exchanges outcome) : Run base shared t exchanges outcome
  | answered {t t' : Trial} {left : Shared} {exchanges : List (Http.Call × Http.Answer)}
      {outcome : Outcome} (found : Shared) (call : Http.Call) (answer : Http.Answer)
      (waits : t.want = .answer call)
      (moved : t.step base found (.answered answer) = some (left, t'))
      (rest : Run base shared t' exchanges outcome) :
      Run base shared t ((call, answer) :: exchanges) outcome

theorem run_finished_iff {o : Outcome} :
    Run base shared (.finished o) exchanges outcome ↔ exchanges = [] ∧ outcome = o := by
  constructor
  · intro run
    cases run with
    | ended => exact ⟨rfl, rfl⟩
    | entered _ _ waits => cases waits
    | answered _ _ _ waits => cases waits
  · rintro ⟨rfl, rfl⟩
    exact .ended outcome

theorem run_awaiting_iff {call : Http.Call} :
    Run base shared (.awaiting call) exchanges outcome ↔
      ∃ answer, exchanges = [(call, answer)] ∧ outcome = Delivery.outcome answer := by
  constructor
  · intro run
    cases run with
    | entered _ _ waits => cases waits
    | answered _ _ answer waits moved rest =>
      cases waits
      cases moved
      obtain ⟨rfl, rfl⟩ := run_finished_iff.mp rest
      exact ⟨answer, rfl, rfl⟩
  · rintro ⟨answer, rfl, rfl⟩
    exact .answered shared call answer rfl rfl (.ended _)

theorem run_deliver_iff : Run base shared (.begun message) exchanges outcome ↔
    Run base shared (deliver base shared.config message) exchanges outcome := by
  constructor
  · intro run
    cases run with
    | entered _ _ _ moved rest =>
      cases moved
      exact rest
    | answered _ _ _ waits => cases waits
  · exact fun rest => .entered ⟨0⟩ ⟨0⟩ rfl rfl rest

/-! ### How a test ends -/

/-- The bot's address is a URL that requests can go to. -/
def Addressed (base : String) (config : TelegramConfig) (url : Http.Url) : Prop :=
  Http.Url.ofText? (Delivery.endpoint base config.botToken) = some url ∧ url.isSendable = true

/-- What comes of a test with these settings: the calls with their answers, and the outcome. -/
inductive Sends (base : String) (config : TelegramConfig) (message : String) :
    List (Http.Call × Http.Answer) → Outcome → Prop
  | incomplete (lacks : config.hasCredentials = false) :
      Sends base config message [] (.error .incompleteConfig)
  | unaddressed (has : config.hasCredentials = true) (none : ∀ url, ¬ Addressed base config url) :
      Sends base config message [] (.error .badUrl)
  | posted (has : config.hasCredentials = true) {url : Http.Url}
      (addressed : Addressed base config url) (answer : Http.Answer) :
      Sends base config message
        [(⟨url, some [("chat_id", config.chatId), ("text", text message)]⟩, answer)]
        (Delivery.outcome answer)

theorem prepare_cases (base : String) (config : TelegramConfig) (message : String) :
    (∃ url, Addressed base config url ∧
      Delivery.prepare base config (messageOrDefault message) =
        .send ⟨url, some [("chat_id", config.chatId), ("text", text message)]⟩) ∨
    (∀ url, ¬ Addressed base config url) ∧
      Delivery.prepare base config (messageOrDefault message) = .fail .badUrl := by
  by_cases h : ∃ url, Addressed base config url
  · obtain ⟨url, hurl, hsendable⟩ := h
    have hprepare := Delivery.prepare_of_url hurl hsendable (trim_messageOrDefault message)
    rw [messageText_messageOrDefault] at hprepare
    exact .inl ⟨url, ⟨hurl, hsendable⟩, hprepare⟩
  · have none := not_exists.mp h
    refine .inr ⟨none, ?_⟩
    have hskip := prepare_ne_skip base config message
    unfold Delivery.prepare at hskip ⊢
    dsimp only at hskip ⊢
    split
    · next hempty => exact absurd (if_pos hempty) hskip
    · split
      · next url hurl => exact if_neg fun hsendable => none url ⟨hurl, hsendable⟩
      · rfl

/-- The runs of a test. -/
theorem run_begun_iff : Run base shared (.begun message) exchanges outcome ↔
    Sends base shared.config message exchanges outcome := by
  rw [run_deliver_iff, deliver]
  cases has : shared.config.hasCredentials with
  | false =>
    rw [Bool.not_false, if_pos rfl, run_finished_iff]
    constructor
    · rintro ⟨rfl, rfl⟩
      exact .incomplete has
    · rintro (_ | ⟨has', -⟩ | ⟨has', -, -⟩)
      · exact ⟨rfl, rfl⟩
      all_goals rw [has] at has'; cases has'
  | true =>
    rw [Bool.not_true, if_neg Bool.false_ne_true]
    obtain ⟨url, addressed, hsend⟩ | ⟨none, hfail⟩ := prepare_cases base shared.config message
    · rw [hsend]
      dsimp only
      rw [run_awaiting_iff]
      constructor
      · rintro ⟨answer, rfl, rfl⟩
        exact .posted has addressed answer
      · rintro (⟨lacks⟩ | ⟨-, none⟩ | ⟨-, addressed', answer⟩)
        · rw [has] at lacks
          cases lacks
        · exact absurd addressed (none url)
        · obtain rfl := Option.some.inj (addressed.1.symm.trans addressed'.1)
          exact ⟨answer, rfl, rfl⟩
    · rw [hfail]
      dsimp only
      rw [run_finished_iff]
      constructor
      · rintro ⟨rfl, rfl⟩
        exact .unaddressed has none
      · rintro (⟨lacks⟩ | _ | ⟨-, addressed, -⟩)
        · rw [has] at lacks
          cases lacks
        · exact ⟨rfl, rfl⟩
        · exact absurd addressed (none _)

end HostAlert.Manager.Trial
