import HostAlert.Proofs.Manager.Invariant

/-!
# The settings a check works with

A check works with the copy of the settings that it made when it began, so what holds of all
settings in force holds of its copy (`System.Run.copy_of_in_force`). While a check is under way,
notifications stay on unless an update switches them off (`System.Run.enabled_of_underWay`).
-/

namespace HostAlert.Manager

namespace Check

/-- The copy of the settings, once it was made. -/
def config? : Check → Option TelegramConfig
  | begun | finished => none
  | collecting config => some config
  | examining work _ _ | clearing work _ _ | awaiting work _ _ _ _ | recording work _ _ _ =>
    some work.config

variable {base : String} {s s' : Shared} {c c' : Check} {e : Event} {config : TelegramConfig}

theorem config?_fresh (h : (Task.check c).isFresh = true) : c.config? = none := by
  cases c <;> first | rfl | cases h

theorem config?_proceed {work : Work} {rest : List Metric}
    (h : (proceed work rest).config? = some config) : work.config = config := by
  cases rest with
  | nil => cases h
  | cons m rest => exact Option.some.inj h

/-- A check copies the settings in force and keeps its copy. -/
theorem Moved.config?_before (h : Moved base s c e s' c') (hc : c'.config? = some config) :
    c.config? = some config ∨ c = .begun ∧ config = s.config := by
  cases h with
  | copies => exact .inr ⟨rfl, (Option.some.inj hc).symm⟩
  | declines => cases hc
  | lowers | sends | accepts => exact .inl hc
  | collects | passes | fails | clears | refuses | records =>
    exact .inl (congrArg some (config?_proceed hc))

end Check

namespace System.Run

variable {base : String} {config : TelegramConfig} {ok : System → Prop} {s : System}
  {log : List Deed}

theorem sound (run : Run base config ok s log) : s.shared.Sound := by
  induction run with
  | initial => exact Shared.sound_initial config
  | begins _ _ _ _ ih => exact ih
  | steps _ d does _ ih => exact does.taskMoved.sound (does.found ▸ ih)

/-- The settings in force are those of the beginning or those that some deed left. -/
theorem in_force_cases (run : Run base config ok s log) :
    s.shared.config = config.normalize ∨ ∃ d ∈ log, s.shared.config = d.left.config := by
  induction run with
  | initial => exact .inl rfl
  | begins _ _ _ _ ih => exact ih
  | steps _ d _ _ _ => exact .inr ⟨d, List.mem_concat_self, rfl⟩

/-- What holds of all settings in force holds of the copy of a check. -/
theorem copy_of_in_force {P : TelegramConfig → Prop} (run : Run base config ok s log)
    (initially : P config.normalize) (later : ∀ d ∈ log, P d.left.config) {i : Nat} {c : Check}
    {copy : TelegramConfig} (hi : s.tasks[i]? = some (.check c)) (hc : c.config? = some copy) :
    P copy := by
  induction run generalizing i c copy with
  | initial => cases hi
  | begins _ t fresh _ ih =>
    obtain hold | ⟨-, rfl⟩ := getElem?_snoc.mp hi
    · exact ih later hold hc
    · rw [Check.config?_fresh fresh] at hc
      cases hc
  | @steps s₁ log₁ run₁ d does _ ih =>
    have later₁ : ∀ d ∈ log₁, P d.left.config := fun d hd => later d (List.mem_append_left _ hd)
    obtain ⟨-, heq⟩ | ⟨-, hold⟩ := does.tasks_result hi
    · obtain ⟨c₀, hb, moved⟩ := does.movedTo heq.symm
      obtain hkept | ⟨-, hcopied⟩ := moved.config?_before hc
      · exact ih later₁ (hb ▸ does.here) hkept
      · rw [hcopied, does.found]
        obtain heq | ⟨d₁, hd₁, heq⟩ := run₁.in_force_cases
        · rw [heq]
          exact initially
        · rw [heq]
          exact later₁ d₁ hd₁
    · exact ih later₁ hold hc

theorem copy_cooldown (run : Run base config ok s log) {i : Nat} {c : Check}
    {copy : TelegramConfig} (hi : s.tasks[i]? = some (.check c)) (hc : c.config? = some copy) :
    copy.cooldown.isZero = false := by
  refine run.copy_of_in_force (P := fun copy => copy.cooldown.isZero = false)
    config.normalize_durations.2 (fun d hd => ?_) hi hc
  obtain ⟨k, hk⟩ := List.getElem?_of_mem hd
  obtain ⟨s₀, run₀, does, -⟩ := run.systemAt hk
  exact (does.taskMoved.sound (does.found ▸ run₀.sound)).cooldown

/-- While a check is under way and nothing switches them off, notifications are on. -/
theorem enabled_of_underWay (run : Run base config ok s log)
    (on : ∀ d ∈ log, ¬ d.Switches false) {i : Nat} {t : Task} (hi : s.tasks[i]? = some t)
    (hw : t.isUnderWay = true) : s.shared.config.enabled = true := by
  obtain ⟨p, c, hp, -, hcopy⟩ := run.copied hi hw
  cases hon : s.shared.config.enabled with
  | true => rfl
  | false =>
    obtain ⟨k, f, -, hf, hsw⟩ := run.disabled_since_copy hp hcopy hon
    exact (on f (List.mem_of_getElem? hf) hsw).elim

end System.Run

end HostAlert.Manager
