import HostAlert.Proofs.Manager.Disabling

/-!
# One metric among others

A `Cue` is what the surroundings decide for one metric: that the settings are replaced, that a
check reads them, what a check finds when the metric's turn comes, and when the state is taken to
change the metric's alert. `System.Meets` relates the systems of a run in which checks do not
overlap to the script of cues that it met; a cue for a turn or a change is passed over where no
check has anything to do with the metric. A `Watch` is all that such a run says about the metric,
and moves by cues alone (`Watch.step`).
-/

namespace HostAlert.Manager

/-- What the fate of one metric depends on in the settings. -/
structure Terms where
  enabled : Bool
  hasCredentials : Bool
  threshold : Float
  cooldown : Span

def Terms.ofConfig (config : TelegramConfig) (m : Metric) : Terms :=
  ⟨config.enabled, config.hasCredentials, config.threshold m, config.cooldown⟩

/-- What the surroundings decide for one metric. -/
inductive Cue
  /-- The settings are replaced. -/
  | replaced (terms : Terms)
  /-- A check reads the settings. -/
  | read
  /-- A check looks at the metric at a time. An alert that it then attempts would be attempted at
  `attempt`, and accepted or not. -/
  | turn (reading : Float) (now attempt : Instant) (accepted : Bool)
  /-- The state is taken to change the alert of the metric. -/
  | change

/-- Whether an alert of the latest turn is accepted. -/
def lastAccepted (script : List Cue) : Bool :=
  script.foldl (fun accepted cue => match cue with | .turn _ _ _ a => a | _ => accepted) false

@[simp] theorem lastAccepted_replaced (script : List Cue) (terms : Terms) :
    lastAccepted (script ++ [.replaced terms]) = lastAccepted script := by
  simp [lastAccepted]

@[simp] theorem lastAccepted_read (script : List Cue) :
    lastAccepted (script ++ [.read]) = lastAccepted script := by
  simp [lastAccepted]

@[simp] theorem lastAccepted_turn (script : List Cue) (reading : Float) (now attempt : Instant)
    (accepted : Bool) :
    lastAccepted (script ++ [.turn reading now attempt accepted]) = accepted := by
  simp [lastAccepted]

@[simp] theorem lastAccepted_change (script : List Cue) :
    lastAccepted (script ++ [.change]) = lastAccepted script := by
  simp [lastAccepted]

/-! ## Runs that meet a script -/

def Task.concerns (m : Metric) : Task → Bool
  | update _ | check .begun => true
  | check (.examining _ n _) | check (.clearing _ n _) | check (.awaiting _ n _ _ _)
  | check (.recording _ n _ _) => n = m
  | _ => false

def Deed.Tries (d : Deed) (m : Metric) : Prop :=
  ∃ work rest now attempt, d.before = .check (.examining work m rest) ∧
    d.event = .enter now attempt ∧
    Check.evaluation work m (d.found.alerts.get m) now = .startsToExceed

/-- The cues that a deed meets after a script. An alert that is attempted must fare as the cue of
its turn says. -/
inductive Deed.Plays (m : Metric) (script : List Cue) (d : Deed) : List Cue → Prop
  | replaces (new : TelegramConfig) (before : d.before = .update new) :
      Plays m script d [.replaced (.ofConfig new.normalize m)]
  | reads (before : d.before = .check .begun) : Plays m script d [.read]
  | turns (work : Work) (rest : List Metric) (now attempt tried : Instant) (accepted : Bool)
      (before : d.before = .check (.examining work m rest)) (event : d.event = .enter now attempt)
      (agreed : d.Tries m → tried = attempt ∧
        (accepted = true → ∃ call, d.after = .check (.awaiting work m rest attempt call))) :
      Plays m script d [.turn (m.reading work.info) now tried accepted]
  | answers (work : Work) (rest : List Metric) (time : Instant) (call : Http.Call)
      (answer : Http.Answer) (before : d.before = .check (.awaiting work m rest time call))
      (event : d.event = .answered answer)
      (agreed : Delivery.outcome answer = .ok () ↔ lastAccepted script = true) :
      Plays m script d []
  | changes (before : (∃ work rest, d.before = .check (.clearing work m rest)) ∨
      ∃ work rest time, d.before = .check (.recording work m rest time)) :
      Plays m script d [.change]
  | other (elsewhere : d.before.concerns m = false) : Plays m script d []

namespace System

/-- No check under way has anything to do with the metric any more. -/
def Idle (s : System) (m : Metric) : Prop :=
  ∀ (j : Nat) (c : Check), s.tasks[j]? = some (.check c) → c.isUnderWay = true →
    m ∉ c.ahead ∧ ¬ c.Handles m

/-- The systems that a manager can come to while checks do not overlap, with the script that was met
for the metric and the places in it at which a check tried to alert the metric. -/
inductive Meets (base : String) (config : TelegramConfig) (m : Metric) :
    System → List Cue → List Nat → Prop
  | initial : Meets base config m (.initial config) [] []
  | begins {s : System} {script : List Cue} {tries : List Nat}
      (meets : Meets base config m s script tries) (t : Task) (fresh : t.isFresh = true)
      (serial : System.Serial ⟨s.shared, s.tasks ++ [t]⟩) :
      Meets base config m ⟨s.shared, s.tasks ++ [t]⟩ script tries
  | steps {s : System} {script : List Cue} {tries : List Nat}
      (meets : Meets base config m s script tries) (d : Deed) (does : d.Does base s)
      (serial : (d.result s).Serial) {cues : List Cue} (plays : d.Plays m script cues)
      (quiet : ¬ d.Tries m) : Meets base config m (d.result s) (script ++ cues) tries
  | tries {s : System} {script : List Cue} {tries : List Nat}
      (meets : Meets base config m s script tries) (d : Deed) (does : d.Does base s)
      (serial : (d.result s).Serial) {cues : List Cue} (plays : d.Plays m script cues)
      (tried : d.Tries m) :
      Meets base config m (d.result s) (script ++ cues) (tries ++ [script.length])
  | passesTurn {s : System} {script : List Cue} {tries : List Nat}
      (meets : Meets base config m s script tries) (idle : s.Idle m) (reading : Float)
      (now attempt : Instant) (accepted : Bool) :
      Meets base config m s (script ++ [.turn reading now attempt accepted]) tries
  | passesChange {s : System} {script : List Cue} {tries : List Nat}
      (meets : Meets base config m s script tries) (idle : s.Idle m) :
      Meets base config m s (script ++ [.change]) tries

/-- What meets a script is a run. -/
theorem Meets.run {base : String} {config : TelegramConfig} {m : Metric} {s : System}
    {script : List Cue} {tries : List Nat} (h : Meets base config m s script tries) :
    ∃ log, Run base config Serial s log := by
  induction h with
  | initial => exact ⟨[], .initial (Nat.zero_le 1)⟩
  | begins _ t fresh serial ih =>
    obtain ⟨log, run⟩ := ih
    exact ⟨log, run.begins t fresh serial⟩
  | steps _ d does serial _ _ ih | tries _ d does serial _ _ ih =>
    obtain ⟨log, run⟩ := ih
    exact ⟨log ++ [d], run.steps d does serial⟩
  | passesTurn _ _ _ _ _ _ ih | passesChange _ _ ih => exact ih

end System

/-! ## The fate of one metric -/

/-- What a check under way is yet to do about the metric. -/
inductive Phase
  /-- Nothing. -/
  | idle
  /-- To look at it, with settings of these terms. -/
  | ahead (terms : Terms)
  /-- To end its alert. -/
  | clearing
  /-- To record an alert that was or will be accepted. -/
  | recording (time : Instant)

/-- What a run says about one metric. -/
structure Watch where
  terms : Terms
  alert : AlertState
  phase : Phase

namespace Watch

def initial (terms : Terms) : Watch := ⟨terms, .never, .idle⟩

def evaluation (w : Watch) (terms : Terms) (reading : Float) (now : Instant) : Evaluation :=
  .evaluate reading terms.threshold w.alert.active (w.alert.since now) terms.cooldown

/-- Whether a check tries to alert the metric at a cue. -/
def tries (w : Watch) : Cue → Bool
  | .turn reading now _ _ =>
    match w.phase with
    | .ahead terms => w.evaluation terms reading now = .startsToExceed
    | _ => false
  | _ => false

def step (w : Watch) : Cue → Watch
  | .replaced terms =>
    { w with
      terms := terms
      alert := if terms.enabled then w.alert else { w.alert with active := false } }
  | .read =>
    if w.terms.enabled && w.terms.hasCredentials then { w with phase := .ahead w.terms } else w
  | .turn reading now attempt accepted =>
    match w.phase with
    | .ahead terms =>
      let e := w.evaluation terms reading now
      if e.clears then { w with phase := .clearing }
      else if e = .startsToExceed ∧ accepted = true then { w with phase := .recording attempt }
      else { w with phase := .idle }
    | _ => w
  | .change =>
    match w.phase with
    | .clearing => { w with alert := { w.alert with active := false }, phase := .idle }
    | .recording time =>
      { w with alert := if w.terms.enabled then ⟨true, some time⟩ else w.alert, phase := .idle }
    | _ => w

def replay (w : Watch) (script : List Cue) : Watch :=
  script.foldl step w

@[simp] theorem replay_nil (w : Watch) : w.replay [] = w := rfl

@[simp] theorem replay_snoc (w : Watch) (script : List Cue) (cue : Cue) :
    w.replay (script ++ [cue]) = (w.replay script).step cue := by
  simp [replay]

/-- The places in a script at which a check tries to alert the metric. -/
def attempts (w : Watch) (script : List Cue) : List Nat :=
  (List.range script.length).filter fun p =>
    script[p]?.any fun cue => (w.replay (script.take p)).tries cue

@[simp] theorem attempts_nil (w : Watch) : w.attempts [] = [] := rfl

theorem attempts_snoc (w : Watch) (script : List Cue) (cue : Cue) :
    w.attempts (script ++ [cue]) =
      w.attempts script ++ if (w.replay script).tries cue then [script.length] else [] := by
  have earlier : ∀ p ∈ List.range script.length,
      ((script ++ [cue])[p]?.any fun c => (w.replay ((script ++ [cue]).take p)).tries c) =
        script[p]?.any fun c => (w.replay (script.take p)).tries c := by
    intro p hp
    have hlt : p < script.length := List.mem_range.mp hp
    rw [List.getElem?_append_left hlt, List.take_append_of_le_length (Nat.le_of_lt hlt)]
  rw [attempts, List.length_append, List.length_singleton, List.range_succ, List.filter_append,
    List.filter_congr earlier, ← attempts]
  simp [List.filter_cons]

end Watch

end HostAlert.Manager
