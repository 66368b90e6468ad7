import HostAlert.Alert.State
import HostAlert.Config

/-!
# Shared state

The settings and the alert states that all tasks of a manager share. Every change is one of three
operations, each made while the state is held: new settings, a cleared alert, a recorded delivery.
-/

namespace HostAlert.Manager

/-- What the tasks of a manager share. -/
structure Shared where
  config : TelegramConfig
  alerts : AlertStates

namespace Shared

def initial (config : TelegramConfig) : Shared :=
  ⟨config.normalize, .initial⟩

/-- Replaces the settings. Switching notifications off ends every alert; the times of the last
deliveries stay. -/
def replaceConfig (s : Shared) (config : TelegramConfig) : Shared :=
  ⟨config.normalize, if config.enabled then s.alerts else s.alerts.clearAll⟩

def clearAlert (s : Shared) (m : Metric) : Shared :=
  { s with alerts := s.alerts.clear m }

/-- Records that an alert attempted at a time was delivered, unless notifications have been
switched off since. -/
def recordDelivery (s : Shared) (m : Metric) (time : Instant) : Shared :=
  if s.config.enabled then { s with alerts := s.alerts.markActive m time } else s

@[simp] theorem config_clearAlert (s : Shared) (m : Metric) :
    (s.clearAlert m).config = s.config := rfl

@[simp] theorem config_recordDelivery (s : Shared) (m : Metric) (time : Instant) :
    (s.recordDelivery m time).config = s.config := by
  unfold recordDelivery
  split <;> rfl

@[simp] theorem config_replaceConfig (s : Shared) (config : TelegramConfig) :
    (s.replaceConfig config).config = config.normalize := rfl

end Shared

end HostAlert.Manager
