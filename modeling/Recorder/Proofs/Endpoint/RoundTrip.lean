/-
# Endpoints, saved and checked again

`SPEC_FULL.md` §1, `ConnectionOptions`, which serializes under camel-case keys.

The saved form of an endpoint gives every setting under its first name, so checking
it finds the endpoint again (`Endpoint.check_toJson`), but for the numbers in its
driver parameters that are not finite.  It would not find the delay if that was not
above zero; whatever has been checked has one that is (`Endpoint.isPositive_of_check`).
-/

import Recorder.Endpoint.Options
import Recorder.Proofs.Json.Fields
import Recorder.Proofs.Json.Finite
import Recorder.Proofs.Outcome

namespace Recorder

/-- Think-time settings are read back as they were, since each of the three is written under
its first name and nothing else is. -/
theorem ThinkTime.check_toJson (t : ThinkTime) : ThinkTime.check t.toJson = .ok t := by
  cases t; rfl

namespace Endpoint

/-- An endpoint whose driver parameters hold no number that is not finite: what is left of an
endpoint when it is saved. -/
def finite (e : Endpoint) : Endpoint :=
  { e with driverParameters := Json.finiteFields e.driverParameters }

/-- **A delay that passed its check is above zero,** and may be infinite: the check refuses
the rest of the numbers and leaves the one that it takes as it is. -/
theorem isPositive_of_checkDelay {v : Json} {delay : Double} (h : checkDelay v = .ok delay) :
    delay.isPositive := by
  unfold checkDelay at h
  cases hs : Scalar.checked Scalar.float v with
  | error vs => rw [hs] at h; cases h
  | ok x =>
    rw [hs, Checked.ensure] at h
    by_cases hx : x.isPositive
    · rw [if_pos hx] at h
      obtain rfl := Except.ok.inj h
      exact hx
    · rw [if_neg hx] at h
      cases h

/-- A delay above zero passes its check. -/
theorem checkDelay_float {delay : Double} (h : delay.isPositive) :
    checkDelay (.float delay) = .ok delay := by
  have hs : Scalar.checked Scalar.float (.float delay) = .ok delay := rfl
  rw [checkDelay, hs, Checked.ensure, if_pos h]

/-- So is the one of an endpoint that was given none: five seconds. -/
theorem isPositive_ofUrl (url : String) : (ofUrl url).reconnectDelay.isPositive := by
  simp only [ofUrl]
  decide +kernel

/-- **An endpoint that passed its checks waits before it connects again,** for the delay that
it was given or for the five seconds of an endpoint that was given none. -/
theorem isPositive_of_check {v : Json} {e : Endpoint} (h : check v = .ok e) :
    e.reconnectDelay.isPositive := by
  unfold check at h
  split at h
  · rename_i fs
    obtain ⟨⟨url, mode, params, think, hub, target, delay⟩, hall, rfl⟩ := Outcome.map_eq_ok.1 h
    simp only [Checked.and_eq_ok] at hall
    obtain ⟨-, -, -, -, -, -, hd⟩ := hall
    exact Fields.of_read (P := fun d => d.isPositive) (fun _ _ => isPositive_of_checkDelay)
      (isPositive_ofUrl "") hd
  · cases h

/-- The fields of the saved form, one for each setting and each under its first name. -/
def toFields (e : Endpoint) : Fields :=
  [("baseUrl", .str e.baseUrl), ("mode", .str e.mode.name),
    ("driverParameters", .obj (Json.finiteFields e.driverParameters)),
    ("thinkTimeSettings", e.thinkTime.toJson), ("hubPath", .str e.hubPath),
    ("eventTarget", .str e.eventTarget), ("reconnectDelay", .float e.reconnectDelay)]

/-- What is saved of an endpoint is an object, the one of these fields. -/
theorem toJson_eq (e : Endpoint) : e.toJson = .obj e.toFields := rfl

/-- **A saved endpoint is found again:** checking its saved form gives the endpoint, but for
numbers in its driver parameters that are not finite.  The delay has to be above zero, as it
is in every endpoint that was checked. -/
theorem check_toJson {e : Endpoint} (h : e.reconnectDelay.isPositive) :
    check e.toJson = .ok e.finite := by
  have hu : Fields.read e.toFields ["baseUrl", "url", "base_url"] checkText (.missing "baseUrl") =
      .ok e.baseUrl := Fields.read_of_check rfl rfl
  have hm : Fields.read e.toFields ["mode"] CaptureMode.check (.ok (ofUrl "").mode) = .ok e.mode :=
    Fields.read_of_check rfl (by simp [CaptureMode.check])
  have hp : Fields.read e.toFields ["driverParameters", "driver_parameters"] checkParameters
      (.ok (ofUrl "").driverParameters) = .ok (Json.finiteFields e.driverParameters) :=
    Fields.read_of_check rfl rfl
  have ht : Fields.read e.toFields ["thinkTimeSettings", "think_time_settings"] ThinkTime.check
      (.ok (ofUrl "").thinkTime) = .ok e.thinkTime :=
    Fields.read_of_check rfl (ThinkTime.check_toJson e.thinkTime)
  have hh : Fields.read e.toFields ["hubPath", "hub_path"] checkText (.ok (ofUrl "").hubPath) =
      .ok e.hubPath := Fields.read_of_check rfl rfl
  have hr : Fields.read e.toFields ["eventTarget", "event_target"] checkText
      (.ok (ofUrl "").eventTarget) = .ok e.eventTarget := Fields.read_of_check rfl rfl
  have hd : Fields.read e.toFields ["reconnectDelay", "reconnect_delay"] checkDelay
      (.ok (ofUrl "").reconnectDelay) = .ok e.reconnectDelay :=
    Fields.read_of_check rfl (checkDelay_float h)
  simp only [check, toJson_eq, urlNames, hu, hm, hp, ht, hh, hr, hd]
  rfl

end Endpoint
end Recorder
