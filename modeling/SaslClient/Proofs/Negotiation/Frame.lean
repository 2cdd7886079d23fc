import SaslClient.Negotiation
/-!
# What was done before an event

An attempt does not look back at its effects. So an event adds the same effects whatever was done
before it, and what was done before stays in front.
-/
namespace SaslClient

namespace Turn

variable {t : Turn}

def precededBy (t : Turn) (before : List Effect) : Turn :=
  { t with effects := before ++ t.effects }

variable (before : List Effect)

@[simp] theorem attempt_precededBy : (t.precededBy before).attempt = t.attempt :=
  rfl

@[simp] theorem entropy_precededBy : (t.precededBy before).entropy = t.entropy :=
  rfl

theorem emit_precededBy (effect : Effect) :
    (t.precededBy before).emit effect = (t.emit effect).precededBy before := by
  simp only [precededBy, emit, List.append_assoc]

theorem log_precededBy (entry : LogEntry) :
    (t.precededBy before).log entry = (t.log entry).precededBy before :=
  emit_precededBy before (.logged entry)

theorem logAll_precededBy (entries : List LogEntry) :
    (t.precededBy before).logAll entries = (t.logAll entries).precededBy before := by
  simp only [precededBy, logAll, List.append_assoc]

theorem enter_precededBy (next : State) :
    (t.precededBy before).enter next = (t.enter next).precededBy before := by
  simp only [enter, attempt_precededBy, log_precededBy]
  rfl

theorem send_precededBy (link : Link) (stanza : Element) (next : State) :
    (t.precededBy before).send link stanza next =
      ((t.send link stanza next).1.precededBy before, (t.send link stanza next).2) := by
  cases link with
  | up => simp only [send, log_precededBy, emit_precededBy, enter_precededBy]
  | down reason => simp only [send, log_precededBy]

theorem report_precededBy (outcome : Outcome) :
    (t.precededBy before).report outcome = (t.report outcome).precededBy before := by
  by_cases h : t.attempt.reported
  · simp only [report, attempt_precededBy, h, ↓reduceIte]
    exact log_precededBy before .alreadyReported
  · simp only [report, attempt_precededBy, h, Bool.false_eq_true, ↓reduceIte, emit_precededBy]
    rfl

theorem finish_precededBy (verdict : Option Failure) :
    (t.precededBy before).finish verdict = (t.finish verdict).precededBy before := by
  simp only [finish, enter_precededBy]
  generalize t.enter _ = u
  let v : Turn := { u with attempt := { u.attempt with mechanism := none } }
  have hreport (outcome : Outcome) := report_precededBy (t := v) before outcome
  exact congrArg (fun w : Turn => { w with attempt := { w.attempt with failure := verdict } })
    (hreport _)

theorem settle_precededBy (r : Turn × Option Failure) :
    settle (r.1.precededBy before, r.2) = (settle r).precededBy before := by
  obtain ⟨t, verdict⟩ := r
  cases verdict with
  | none => rfl
  | some failure => exact finish_precededBy before (some failure)

end Turn

namespace Negotiation

open Turn

variable {t : Turn} (before : List Effect)

theorem respond_precededBy (link : Link) (mechanism : Mechanism) (challenge : Directives) :
    respond link mechanism challenge (t.precededBy before) =
      ((respond link mechanism challenge t).1.precededBy before,
        (respond link mechanism challenge t).2) := by
  simp only [respond, attempt_precededBy, entropy_precededBy]
  generalize mechanism.respond t.attempt.state challenge t.entropy = answer
  let u : Turn :=
    { t with
      attempt := { t.attempt with mechanism := some answer.mechanism }, entropy := answer.entropy }
  have hlog := logAll_precededBy (t := u) before answer.log
  cases answer.result with
  | error error => exact Prod.ext hlog rfl
  | ok step =>
    have hsend := send_precededBy (t := u.logAll answer.log) before link
      (responseStanza step.payload) step.next
    rw [← hlog] at hsend
    exact hsend

theorem answer_precededBy (link : Link) (payload : String) :
    answer link payload (t.precededBy before) =
      ((answer link payload t).1.precededBy before, (answer link payload t).2) := by
  simp only [answer, attempt_precededBy]
  cases t.attempt.mechanism with
  | none => rfl
  | some mechanism =>
    by_cases haccepts : mechanism.accepts t.attempt.state
    · simp only [haccepts, ↓reduceIte]
      cases readChallenge payload with
      | error failure => exact Prod.ext (logAll_precededBy before _) rfl
      | ok challenge => exact respond_precededBy before link mechanism challenge
    · simp only [haccepts, Bool.false_eq_true, ↓reduceIte]
      exact Prod.ext (log_precededBy before _) rfl

theorem challenge_precededBy (link : Link) (payload : String) :
    challenge link payload (t.precededBy before) =
      (challenge link payload t).precededBy before := by
  by_cases h : t.attempt.isFinished
  · simp only [challenge, attempt_precededBy, h, ↓reduceIte]
    exact log_precededBy before _
  · simp only [challenge, attempt_precededBy, h, Bool.false_eq_true, ↓reduceIte,
      answer_precededBy, settle_precededBy]

theorem success_precededBy :
    success (t.precededBy before) = (success t).precededBy before := by
  by_cases h : t.attempt.isFinished
  · simp only [success, attempt_precededBy, h, ↓reduceIte]
    exact log_precededBy before _
  simp only [success, attempt_precededBy, h, Bool.false_eq_true, ↓reduceIte]
  cases prematurity t.attempt with
  | none => simp only [log_precededBy, finish_precededBy]
  | some failure =>
    cases t.attempt.config.successPolicy with
    | trustServer => simp only [log_precededBy, finish_precededBy]
    | strict => exact finish_precededBy before _

theorem fail_precededBy (reason : Option String) :
    fail reason (t.precededBy before) = (fail reason t).precededBy before := by
  by_cases h : t.attempt.isFinished
  · simp only [fail, attempt_precededBy, h, ↓reduceIte]
    exact log_precededBy before _
  · simp only [fail, attempt_precededBy, h, Bool.false_eq_true, ↓reduceIte, log_precededBy,
      finish_precededBy]

end Negotiation

end SaslClient
