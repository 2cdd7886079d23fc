import SaslClient.Negotiation
/-!
# Runs, stages and moves

A run takes a new attempt through inputs, one after the other: events, each with the connection as
it is at that moment. Between two events an attempt is at one of six stages, and the stage with the
credentials and the settings says all about it. `Move` lists what an event can make of a stage, with
the conditions and with the effects.
-/
namespace SaslClient

/-- An event, and whether the connection takes stanzas while it is handled. -/
structure Input where
  link : Link
  event : Event
deriving DecidableEq, Repr

def Input.IsOffer (i : Input) : Prop :=
  ∃ offered, i.event = .start offered

namespace Effect

def stanza? : Effect → Option Element
  | sent stanza => some stanza
  | _ => none

def outcome? : Effect → Option Outcome
  | reported outcome => some outcome
  | _ => none

end Effect

namespace Turn

def stanzas (t : Turn) : List Element :=
  t.effects.filterMap Effect.stanza?

def outcomes (t : Turn) : List Outcome :=
  t.effects.filterMap Effect.outcome?

def next (t : Turn) (i : Input) : Turn :=
  let u := Negotiation.handle i.link i.event t.attempt t.entropy
  { u with effects := t.effects ++ u.effects }

def follow (t : Turn) (inputs : List Input) : Turn :=
  inputs.foldl next t

end Turn

namespace Negotiation

def run (c : Credentials) (config : Config) (e : Entropy) (inputs : List Input) : Turn :=
  Turn.follow { attempt := { credentials := c, config }, entropy := e } inputs

theorem run_append (c : Credentials) (config : Config) (e : Entropy) (before after : List Input) :
    run c config e (before ++ after) = (run c config e before).follow after := by
  rw [run, Turn.follow, List.foldl_append]
  rfl

theorem run_concat (c : Credentials) (config : Config) (e : Entropy) (inputs : List Input)
    (i : Input) : run c config e (inputs ++ [i]) = (run c config e inputs).next i :=
  run_append c config e inputs [i]

inductive Stage
  | idle
  | messageSent (m : Plain)
  | chosen
  | responseSent (proof : String)
  | acknowledged
  | ended (kind : Option MechanismKind) (verdict : Option Failure)

def endState : Option Failure → State
  | none => .succeeded
  | some _ => .failed

def endOutcome : Option Failure → Outcome
  | none => .authenticated
  | some failure => .failed failure.message

def conclusion (before : State) (verdict : Option Failure) : List Effect :=
  [.logged (.transition before (endState verdict)), .reported (endOutcome verdict)]

namespace Stage

def state : Stage → State
  | idle => .noMechanism
  | messageSent _ => .simpleAuthSent
  | chosen => .challengeResponsePending
  | responseSent _ => .challengeResponseAuthSent
  | acknowledged => .challengeResponseFinalSent
  | ended _ verdict => endState verdict

def kind : Stage → Option MechanismKind
  | idle => none
  | messageSent _ => some .plain
  | chosen | responseSent _ | acknowledged => some .digestMd5
  | ended kind _ => kind

def mechanism (c : Credentials) : Stage → Option Mechanism
  | idle => none
  | messageSent m => some (.plain m)
  | chosen => some (.digestMd5 (.ofCredentials c))
  | responseSent proof =>
    some (.digestMd5 { DigestMd5.ofCredentials c with serverProof := some proof })
  | acknowledged => some (.digestMd5 (.ofCredentials c))
  | ended _ _ => none

def verdict : Stage → Option Failure
  | ended _ verdict => verdict
  | _ => none

def isEnded : Stage → Bool
  | ended _ _ => true
  | _ => false

def attempt (c : Credentials) (config : Config) (s : Stage) : Negotiation :=
  { credentials := c, config, kind := s.kind, mechanism := s.mechanism c, state := s.state
    reported := s.isEnded, failure := s.verdict }

section

variable (c : Credentials) (config : Config) (s : Stage)

@[simp] theorem attempt_credentials : (s.attempt c config).credentials = c := rfl

@[simp] theorem attempt_config : (s.attempt c config).config = config := rfl

@[simp] theorem attempt_kind : (s.attempt c config).kind = s.kind := rfl

@[simp] theorem attempt_mechanism : (s.attempt c config).mechanism = s.mechanism c := rfl

@[simp] theorem attempt_state : (s.attempt c config).state = s.state := rfl

@[simp] theorem attempt_reported : (s.attempt c config).reported = s.isEnded := rfl

@[simp] theorem attempt_failure : (s.attempt c config).failure = s.verdict := rfl

end

def first : Mechanism → Stage
  | .plain m => messageSent m
  | .digestMd5 _ => chosen

theorem isTerminal_state (s : Stage) : s.state.isTerminal = s.isEnded := by
  cases s with
  | ended kind verdict => cases verdict <;> rfl
  | _ => rfl

theorem eq_idle {s : Stage} (h : s.state = .noMechanism) : s = idle := by
  cases s with
  | idle => rfl
  | ended kind verdict => cases verdict <;> cases h
  | _ => cases h

theorem eq_chosen {s : Stage} (h : s.state = .challengeResponsePending) : s = chosen := by
  cases s with
  | chosen => rfl
  | ended kind verdict => cases verdict <;> cases h
  | _ => cases h

theorem eq_acknowledged {s : Stage} (h : s.state = .challengeResponseFinalSent) :
    s = acknowledged := by
  cases s with
  | acknowledged => rfl
  | ended kind verdict => cases verdict <;> cases h
  | _ => cases h

theorem eq_of_succeeded {s : Stage} (h : s.state = .succeeded) : ∃ kind, s = ended kind none := by
  cases s with
  | ended kind verdict =>
    cases verdict with
    | none => exact ⟨kind, rfl⟩
    | some failure => cases h
  | _ => cases h

theorem eq_idle_of_mechanism {c : Credentials} {s : Stage} (hended : s.isEnded = false)
    (hm : s.mechanism c = none) : s = idle := by
  cases s with
  | idle => rfl
  | ended kind verdict => cases hended
  | _ => cases hm

theorem not_isEnded {c : Credentials} {s : Stage} {m : Mechanism} (h : s.mechanism c = some m) :
    s.isEnded = false := by
  cases s with
  | ended kind verdict => cases h
  | _ => rfl

theorem eq_ended {s : Stage} (h : s.isEnded = true) : ∃ kind verdict, s = ended kind verdict := by
  cases s with
  | ended kind verdict => exact ⟨kind, verdict, rfl⟩
  | _ => cases h

end Stage

def eventKind : Event → StanzaKind
  | .start _ => .streamFeatures
  | .challenge _ => .challenge
  | .success => .success
  | .failure _ => .failure

/-- What a response is computed from: the credentials, the first challenge, and a draw. -/
structure Grounds (c : Credentials) (payload : String) (e : Entropy) where
  challenge : Directives
  username : String
  password : String
  nonce : String
  realm : String
  octets : Vector UInt8 32
  read : readChallenge payload = .ok challenge
  has_username : c.username = some username
  has_password : c.password = some password
  has_nonce : challenge.get? "nonce" = some nonce
  has_realm : (challenge.get? "realm").or c.server = some realm
  drawn : e.draw.1 = .ok octets

def Grounds.digest {c : Credentials} {payload : String} {e : Entropy} (g : Grounds c payload e) :
    Digest.Inputs where
  username := g.username
  realm := g.realm
  password := g.password
  nonce := g.nonce
  cnonce := Digest.nonceOf g.octets
  service := Digest.xmppService

/-- What an input makes of a stage: the next stage, the entropy that is left, and the effects. -/
inductive Move (c : Credentials) (config : Config) :
    Input → Stage → Entropy → Stage → Entropy → List Effect → Prop
  | relisted {link : Link} {offered : List String} {s : Stage} {e : Entropy}
      (not_idle : s.state ≠ .noMechanism) :
      Move c config ⟨link, .start offered⟩ s e s e [.logged (.listIgnored s.state)]
  | late {link : Link} {event : Event} {kind : Option MechanismKind} {verdict : Option Failure}
      {e : Entropy} (not_offer : eventKind event ≠ .streamFeatures) :
      Move c config ⟨link, event⟩ (.ended kind verdict) e (.ended kind verdict) e
        [.logged (.stanzaIgnored (eventKind event))]
  | unsupported {link : Link} {offered : List String} {entries : List LogEntry} {e : Entropy}
      (selected : Selection.select offered config.mechanisms = (none, entries)) :
      Move c config ⟨link, .start offered⟩ .idle e (.ended none (some .noSupportedMechanism)) e
        (entries.map .logged ++
          .logged .noMechanismFound :: conclusion .noMechanism (some .noSupportedMechanism))
  | lacking {link : Link} {offered : List String} {entries : List LogEntry} {kind : MechanismKind}
      {error : MechanismError} {e : Entropy}
      (selected : Selection.select offered config.mechanisms = (some kind, entries))
      (refused : Mechanism.ofCredentials kind c = .error error) :
      Move c config ⟨link, .start offered⟩ .idle e (.ended (some kind) (some (.mechanism error))) e
        (entries.map .logged ++
          .logged (.mechanismChosen kind) :: conclusion .noMechanism (some (.mechanism error)))
  | launched {offered : List String} {entries : List LogEntry} {kind : MechanismKind}
      {m : Mechanism} {auth : Element} {e : Entropy}
      (selected : Selection.select offered config.mechanisms = (some kind, entries))
      (created : Mechanism.ofCredentials kind c = .ok m)
      (built : authStanza config kind m.initial.payload = .ok auth) :
      Move c config ⟨.up, .start offered⟩ .idle e (.first m) e
        (entries.map .logged ++
          [.logged (.mechanismChosen kind), .logged (.transition .noMechanism m.pendingState),
            .logged (.sending auth.name), .sent auth,
            .logged (.transition m.pendingState m.initial.next)])
  | unlaunched {reason : String} {offered : List String} {entries : List LogEntry}
      {kind : MechanismKind} {m : Mechanism} {auth : Element} {e : Entropy}
      (selected : Selection.select offered config.mechanisms = (some kind, entries))
      (created : Mechanism.ofCredentials kind c = .ok m)
      (built : authStanza config kind m.initial.payload = .ok auth) :
      Move c config ⟨.down reason, .start offered⟩ .idle e
        (.ended (some kind) (some (.transport reason))) e
        (entries.map .logged ++
          .logged (.mechanismChosen kind) :: .logged (.transition .noMechanism m.pendingState) ::
            .logged (.sending auth.name) :: conclusion m.pendingState (some (.transport reason)))
  | early {link : Link} {payload : String} {e : Entropy} :
      Move c config ⟨link, .challenge payload⟩ .idle e
        (.ended none (some (.unexpectedStanza .challenge .noMechanism))) e
        (conclusion .noMechanism (some (.unexpectedStanza .challenge .noMechanism)))
  | untimely {link : Link} {payload : String} {s : Stage} {m : Mechanism} {e : Entropy}
      (mechanism : s.mechanism c = some m) (unaccepted : m.accepts s.state = false) :
      Move c config ⟨link, .challenge payload⟩ s e
        (.ended s.kind (some (.mechanism (.unexpectedChallenge s.state)))) e
        (.logged (.untimelyChallenge m.kind) ::
          conclusion s.state (some (.mechanism (.unexpectedChallenge s.state))))
  | unreadable {link : Link} {payload : String} {s : Stage} {m : Mechanism} {failure : Failure}
      {e : Entropy} (mechanism : s.mechanism c = some m) (accepted : m.accepts s.state = true)
      (unread : readChallenge payload = .error failure) :
      Move c config ⟨link, .challenge payload⟩ s e (.ended s.kind (some failure)) e
        ((readingLog failure).map .logged ++ conclusion s.state (some failure))
  | unanswered {link : Link} {payload : String} {s : Stage} {m : Mechanism}
      {challenge : Directives} {error : MechanismError} {e : Entropy}
      (mechanism : s.mechanism c = some m) (accepted : m.accepts s.state = true)
      (read : readChallenge payload = .ok challenge)
      (refused : (m.respond s.state challenge e).result = .error error) :
      Move c config ⟨link, .challenge payload⟩ s e (.ended s.kind (some (.mechanism error)))
        (m.respond s.state challenge e).entropy
        ((m.respond s.state challenge e).log.map .logged ++
          conclusion s.state (some (.mechanism error)))
  | undelivered {reason payload : String} {s : Stage} {m : Mechanism} {challenge : Directives}
      {step : Step} {e : Entropy} (mechanism : s.mechanism c = some m)
      (accepted : m.accepts s.state = true) (read : readChallenge payload = .ok challenge)
      (answered : (m.respond s.state challenge e).result = .ok step) :
      Move c config ⟨.down reason, .challenge payload⟩ s e
        (.ended s.kind (some (.transport reason))) (m.respond s.state challenge e).entropy
        ((m.respond s.state challenge e).log.map .logged ++
          .logged (.sending "response") :: conclusion s.state (some (.transport reason)))
  | responded {payload : String} {e : Entropy} (g : Grounds c payload e) :
      Move c config ⟨.up, .challenge payload⟩ .chosen e (.responseSent g.digest.serverProof)
        e.draw.2
        [.logged (.sending "response"),
          .sent (responseStanza (some (Utf8.bytes (DigestMd5.responseText g.digest)))),
          .logged (.transition .challengeResponsePending .challengeResponseAuthSent)]
  | proven {payload proof : String} {challenge : Directives} {e : Entropy}
      (read : readChallenge payload = .ok challenge)
      (shown : challenge.get? "rspauth" = some proof) :
      Move c config ⟨.up, .challenge payload⟩ (.responseSent proof) e .acknowledged e
        [.logged (.sending "response"), .sent (responseStanza none),
          .logged (.transition .challengeResponseAuthSent .challengeResponseFinalSent)]
  | completed {link : Link} {s : Stage} {e : Entropy} (not_ended : s.isEnded = false)
      (due : prematurity (s.attempt c config) = none) :
      Move c config ⟨link, .success⟩ s e (.ended s.kind none) e
        (.logged .authenticated :: conclusion s.state none)
  | trusted {link : Link} {s : Stage} {failure : Failure} {e : Entropy}
      (not_ended : s.isEnded = false) (premature : prematurity (s.attempt c config) = some failure)
      (policy : config.successPolicy = .trustServer) :
      Move c config ⟨link, .success⟩ s e (.ended s.kind none) e
        (.logged (.successTrusted failure) :: conclusion s.state none)
  | distrusted {link : Link} {s : Stage} {failure : Failure} {e : Entropy}
      (not_ended : s.isEnded = false) (premature : prematurity (s.attempt c config) = some failure)
      (policy : config.successPolicy = .strict) :
      Move c config ⟨link, .success⟩ s e (.ended s.kind (some failure)) e
        (conclusion s.state (some failure))
  | refused {link : Link} {reason : Option String} {s : Stage} {e : Entropy}
      (not_ended : s.isEnded = false) :
      Move c config ⟨link, .failure reason⟩ s e
        (.ended s.kind (some (.rejected (reason.getD "unknown reason")))) e
        (.logged (.rejected (reason.getD "unknown reason")) ::
          conclusion s.state (some (.rejected (reason.getD "unknown reason"))))

end Negotiation

end SaslClient
