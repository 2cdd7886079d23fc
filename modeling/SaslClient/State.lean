/-!
# States and mechanisms

Where an attempt to authenticate stands, and the mechanisms that it can use, by the names that
servers offer them under.
-/
namespace SaslClient

/-- Where an attempt stands. In the pending states a mechanism was chosen and nothing was sent. -/
inductive State
  | noMechanism
  | simplePending
  | simpleAuthSent
  | challengeResponsePending
  | challengeResponseAuthSent
  | challengeResponseFinalSent
  | succeeded
  | failed
deriving DecidableEq, Repr

namespace State

def all : List State :=
  [noMechanism, simplePending, simpleAuthSent, challengeResponsePending,
   challengeResponseAuthSent, challengeResponseFinalSent, succeeded, failed]

def name : State → String
  | noMechanism => "NoMechanism"
  | simplePending => "SimplePending"
  | simpleAuthSent => "SimpleAuthSent"
  | challengeResponsePending => "ChallengeResponsePending"
  | challengeResponseAuthSent => "ChallengeResponseAuthSent"
  | challengeResponseFinalSent => "ChallengeResponseFinalSent"
  | succeeded => "Succeeded"
  | failed => "Failed"

def isTerminal : State → Bool
  | succeeded => true
  | failed => true
  | _ => false

end State

inductive MechanismKind
  | plain
  | digestMd5
deriving DecidableEq, Repr

namespace MechanismKind

def name : MechanismKind → String
  | plain => "PLAIN"
  | digestMd5 => "DIGEST-MD5"

def all : List MechanismKind :=
  [digestMd5, plain]

def ofName? (name : String) : Option MechanismKind :=
  all.find? (·.name = name)

def preference : MechanismKind → Nat
  | plain => 1
  | digestMd5 => 2

theorem ofName?_name (kind : MechanismKind) : ofName? kind.name = some kind := by
  cases kind <;> decide

theorem name_injective {k l : MechanismKind} (h : k.name = l.name) : k = l := by
  have hsame := congrArg ofName? h
  rw [ofName?_name, ofName?_name] at hsame
  exact Option.some.inj hsame

theorem ofName?_eq_some_iff {name : String} {kind : MechanismKind} :
    ofName? name = some kind ↔ kind.name = name := by
  constructor
  · intro h
    simpa using List.find?_some h
  · rintro rfl
    exact ofName?_name kind

theorem name_ne_of_ofName? {name : String} (h : ofName? name = none) (kind : MechanismKind) :
    kind.name ≠ name := by
  rintro rfl
  rw [ofName?_name] at h
  cases h

theorem preference_injective {k l : MechanismKind} (h : k.preference = l.preference) : k = l := by
  cases k <;> cases l <;> simp [preference] at h ⊢

end MechanismKind

end SaslClient
